import OpenchamiOperator.Lib.NetworkPolicy
import OpenchamiOperator.Lib.Url
import OpenchamiOperator.Reconcilers.Services

/-! # The network policies

`internal/reconcilers/networkpolicies.go` and the helpers for egress peers in `helpers.go`: the
policies of the namespace of a cluster. -/

namespace OpenchamiOperator.Reconcilers

open Lib Strings Api Controller NetworkPolicy

/-! ### Peers outside the namespace -/

def namespacePeer (ns : String) : Peer where
  namespaceSelector := some (GoMap.ofList [(metadataName, ns)])

def ipBlockPeer (cidr : String) : Peer where
  ipBlock := some cidr

def syntaxOnlyExternalCIDR : String := "0.0.0.0/0"

/-- `parseEgressHost`: the host, and the peer if it is a Service of the cluster. -/
def parseEgressHost (addr kind : String) : Except String (String × Option Peer) :=
  match Url.parse addr with
  | none => .error (errorText ("parsing " ++ kind ++ " address"))
  | some u =>
    let host := u.hostname
    if hasSuffix host ".svc.cluster.local" then
      match split '.' host with
      | _ :: ns :: _ :: _ :: _ :: _ => .ok (host, some (namespacePeer ns))
      | _ => .error ("unexpected " ++ kind ++ " svc hostname: " ++ host)
    else .ok (host, none)

/-- `resolveExternalPeer`. -/
def resolveExternalPeer (net : Network) (host kind : String) : Except String Peer :=
  match net.lookupHost host with
  | none =>
    if net.bestEffortDNS then .ok (ipBlockPeer syntaxOnlyExternalCIDR)
    else .error (errorText ("resolving " ++ kind ++ " host " ++ Strconv.quote net.isPrint host))
  | some [] => .error (kind ++ " host " ++ Strconv.quote net.isPrint host ++
      " resolved to no addresses")
  | some (addr :: _) => .ok (ipBlockPeer (addr ++ "/32"))

/-- `VaultEgressPeer` and `VersityGWEgressPeer`. -/
def egressPeer (net : Network) (addr kind : String) : Except String Peer :=
  match parseEgressHost addr kind with
  | .error e => .error e
  | .ok (_, some peer) => .ok peer
  | .ok (host, none) => resolveExternalPeer net host kind

/-- `VaultEgressPeerSyntax` and `VersityGWEgressPeerSyntax`. -/
def egressPeerSyntax (addr kind : String) : Except String Peer :=
  match parseEgressHost addr kind with
  | .error e => .error e
  | .ok (_, some peer) => .ok peer
  | .ok (_, none) => .ok (ipBlockPeer syntaxOnlyExternalCIDR)

structure KubernetesAPIEgress where
  peers : List Peer
  ports : List ℤ

/-- `KubernetesAPIEgressPeersSyntax`. -/
def kubernetesAPIEgressPeersSyntax : KubernetesAPIEgress where
  peers := [ipBlockPeer syntaxOnlyExternalCIDR]
  ports := [443]

/-- The elements of a list, each at its first place. -/
def firstOccurrences {α : Type} [DecidableEq α] : List α → List α → List α
  | _, [] => []
  | seen, a :: l =>
    if a ∈ seen then firstOccurrences seen l else a :: firstOccurrences (a :: seen) l

theorem mem_firstOccurrences {α : Type} [DecidableEq α] {a : α} {l seen : List α} :
    a ∈ firstOccurrences seen l ↔ a ∈ l ∧ a ∉ seen := by
  induction l generalizing seen with
  | nil => simp [firstOccurrences]
  | cons b l ih =>
    unfold firstOccurrences
    by_cases hb : b ∈ seen
    · rw [if_pos hb, ih, List.mem_cons]
      refine ⟨fun ⟨h, hs⟩ => ⟨Or.inr h, hs⟩, ?_⟩
      rintro ⟨rfl | h, hs⟩
      · exact absurd hb hs
      · exact ⟨h, hs⟩
    · rw [if_neg hb, List.mem_cons, ih, List.mem_cons, List.mem_cons]
      by_cases hab : a = b
      · subst hab
        exact iff_of_true (Or.inl rfl) ⟨Or.inl rfl, hb⟩
      · simp [hab]

theorem firstOccurrences_nodup {α : Type} [DecidableEq α] (l seen : List α) :
    (firstOccurrences seen l).Nodup := by
  induction l generalizing seen with
  | nil => exact List.nodup_nil
  | cons b l ih =>
    unfold firstOccurrences
    split
    · exact ih seen
    · refine List.nodup_cons.mpr ⟨fun h => ?_, ih _⟩
      exact (mem_firstOccurrences.mp h).2 List.mem_cons_self

/-- `KubernetesAPIEgressPeers`. -/
def kubernetesAPIEgressPeers (net : Network) : Except String KubernetesAPIEgress :=
  match net.apiSlices with
  | none =>
    if net.bestEffortDNS then .ok kubernetesAPIEgressPeersSyntax
    else .error (errorText "listing default/kubernetes endpointslices")
  | some slices =>
    let addrs := firstOccurrences [] (slices.flatMap Prod.fst)
    let ports := firstOccurrences [] (slices.flatMap Prod.snd)
    if addrs = [] then
      if net.bestEffortDNS then .ok kubernetesAPIEgressPeersSyntax
      else .error "default/kubernetes endpointslices resolved to no addresses"
    else .ok
      { peers := addrs.map fun addr => ipBlockPeer (addr ++ "/32")
        ports := if ports = [] then [443] else ports }

/-! ### The policies -/

def labelAppName : String := "app.kubernetes.io/name"

def podMatch (service : String) : GoMap String := GoMap.ofList [(labelAppName, service)]

def podPeer (service : String) : Peer where
  podSelector := some (podMatch service)

def cnpgPodSelector (ns : String) : GoMap String :=
  GoMap.ofList [("cnpg.io/cluster", ns ++ "-postgres")]

def postgresPeer (ns : String) : Peer where
  podSelector := some (cnpgPodSelector ns)

def envoyGatewayNSPeer : Peer := namespacePeer "envoy-gateway-system"

def portTCP (port : ℤ) : Port := ⟨.tcp, port⟩

def portUDP (port : ℤ) : Port := ⟨.udp, port⟩

def vaultPort : ℤ := 8200
def versityGWPort : ℤ := 10000
def postgresPort : ℤ := 5432
def httpsExternalPort : ℤ := 443
def dnsPort : ℤ := 53

/-- One port of one peer. -/
def toPeer (peer : Peer) (port : ℤ) : Rule := ⟨[peer], [portTCP port]⟩

def egressOnly (ns name : String) (selector : GoMap String) (rules : List Rule) : Policy where
  name := name
  «namespace» := ns
  podSelector := selector
  policyTypes := [.egress]
  egress := rules

def defaultDenyAll (ns : String) : Policy where
  name := "default-deny-all"
  «namespace» := ns
  policyTypes := [.ingress, .egress]

def allowDNSEgress (ns : String) : Policy :=
  egressOnly ns "allow-dns-egress" .empty [⟨[], [portUDP dnsPort, portTCP dnsPort]⟩]

def allowVaultEgress (ns : String) (peer : Peer) : Policy :=
  egressOnly ns "allow-vault-egress" .empty [toPeer peer vaultPort]

def allowVersityGWEgress (ns : String) (peer : Peer) : Policy :=
  egressOnly ns "allow-versitygw-egress" (podMatch "boot-service") [toPeer peer versityGWPort]

def allowLogsEgress (ns : String) (peer : Peer) : Policy :=
  egressOnly ns "allow-logs-egress" (podMatch "funicular-collector") [toPeer peer versityGWPort]

def allowCNPGKubernetesAPIEgress (ns : String) (api : KubernetesAPIEgress) : Policy :=
  egressOnly ns "allow-cnpg-kubernetes-api-egress" (cnpgPodSelector ns)
    [⟨api.peers, api.ports.map portTCP⟩]

/-- A policy for both directions of the pods of one service, with one rule for what comes in. -/
def servicePolicy (ns name service : String) (clients : List Peer) (port : ℤ)
    (egress : List Rule) : Policy where
  name := name
  «namespace» := ns
  podSelector := podMatch service
  policyTypes := [.ingress, .egress]
  ingress := [⟨clients, [portTCP port]⟩]
  egress := egress

def smdPolicy (ns : String) : Policy :=
  servicePolicy ns "smd-policy" "smd"
    [podPeer "boot-service", podPeer "metadata-service", podPeer "coredhcp", podPeer "magellan",
     envoyGatewayNSPeer] (listenPort .smd)
    [toPeer (postgresPeer ns) postgresPort, toPeer (podPeer "tokensmith") (listenPort .tokensmith)]

def tokensmithPolicy (ns : String) (vaultPeer : Peer) : Policy :=
  servicePolicy ns "tokensmith-policy" "tokensmith"
    [{ podSelector := some .empty }, envoyGatewayNSPeer] (listenPort .tokensmith)
    [toPeer vaultPeer vaultPort, ⟨[], [portTCP httpsExternalPort]⟩]

def bootServicePolicy (ns : String) (versityPeer : Peer) : Policy :=
  servicePolicy ns "boot-service-policy" "boot-service" [podPeer "coredhcp", envoyGatewayNSPeer]
    (listenPort .bootService)
    [toPeer (podPeer "smd") (listenPort .smd), toPeer (postgresPeer ns) postgresPort,
     toPeer versityPeer versityGWPort, toPeer (podPeer "tokensmith") (listenPort .tokensmith)]

def metadataServicePolicy (ns : String) : Policy :=
  servicePolicy ns "metadata-service-policy" "metadata-service" [envoyGatewayNSPeer]
    (listenPort .metadataService)
    [toPeer (podPeer "smd") (listenPort .smd),
     toPeer (podPeer "tokensmith") (listenPort .tokensmith)]

def coreDHCPPolicy (ns : String) : Policy :=
  egressOnly ns "coredhcp-policy" (podMatch "coredhcp")
    [toPeer (podPeer "smd") (listenPort .smd),
     toPeer (podPeer "boot-service") (listenPort .bootService)]

def magellanPolicy (ns : String) : Policy :=
  egressOnly ns "magellan-policy" (podMatch "magellan")
    [toPeer (podPeer "smd") (listenPort .smd), ⟨[], [portTCP httpsExternalPort]⟩]

/-- The ports of the probe's targets, each once. -/
def validationPorts (cp : ControlPlane) : List ℤ :=
  firstOccurrences [] (([cp.spec.networkProbe.provisionNetwork,
    cp.spec.networkProbe.bmcNetwork].filterMap id).filterMap fun target =>
      if target.validateHost = "" ∨ target.validatePort < 1 ∨ 65535 < target.validatePort then none
      else some target.validatePort)

def networkProbePolicy (ns : String) (cp : ControlPlane) (api : KubernetesAPIEgress) : Policy :=
  egressOnly ns "networkprobe-policy" (podMatch "network-probe")
    (⟨api.peers, api.ports.map portTCP⟩ ::
      if validationPorts cp ≠ [] then [⟨[], (validationPorts cp).map portTCP⟩] else [])

def funicularPolicy (ns : String) (peer : Peer) : Policy :=
  egressOnly ns "funicular-policy" (podMatch "funicular-collector") [toPeer peer versityGWPort]

def postgresIngressPolicy (ns : String) : Policy where
  name := "postgres-ingress-policy"
  «namespace» := ns
  podSelector := cnpgPodSelector ns
  policyTypes := [.ingress]
  ingress :=
    [⟨[podPeer "smd", podPeer "boot-service", postgresPeer ns], [portTCP postgresPort]⟩,
     ⟨[namespacePeer "cnpg-system"], [portTCP 8000]⟩]

def postgresEgressPolicy (ns : String) : Policy :=
  egressOnly ns "postgres-egress-policy" (cnpgPodSelector ns) [toPeer (postgresPeer ns) postgresPort]

/-- The policies for given peers. -/
def policiesFor (cp : ControlPlane) (vaultPeer versityPeer : Peer) (api : KubernetesAPIEgress) :
    List Policy :=
  let ns := controlPlaneNamespace cp
  [defaultDenyAll ns, allowDNSEgress ns, allowVaultEgress ns vaultPeer,
   allowVersityGWEgress ns versityPeer, allowLogsEgress ns versityPeer,
   allowCNPGKubernetesAPIEgress ns api, smdPolicy ns, tokensmithPolicy ns vaultPeer,
   bootServicePolicy ns versityPeer, metadataServicePolicy ns, coreDHCPPolicy ns,
   magellanPolicy ns, networkProbePolicy ns cp api, funicularPolicy ns versityPeer,
   postgresIngressPolicy ns, postgresEgressPolicy ns]

/-- `buildPolicies`; without `net` nothing outside is asked. -/
def buildPolicies (net : Option Network) (cp : ControlPlane) : Except String (List Policy) := do
  let peer := fun addr kind => match net with
    | some net => egressPeer net addr kind
    | none => egressPeerSyntax addr kind
  let vaultPeer ← (peer cp.spec.platform.vault.address "vault").mapError
    ("resolving vault egress peer: " ++ ·)
  let versityPeer ← (peer cp.spec.platform.objectStorage.endpoint "versitygw").mapError
    ("resolving versitygw egress peer: " ++ ·)
  let api ← (match net with
    | some net => kubernetesAPIEgressPeers net
    | none => .ok kubernetesAPIEgressPeersSyntax).mapError
      ("resolving kubernetes API egress peers: " ++ ·)
  pure (policiesFor cp vaultPeer versityPeer api)

/-! ### The pass -/

def policyObject (np : Policy) : KubeObject where
  kind := .other "NetworkPolicy"
  «namespace» := np.namespace
  name := np.name

/-- The condition of a failed pass, with its event. -/
def policiesFailed (message : String) : List StatusWrite :=
  [.condition .networkPoliciesReady .false Reason.error message]

/-- `NetworkPoliciesReconciler.Reconcile`. -/
def reconcileNetworkPolicies (net : Network) (cp : ControlPlane) : Program :=
  match buildPolicies (some net) cp with
  | .error e =>
    { acts := [.stop ⟨"building network policies: " ++ e, .failed⟩
        (policiesFailed ("building network policies: " ++ e))
        [conditionEvent .warning Reason.error ("could not build network policies: " ++ e)]] }
  | .ok policies =>
    { acts :=
        (policies.map fun np =>
          .request (.apply (policyObject np)) ("applying network policy " ++ np.name)
            (policiesFailed (errorText ("applying " ++ np.name)))
            [conditionEvent .warning Reason.error
              ("applying network policy " ++ np.name ++ " failed")]) ++
        [.write (.condition .networkPoliciesReady .true Reason.ready
          (toString policies.length ++ " network policies applied"))] }

/-- `NetworkPoliciesReconciler.Describe`. -/
def describeNetworkPolicies (cp : ControlPlane) : Except String (List KubeObject) :=
  ((buildPolicies none cp).mapError ("building network policies: " ++ ·)).map
    (·.map policyObject)

end OpenchamiOperator.Reconcilers
