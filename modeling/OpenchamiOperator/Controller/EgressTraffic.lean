import OpenchamiOperator.Controller.ServiceURLs
import OpenchamiOperator.Controller.Workloads
import OpenchamiOperator.Reconcilers.EgressPeers

/-! # The traffic that the policies admit

The operator gives its workloads the URLs of the services they use, and policies under which the
namespace may connect to nothing else. The URLs of the specification are free texts, while the
policies open fixed ports: Vault's 8200 and the 10000 of the object storage.

* `grants_iff`: what the policies open for the pods of each workload, as a table.
* `opened_serviceHost`: the services inside the namespace are open to those that use them.
* `upstreams_admitted_iff`: when all the URLs can be reached. -/

namespace OpenchamiOperator.Controller

open Lib Strings Api Admission Reconcilers NetworkPolicy

/-! ### The URLs of a workload -/

/-- The URLs of the platform a workload is given. -/
def platformURLs (cp : ControlPlane) : Workload → List String
  | .service .tokensmith => [cp.spec.platform.vault.address]
  | .service .bootService | .funicular | .logqCompactor | .logqQuery =>
    [cp.spec.platform.objectStorage.endpoint]
  | .service .smd | .service .metadataService | .coreDHCP | .networkProbe => []

/-- The services whose URLs a workload is given. -/
def upstreamServices : Workload → List Service
  | .service .smd => [.tokensmith]
  | .service .bootService | .service .metadataService => [.smd, .tokensmith]
  | _ => []

/-- All URLs a workload is given. -/
def upstreams (cp : ControlPlane) (w : Workload) : List String :=
  platformURLs cp w ++ (upstreamServices w).map (serviceURL cp)

/-- Those among them that the specification chooses; an endpoint that is not set counts as the empty
text, which names no host. -/
def chosenURLs (cp : ControlPlane) (w : Workload) : List String :=
  platformURLs cp w ++ (upstreamServices w).map (externalEndpointFor cp)

/-- The port of a URL without one. -/
def defaultPort? (scheme : String) : Option ℕ :=
  if scheme = "http" then some 80 else if scheme = "https" then some 443 else none

/-- The host and the port that a client of the URL connects to. -/
def target? (url : String) : Option (String × ℕ) :=
  (Url.parse url).bind fun u =>
    ((decimal? u.port).or (if u.port = "" then defaultPort? u.scheme else none)).map
      fun port => (u.hostname, port)

example : target? "https://s3.example.org" = some ("s3.example.org", 443) := by decide +kernel

example : target? "" = none := by decide

/-! ### Where a host leads -/

def clusterSuffix : String := ".svc.cluster.local"

/-- The destinations behind a host name: the pods that the Service of a namespace selects
(`services` has the selectors), or the first address that DNS has for a name outside the cluster. -/
inductive LeadsTo (net : Network) (services : String → String → Option (GoMap String))
    (host : String) : Destination → Prop
  | service {name ns : String} {selector : GoMap String} (hdot : '.' ∉ ns.toList)
      (hhost : host = name ++ ("." ++ (ns ++ clusterSuffix)))
      (hservice : services ns name = some selector) :
      LeadsTo net services host (.pod (Pod.plain ns selector))
  | address {addr : String} {rest : List String} {a : Netip.Addr}
      (houtside : hasSuffix host clusterSuffix = false)
      (hlookup : net.lookupHost host = some (addr :: rest))
      (hparse : Netip.parseAddr addr = some a) :
      LeadsTo net services host (.address a)

/-- A pod of the workload, with the labels of its template. -/
def Workload.pod (cp : ControlPlane) (w : Workload) : Pod :=
  Pod.plain (controlPlaneNamespace cp) (w.podLabels cp)

/-- Every pod of the workload may connect to everything the URL leads to. -/
def UpstreamAdmitted (net : Network) (services : String → String → Option (GoMap String))
    (policies : List Policy) (cp : ControlPlane) (w : Workload) (url : String) : Prop :=
  ∀ host port e, target? url = some (host, port) → LeadsTo net services host e →
    ∀ p d, p.Extends (Workload.pod cp w) → d.Extends e → AdmitsEgress policies p d (portTCP port)

/-! ### What the policies open -/

/-- The destinations the rules of the policies speak of. -/
inductive Scope where
  | anywhere
  | vault
  | storage
  | pods (svc : Service)
  | database
deriving DecidableEq, Repr

/-- The destination is in the namespace or in the block of addresses that is opened for the host of
a URL: the namespace is the second label of the host, and the block has 32 bits. -/
def SharesHost (net : Network) (url : String) (d : Destination) : Prop :=
  ∃ u, Url.parse url = some u ∧ match d with
    | .pod p => hasSuffix u.hostname clusterSuffix = true ∧
        (split '.' u.hostname)[1]? = some p.namespace
    | .address a => hasSuffix u.hostname clusterSuffix = false ∧
        match net.lookupHost u.hostname with
        | some (addr :: _) => Netip.cidrContains (addr ++ "/32") a = true
        | _ => Netip.cidrContains syntaxOnlyExternalCIDR a = true

/-- A pod of the cluster's namespace with the given label. -/
def InNamespace (cp : ControlPlane) (label value : String) : Destination → Prop
  | .pod p => p.namespace = controlPlaneNamespace cp ∧ p.labels.get? label = some value
  | .address _ => False

def Scope.Holds (net : Network) (cp : ControlPlane) : Scope → Destination → Prop
  | .anywhere, _ => True
  | .vault, d => SharesHost net cp.spec.platform.vault.address d
  | .storage, d => SharesHost net cp.spec.platform.objectStorage.endpoint d
  | .pods svc, d => InNamespace cp labelAppName svc.name d
  | .database, d => InNamespace cp "cnpg.io/cluster" (controlPlaneNamespace cp ++ "-postgres") d

/-- The same, by the peers of the rules. -/
def Scope.Within (ns : String) (vaultPeer versityPeer : Peer) : Scope → Destination → Prop
  | .anywhere, _ => True
  | .vault, d => vaultPeer.Covers ns d
  | .storage, d => versityPeer.Covers ns d
  | .pods svc, d => (podPeer svc.name).Covers ns d
  | .database, d => (postgresPeer ns).Covers ns d

/-- The table of what each workload may connect to. -/
def openings : Workload → List (Scope × ℕ)
  | .service .smd => [(.anywhere, 53), (.vault, 8200), (.database, 5432), (.pods .tokensmith, 8080)]
  | .service .tokensmith => [(.anywhere, 53), (.vault, 8200), (.anywhere, 443)]
  | .service .bootService =>
    [(.anywhere, 53), (.vault, 8200), (.storage, 10000), (.pods .smd, 27779), (.database, 5432),
     (.pods .tokensmith, 8080)]
  | .service .metadataService =>
    [(.anywhere, 53), (.vault, 8200), (.pods .smd, 27779), (.pods .tokensmith, 8080)]
  | .funicular => [(.anywhere, 53), (.vault, 8200), (.storage, 10000)]
  | .logqCompactor | .logqQuery => [(.anywhere, 53), (.vault, 8200)]
  | .coreDHCP =>
    [(.anywhere, 53), (.vault, 8200), (.pods .smd, 27779), (.pods .bootService, 27778)]
  -- the probe may also reach the API server and its targets
  | .networkProbe => [(.anywhere, 53), (.vault, 8200)]

def Opened (net : Network) (cp : ControlPlane) (w : Workload) (d : Destination) (port : ℕ) : Prop :=
  ∃ o ∈ openings w, o.2 = port ∧ o.1.Holds net cp d

section Peers

variable {net : Network} {cp : ControlPlane} {ns : String} {d : Destination}

theorem covers_podPeer {name : String} :
    (podPeer name).Covers (controlPlaneNamespace cp) d ↔ InNamespace cp labelAppName name d := by
  cases d <;> simp [podPeer, podMatch, Peer.Covers, InNamespace]

theorem covers_postgresPeer :
    (postgresPeer (controlPlaneNamespace cp)).Covers (controlPlaneNamespace cp) d ↔
      InNamespace cp "cnpg.io/cluster" (controlPlaneNamespace cp ++ "-postgres") d := by
  cases d <;> simp [postgresPeer, cnpgPodSelector, Peer.Covers, InNamespace]

theorem egressPeer_ok {url kind : String} {peer : Peer} (h : egressPeer net url kind = .ok peer) :
    ∃ u, Url.parse url = some u ∧
      ((hasSuffix u.hostname clusterSuffix = true ∧
          ∃ other, (split '.' u.hostname)[1]? = some other ∧ peer = namespacePeer other) ∨
        (hasSuffix u.hostname clusterSuffix = false ∧
          resolveExternalPeer net u.hostname kind = .ok peer)) := by
  unfold egressPeer at h
  split at h
  · cases h
  · rename_i host found hhost
    unfold parseEgressHost at hhost
    split at hhost
    · cases hhost
    · rename_i u hparse
      refine ⟨u, hparse, Or.inl ?_⟩
      simp only at hhost
      split_ifs at hhost with hsuffix
      · split at hhost
        · rename_i first second _ _ _ _ hsplit
          cases hhost
          cases h
          exact ⟨hsuffix, second, by rw [hsplit]; rfl, rfl⟩
        · cases hhost
      · cases hhost
  · rename_i host hhost
    unfold parseEgressHost at hhost
    split at hhost
    · cases hhost
    · rename_i u hparse
      refine ⟨u, hparse, Or.inr ?_⟩
      simp only at hhost
      split_ifs at hhost with hsuffix
      · split at hhost <;> cases hhost
      · cases hhost
        exact ⟨Bool.eq_false_iff.mpr hsuffix, h⟩

/-- The peer for a URL covers what shares its host. -/
theorem covers_egressPeer {url kind : String} {peer : Peer}
    (h : egressPeer net url kind = .ok peer) : peer.Covers ns d ↔ SharesHost net url d := by
  obtain ⟨u, hparse, ⟨hsuffix, other, hother, rfl⟩ | ⟨hsuffix, hresolve⟩⟩ := egressPeer_ok h
  · rw [covers_namespacePeer]
    unfold SharesHost
    cases d with
    | pod p =>
      simp only [hparse, Destination.pod.injEq, exists_eq_left', Option.some.injEq, hsuffix, hother,
        true_and]
      exact eq_comm
    | address a => simp [hparse, hsuffix]
  · rw [resolveExternalPeer_ok hresolve, covers_ipBlockPeer]
    unfold SharesHost
    cases d with
    | pod p => simp [hparse, hsuffix]
    | address a =>
      simp only [hparse, Destination.address.injEq, exists_eq_left', Option.some.injEq, hsuffix,
        true_and]
      rcases net.lookupHost u.hostname with _ | _ | ⟨first, others⟩ <;> simp

theorem admits_toPeer {peer : Peer} {p : ℤ} {port : ℕ} :
    (toPeer peer p).Admits ns d (portTCP port) ↔ p = port ∧ peer.Covers ns d := by
  simp [toPeer, Rule.Admits, portTCP, and_comm, eq_comm]

end Peers

section Selection

variable {cp : ControlPlane} {w : Workload}

theorem satisfies_podMatch {name : String} :
    (w.podLabels cp).Satisfies (podMatch name) ↔ w.appName = name := by
  rw [podMatch, GoMap.satisfies_singleton, Workload.podLabels, GoMap.get?_ofList]
  simp [GoMap.find]

/-- No workload of the operator has the label of the database's pods. -/
theorem not_satisfies_cnpgPodSelector {ns : String} :
    ¬ (w.podLabels cp).Satisfies (cnpgPodSelector ns) := by
  rw [cnpgPodSelector, GoMap.satisfies_singleton, Workload.podLabels, GoMap.get?_ofList]
  simp [GoMap.find, labelAppName, labelAppInst, labelManagedBy]

/-- Every pod of the namespace may only do what some policy allows. -/
theorem selects_defaultDenyAll :
    (defaultDenyAll (controlPlaneNamespace cp)).SelectsEgress (Workload.pod cp w) :=
  ⟨rfl, GoMap.satisfies_empty _, List.mem_cons_of_mem _ List.mem_cons_self⟩

theorem policies_of_build {net : Network} {policies : List Policy}
    (h : buildPolicies (some net) cp = .ok policies) : ∃ vaultPeer versityPeer api,
      egressPeer net cp.spec.platform.vault.address "vault" = .ok vaultPeer ∧
      egressPeer net cp.spec.platform.objectStorage.endpoint "versitygw" = .ok versityPeer ∧
      policies = policiesFor cp vaultPeer versityPeer api := by
  unfold buildPolicies at h
  cases hvault : egressPeer net cp.spec.platform.vault.address "vault" with
  | error e => simp [hvault, Except.mapError, bind, Except.bind] at h
  | ok vaultPeer =>
    cases hversity : egressPeer net cp.spec.platform.objectStorage.endpoint "versitygw" with
    | error e => simp [hvault, hversity, Except.mapError, bind, Except.bind] at h
    | ok versityPeer =>
      cases hapi : kubernetesAPIEgressPeers net with
      | error e => simp [hvault, hversity, hapi, Except.mapError, bind, Except.bind] at h
      | ok api =>
        refine ⟨vaultPeer, versityPeer, api, rfl, rfl, ?_⟩
        simp only [hvault, hversity, hapi] at h
        exact (Except.ok.inj h).symm

/-- The policies have, for the pods of a workload, the rules of the table. -/
theorem exists_rule_iff {vaultPeer versityPeer : Peer} {api : KubernetesAPIEgress}
    {d : Destination} {port : ℕ} (hw : w ≠ .networkProbe) :
    (∃ np ∈ policiesFor cp vaultPeer versityPeer api, np.SelectsEgress (Workload.pod cp w) ∧
      ∃ r ∈ np.egress, r.Admits np.namespace d (portTCP port)) ↔
    ∃ o ∈ openings w, o.2 = port ∧
      o.1.Within (controlPlaneNamespace cp) vaultPeer versityPeer d := by
  have hcast : ∀ {n : ℕ}, (n : ℤ) = port ↔ n = port := Nat.cast_inj
  have hvault : vaultPort = port ↔ 8200 = port := hcast
  have hstorage : versityGWPort = port ↔ 10000 = port := hcast
  have hdatabase : postgresPort = port ↔ 5432 = port := hcast
  have hdns : ∀ {ns}, Rule.Admits ns ⟨[], [portUDP dnsPort, portTCP dnsPort]⟩ d (portTCP port) ↔
      53 = port := by
    intro ns
    simp only [Rule.Admits, portTCP, portUDP, dnsPort, List.mem_cons, Port.mk.injEq]
    have hport : (port : ℤ) = 53 ↔ 53 = port := by omega
    simp [hport]
  have hhttps : ∀ {ns}, Rule.Admits ns ⟨[], [portTCP httpsExternalPort]⟩ d (portTCP port) ↔
      443 = port := by
    intro ns
    simp only [Rule.Admits, portTCP, httpsExternalPort, List.mem_cons, Port.mk.injEq]
    have hport : (port : ℤ) = 443 ↔ 443 = port := by omega
    simp [hport]
  -- which policies select the pods depends on their name alone
  simp only [policiesFor, defaultDenyAll, allowDNSEgress, allowVaultEgress, allowVersityGWEgress,
    allowLogsEgress, allowCNPGKubernetesAPIEgress, smdPolicy, tokensmithPolicy, bootServicePolicy,
    metadataServicePolicy, coreDHCPPolicy, magellanPolicy, networkProbePolicy, funicularPolicy,
    postgresIngressPolicy, postgresEgressPolicy, egressOnly, servicePolicy, Policy.SelectsEgress,
    Workload.pod, Pod.plain, List.exists_mem_cons_iff, List.not_mem_nil, false_and, exists_false,
    or_false, satisfies_podMatch, not_satisfies_cnpgPodSelector, GoMap.satisfies_empty]
  simp only [admits_toPeer, hdns, hhttps, hvault, hstorage, hdatabase, hcast]
  cases w with
  | service svc =>
    cases svc with
    | smd | tokensmith | metadataService =>
      simp [openings, Scope.Within, Workload.appName, Service.name, listenPort]
    | bootService =>
      -- the object storage is opened by two policies
      have htwice : ∀ {a b s p q r : Prop},
          (a ∨ b ∨ s ∨ p ∨ q ∨ s ∨ r) ↔ (a ∨ b ∨ s ∨ p ∨ q ∨ r) := by grind
      simpa [openings, Scope.Within, Workload.appName, Service.name, listenPort] using htwice
  | networkProbe => exact absurd rfl hw
  | coreDHCP | funicular | logqCompactor | logqQuery =>
    simp [openings, Scope.Within, Workload.appName, Service.name, listenPort]

/-- **What the policies open** for the pods of a workload. -/
theorem grants_iff {net : Network} {policies : List Policy} {d : Destination} {port : ℕ}
    (hw : w ≠ .networkProbe) (h : buildPolicies (some net) cp = .ok policies) :
    (∃ np ∈ policies, np.SelectsEgress (Workload.pod cp w) ∧
      ∃ r ∈ np.egress, r.Admits np.namespace d (portTCP port)) ↔ Opened net cp w d port := by
  obtain ⟨vaultPeer, versityPeer, api, hvault, hversity, rfl⟩ := policies_of_build h
  have hholds : ∀ scope : Scope,
      scope.Within (controlPlaneNamespace cp) vaultPeer versityPeer d ↔ scope.Holds net cp d := by
    intro scope
    cases scope with
    | anywhere => exact Iff.rfl
    | vault => exact covers_egressPeer hvault
    | storage => exact covers_egressPeer hversity
    | pods svc => exact covers_podPeer
    | database => exact covers_postgresPeer
  rw [exists_rule_iff hw]
  simp only [hholds]
  rfl

end Selection

/-! ### The services of the namespace -/

section Services

variable {cp : ControlPlane} {svc : Service}

/-- The name of a service in the cluster's DNS. -/
def serviceHost (cp : ControlPlane) (svc : Service) : String :=
  svc.name ++ ("." ++ (controlPlaneNamespace cp ++ clusterSuffix))

theorem clusterURL_eq (scheme : String) (port : ℕ) : clusterURL cp scheme svc port =
    scheme ++ ("://" ++ (serviceHost cp svc ++ (":" ++ toString port))) := by
  have hcolon : ".svc.cluster.local:" = clusterSuffix ++ ":" := by decide
  unfold clusterURL serviceHost
  rw [hcolon]
  simp only [String.append_assoc]

theorem plainHost_of_name {c : Char} (h : c.isLower = true ∨ c.isDigit = true ∨ c = '-') :
    Url.plainHost c = true := by
  unfold Url.plainHost Url.isAlphanum Url.isAlpha
  rcases h with h | h | rfl
  · have hlower : ('a' ≤ c && c ≤ 'z') = true := h
    simp [hlower]
  · simp [h]
  · decide

theorem plainHost_serviceHost (hname : clusterNamePattern cp.spec.clusterName = true) :
    ∀ c ∈ (serviceHost cp svc).toList, Url.plainHost c = true := by
  have hliterals : ∀ c ∈ (svc.name ++ ("." ++ ("openchami-" ++ clusterSuffix))).toList,
      Url.plainHost c = true := by
    cases svc <;> exact List.all_eq_true.mp (by decide)
  intro c hc
  simp only [serviceHost, controlPlaneNamespace, String.toList_append, List.mem_append]
    at hc hliterals
  rcases hc with h | h | (h | h) | h
  · exact hliterals c (Or.inl h)
  · exact hliterals c (Or.inr (Or.inl h))
  · exact hliterals c (Or.inr (Or.inr (Or.inl h)))
  · exact plainHost_of_name (mem_of_clusterNamePattern hname c h)
  · exact hliterals c (Or.inr (Or.inr (Or.inr h)))

/-- A client of a service connects to its name and port, with TLS or without. -/
theorem target_clusterURL (hname : clusterNamePattern cp.spec.clusterName = true) {scheme : String}
    (hscheme : scheme ∈ ["http", "https"]) :
    target? (clusterURL cp scheme svc (servicePort svc)) =
      some (serviceHost cp svc, servicePort svc) := by
  have hhost := @plainHost_serviceHost cp svc hname
  have hport : ∀ c ∈ (toString (servicePort svc)).toList, c.isDigit = true := by
    cases svc <;> exact List.all_eq_true.mp (by decide)
  have hdecimal : decimal? (toString (servicePort svc)) = some (servicePort svc) := by
    cases svc <;> decide
  rw [clusterURL_eq, target?, Url.parse_plain hhost hport hscheme, Option.bind_some,
    Url.port_plain hport rfl, Url.hostname_plain hhost hport rfl, hdecimal]
  rfl

/-- Such a name leads to the pods that its Service selects. -/
theorem leadsTo_serviceHost {net : Network} {services : String → String → Option (GoMap String)}
    {e : Destination} (hname : clusterNamePattern cp.spec.clusterName = true)
    (h : LeadsTo net services (serviceHost cp svc) e) :
    ∃ selector, services (controlPlaneNamespace cp) svc.name = some selector ∧
      e = .pod (Pod.plain (controlPlaneNamespace cp) selector) := by
  have hassoc : ∀ a b : String,
      a ++ ("." ++ (b ++ clusterSuffix)) = a ++ ("." ++ b) ++ clusterSuffix := by
    intro a b
    simp only [String.append_assoc]
  cases h with
  | service hdot hhost hservice =>
    rename_i name ns selector
    have hnamespace : '.' ∉ (controlPlaneNamespace cp).toList := by
      rw [controlPlaneNamespace, String.toList_append, List.mem_append, not_or]
      exact ⟨by decide, fun hmem => absurd (mem_of_clusterNamePattern hname '.' hmem) (by decide)⟩
    rw [serviceHost, hassoc, hassoc, String.append_left_inj] at hhost
    have hcut := congrArg (cutLast '.') hhost
    rw [show ("." : String) = String.singleton '.' from rfl, cutLast_append svc.name hnamespace,
      cutLast_append name hdot] at hcut
    cases hcut
    exact ⟨selector, hservice, rfl⟩
  | address houtside hlookup hparse =>
    rw [serviceHost, hassoc, hasSuffix_append] at houtside
    cases houtside

theorem serviceURL_of_unset (h : externalEndpointFor cp svc = "") :
    serviceURL cp svc = clusterURL cp "http" svc (servicePort svc) := by
  simp [serviceURL, clusterURL, h]

/-- The Services of the namespace under the names of the operator's services are the operator's. -/
def OwnServices (services : String → String → Option (GoMap String)) (cp : ControlPlane) : Prop :=
  ∀ (svc : Service) (selector : GoMap String),
    services (controlPlaneNamespace cp) svc.name = some selector →
      selector = (Workload.service svc).podLabels cp

/-- **The services inside the namespace** are open to the workloads that use them. -/
theorem opened_serviceHost {net : Network} {services : String → String → Option (GoMap String)}
    {w : Workload} {e : Destination} (hname : clusterNamePattern cp.spec.clusterName = true)
    (hown : OwnServices services cp) (hsvc : svc ∈ upstreamServices w)
    (hleads : LeadsTo net services (serviceHost cp svc) e) :
    Opened net cp w e (servicePort svc) := by
  obtain ⟨selector, hselector, rfl⟩ := leadsTo_serviceHost hname hleads
  have hscope : (Scope.pods svc).Holds net cp
      (.pod (Pod.plain (controlPlaneNamespace cp) selector)) := by
    refine ⟨rfl, ?_⟩
    rw [hown svc selector hselector]
    exact GoMap.satisfies_singleton.mp (satisfies_podMatch.mpr rfl)
  have htable : (Scope.pods svc, servicePort svc) ∈ openings w := by
    cases w with
    | service c => cases c <;> cases svc <;> revert hsvc <;> decide
    | _ => cases hsvc
  exact ⟨_, htable, rfl, hscope⟩

end Services

/-! ### All URLs -/

section Upstreams

variable {net : Network} {services : String → String → Option (GoMap String)} {cp : ControlPlane}
  {policies : List Policy} {w : Workload}

/-- One URL is open to a workload: whatever it leads to, the table has it. -/
def UpstreamOpened (net : Network) (services : String → String → Option (GoMap String))
    (cp : ControlPlane) (w : Workload) (url : String) : Prop :=
  ∀ host port e, target? url = some (host, port) → LeadsTo net services host e →
    Opened net cp w e port

theorem upstreamAdmitted_iff (hw : w ≠ .networkProbe)
    (hpolicies : buildPolicies (some net) cp = .ok policies) {url : String} :
    UpstreamAdmitted net services policies cp w url ↔ UpstreamOpened net services cp w url := by
  have hdeny : defaultDenyAll (controlPlaneNamespace cp) ∈ policies := by
    obtain ⟨vaultPeer, versityPeer, api, -, -, rfl⟩ := policies_of_build hpolicies
    exact List.mem_cons_self
  have hone : ∀ (e : Destination) (port : ℕ),
      (∀ p d, p.Extends (Workload.pod cp w) → d.Extends e →
        AdmitsEgress policies p d (portTCP port)) ↔ Opened net cp w e port := by
    intro e port
    rw [forall_admitsEgress_iff hdeny selects_defaultDenyAll, grants_iff hw hpolicies]
  simp only [UpstreamAdmitted, UpstreamOpened, hone]

/-- The URL of a service is open unless the specification chooses another. -/
theorem upstreamOpened_serviceURL (hname : clusterNamePattern cp.spec.clusterName = true)
    (hown : OwnServices services cp) {svc : Service} (hsvc : svc ∈ upstreamServices w) :
    UpstreamOpened net services cp w (serviceURL cp svc) ↔
      UpstreamOpened net services cp w (externalEndpointFor cp svc) := by
  by_cases hset : externalEndpointFor cp svc = ""
  · have hempty : target? "" = none := by decide
    constructor
    · intro _ host port e htarget
      rw [hset, hempty] at htarget
      cases htarget
    · intro _ host port e htarget hleads
      rw [serviceURL_of_unset hset, target_clusterURL hname (by decide)] at htarget
      cases htarget
      exact opened_serviceHost hname hown hsvc hleads
  · have hurl : serviceURL cp svc = externalEndpointFor cp svc := by simp [serviceURL, hset]
    rw [hurl]

/-- **Every URL the operator hands out can be reached** exactly when the URLs that the specification
chooses lead to what the table opens. -/
theorem upstreams_admitted_iff (net : Network) (services : String → String → Option (GoMap String))
    (cp : ControlPlane) (policies : List Policy)
    (hname : clusterNamePattern cp.spec.clusterName = true) (hown : OwnServices services cp)
    (hpolicies : buildPolicies (some net) cp = .ok policies) :
    (∀ w, wanted cp w = true → ∀ url ∈ upstreams cp w,
      UpstreamAdmitted net services policies cp w url) ↔
    ∀ w, wanted cp w = true → ∀ url ∈ chosenURLs cp w, UpstreamOpened net services cp w url := by
  have hworkload : ∀ w : Workload,
      (∀ url ∈ upstreams cp w, UpstreamAdmitted net services policies cp w url) ↔
        ∀ url ∈ chosenURLs cp w, UpstreamOpened net services cp w url := by
    intro w
    by_cases hw : w = .networkProbe
    · subst hw
      simp [upstreams, chosenURLs, platformURLs, upstreamServices]
    · simp only [upstreamAdmitted_iff hw hpolicies, upstreams, chosenURLs, List.forall_mem_append,
        List.forall_mem_map]
      have hservices : (∀ svc ∈ upstreamServices w,
            UpstreamOpened net services cp w (serviceURL cp svc)) ↔
          ∀ svc ∈ upstreamServices w,
            UpstreamOpened net services cp w (externalEndpointFor cp svc) :=
        forall₂_congr fun svc hsvc => upstreamOpened_serviceURL hname hown hsvc
      rw [hservices]
  simp only [hworkload]

/-- A URL outside the cluster leads to one address. -/
theorem leadsTo_outside {host : String} {e : Destination}
    (houtside : hasSuffix host clusterSuffix = false) (h : LeadsTo net services host e) :
    ∃ addr rest a, net.lookupHost host = some (addr :: rest) ∧ Netip.parseAddr addr = some a ∧
      e = .address a := by
  cases h with
  | service hdot hhost hservice =>
    rename_i name ns selector
    have hsuffix : hasSuffix host clusterSuffix = true :=
      hasSuffix_iff.mpr ⟨name ++ ("." ++ ns), by rw [hhost]; simp only [String.append_assoc]⟩
    rw [houtside] at hsuffix
    cases hsuffix
  | address _ hlookup hparse => exact ⟨_, _, _, hlookup, hparse, rfl⟩

/-- What a URL outside the cluster leads to shares its host. -/
theorem sharesHost_self {url host addr : String} {port : ℕ} {rest : List String} {a : Netip.Addr}
    (htarget : target? url = some (host, port)) (houtside : hasSuffix host clusterSuffix = false)
    (hlookup : net.lookupHost host = some (addr :: rest))
    (hblock : Netip.cidrContains (addr ++ "/32") a = true) : SharesHost net url (.address a) := by
  unfold target? at htarget
  obtain ⟨u, hparse, hrest⟩ := Option.bind_eq_some_iff.mp htarget
  obtain ⟨p, _, hpair⟩ := Option.map_eq_some_iff.mp hrest
  obtain rfl : u.hostname = host := congrArg Prod.fst hpair
  refine ⟨u, hparse, houtside, ?_⟩
  rw [hlookup]
  exact hblock

/-- A URL of the platform outside the cluster is open at the port of the table. -/
theorem upstreamOpened_outside {scope : Scope} {url host addr : String} {port : ℕ}
    {rest : List String} (htarget : target? url = some (host, port))
    (houtside : hasSuffix host clusterSuffix = false)
    (hlookup : net.lookupHost host = some (addr :: rest))
    (hblock : ∀ a ∈ Netip.parseAddr addr, Netip.cidrContains (addr ++ "/32") a = true)
    (hscope : ∀ d, scope.Holds net cp d ↔ SharesHost net url d)
    (htable : (scope, port) ∈ openings w) : UpstreamOpened net services cp w url := by
  intro host' port' e htarget' hleads
  rw [htarget] at htarget'
  cases htarget'
  obtain ⟨addr', rest', a, hlookup', hparse, rfl⟩ := leadsTo_outside houtside hleads
  rw [hlookup] at hlookup'
  cases hlookup'
  exact ⟨(scope, port), htable, rfl,
    (hscope _).mpr (sharesHost_self htarget houtside hlookup (hblock a hparse))⟩

/-- A URL at a port that the table does not have. -/
theorem not_upstreamAdmitted {url host : String} {port : ℕ} {e : Destination}
    (hw : w ≠ .networkProbe) (hpolicies : buildPolicies (some net) cp = .ok policies)
    (htarget : target? url = some (host, port)) (hleads : LeadsTo net services host e)
    (hport : ∀ o ∈ openings w, o.2 ≠ port) : ¬ UpstreamAdmitted net services policies cp w url := by
  rw [upstreamAdmitted_iff hw hpolicies]
  intro h
  obtain ⟨o, ho, heq, _⟩ := h host port e htarget hleads
  exact hport o ho heq

end Upstreams

/-! ### Examples -/

/-- A cluster at the documented Vault, with its boot service and perhaps the log compactor. -/
def connected (endpoint : String) (compactor : Bool) : ControlPlane where
  metadata := { name := "alpha", «namespace» := "default", uid := "uid-alpha" }
  spec :=
    { clusterName := "alpha"
      domain := "alpha.example.com"
      platform :=
        { vault := { address := "https://vault.example.com:8200" }
          objectStorage := { endpoint := endpoint } }
      services :=
        { smd := { enabled := true }
          tokensmith := { enabled := true }
          bootService := { enabled := true }
          coreDHCP := { nodeSelector := GoMap.ofList [("openchami.org/alpha", "true")] } }
      logging :=
        { enabled := compactor
          compactorEnabled := compactor
          compactorImage := some { repository := "logq", tag := "v1" } } }

/-- DNS for the hosts of the examples. -/
def exampleNet : Network where
  lookupHost host :=
    if host = "vault.example.com" then some ["192.0.2.10"]
    else if host = "versitygw.example.com" then some ["192.0.2.20"]
    else none
  apiSlices := some [(["192.0.2.1"], [6443])]

/-- The Services the operator applies. -/
def operatorServices (cp : ControlPlane) (ns name : String) : Option (GoMap String) :=
  if ns = controlPlaneNamespace cp then
    ([Service.smd, .tokensmith, .bootService, .metadataService].find? (·.name = name)).map
      fun svc => (Workload.service svc).podLabels cp
  else none

theorem ownServices_operatorServices (cp : ControlPlane) :
    OwnServices (operatorServices cp) cp := by
  intro svc selector h
  rw [operatorServices, if_pos rfl] at h
  cases svc <;> exact (Option.some.inj h).symm

/-- Vault and the object storage at the ports the policies know. -/
def standardPorts : ControlPlane := connected "https://versitygw.example.com:10000" false

/-- The object storage at the port of the documentation. -/
def documentedPort : ControlPlane := connected "https://versitygw.example.com:7070" false

def withCompactor : ControlPlane := connected "https://versitygw.example.com:10000" true

def examplePolicies (cp : ControlPlane) : List Policy :=
  policiesFor cp (ipBlockPeer "192.0.2.10/32") (ipBlockPeer "192.0.2.20/32")
    ⟨[ipBlockPeer "192.0.2.1/32"], [6443]⟩

theorem buildPolicies_connected {endpoint : String} {compactor : Bool}
    (hendpoint : egressPeer exampleNet endpoint "versitygw" = .ok (ipBlockPeer "192.0.2.20/32")) :
    buildPolicies (some exampleNet) (connected endpoint compactor) =
      .ok (examplePolicies (connected endpoint compactor)) := by
  have hvault : egressPeer exampleNet "https://vault.example.com:8200" "vault" =
      .ok (ipBlockPeer "192.0.2.10/32") := by decide +kernel
  have hapi : kubernetesAPIEgressPeers exampleNet =
      .ok ⟨[ipBlockPeer "192.0.2.1/32"], [6443]⟩ := rfl
  unfold buildPolicies
  simp only [connected, hvault, hendpoint, hapi]
  rfl

theorem buildPolicies_standardPorts :
    buildPolicies (some exampleNet) standardPorts = .ok (examplePolicies standardPorts) :=
  buildPolicies_connected (by decide +kernel)

theorem target_storage : target? "https://versitygw.example.com:10000" =
    some ("versitygw.example.com", 10000) := by decide +kernel

theorem lookup_storage : exampleNet.lookupHost "versitygw.example.com" = some ["192.0.2.20"] := by
  decide

theorem upstreams_admitted_standardPorts :
    (Webhook.validate (some []) standardPorts).2 = none ∧
    buildPolicies (some exampleNet) standardPorts = .ok (examplePolicies standardPorts) ∧
    ∀ w, wanted standardPorts w = true → ∀ url ∈ upstreams standardPorts w,
      UpstreamAdmitted exampleNet (operatorServices standardPorts) (examplePolicies standardPorts)
        standardPorts w url := by
  refine ⟨by decide +kernel, buildPolicies_standardPorts, (upstreams_admitted_iff exampleNet _
    standardPorts _ (by decide) (ownServices_operatorServices _) buildPolicies_standardPorts).mpr ?_⟩
  have hunset : ∀ w,
      UpstreamOpened exampleNet (operatorServices standardPorts) standardPorts w "" := by
    intro w host port e htarget
    have hempty : target? "" = none := by decide
    rw [hempty] at htarget
    cases htarget
  have hvault : UpstreamOpened exampleNet (operatorServices standardPorts) standardPorts
      (.service .tokensmith) "https://vault.example.com:8200" := by
    have htarget : target? "https://vault.example.com:8200" = some ("vault.example.com", 8200) := by
      decide +kernel
    have hlookup : exampleNet.lookupHost "vault.example.com" = some ["192.0.2.10"] := by decide
    have hscope : ∀ d, Scope.vault.Holds exampleNet standardPorts d ↔
        SharesHost exampleNet "https://vault.example.com:8200" d := fun _ => Iff.rfl
    exact upstreamOpened_outside htarget (by decide) hlookup (by decide) hscope (by decide)
  have hstorage : UpstreamOpened exampleNet (operatorServices standardPorts) standardPorts
      (.service .bootService) "https://versitygw.example.com:10000" := by
    have hscope : ∀ d, Scope.storage.Holds exampleNet standardPorts d ↔
        SharesHost exampleNet "https://versitygw.example.com:10000" d := fun _ => Iff.rfl
    exact upstreamOpened_outside target_storage (by decide) lookup_storage (by decide) hscope
      (by decide)
  intro w hw url hurl
  cases w with
  | service svc =>
    cases svc with
    | smd =>
      obtain rfl := List.mem_singleton.mp hurl
      exact hunset _
    | tokensmith =>
      obtain rfl := List.mem_singleton.mp hurl
      exact hvault
    | bootService =>
      rcases List.mem_cons.mp hurl with rfl | hurl
      · exact hstorage
      · obtain rfl : url = "" := by
          rcases List.mem_cons.mp hurl with h | h
          · exact h
          · exact List.mem_singleton.mp h
        exact hunset _
    | metadataService => exact absurd hw (by decide)
  | _ => exact absurd hw (by decide)

/-- The documented object storage is out of reach for the boot service, and the log compactor
reaches none at all. -/
theorem upstreams_not_admitted :
    ((Webhook.validate (some []) documentedPort).2 = none ∧
      buildPolicies (some exampleNet) documentedPort = .ok (examplePolicies documentedPort) ∧
      wanted documentedPort (.service .bootService) = true ∧
      "https://versitygw.example.com:7070" ∈ upstreams documentedPort (.service .bootService) ∧
      ¬ UpstreamAdmitted exampleNet (operatorServices documentedPort)
        (examplePolicies documentedPort) documentedPort (.service .bootService)
        "https://versitygw.example.com:7070") ∧
    (Webhook.validate (some []) withCompactor).2 = none ∧
      buildPolicies (some exampleNet) withCompactor = .ok (examplePolicies withCompactor) ∧
      wanted withCompactor .logqCompactor = true ∧
      "https://versitygw.example.com:10000" ∈ upstreams withCompactor .logqCompactor ∧
      ¬ UpstreamAdmitted exampleNet (operatorServices withCompactor)
        (examplePolicies withCompactor) withCompactor .logqCompactor
        "https://versitygw.example.com:10000" := by
  have hdocumented : buildPolicies (some exampleNet) documentedPort =
      .ok (examplePolicies documentedPort) := buildPolicies_connected (by decide +kernel)
  have hcompactor : buildPolicies (some exampleNet) withCompactor =
      .ok (examplePolicies withCompactor) := buildPolicies_connected (by decide +kernel)
  have hleads : ∀ services, LeadsTo exampleNet services "versitygw.example.com"
      (.address (.v4 3221226004)) := by
    intro services
    exact .address (by decide) lookup_storage (by decide)
  refine ⟨⟨by decide +kernel, hdocumented, by decide, by decide, ?_⟩, by decide +kernel, hcompactor,
    by decide, by decide, ?_⟩
  · have htarget : target? "https://versitygw.example.com:7070" =
        some ("versitygw.example.com", 7070) := by decide +kernel
    exact not_upstreamAdmitted (by decide) hdocumented htarget (hleads _) (by decide)
  · exact not_upstreamAdmitted (by decide) hcompactor target_storage (hleads _) (by decide)

end OpenchamiOperator.Controller
