import OpenchamiOperator.Reconcilers.NetworkPolicies

/-! # The peers of the egress rules

The peers that `internal/reconcilers/helpers.go` makes of a URL and of the endpoint slices of the API
server.

* `parseEgressHost_clusterHost`: the namespace that is selected for the name of something in the
  cluster. It is taken by its place from the front, and so is right for the name of a Service and not
  for that of a pod behind one.
* `apiEgress_exact_iff`: when the rule for the API server admits what the slices list and no more. -/

namespace OpenchamiOperator.Reconcilers

open Lib Strings Api Controller NetworkPolicy

section Peers

variable {net : Network} {ns : String} {d : Destination}

theorem covers_namespacePeer {other : String} :
    (namespacePeer other).Covers ns d ↔ ∃ p, d = .pod p ∧ p.namespace = other := by
  cases d with
  | pod p => simp [namespacePeer, Peer.Covers, p.stamped]
  | address a => simp [namespacePeer, Peer.Covers]

theorem covers_ipBlockPeer {cidr : String} :
    (ipBlockPeer cidr).Covers ns d ↔ ∃ a, d = .address a ∧ Netip.cidrContains cidr a = true := by
  cases d <;> simp [ipBlockPeer, Peer.Covers]

/-- The block of addresses that is opened for a host outside the cluster. -/
theorem resolveExternalPeer_ok {host kind : String} {peer : Peer}
    (h : resolveExternalPeer net host kind = .ok peer) :
    peer = ipBlockPeer (match net.lookupHost host with
      | some (addr :: _) => addr ++ "/32"
      | _ => syntaxOnlyExternalCIDR) := by
  unfold resolveExternalPeer at h
  split at h
  · rename_i hlookup
    split_ifs at h
    rw [hlookup]
    exact (Except.ok.inj h).symm
  · cases h
  · rename_i hlookup
    rw [hlookup]
    exact (Except.ok.inj h).symm

theorem namespacePeer_inj {a b : String} : namespacePeer a = namespacePeer b ↔ a = b := by
  refine ⟨fun h => ?_, fun h => h ▸ rfl⟩
  have hget := congrArg (fun p : Peer => p.namespaceSelector.bind (·.get? metadataName)) h
  simpa [namespacePeer, GoMap.get?_ofList, GoMap.find] using hget

end Peers

/-! ### Names of the cluster -/

/-- The name of something below a namespace: a Service has one label in front of the namespace, a
pod behind a headless Service has two. -/
def clusterHost (labels : List String) (ns : String) : String :=
  String.ofList (Netip.join '.' ((labels ++ [ns, "svc", "cluster", "local"]).map String.toList))

theorem clusterHost_nil (ns : String) : clusterHost [] ns = ns ++ ".svc.cluster.local" := by
  apply String.toList_injective
  simp [clusterHost, Netip.join, List.intercalate]

theorem clusterHost_cons (label : String) (labels : List String) (ns : String) :
    clusterHost (label :: labels) ns = label ++ ("." ++ clusterHost labels ns) := by
  obtain ⟨a, l, hl⟩ : ∃ a l, labels ++ [ns, "svc", "cluster", "local"] = a :: l :=
    List.exists_cons_of_ne_nil (by simp)
  apply String.toList_injective
  simp only [clusterHost, List.cons_append, hl, List.map_cons, Netip.join_cons,
    String.toList_ofList, String.toList_append]
  rfl

theorem hasSuffix_clusterHost (labels : List String) (ns : String) :
    hasSuffix (clusterHost labels ns) ".svc.cluster.local" = true := by
  induction labels with
  | nil =>
    rw [clusterHost_nil]
    exact hasSuffix_append _ _
  | cons label labels ih =>
    obtain ⟨t, ht⟩ := hasSuffix_iff.mp ih
    rw [clusterHost_cons, ht, ← String.append_assoc, ← String.append_assoc]
    exact hasSuffix_append _ _

theorem split_clusterHost {labels : List String} {ns : String}
    (hdots : ∀ l ∈ ns :: labels, '.' ∉ l.toList) :
    split '.' (clusterHost labels ns) = labels ++ [ns, "svc", "cluster", "local"] := by
  have hfree : ∀ t ∈ (labels ++ [ns, "svc", "cluster", "local"]).map String.toList, '.' ∉ t := by
    intro t ht
    obtain ⟨l, hl, rfl⟩ := List.mem_map.mp ht
    simp only [List.mem_append, List.mem_cons, List.not_mem_nil, or_false] at hl
    rcases hl with hl | rfl | rfl | rfl | rfl
    · exact hdots l (List.mem_cons_of_mem _ hl)
    · exact hdots l List.mem_cons_self
    · decide
    · decide
    · decide
  rw [clusterHost, Netip.split_join hfree (by simp), List.map_map]
  simp

variable {net : Network} {addr kind : String} {u : Url.URL}

/-- The second label of the name is taken for the namespace. -/
theorem parseEgressHost_clusterHost {labels : List String} {ns : String}
    (hparse : Url.parse addr = some u) (hhost : u.hostname = clusterHost labels ns)
    (hlabels : labels ≠ []) (hdots : ∀ l ∈ ns :: labels, '.' ∉ l.toList) :
    parseEgressHost addr kind =
      .ok (clusterHost labels ns, some (namespacePeer (labels.getD 1 ns))) := by
  unfold parseEgressHost
  simp only [hparse, hhost]
  rw [if_pos (hasSuffix_clusterHost labels ns), split_clusterHost hdots]
  rcases labels with _ | ⟨a, _ | ⟨b, _ | ⟨c, _ | ⟨e, l⟩⟩⟩⟩
  · exact absurd rfl hlabels
  · rfl
  · rfl
  · rfl
  · obtain ⟨f, l', hl⟩ : ∃ f l', l ++ [ns, "svc", "cluster", "local"] = f :: l' :=
      List.exists_cons_of_ne_nil (by simp)
    simp only [List.cons_append, hl]
    rfl

theorem egressPeer_external (hparse : Url.parse addr = some u)
    (hhost : hasSuffix u.hostname ".svc.cluster.local" = false) :
    egressPeer net addr kind = resolveExternalPeer net u.hostname kind := by
  unfold egressPeer parseEgressHost
  simp [hparse, hhost]

/-- **The namespace of an in-cluster peer** is the right one exactly if a single label stands in
front of it, or the second label happens to be the same; a host outside the cluster is never given a
namespace. -/
theorem egressPeer_namespace_iff (net : Network) (addr kind : String) (u : Url.URL)
    (hparse : Url.parse addr = some u) :
    (∀ (labels : List String) (ns : String), u.hostname = clusterHost labels ns → labels ≠ [] →
      (∀ l ∈ ns :: labels, '.' ∉ l.toList) →
      (egressPeer net addr kind = .ok (namespacePeer ns) ↔
        labels.length = 1 ∨ labels[1]? = some ns)) ∧
    (hasSuffix u.hostname ".svc.cluster.local" = false →
      ∀ peer, egressPeer net addr kind = .ok peer → peer.namespaceSelector = none) := by
  constructor
  · intro labels ns hhost hlabels hdots
    have hpeer : egressPeer net addr kind = .ok (namespacePeer (labels.getD 1 ns)) := by
      rw [egressPeer, parseEgressHost_clusterHost hparse hhost hlabels hdots]
    rw [hpeer, Except.ok.injEq, namespacePeer_inj]
    rcases labels with _ | ⟨a, _ | ⟨b, l⟩⟩
    · exact absurd rfl hlabels
    · simp
    · simp
  · intro hhost peer hpeer
    rw [egressPeer_external hparse hhost] at hpeer
    rw [resolveExternalPeer_ok hpeer]
    rfl

/-- A Service of another namespace. -/
theorem egressPeer_namespace_service :
    egressPeer {} "https://vault.secrets.svc.cluster.local:8200" "vault" =
      .ok (namespacePeer "secrets") :=
  ((egressPeer_namespace_iff {} "https://vault.secrets.svc.cluster.local:8200" "vault"
    { scheme := "https", host := "vault.secrets.svc.cluster.local:8200" } (by decide +kernel)).1
    ["vault"] "secrets" (by decide +kernel) (by decide) (by decide)).mpr (Or.inl rfl)

/-- A member of a StatefulSet is looked for in a namespace with the name of its Service. -/
theorem egressPeer_namespace_member :
    (Url.parse "https://vault-0.vault-internal.secrets.svc.cluster.local:8200").map (·.hostname) =
      some (clusterHost ["vault-0", "vault-internal"] "secrets") ∧
    ∀ net : Network,
      egressPeer net "https://vault-0.vault-internal.secrets.svc.cluster.local:8200" "vault" =
        .ok (namespacePeer "vault-internal") ∧
      namespacePeer "vault-internal" ≠ namespacePeer "secrets" := by
  have hparse : Url.parse "https://vault-0.vault-internal.secrets.svc.cluster.local:8200" =
      some { scheme := "https", host := "vault-0.vault-internal.secrets.svc.cluster.local:8200" } := by
    decide +kernel
  have hhost : Url.URL.hostname
      { scheme := "https", host := "vault-0.vault-internal.secrets.svc.cluster.local:8200" } =
      clusterHost ["vault-0", "vault-internal"] "secrets" := by
    decide +kernel
  refine ⟨by rw [hparse, Option.map_some, hhost], fun net => ⟨?_, fun h => ?_⟩⟩
  · rw [egressPeer, parseEgressHost_clusterHost hparse hhost (by decide) (by decide)]
    rfl
  · exact absurd (namespacePeer_inj.mp h) (by decide)

/-! ### The API server -/

/-- An `EndpointSlice`: the addresses of its endpoints and its ports, each of which may be absent. -/
structure EndpointSlice where
  endpoints : List (List String)
  ports : List (Option ℤ)

/-- The addresses and ports that a slice lists. -/
def EndpointSlice.listed (s : EndpointSlice) : List String × List ℤ :=
  (s.endpoints.flatten, s.ports.filterMap id)

def EndpointSlice.ListsAddress (s : EndpointSlice) (a : Netip.Addr) : Prop :=
  ∃ text ∈ s.listed.1, Netip.parseAddr text = some a

/-- At least one address and one port, and no text that is not an IP address. -/
structure EndpointSlice.WellFormed (s : EndpointSlice) : Prop where
  addresses : s.listed.1 ≠ []
  ports : s.listed.2 ≠ []
  parses : ∀ text ∈ s.listed.1, ∃ a, Netip.parseAddr text = some a ∧ a.zone = ""

/-- Some slice lists the address and the port together. -/
def Listed (slices : List EndpointSlice) (a : Netip.Addr) (port : ℤ) : Prop :=
  ∃ s ∈ slices, s.ListsAddress a ∧ port ∈ s.listed.2

/-- The rule is exact: it admits the pairs that some slice lists, each address that is listed has one
peer, and every block can be read. -/
structure ExactAPIEgress (slices : List EndpointSlice) (api : KubernetesAPIEgress) : Prop where
  admits : ∀ (ns : String) (a : Netip.Addr) (port : ℤ),
    (∃ r ∈ (allowCNPGKubernetesAPIEgress ns api).egress, r.Admits ns (.address a) (portTCP port)) ↔
      Listed slices a port
  onePeer : ∀ s ∈ slices, ∀ text ∈ s.listed.1, api.peers.count (ipBlockPeer (text ++ "/32")) = 1
  valid : ∀ peer ∈ api.peers, ∃ cidr, peer = ipBlockPeer cidr ∧
    (Netip.parsePrefix cidr).isSome = true

/-- Every address and every port that are listed are listed together. -/
def Together (slices : List EndpointSlice) : Prop :=
  ∀ a port, (∃ s ∈ slices, s.ListsAddress a) → (∃ s ∈ slices, port ∈ s.listed.2) →
    Listed slices a port

/-- With an IPv6 address all addresses are listed that share its first 32 bits. -/
def FullBlocks (slices : List EndpointSlice) : Prop :=
  ∀ n, (∃ s ∈ slices, s.ListsAddress (.v6 n "")) →
    ∀ m, m / 2 ^ 96 = n / 2 ^ 96 → ∃ s ∈ slices, s.ListsAddress (.v6 m "")

/-- The block of 32 bits around an address. -/
def SameBlock : Netip.Addr → Netip.Addr → Prop
  | .v4 n, .v4 m => m = n
  | .v6 n _, .v6 m _ => m / 2 ^ 96 = n / 2 ^ 96
  | _, _ => False

theorem SameBlock.refl (a : Netip.Addr) : SameBlock a a := by
  cases a <;> exact rfl

section Blocks

variable {text : String} {a b : Netip.Addr}

theorem parsePrefix_slash32 (h : Netip.parseAddr text = some a) (hzone : a.zone = "") :
    ∃ hbits, Netip.parsePrefix (text ++ "/32") = some ⟨a, 32, hbits⟩ := by
  have hbits : 32 ≤ a.bitLen := by cases a <;> simp [Netip.Addr.bitLen]
  have hcut : cutLast '/' (text ++ "/32") = some (text, "32") := by
    have h32 : String.singleton '/' ++ "32" = "/32" := by decide
    rw [← h32]
    exact cutLast_append text (by decide)
  have hlength : decimal? "32" = some 32 := by decide
  refine ⟨hbits, ?_⟩
  unfold Netip.parsePrefix
  rw [hcut]
  simp only [h, hlength]
  rw [dif_pos hbits, if_pos ⟨hzone, Or.inr (by decide)⟩]

theorem cidrContains_slash32 (h : Netip.parseAddr text = some a) (hzone : a.zone = "") :
    Netip.cidrContains (text ++ "/32") b = true ↔ b.zone = "" ∧ SameBlock a b := by
  obtain ⟨hbits, hread⟩ := parsePrefix_slash32 h hzone
  have hpos : 0 < 2 ^ 96 := Nat.two_pow_pos 96
  rw [Netip.cidrContains, hread, Option.any_some, Netip.Prefix.contains]
  cases a with
  | v4 n => cases b <;> simp [SameBlock, Netip.Addr.bitLen, Netip.Addr.mask, Netip.Addr.zone]
  | v6 n z =>
    have hz : z = "" := hzone
    cases b with
    | v4 m => simp [SameBlock, Netip.Addr.bitLen]
    | v6 m z' =>
      simp only [SameBlock, Netip.Addr.bitLen, Netip.Addr.mask, Netip.Addr.zone, hz,
        decide_true, Bool.true_and, Bool.and_eq_true, decide_eq_true_eq, Netip.Addr.v6.injEq]
      constructor
      · rintro ⟨hz', hm, -⟩
        exact ⟨of_decide_eq_true hz', Nat.eq_of_mul_eq_mul_right hpos hm⟩
      · rintro ⟨hz', hm⟩
        exact ⟨decide_eq_true hz', by rw [hm], hz'⟩

end Blocks

section Slices

variable {slices : List EndpointSlice}

/-- The addresses of all slices, each once. -/
def apiAddresses (slices : List EndpointSlice) : List String :=
  firstOccurrences [] ((slices.map EndpointSlice.listed).flatMap Prod.fst)

/-- The ports of all slices, each once. -/
def apiPorts (slices : List EndpointSlice) : List ℤ :=
  firstOccurrences [] ((slices.map EndpointSlice.listed).flatMap Prod.snd)

/-- One rule for all addresses and all ports. -/
def apiEgressOf (slices : List EndpointSlice) : KubernetesAPIEgress where
  peers := (apiAddresses slices).map fun text => ipBlockPeer (text ++ "/32")
  ports := apiPorts slices

theorem mem_apiAddresses {text : String} :
    text ∈ apiAddresses slices ↔ ∃ s ∈ slices, text ∈ s.listed.1 := by
  simp [apiAddresses, mem_firstOccurrences]

theorem mem_apiPorts {port : ℤ} : port ∈ apiPorts slices ↔ ∃ s ∈ slices, port ∈ s.listed.2 := by
  simp [apiPorts, mem_firstOccurrences]

theorem apiAddresses_ne_nil (hwf : ∀ s ∈ slices, s.WellFormed) (hne : slices ≠ []) :
    apiAddresses slices ≠ [] := by
  obtain ⟨s, hs⟩ := List.exists_mem_of_ne_nil slices hne
  obtain ⟨text, htext⟩ := List.exists_mem_of_ne_nil _ (hwf s hs).addresses
  exact List.ne_nil_of_mem (mem_apiAddresses.mpr ⟨s, hs, htext⟩)

theorem apiPorts_ne_nil (hwf : ∀ s ∈ slices, s.WellFormed) (hne : slices ≠ []) :
    apiPorts slices ≠ [] := by
  obtain ⟨s, hs⟩ := List.exists_mem_of_ne_nil slices hne
  obtain ⟨port, hport⟩ := List.exists_mem_of_ne_nil _ (hwf s hs).ports
  exact List.ne_nil_of_mem (mem_apiPorts.mpr ⟨s, hs, hport⟩)

theorem kubernetesAPIEgressPeers_eq {net : Network} (hwf : ∀ s ∈ slices, s.WellFormed)
    (hnet : net.apiSlices = some (slices.map EndpointSlice.listed)) (hne : slices ≠ []) :
    kubernetesAPIEgressPeers net = .ok (apiEgressOf slices) := by
  have haddrs := apiAddresses_ne_nil hwf hne
  have hports := apiPorts_ne_nil hwf hne
  unfold kubernetesAPIEgressPeers
  unfold apiAddresses at haddrs
  unfold apiPorts at hports
  simp only [hnet]
  rw [if_neg haddrs, if_neg hports]
  rfl

/-- What the rule admits: every address of every block, on every port. -/
theorem admits_apiEgressOf (hwf : ∀ s ∈ slices, s.WellFormed) (hne : slices ≠ []) {ns : String}
    {a : Netip.Addr} {port : ℤ} :
    (∃ r ∈ (allowCNPGKubernetesAPIEgress ns (apiEgressOf slices)).egress,
      r.Admits ns (.address a) (portTCP port)) ↔
    (a.zone = "" ∧ ∃ s ∈ slices, ∃ b, s.ListsAddress b ∧ SameBlock b a) ∧
      ∃ s ∈ slices, port ∈ s.listed.2 := by
  have hpeers : (∃ peer ∈ (apiEgressOf slices).peers, peer.Covers ns (.address a)) ↔
      a.zone = "" ∧ ∃ s ∈ slices, ∃ b, s.ListsAddress b ∧ SameBlock b a := by
    constructor
    · rintro ⟨peer, hpeer, hcovers⟩
      obtain ⟨text, hlisted, rfl⟩ := List.mem_map.mp hpeer
      obtain ⟨s, hs, htext⟩ := mem_apiAddresses.mp hlisted
      obtain ⟨a', ha, hcontains⟩ := covers_ipBlockPeer.mp hcovers
      cases ha
      obtain ⟨b, hb, hzone⟩ := (hwf s hs).parses text htext
      obtain ⟨ha, hblock⟩ := (cidrContains_slash32 hb hzone).mp hcontains
      exact ⟨ha, s, hs, b, ⟨text, htext, hb⟩, hblock⟩
    · rintro ⟨ha, s, hs, b, ⟨text, htext, hb⟩, hblock⟩
      obtain ⟨b', hb', hzone⟩ := (hwf s hs).parses text htext
      rw [hb] at hb'
      cases hb'
      exact ⟨_, List.mem_map_of_mem (mem_apiAddresses.mpr ⟨s, hs, htext⟩),
        covers_ipBlockPeer.mpr ⟨a, rfl, (cidrContains_slash32 hb hzone).mpr ⟨ha, hblock⟩⟩⟩
  have hports : portTCP port ∈ (apiEgressOf slices).ports.map portTCP ↔
      ∃ s ∈ slices, port ∈ s.listed.2 := by
    rw [← mem_apiPorts, List.mem_map_of_injective fun p q h => by simpa [portTCP] using h]
    rfl
  have hsome : (apiEgressOf slices).peers ≠ [] := by
    simpa [apiEgressOf] using apiAddresses_ne_nil hwf hne
  have hsome' : (apiEgressOf slices).ports.map portTCP ≠ [] := by
    simpa [apiEgressOf] using apiPorts_ne_nil hwf hne
  simp only [allowCNPGKubernetesAPIEgress, egressOnly, List.exists_mem_cons_iff, List.not_mem_nil,
    false_and, exists_false, or_false, Rule.Admits, hsome, hsome', false_or, hpeers, hports]

theorem count_apiEgressOf {s : EndpointSlice} (hs : s ∈ slices) {text : String}
    (htext : text ∈ s.listed.1) :
    (apiEgressOf slices).peers.count (ipBlockPeer (text ++ "/32")) = 1 := by
  have hinj : Function.Injective fun text : String => ipBlockPeer (text ++ "/32") := by
    intro x y hxy
    simpa [ipBlockPeer] using hxy
  refine List.count_eq_one_of_mem ((firstOccurrences_nodup _ _).map hinj) ?_
  exact List.mem_map_of_mem (mem_apiAddresses.mpr ⟨s, hs, htext⟩)

theorem valid_apiEgressOf (hwf : ∀ s ∈ slices, s.WellFormed) {peer : Peer}
    (h : peer ∈ (apiEgressOf slices).peers) :
    ∃ cidr, peer = ipBlockPeer cidr ∧ (Netip.parsePrefix cidr).isSome = true := by
  obtain ⟨text, htext, rfl⟩ := List.mem_map.mp h
  obtain ⟨s, hs, htext⟩ := mem_apiAddresses.mp htext
  obtain ⟨a, ha, hzone⟩ := (hwf s hs).parses text htext
  obtain ⟨hbits, hread⟩ := parsePrefix_slash32 ha hzone
  exact ⟨_, rfl, by rw [hread]; rfl⟩

theorem exact_apiEgressOf_iff (hwf : ∀ s ∈ slices, s.WellFormed) (hne : slices ≠ []) :
    ExactAPIEgress slices (apiEgressOf slices) ↔ Together slices ∧ FullBlocks slices := by
  have hzone : ∀ {s a}, s ∈ slices → s.ListsAddress a → a.zone = "" := by
    rintro s a hs ⟨text, htext, ha⟩
    obtain ⟨b, hb, hzone⟩ := (hwf s hs).parses text htext
    rw [ha] at hb
    cases hb
    exact hzone
  constructor
  · intro h
    have hadmits : ∀ a port, (a.zone = "" ∧ ∃ s ∈ slices, ∃ b, s.ListsAddress b ∧ SameBlock b a) ∧
        (∃ s ∈ slices, port ∈ s.listed.2) → Listed slices a port := fun a port hboth =>
      (h.admits "" a port).mp ((admits_apiEgressOf hwf hne).mpr hboth)
    refine ⟨?_, ?_⟩
    · rintro a port ⟨s, hs, ha⟩ hport
      exact hadmits a port ⟨⟨hzone hs ha, s, hs, a, ha, SameBlock.refl a⟩, hport⟩
    · rintro n ⟨s, hs, hn⟩ m hm
      obtain ⟨port, hport⟩ := List.exists_mem_of_ne_nil _ (hwf s hs).ports
      obtain ⟨t, ht, hmt, -⟩ := hadmits (.v6 m "") port
        ⟨⟨rfl, s, hs, _, hn, hm⟩, s, hs, hport⟩
      exact ⟨t, ht, hmt⟩
  · rintro ⟨htogether, hfull⟩
    refine ⟨fun ns a port => ?_, fun s hs text htext => count_apiEgressOf hs htext,
      fun peer hpeer => valid_apiEgressOf hwf hpeer⟩
    rw [admits_apiEgressOf hwf hne]
    constructor
    · rintro ⟨⟨ha, s, hs, b, hb, hblock⟩, hport⟩
      refine htogether a port ?_ hport
      -- the address is listed itself, since its block is one address or listed in full
      match a, b, hblock with
      | .v4 _, .v4 n, rfl => exact ⟨s, hs, hb⟩
      | .v6 m z, .v6 n z', hm =>
        have hz : z = "" := ha
        have hz' : z' = "" := hzone hs hb
        subst hz hz'
        exact hfull n ⟨s, hs, hb⟩ m hm
    · rintro ⟨s, hs, ha, hport⟩
      exact ⟨⟨hzone hs ha, s, hs, a, ha, SameBlock.refl a⟩, s, hs, hport⟩

/-- **The rule for the API server** admits exactly the pairs of address and port that the slices list
if every address is listed with every port, and no IPv6 address is listed unless its block is in
full; in best-effort mode there has to be a slice at all. -/
theorem apiEgress_exact_iff (net : Network) (slices : List EndpointSlice)
    (hwf : ∀ s ∈ slices, s.WellFormed)
    (hnet : net.apiSlices = some (slices.map EndpointSlice.listed)) :
    (slices ≠ [] → ∃ api, kubernetesAPIEgressPeers net = .ok api) ∧
    ((∀ api, kubernetesAPIEgressPeers net = .ok api → ExactAPIEgress slices api) ↔
      Together slices ∧ FullBlocks slices ∧ (slices = [] → net.bestEffortDNS = false)) := by
  refine ⟨fun hne => ⟨_, kubernetesAPIEgressPeers_eq hwf hnet hne⟩, ?_⟩
  by_cases hne : slices = []
  · subst hne
    have hunlisted : ∀ a port, ¬ Listed [] a port := by
      rintro a port ⟨s, hs, -⟩
      cases hs
    have hempty : kubernetesAPIEgressPeers net =
        if net.bestEffortDNS then .ok kubernetesAPIEgressPeersSyntax
        else .error "default/kubernetes endpointslices resolved to no addresses" := by
      unfold kubernetesAPIEgressPeers
      simp [hnet, firstOccurrences]
    rw [hempty]
    constructor
    · intro h
      refine ⟨fun a port ha _ => ?_, fun n hn => ?_, fun _ => ?_⟩
      · obtain ⟨s, hs, -⟩ := ha
        cases hs
      · obtain ⟨s, hs, -⟩ := hn
        cases hs
      by_contra hbest
      rw [Bool.not_eq_false] at hbest
      have hexact := h _ (if_pos hbest)
      refine hunlisted (.v4 0) 443 ((hexact.admits "" (.v4 0) 443).mp ?_)
      refine ⟨_, List.mem_singleton_self _, Or.inr ⟨_, List.mem_singleton_self _, ?_⟩,
        Or.inr (List.mem_singleton_self _)⟩
      exact covers_ipBlockPeer.mpr ⟨_, rfl, by decide⟩
    · rintro ⟨-, -, hbest⟩ api hapi
      rw [hbest rfl] at hapi
      cases hapi
  · rw [kubernetesAPIEgressPeers_eq hwf hnet hne]
    constructor
    · intro h
      obtain ⟨htogether, hfull⟩ := (exact_apiEgressOf_iff hwf hne).mp (h _ rfl)
      exact ⟨htogether, hfull, fun h => absurd h hne⟩
    · rintro ⟨htogether, hfull, -⟩ api hapi
      cases hapi
      exact (exact_apiEgressOf_iff hwf hne).mpr ⟨htogether, hfull⟩

theorem wellFormed_of_check {s : EndpointSlice} (haddresses : s.listed.1 ≠ [])
    (hports : s.listed.2 ≠ [])
    (hparses : (s.listed.1.all fun text => (Netip.parseAddr text).any (·.zone = "")) = true) :
    s.WellFormed := by
  refine ⟨haddresses, hports, fun text htext => ?_⟩
  obtain ⟨a, ha, hzone⟩ := (Option.any_eq_true _ _).mp (List.all_eq_true.mp hparses text htext)
  exact ⟨a, ha, of_decide_eq_true hzone⟩

/-- Two servers on one port. -/
def pairedServers : List EndpointSlice :=
  [⟨[["192.0.2.1"], ["192.0.2.2"]], [some 6443, none]⟩]

theorem apiEgress_exact_paired :
    ∃ api, kubernetesAPIEgressPeers
        { apiSlices := some (pairedServers.map EndpointSlice.listed) } = .ok api ∧
      ExactAPIEgress pairedServers api := by
  have hwf : ∀ s ∈ pairedServers, s.WellFormed := by
    intro s hs
    rw [List.mem_singleton.mp hs]
    exact wellFormed_of_check (by decide) (by decide) (by decide)
  have htogether : Together pairedServers := by
    rintro a port ⟨s, hs, ha⟩ ⟨t, ht, hport⟩
    rw [List.mem_singleton.mp ht, ← List.mem_singleton.mp hs] at hport
    exact ⟨s, hs, ha, hport⟩
  have hfull : FullBlocks pairedServers := by
    rintro n ⟨s, hs, text, htext, hparse⟩
    rw [List.mem_singleton.mp hs] at htext
    have hv4 : ∀ text ∈ ["192.0.2.1", "192.0.2.2"], (Netip.parseAddr text).any (·.bitLen = 32) := by
      decide
    have := hv4 text htext
    rw [hparse] at this
    cases this
  obtain ⟨hok, hexact⟩ := apiEgress_exact_iff
    { apiSlices := some (pairedServers.map EndpointSlice.listed) } pairedServers hwf rfl
  obtain ⟨api, hapi⟩ := hok (by decide)
  exact ⟨api, hapi, hexact.mpr ⟨htogether, hfull, fun _ => rfl⟩ api hapi⟩

/-- Two servers on different ports. -/
def mixedServers : List EndpointSlice :=
  [⟨[["192.0.2.1"]], [some 6443]⟩, ⟨[["198.51.100.7"]], [some 443]⟩]

/-- One server with an IPv6 address. -/
def serverIPv6 : List EndpointSlice := [⟨[["2001:db8::1"]], [some 6443]⟩]

/-- The port of one server is opened at the other, and of an IPv6 network far more than the server. -/
theorem apiEgress_not_exact :
    (∃ api, kubernetesAPIEgressPeers
        { apiSlices := some (mixedServers.map EndpointSlice.listed) } = .ok api ∧
      (∃ r ∈ (allowCNPGKubernetesAPIEgress "ochami" api).egress,
        r.Admits "ochami" (.address (.v4 3221225985)) (portTCP 443)) ∧
      ¬ Listed mixedServers (.v4 3221225985) 443) ∧
    ∃ api, kubernetesAPIEgressPeers
        { apiSlices := some (serverIPv6.map EndpointSlice.listed) } = .ok api ∧
      (∃ r ∈ (allowCNPGKubernetesAPIEgress "ochami" api).egress,
        r.Admits "ochami" (.address (.v6 42540766411282592856903984951653826562 ""))
          (portTCP 6443)) ∧
      ¬ Listed serverIPv6 (.v6 42540766411282592856903984951653826562 "") 6443 := by
  have hmixed : ∀ s ∈ mixedServers, s.WellFormed := by
    intro s hs
    simp only [mixedServers, List.mem_cons, List.not_mem_nil, or_false] at hs
    rcases hs with rfl | rfl <;>
      exact wellFormed_of_check (by decide) (by decide) (by decide)
  have hv6 : ∀ s ∈ serverIPv6, s.WellFormed := by
    intro s hs
    rw [List.mem_singleton.mp hs]
    exact wellFormed_of_check (by decide) (by decide) (by decide)
  constructor
  · refine ⟨_, kubernetesAPIEgressPeers_eq hmixed rfl (by decide),
      (admits_apiEgressOf hmixed (by decide)).mpr ⟨⟨rfl, ?_⟩, ?_⟩, ?_⟩
    · exact ⟨_, List.mem_cons_self, _, ⟨"192.0.2.1", by decide, by decide⟩, SameBlock.refl _⟩
    · exact ⟨_, List.mem_cons_of_mem _ List.mem_cons_self, by decide⟩
    · rintro ⟨s, hs, ⟨text, htext, hparse⟩, hport⟩
      simp only [mixedServers, List.mem_cons, List.not_mem_nil, or_false] at hs
      rcases hs with rfl | rfl
      · exact absurd hport (by decide)
      · rw [List.mem_singleton.mp htext] at hparse
        exact absurd hparse (by decide)
  · refine ⟨_, kubernetesAPIEgressPeers_eq hv6 rfl (by decide),
      (admits_apiEgressOf hv6 (by decide)).mpr ⟨⟨rfl, ?_⟩, ?_⟩, ?_⟩
    · exact ⟨_, List.mem_cons_self, .v6 42540766411282592856903984951653826561 "",
        ⟨"2001:db8::1", by decide, by decide⟩, by simp [SameBlock]⟩
    · exact ⟨_, List.mem_cons_self, by decide⟩
    · rintro ⟨s, hs, ⟨text, htext, hparse⟩, -⟩
      rw [List.mem_singleton.mp hs] at htext
      rw [List.mem_singleton.mp htext] at hparse
      exact absurd hparse (by decide)

end Slices

end OpenchamiOperator.Reconcilers
