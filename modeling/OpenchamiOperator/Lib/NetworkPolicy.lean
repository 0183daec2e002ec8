import OpenchamiOperator.Lib.GoMap
import OpenchamiOperator.Lib.NetipText

/-! # Kubernetes network policies

The resource `networking.k8s.io/v1` `NetworkPolicy` and what it lets through. A pod that no policy
selects for a direction may connect freely in it; once one does, it may do what the rules of some
selecting policy allow and nothing else.

* `admitsEgress_iff`: what a selected pod may connect to.
* `forall_admitsEgress_iff`: the same for all pods that carry given labels. -/

namespace OpenchamiOperator.Lib

open Strings

/-! ### Blocks of addresses -/

namespace Netip

/-- A CIDR as `ipBlock` gives it. -/
def cidrContains (cidr : String) (a : Addr) : Bool := (parsePrefix cidr).any (·.contains a)

end Netip

namespace NetworkPolicy

/-! ### The resource -/

inductive Protocol where
  | tcp
  | udp
deriving DecidableEq, Repr

structure Port where
  protocol : Protocol
  port : ℤ
deriving DecidableEq

/-- `NetworkPolicyPeer`; a selector is its `matchLabels`. -/
structure Peer where
  podSelector : Option (GoMap String) := none
  namespaceSelector : Option (GoMap String) := none
  ipBlock : Option String := none
deriving DecidableEq

/-- A rule of either direction. No peers are all peers, and no ports all ports. -/
structure Rule where
  peers : List Peer := []
  ports : List Port := []
deriving DecidableEq

inductive PolicyType where
  | ingress
  | egress
deriving DecidableEq, Repr

structure Policy where
  name : String
  «namespace» : String
  podSelector : GoMap String := .empty
  policyTypes : List PolicyType
  ingress : List Rule := []
  egress : List Rule := []
deriving DecidableEq

/-! ### Connections -/

/-- The label every namespace carries. -/
def metadataName : String := "kubernetes.io/metadata.name"

/-- A pod, with the labels of its namespace. -/
structure Pod where
  «namespace» : String
  labels : GoMap String
  namespaceLabels : GoMap String
  stamped : namespaceLabels.get? metadataName = some «namespace»

/-- Where a connection goes: to a pod, or out of the cluster. -/
inductive Destination where
  | pod (p : Pod)
  | address (a : Netip.Addr)

/-- The peer of a policy in the namespace `ns` covers the destination. A block covers addresses
outside the cluster; without a namespace selector only pods of the policy's own namespace are
meant. -/
def Peer.Covers (ns : String) (peer : Peer) : Destination → Prop
  | .pod p => peer.ipBlock = none ∧
      (match peer.namespaceSelector with
        | none => p.namespace = ns
        | some sel => p.namespaceLabels.Satisfies sel) ∧
      ∀ sel ∈ peer.podSelector, p.labels.Satisfies sel
  | .address a => ∃ cidr ∈ peer.ipBlock, Netip.cidrContains cidr a = true

def Rule.Admits (ns : String) (r : Rule) (d : Destination) (port : Port) : Prop :=
  (r.peers = [] ∨ ∃ peer ∈ r.peers, peer.Covers ns d) ∧ (r.ports = [] ∨ port ∈ r.ports)

/-- The policy governs what the pod may connect to. -/
def Policy.SelectsEgress (np : Policy) (p : Pod) : Prop :=
  np.namespace = p.namespace ∧ p.labels.Satisfies np.podSelector ∧ .egress ∈ np.policyTypes

/-- The policies let the pod connect. -/
def AdmitsEgress (policies : List Policy) (p : Pod) (d : Destination) (port : Port) : Prop :=
  (∃ np ∈ policies, np.SelectsEgress p) →
    ∃ np ∈ policies, np.SelectsEgress p ∧ ∃ r ∈ np.egress, r.Admits np.namespace d port

/-- **A pod that some policy selects** may connect where a rule of a selecting policy allows it. -/
theorem admitsEgress_iff {policies : List Policy} {p : Pod} {d : Destination} {port : Port}
    {deny : Policy} (hdeny : deny ∈ policies) (hsel : deny.SelectsEgress p) :
    AdmitsEgress policies p d port ↔
      ∃ np ∈ policies, np.SelectsEgress p ∧ ∃ r ∈ np.egress, r.Admits np.namespace d port :=
  ⟨fun h => h ⟨deny, hdeny, hsel⟩, fun h _ => h⟩

/-! ### Destinations of which only some labels are known -/

/-- The pod of a namespace that has the given labels and no others. -/
def Pod.plain (ns : String) (labels : GoMap String) : Pod where
  «namespace» := ns
  labels := labels
  namespaceLabels := GoMap.ofList [(metadataName, ns)]
  stamped := by simp [GoMap.get?_ofList, GoMap.find]

/-- The labels of `q`, and perhaps more. -/
structure Pod.Extends (p q : Pod) : Prop where
  sameNamespace : p.namespace = q.namespace
  labels : p.labels.Satisfies q.labels
  namespaceLabels : p.namespaceLabels.Satisfies q.namespaceLabels

theorem Pod.extends_refl (p : Pod) : p.Extends p :=
  ⟨rfl, GoMap.satisfies_refl _, GoMap.satisfies_refl _⟩

def Destination.Extends : Destination → Destination → Prop
  | .pod p, .pod q => p.Extends q
  | .address a, .address b => a = b
  | _, _ => False

theorem Destination.extends_refl : ∀ d : Destination, d.Extends d
  | .pod p => p.extends_refl
  | .address _ => rfl

/-- Further labels take nothing out of a peer. -/
theorem Peer.Covers.mono {ns : String} {peer : Peer} {d e : Destination} (hde : d.Extends e)
    (h : peer.Covers ns e) : peer.Covers ns d := by
  cases d with
  | address a =>
    cases e with
    | address b =>
      cases hde
      exact h
    | pod q => exact hde.elim
  | pod p =>
    cases e with
    | address b => exact hde.elim
    | pod q =>
      obtain ⟨hblock, hnamespace, hlabels⟩ := h
      refine ⟨hblock, ?_, fun sel hsel => hde.labels.trans (hlabels sel hsel)⟩
      cases hselector : peer.namespaceSelector with
      | none =>
        rw [hselector] at hnamespace
        exact hde.sameNamespace.trans hnamespace
      | some sel =>
        rw [hselector] at hnamespace
        exact hde.namespaceLabels.trans hnamespace

theorem Rule.Admits.mono {ns : String} {r : Rule} {d e : Destination} {port : Port}
    (hde : d.Extends e) (h : r.Admits ns e port) : r.Admits ns d port := by
  refine ⟨?_, h.2⟩
  rcases h.1 with hall | ⟨peer, hpeer, hcovers⟩
  · exact Or.inl hall
  · exact Or.inr ⟨peer, hpeer, hcovers.mono hde⟩

theorem Policy.SelectsEgress.mono {np : Policy} {p q : Pod} (hpq : p.Extends q)
    (h : np.SelectsEgress q) : np.SelectsEgress p :=
  ⟨h.1.trans hpq.sameNamespace.symm, hpq.labels.trans h.2.1, h.2.2⟩

/-- **Connections between pods known by some labels**: all of them are let through exactly when one
rule allows the one between the pods with those labels alone. -/
theorem forall_admitsEgress_iff {policies : List Policy} {q : Pod} {e : Destination} {port : Port}
    {deny : Policy} (hdeny : deny ∈ policies) (hsel : deny.SelectsEgress q) :
    (∀ p d, p.Extends q → d.Extends e → AdmitsEgress policies p d port) ↔
      ∃ np ∈ policies, np.SelectsEgress q ∧ ∃ r ∈ np.egress, r.Admits np.namespace e port := by
  constructor
  · intro h
    exact (admitsEgress_iff hdeny hsel).mp (h q e q.extends_refl e.extends_refl)
  · rintro ⟨np, hnp, hselects, r, hr, hadmits⟩ p d hp hd
    exact fun _ => ⟨np, hnp, hselects.mono hp, r, hr, hadmits.mono hd⟩

end NetworkPolicy

end OpenchamiOperator.Lib
