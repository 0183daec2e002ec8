import Mathlib.Logic.Relation
import OpenchamiOperator.Api.Webhook

/-! # Runs of admitted requests

The stored control planes as the API server changes them: each create or update is defaulted, then
validated against everything stored, then stored; deletions go through. The server gives every object
an identifier of its own and keeps namespace and name unique.

* `admitted_entry`: what is known of an object that has just been stored.
* `sound_run`: what is known of every reachable set.
* `dhcp_exclusive`: when no node can serve DHCP for two clusters.
* `noop_update_admitted`: when every stored object can be updated without a change.
* `immutable_iff`: which updates leave the fields alone that are documented as immutable.
* `useConfigMap_iff`: when a stored object can change over to a DHCP configuration of the user. -/

namespace OpenchamiOperator.Api.Admission

open Lib Webhook Relation

/-! ### The API server -/

/-- The pattern of `spec.clusterName`: `^[a-z][a-z0-9-]*$`. -/
def clusterNamePattern (name : String) : Bool :=
  match name.toList with
  | [] => false
  | c :: rest => c.isLower && rest.all fun d => d.isLower || d.isDigit || d = '-'

/-- The schema of `spec.clusterName`: the pattern, and at most 32 characters. -/
def schemaValid (cp : ControlPlane) : Bool :=
  clusterNamePattern cp.spec.clusterName && cp.spec.clusterName.toList.length ≤ 32

theorem schemaValid_iff {cp : ControlPlane} : schemaValid cp = true ↔
    clusterNamePattern cp.spec.clusterName = true ∧ cp.spec.clusterName.toList.length ≤ 32 := by
  simp [schemaValid]

theorem mem_of_clusterNamePattern {name : String} (h : clusterNamePattern name = true) :
    ∀ c ∈ name.toList, c.isLower = true ∨ c.isDigit = true ∨ c = '-' := by
  unfold clusterNamePattern at h
  cases hlist : name.toList with
  | nil => simp
  | cons first rest =>
    rw [hlist] at h
    simp only [Bool.and_eq_true, List.all_eq_true, Bool.or_eq_true, decide_eq_true_eq] at h
    intro c hc
    rcases List.mem_cons.mp hc with rfl | hc
    · exact Or.inl h.1
    · exact or_assoc.mp (h.2 c hc)

def withUid (uid : String) (cp : ControlPlane) : ControlPlane :=
  { cp with metadata := { cp.metadata with uid := uid } }

/-- One request that goes through. `cond` is a condition on the set before and on the object that is
stored. In a create request the object may or may not carry its identifier already. -/
inductive Admitted (cond : ControlPlanes → ControlPlane → Prop) :
    ControlPlanes → ControlPlanes → Prop
  | create {s : ControlPlanes} {cp : ControlPlane} {uid : String} (hschema : schemaValid cp = true)
      (hkey : s.has (planeKey cp) = false) (huid : uid ≠ "")
      (hfresh : ∀ c ∈ s, c.metadata.uid ≠ uid)
      (hrequest : cp.metadata.uid = "" ∨ cp.metadata.uid = uid)
      (hadm : (validateCreate (some s.objects) (default cp)).2 = none)
      (hcond : cond s (withUid uid (default cp))) :
      Admitted cond s (s.apply (withUid uid (default cp)))
  | update {s : ControlPlanes} {old new : ControlPlane} (hold : old ∈ s)
      (hkey : planeKey new = planeKey old) (huid : new.metadata.uid = old.metadata.uid)
      (hschema : schemaValid new = true)
      (hadm : (validateUpdate (some s.objects) old (default new)).2 = none)
      (hcond : cond s (default new)) :
      Admitted cond s (s.apply (default new))
  | delete {s : ControlPlanes} (k : String × String) : Admitted cond s (s.delete k)

/-! ### The set of stored control planes -/

/-- What the server and the webhook see to, whatever the requests are. -/
structure Sound (s : ControlPlanes) : Prop where
  uid : ∀ c ∈ s, c.metadata.uid ≠ ""
  uids : s.Pairs fun a b => a.metadata.uid ≠ b.metadata.uid
  schema : ∀ c ∈ s, schemaValid c = true
  defaulted : ∀ c ∈ s, default c = c
  own : ∀ c ∈ s, ownErrors c = []
  names : s.Pairs fun a b => a.spec.clusterName ≠ b.spec.clusterName

/-- What is known of `cp` when it has just been admitted against `s`. -/
structure Entry (s : ControlPlanes) (cp : ControlPlane) : Prop where
  uid : cp.metadata.uid ≠ ""
  uids : ∀ c ∈ s, planeKey c ≠ planeKey cp → c.metadata.uid ≠ cp.metadata.uid
  schema : schemaValid cp = true
  defaulted : default cp = cp
  own : ownErrors cp = []
  names : ∀ c ∈ s, planeKey c ≠ planeKey cp → c.spec.clusterName ≠ cp.spec.clusterName
  selectors : cp.spec.networkProbe.enabled = false → ∀ c ∈ s, planeKey c ≠ planeKey cp →
    c.spec.services.coreDHCP.nodeSelector ≠ cp.spec.services.coreDHCP.nodeSelector

theorem mem_listOtherClusters {stored : List ControlPlane} {self c : ControlPlane} :
    c ∈ listOtherClusters stored self ↔ c ∈ stored ∧
      ¬ (c.metadata.uid ≠ "" ∧ c.metadata.uid = self.metadata.uid) ∧
      ¬ (self.metadata.uid = "" ∧ planeKey c = planeKey self) := by
  unfold listOtherClusters planeKey
  rw [List.mem_filter]
  simp only [Bool.and_eq_true, Bool.not_eq_true', Bool.and_eq_false_iff, decide_eq_false_iff_not,
    Prod.mk.injEq]
  tauto

/-- The others of a stored object, or of a request for it, are those with another key. -/
theorem mem_others {s : ControlPlanes} (hs : Sound s) {old self : ControlPlane} (hold : old ∈ s)
    (hkey : planeKey self = planeKey old) (huid : self.metadata.uid = old.metadata.uid)
    {c : ControlPlane} :
    c ∈ listOtherClusters s.objects self ↔ c ∈ s ∧ planeKey c ≠ planeKey self := by
  rw [mem_listOtherClusters, hkey, huid]
  constructor
  · rintro ⟨hc, hne, -⟩
    refine ⟨hc, fun hck => hne ⟨hs.uid c hc, ?_⟩⟩
    rw [Store.eq_of_key_eq hc hold hck]
  · rintro ⟨hc, hck⟩
    refine ⟨hc, fun h => hs.uids c hc old hold hck h.2, fun h => hck h.2⟩

/-- **What a request leaves behind**: the stored object is an entry, or an object is gone. -/
theorem admitted_entry {cond : ControlPlanes → ControlPlane → Prop} {s s' : ControlPlanes}
    (hs : Sound s) (h : Admitted cond s s') :
    (∃ cp, Entry s cp ∧ cond s cp ∧ s' = s.apply cp) ∨ ∃ k, s' = s.delete k := by
  cases h with
  | @create cp uid hschema hkey huid hfresh hrequest hadm hcond =>
    obtain ⟨hown, hnames, hsel⟩ := validationErrors_eq_nil.mp (validate_admits.mp hadm)
    -- nothing stored has the key or the identifier of the new object
    have hother : ∀ c ∈ s, c ∈ listOtherClusters s.objects (default cp) := by
      intro c hc
      refine mem_listOtherClusters.mpr ⟨hc, fun hu => ?_, fun hk => ?_⟩
      · rcases hrequest with h0 | h0
        · exact hu.1 (hu.2.trans h0)
        · exact hfresh c hc (hu.2.trans h0)
      · have hhas : s.has (planeKey cp) = true := Store.has_iff.mpr ⟨c, hc, hk.2⟩
        rw [hkey] at hhas
        cases hhas
    refine Or.inl ⟨withUid uid (default cp),
      ⟨huid, fun c hc _ => hfresh c hc, hschema, ?_, hown, ?_, ?_⟩, hcond, rfl⟩
    · exact congrArg (withUid uid) (default_default cp)
    · exact fun c hc _ => hnames c (hother c hc)
    · exact fun hoff c hc _ => hsel hoff c (hother c hc)
  | @update old new hold hkey huid hschema hadm hcond =>
    obtain ⟨-, herr⟩ := validateUpdate_admits.mp hadm
    obtain ⟨hown, hnames, hsel⟩ := validationErrors_eq_nil.mp herr
    have hother : ∀ c ∈ s, planeKey c ≠ planeKey (default new) →
        c ∈ listOtherClusters s.objects (default new) :=
      fun c hc hck => (mem_others hs hold hkey huid).mpr ⟨hc, hck⟩
    refine Or.inl ⟨default new, ⟨?_, fun c hc hck => ?_, hschema, default_default new, hown, ?_, ?_⟩,
      hcond, rfl⟩
    · rw [default_metadata, huid]
      exact hs.uid old hold
    · rw [default_metadata, huid]
      exact hs.uids c hc old hold fun hco => hck (hco.trans hkey.symm)
    · exact fun c hc hck => hnames c (hother c hc hck)
    · exact fun hoff c hc hck => hsel hoff c (hother c hc hck)
  | delete k => exact Or.inr ⟨k, rfl⟩

theorem sound_empty : Sound Store.empty := by
  refine ⟨?_, Store.Pairs.empty _, ?_, ?_, ?_, Store.Pairs.empty _⟩
  all_goals exact fun c hc => absurd hc (Store.not_mem_empty c)

theorem forall_apply {P : ControlPlane → Prop} {s : ControlPlanes} {cp : ControlPlane}
    (h : ∀ c ∈ s, P c) (hcp : P cp) : ∀ c ∈ s.apply cp, P c := by
  intro c hc
  rcases Store.mem_apply.mp hc with rfl | ⟨hc, -⟩
  · exact hcp
  · exact h c hc

theorem Sound.apply {s : ControlPlanes} {cp : ControlPlane} (hs : Sound s) (he : Entry s cp) :
    Sound (s.apply cp) where
  uid := forall_apply hs.uid he.uid
  uids := hs.uids.apply fun c hc hck => ⟨(he.uids c hc hck).symm, he.uids c hc hck⟩
  schema := forall_apply hs.schema he.schema
  defaulted := forall_apply hs.defaulted he.defaulted
  own := forall_apply hs.own he.own
  names := hs.names.apply fun c hc hck => ⟨(he.names c hc hck).symm, he.names c hc hck⟩

theorem Sound.delete {s : ControlPlanes} (hs : Sound s) (k : String × String) :
    Sound (s.delete k) where
  uid c hc := hs.uid c (Store.mem_delete.mp hc).1
  uids := hs.uids.delete k
  schema c hc := hs.schema c (Store.mem_delete.mp hc).1
  defaulted c hc := hs.defaulted c (Store.mem_delete.mp hc).1
  own c hc := hs.own c (Store.mem_delete.mp hc).1
  names := hs.names.delete k

theorem Sound.admitted {cond : ControlPlanes → ControlPlane → Prop} {s s' : ControlPlanes}
    (hs : Sound s) (h : Admitted cond s s') : Sound s' := by
  rcases admitted_entry hs h with ⟨cp, he, -, rfl⟩ | ⟨k, rfl⟩
  · exact hs.apply he
  · exact hs.delete k

/-- **Every reachable set is sound.** -/
theorem sound_run {cond : ControlPlanes → ControlPlane → Prop} {s : ControlPlanes}
    (h : ReflTransGen (Admitted cond) Store.empty s) : Sound s := by
  induction h with
  | refl => exact sound_empty
  | tail _ hstep ih => exact ih.admitted hstep

/-- A relation between all pairs that every admitted object has to those already there holds in
every reachable set. -/
theorem pairs_run {cond : ControlPlanes → ControlPlane → Prop}
    {R : ControlPlane → ControlPlane → Prop}
    (hR : ∀ s cp, Entry s cp → cond s cp → ∀ c ∈ s, planeKey c ≠ planeKey cp → R cp c ∧ R c cp)
    {s : ControlPlanes} (h : ReflTransGen (Admitted cond) Store.empty s) : s.Pairs R := by
  induction h with
  | refl => exact Store.Pairs.empty R
  | tail hrun hstep ih =>
    rcases admitted_entry (sound_run hrun) hstep with ⟨cp, he, hcond, rfl⟩ | ⟨k, rfl⟩
    · exact ih.apply (hR _ cp he hcond)
    · exact ih.delete k

/-! ### DHCP node exclusivity -/

/-- The control plane runs CoreDHCP on the nodes of its selector. -/
def selectsNodes (cp : ControlPlane) : Prop :=
  cp.spec.networkProbe.enabled = false ∧ cp.spec.services.coreDHCP.enabled = true

/-- The condition on a stored object: its selector has the keys of the selector of every other one
that selects nodes. -/
def SharesKeys (s : ControlPlanes) (cp : ControlPlane) : Prop :=
  selectsNodes cp → ∀ c ∈ s, planeKey c ≠ planeKey cp → selectsNodes c →
    ∀ k, (c.spec.services.coreDHCP.nodeSelector.get? k).isSome =
      (cp.spec.services.coreDHCP.nodeSelector.get? k).isSome

/-- **DHCP node exclusivity**, in every run in which those that select nodes select by the same keys:
no node satisfies the selectors of two control planes. Rule 7 makes the selectors different, and over
the same keys different selectors cannot be satisfied together. -/
theorem dhcp_exclusive {s : ControlPlanes}
    (h : ReflTransGen (Admitted SharesKeys) Store.empty s) :
    ∀ a ∈ s, ∀ b ∈ s, a ≠ b →
      a.spec.networkProbe.enabled = false → a.spec.services.coreDHCP.enabled = true →
      b.spec.networkProbe.enabled = false → b.spec.services.coreDHCP.enabled = true →
      ∀ labels : GoMap String, ¬ (labels.Satisfies a.spec.services.coreDHCP.nodeSelector ∧
        labels.Satisfies b.spec.services.coreDHCP.nodeSelector) := by
  have hpairs := pairs_run (R := fun a b => selectsNodes a → selectsNodes b →
    ¬ ∃ labels : GoMap String, labels.Satisfies a.spec.services.coreDHCP.nodeSelector ∧
      labels.Satisfies b.spec.services.coreDHCP.nodeSelector)
    (fun s cp he hcond c hc hck => ?_) h
  · intro a ha b hb hne hoff hdhcp hoff' hdhcp' labels hsat
    have hkey : planeKey a ≠ planeKey b := fun hk => hne (Store.eq_of_key_eq ha hb hk)
    exact hpairs a ha b hb hkey ⟨hoff, hdhcp⟩ ⟨hoff', hdhcp'⟩ ⟨labels, hsat⟩
  · have happart : selectsNodes cp → selectsNodes c →
        ¬ ∃ labels : GoMap String, labels.Satisfies c.spec.services.coreDHCP.nodeSelector ∧
          labels.Satisfies cp.spec.services.coreDHCP.nodeSelector := by
      intro hcp hsel hboth
      exact he.selectors hcp.1 c hc hck (GoMap.eq_of_agree (hcond hcp c hc hck hsel)
        ((GoMap.exists_satisfies_iff _ _).mp hboth))
    exact ⟨fun hcp hsel ⟨labels, hl⟩ => happart hcp hsel ⟨labels, hl.symm⟩,
      fun hsel hcp => happart hcp hsel⟩

/-- A control plane that runs CoreDHCP on the nodes with one label. -/
def labelled (name key value : String) : ControlPlane where
  metadata := { name := name, «namespace» := "default" }
  spec :=
    { clusterName := name
      domain := name ++ ".example.org"
      platform := { vault := { address := "https://vault.example.org:8200" } }
      services := { coreDHCP := { enabled := true, nodeSelector := GoMap.ofList [(key, value)] } } }

def alpha : ControlPlane :=
  withUid "uid-alpha" (default (labelled "alpha" "openchami.org/alpha" "true"))

def beta : ControlPlane :=
  withUid "uid-beta" (default (labelled "beta" "openchami.org/beta" "true"))

def bothStored : ControlPlanes := (Store.empty.apply alpha).apply beta

theorem validateCreate_alpha :
    (validateCreate (some (Store.empty : ControlPlanes).objects)
      (default (labelled "alpha" "openchami.org/alpha" "true"))).2 = none := by
  decide +kernel

theorem validateCreate_beta :
    (validateCreate (some (Store.empty.apply alpha : ControlPlanes).objects)
      (default (labelled "beta" "openchami.org/beta" "true"))).2 = none := by
  decide +kernel

theorem admitted_alpha {cond : ControlPlanes → ControlPlane → Prop} (h : cond Store.empty alpha) :
    Admitted cond Store.empty (Store.empty.apply alpha) :=
  @Admitted.create cond Store.empty (labelled "alpha" "openchami.org/alpha" "true") "uid-alpha"
    (by decide) (by decide) (by decide) (by decide) (Or.inl rfl) validateCreate_alpha h

theorem admitted_beta : Admitted (fun _ _ => True) (Store.empty.apply alpha) bothStored :=
  @Admitted.create _ _ (labelled "beta" "openchami.org/beta" "true") "uid-beta"
    (by decide) (by decide) (by decide) (by decide) (Or.inl rfl) validateCreate_beta trivial

theorem mem_bothStored : alpha ∈ bothStored ∧ beta ∈ bothStored :=
  ⟨Store.mem_apply.mpr (Or.inr ⟨Store.mem_apply.mpr (Or.inl rfl), by decide⟩),
    Store.mem_apply.mpr (Or.inl rfl)⟩

theorem agree_singleton {β : Type} {k k' : String} {v v' : β} (h : k ≠ k') :
    GoMap.Agree (GoMap.ofList [(k, v)]) (GoMap.ofList [(k', v')]) := by
  intro j x y hx hy
  rw [GoMap.get?_ofList] at hx hy
  unfold GoMap.find at hx hy
  split_ifs at hx hy with hj hj'
  · exact absurd (hj.trans hj'.symm) h
  · cases hy
  · cases hx
  · cases hx

/-- Two clusters, each with a label of its own: a node may carry both. -/
theorem dhcp_node_shared :
    ReflTransGen (Admitted fun _ _ => True) Store.empty bothStored ∧
      ∃ a ∈ bothStored, ∃ b ∈ bothStored, a ≠ b ∧ selectsNodes a ∧ selectsNodes b ∧
        ∃ labels : GoMap String, labels.Satisfies a.spec.services.coreDHCP.nodeSelector ∧
          labels.Satisfies b.spec.services.coreDHCP.nodeSelector := by
  refine ⟨(ReflTransGen.single (admitted_alpha trivial)).tail admitted_beta, alpha, mem_bothStored.1,
    beta, mem_bothStored.2, by decide, ⟨rfl, rfl⟩, ⟨rfl, rfl⟩, ?_⟩
  exact (GoMap.exists_satisfies_iff _ _).mpr (agree_singleton (by decide))

/-- Two clusters told apart by the value of one label. -/
def gamma : ControlPlane :=
  withUid "uid-gamma" (default (labelled "gamma" "openchami.org/alpha" "gamma"))

def toldApart : ControlPlanes := (Store.empty.apply alpha).apply gamma

theorem dhcp_exclusive_gamma : alpha ∈ toldApart ∧ gamma ∈ toldApart ∧
    ∀ labels : GoMap String, ¬ (labels.Satisfies alpha.spec.services.coreDHCP.nodeSelector ∧
      labels.Satisfies gamma.spec.services.coreDHCP.nodeSelector) := by
  have hgamma : Admitted SharesKeys (Store.empty.apply alpha) toldApart :=
    @Admitted.create _ _ (labelled "gamma" "openchami.org/alpha" "gamma") "uid-gamma"
      (by decide) (by decide) (by decide) (by decide) (Or.inl rfl) (by decide +kernel) (by
        intro _ c hc _ _
        rcases Store.mem_apply.mp hc with rfl | ⟨hc, -⟩
        · intro k
          show ((GoMap.ofList [("openchami.org/alpha", "true")]).get? k).isSome =
            ((GoMap.ofList [("openchami.org/alpha", "gamma")]).get? k).isSome
          simp only [GoMap.get?_ofList, GoMap.find]
          split_ifs <;> rfl
        · exact absurd hc (Store.not_mem_empty c))
  have halpha : alpha ∈ toldApart :=
    Store.mem_apply.mpr (Or.inr ⟨Store.mem_apply.mpr (Or.inl rfl), by decide⟩)
  have hg : gamma ∈ toldApart := Store.mem_apply.mpr (Or.inl rfl)
  refine ⟨halpha, hg, dhcp_exclusive ((ReflTransGen.single (admitted_alpha ?_)).tail hgamma)
    alpha halpha gamma hg (by decide) rfl rfl rfl rfl⟩
  exact fun _ c hc => absurd hc (Store.not_mem_empty c)

/-! ### Updates without a change -/

/-- The condition on a stored object: if it probes, its selector is not one that a control plane
without probing uses. -/
def LeavesSelectors (s : ControlPlanes) (cp : ControlPlane) : Prop :=
  cp.spec.networkProbe.enabled = true → ∀ c ∈ s, planeKey c ≠ planeKey cp →
    c.spec.networkProbe.enabled = false →
      c.spec.services.coreDHCP.nodeSelector ≠ cp.spec.services.coreDHCP.nodeSelector

/-- **Admitted objects stay updatable**, in every run whose stored objects leave the selectors of
others alone: the update that changes nothing is admitted. -/
theorem noop_update_admitted {s : ControlPlanes}
    (h : ReflTransGen (Admitted LeavesSelectors) Store.empty s) :
    ∀ cp ∈ s, (validateUpdate (some s.objects) cp (default cp)).2 = none := by
  have hs := sound_run h
  have hpairs := pairs_run (R := fun a b => a.spec.networkProbe.enabled = false →
    b.spec.services.coreDHCP.nodeSelector ≠ a.spec.services.coreDHCP.nodeSelector)
    (fun s cp he hcond c hc hck => ?_) h
  · intro cp hcp
    rw [hs.defaulted cp hcp]
    refine validateUpdate_admits.mpr ⟨rfl, validationErrors_eq_nil.mpr ⟨hs.own cp hcp, ?_, ?_⟩⟩
    · intro c hc
      obtain ⟨hc, hck⟩ := (mem_others hs hcp rfl rfl).mp hc
      exact hs.names c hc cp hcp hck
    · intro hoff c hc
      obtain ⟨hc, hck⟩ := (mem_others hs hcp rfl rfl).mp hc
      exact hpairs cp hcp c hc hck.symm hoff
  · refine ⟨fun hoff => he.selectors hoff c hc hck, fun hoff heq => ?_⟩
    by_cases hprobe : cp.spec.networkProbe.enabled = true
    · exact hcond hprobe c hc hck hoff heq.symm
    · exact he.selectors (by simpa using hprobe) c hc hck heq.symm

/-- A cluster that probes, with a selector, which it does not use. -/
def probing (key : String) : ControlPlane where
  metadata := { name := "beta", «namespace» := "default" }
  spec :=
    { clusterName := "beta"
      domain := "beta.example.org"
      platform := { vault := { address := "https://vault.example.org:8200" } }
      networkProbe := { enabled := true, provisionNetwork := some { subnet := "10.1.0.0/16" } }
      services := { coreDHCP := { enabled := true, nodeSelector := GoMap.ofList [(key, "true")] } } }

def probingStored (key : String) : ControlPlanes :=
  (Store.empty.apply alpha).apply (withUid "uid-beta" (default (probing key)))

theorem alpha_mem_probingStored (key : String) : alpha ∈ probingStored key :=
  Store.mem_apply.mpr (Or.inr ⟨Store.mem_apply.mpr (Or.inl rfl),
    show ("default", "alpha") ≠ ("default", "beta") by decide⟩)

theorem admitted_probing {cond : ControlPlanes → ControlPlane → Prop} {key : String}
    (hadm : (validateCreate (some (Store.empty.apply alpha : ControlPlanes).objects)
      (default (probing key))).2 = none)
    (h : cond (Store.empty.apply alpha) (withUid "uid-beta" (default (probing key)))) :
    Admitted cond (Store.empty.apply alpha) (probingStored key) :=
  @Admitted.create _ _ (probing key) "uid-beta" (show schemaValid beta = true by decide) rfl
    (by decide) (by decide) (Or.inl rfl) hadm h

/-- Beside a probing cluster with a selector of its own, `alpha` stays updatable. -/
theorem noop_update_admitted_alpha :
    alpha ∈ probingStored "openchami.org/beta" ∧
      (listOtherClusters (probingStored "openchami.org/beta").objects alpha).length = 1 ∧
      (validateUpdate (some (probingStored "openchami.org/beta").objects) alpha
        (default alpha)).2 = none := by
  have hprobing : LeavesSelectors (Store.empty.apply alpha)
      (withUid "uid-beta" (default (probing "openchami.org/beta"))) := by
    intro _ c hc _ _
    rcases Store.mem_apply.mp hc with rfl | ⟨hc, -⟩
    · decide
    · exact absurd hc (Store.not_mem_empty c)
  refine ⟨alpha_mem_probingStored _, by decide, noop_update_admitted ((ReflTransGen.single
    (admitted_alpha ?_)).tail (admitted_probing (by decide +kernel) hprobing)) alpha
    (alpha_mem_probingStored _)⟩
  exact fun _ c hc => absurd hc (Store.not_mem_empty c)

/-- Once a probing cluster with the selector of `alpha` is stored, `alpha` cannot be updated any
more. -/
theorem noop_update_refused :
    ReflTransGen (Admitted fun _ _ => True) Store.empty (probingStored "openchami.org/alpha") ∧
      alpha ∈ probingStored "openchami.org/alpha" ∧
      (validateUpdate (some (probingStored "openchami.org/alpha").objects) alpha
        (default alpha)).2 = some (.invalid
          [⟨.duplicate, "spec.services.coreDHCP.nodeSelector", "Duplicate value"⟩]) :=
  ⟨(ReflTransGen.single (admitted_alpha trivial)).tail
    (admitted_probing (by decide +kernel) trivial), alpha_mem_probingStored _, by decide +kernel⟩

/-! ### Histories of one object -/

/-- An update request: the stored control planes as the webhook lists them, if the list succeeds,
and the object that is sent. -/
structure UpdateRequest where
  listing : Option (List ControlPlane)
  object : ControlPlane

/-- What is stored when the request is admitted. -/
def UpdateRequest.stored (r : UpdateRequest) : ControlPlane := default r.object

/-- `ValidateUpdate` admits every request of the history, each against the object stored before. -/
def AdmittedUpdates : ControlPlane → List UpdateRequest → Prop
  | _, [] => True
  | old, r :: rs => (validateUpdate r.listing old r.stored).2 = none ∧ AdmittedUpdates r.stored rs

/-- The fields that are documented as immutable. -/
structure SameImmutables (cp cp' : ControlPlane) : Prop where
  clusterName : cp'.spec.clusterName = cp.spec.clusterName
  vaultAddress : cp'.spec.platform.vault.address = cp.spec.platform.vault.address
  objectStorageEndpoint :
    cp'.spec.platform.objectStorage.endpoint = cp.spec.platform.objectStorage.endpoint

/-- `ValidateUpdate` compares the names, whether or not it can list the others. -/
theorem clusterName_of_admits {listing : Option (List ControlPlane)} {old new : ControlPlane}
    (h : (validateUpdate listing old new).2 = none) :
    new.spec.clusterName = old.spec.clusterName := by
  cases listing with
  | none =>
    unfold validateUpdate validate at h
    cases h
  | some stored => exact (validateUpdate_admits.mp h).1.symm

theorem clusterName_updates {cp : ControlPlane} {rs : List UpdateRequest}
    (h : AdmittedUpdates cp rs) : ∀ r ∈ rs, r.stored.spec.clusterName = cp.spec.clusterName := by
  induction rs generalizing cp with
  | nil => exact fun r hr => absurd hr List.not_mem_nil
  | cons r rs ih =>
    obtain ⟨hadm, hrest⟩ := h
    have hname := clusterName_of_admits hadm
    intro q hq
    rcases List.mem_cons.mp hq with rfl | hq
    · exact hname
    · exact (ih hrest q hq).trans hname

/-- **What stays over a history of updates**: the name always, and with it the address and the
endpoint exactly when no request carries another one. -/
theorem immutable_iff {cp : ControlPlane} {rs : List UpdateRequest} (h : AdmittedUpdates cp rs) :
    (∀ r ∈ rs, SameImmutables cp r.stored) ↔
      ∀ r ∈ rs,
        r.object.spec.platform.vault.address = cp.spec.platform.vault.address ∧
        r.object.spec.platform.objectStorage.endpoint =
          cp.spec.platform.objectStorage.endpoint := by
  constructor
  · intro hsame r hr
    exact ⟨(hsame r hr).vaultAddress, (hsame r hr).objectStorageEndpoint⟩
  · intro hsent r hr
    obtain ⟨haddress, hendpoint⟩ := hsent r hr
    exact ⟨clusterName_updates h r hr, haddress, hendpoint⟩

/-- `alpha` with another Vault. -/
def moved : ControlPlane :=
  { alpha with spec := { alpha.spec with platform :=
      { alpha.spec.platform with vault :=
          { alpha.spec.platform.vault with address := "https://vault2.example.org:8200" } } } }

/-- `alpha` under another domain. -/
def renamed : ControlPlane := { alpha with spec := { alpha.spec with domain := "hpc.example.org" } }

theorem immutable_alpha :
    AdmittedUpdates alpha [⟨some [alpha], renamed⟩] ∧ renamed.spec ≠ alpha.spec ∧
      ∀ r ∈ [(⟨some [alpha], renamed⟩ : UpdateRequest)], SameImmutables alpha r.stored := by
  have hadm : AdmittedUpdates alpha [⟨some [alpha], renamed⟩] := ⟨by decide +kernel, trivial⟩
  have hdomain : renamed.spec ≠ alpha.spec := fun h =>
    absurd (congrArg ControlPlaneSpec.domain h) (by decide)
  refine ⟨hadm, hdomain, (immutable_iff hadm).mpr ?_⟩
  rintro r hr
  obtain rfl := List.mem_singleton.mp hr
  exact ⟨rfl, rfl⟩

/-- The update that moves `alpha` to another Vault is admitted. -/
theorem vault_address_moves :
    AdmittedUpdates alpha [⟨some [alpha], moved⟩] ∧
      (default moved).spec.platform.vault.address ≠ alpha.spec.platform.vault.address := by
  have hadm : (validateUpdate (some [alpha]) alpha (default moved)).2 = none := by
    decide +kernel
  exact ⟨⟨hadm, trivial⟩, by decide⟩

/-! ### The source of the DHCP configuration -/

/-- The update that hands the DHCP configuration over to the user and leaves the rest as stored. -/
def useConfigMap (ref : CoreDHCPConfigMapRef) (cp : ControlPlane) : ControlPlane :=
  { cp with spec := { cp.spec with services := { cp.spec.services with coreDHCP :=
      { cp.spec.services.coreDHCP with leaseRanges := [], configMapRef := some ref } } } }

def leaseDurationFields : List String :=
  ["spec.services.coreDHCP.unknownLeaseDuration", "spec.services.coreDHCP.knownLeaseDuration"]

/-- The answer names one of the fields in an error. -/
def RefusedFor (fields : List String) (answer : List String × Option Refusal) : Prop :=
  ∃ errors, answer.2 = some (.invalid errors) ∧ ∃ e ∈ errors, e.field ∈ fields

theorem mem_errIf {cond : Bool} {e e' : FieldError} :
    e ∈ errIf cond e' ↔ cond = true ∧ e = e' := by
  cases cond with
  | true => simp [errIf]
  | false => simp [errIf]

/-- An error about an element of a list names its index. -/
theorem field_indexedErrors {l : List String} {ok : String → Bool} {field detail : String}
    {e : FieldError} (h : e ∈ indexedErrors l ok field detail) : e.field ∉ leaseDurationFields := by
  obtain ⟨⟨x, i⟩, -, he⟩ := List.mem_flatMap.mp h
  obtain ⟨-, rfl⟩ := mem_errIf.mp he
  intro hfield
  have hlast : (field ++ "[" ++ toString i ++ "]").toList.getLast? = some ']' := by
    rw [String.toList_append]
    exact List.getLast?_concat
  have hends : ∀ f ∈ leaseDurationFields, f.toList.getLast? ≠ some ']' := by decide
  exact hends _ hfield hlast

/-- Only the rule about the source of the configuration names the lease durations. -/
theorem mem_configSource_of_field {others : List ControlPlane} {cp : ControlPlane} {e : FieldError}
    (h : e ∈ validationErrors others cp) (hfield : e.field ∈ leaseDurationFields) :
    e ∈ validateCoreDHCPConfigSource cp.spec.services.coreDHCP := by
  have hother : ∀ {cond : Bool} {e' : FieldError}, e'.field ∉ leaseDurationFields →
      e ∉ errIf cond e' := by
    intro cond e' hne hmem
    rw [(mem_errIf.mp hmem).2] at hfield
    exact hne hfield
  have htarget : ∀ {name : String} {target : Option NetworkProbeTarget},
      "spec.networkProbe." ++ name ∉ leaseDurationFields → e ∉ validateTarget name target := by
    intro name target hne hmem
    unfold validateTarget at hmem
    split at hmem
    · cases hmem
    · split at hmem
      · cases hmem
      · rw [List.mem_singleton.mp hmem] at hfield
        exact hne hfield
  unfold validationErrors at h
  simp only [List.mem_append] at h
  rcases h with (((((hvault | hcli) | hendpoint) | hname) | hsource) | hselector) | himages
  · unfold validateVault at hvault
    simp only [List.mem_append] at hvault
    rcases hvault with ((h | h) | h) | h
    · exact absurd h (hother (by decide))
    · exact absurd h (hother (by decide))
    · exact absurd h (hother (by decide))
    · exact absurd h (hother (by decide))
  · rcases List.mem_append.mp hcli with h | h
    · exact absurd hfield (field_indexedErrors h)
    · exact absurd hfield (field_indexedErrors h)
  · obtain ⟨⟨name, d⟩, hservice, hmem⟩ := List.mem_flatMap.mp hendpoint
    have hfields : "spec.services." ++ name ++ ".externalEndpoint" ∉ leaseDurationFields := by
      simp only [externallyOverridableServices, List.mem_cons, Prod.mk.injEq, List.not_mem_nil,
        or_false] at hservice
      rcases hservice with ⟨rfl, -⟩ | ⟨rfl, -⟩ | ⟨rfl, -⟩ | ⟨rfl, -⟩
      · decide
      · decide
      · decide
      · decide
    unfold validateExternalEndpoint at hmem
    split at hmem
    · cases hmem
    · rcases List.mem_append.mp hmem with h | h
      · exact absurd h (hother hfields)
      · exact absurd h (hother hfields)
  · exact absurd hname (hother (by decide))
  · exact hsource
  · split at hselector
    · unfold validateSelector at hselector
      rcases List.mem_append.mp hselector with h | h
      · split at h
        · rw [List.mem_singleton.mp h] at hfield
          exact absurd hfield (by simp [leaseDurationFields])
        · exact absurd h (hother (by simp [leaseDurationFields]))
      · exact absurd h (hother (by decide))
    · unfold validateProbe validateNetworkProbeTargets at hselector
      simp only [List.mem_append] at hselector
      rcases hselector with (((h | h) | h) | h) | h
      · exact absurd h (hother (by decide))
      · exact absurd h (htarget (by decide))
      · exact absurd h (htarget (by decide))
      · exact absurd h (hother (by decide))
      · exact absurd h (hother (by decide))
  · unfold validateImages at himages
    exact absurd himages (hother (by simp [leaseDurationFields]))

/-- An update under the same name is refused for the errors of the new object. -/
theorem refusedFor_validateUpdate_iff {stored : List ControlPlane} {old new : ControlPlane}
    {fields : List String} (hname : old.spec.clusterName = new.spec.clusterName) :
    RefusedFor fields (validateUpdate (some stored) old new) ↔
      ∃ e ∈ validationErrors (listOtherClusters stored new) new, e.field ∈ fields := by
  have himmutable : ∀ e, errIf (old.spec.clusterName ≠ new.spec.clusterName) e = [] := by
    intro e
    simp [errIf, hname]
  unfold RefusedFor validateUpdate validate
  simp only [himmutable]
  by_cases hnil : validationErrors (listOtherClusters stored new) new = []
  · simp [hnil]
  · simp [hnil]

/-- Beside a ConfigMap of the user, lease durations are errors. -/
theorem exists_leaseError_iff {d : CoreDHCPSpec} {ref : CoreDHCPConfigMapRef}
    (href : d.configMapRef = some ref) :
    (∃ e ∈ validateCoreDHCPConfigSource d, e.field ∈ leaseDurationFields) ↔
      d.unknownLeaseDuration ≠ "" ∨ d.knownLeaseDuration ≠ "" := by
  unfold validateCoreDHCPConfigSource
  simp only [href, List.mem_append, mem_errIf, decide_eq_true_eq]
  constructor
  · rintro ⟨e, ((⟨-, rfl⟩ | ⟨-, rfl⟩) | ⟨hunknown, -⟩) | ⟨hknown, -⟩, hfield⟩
    · exact absurd hfield (by decide)
    · exact absurd hfield (by decide)
    · exact Or.inl hunknown
    · exact Or.inr hknown
  · rintro (hunknown | hknown)
    · exact ⟨_, Or.inl (Or.inr ⟨hunknown, rfl⟩), by decide⟩
    · exact ⟨_, Or.inr ⟨hknown, rfl⟩, by decide⟩

/-- The lease durations that are stored are refused beside a ConfigMap of the user. -/
theorem refusedFor_useConfigMap_iff {stored : List ControlPlane} {cp : ControlPlane}
    {ref : CoreDHCPConfigMapRef} :
    RefusedFor leaseDurationFields
        (validateUpdate (some stored) cp (default (useConfigMap ref cp))) ↔
      cp.spec.services.coreDHCP.unknownLeaseDuration ≠ "" ∨
        cp.spec.services.coreDHCP.knownLeaseDuration ≠ "" := by
  -- the defaults leave the durations alone once there is a ConfigMap
  have hsource := @exists_leaseError_iff (default (useConfigMap ref cp)).spec.services.coreDHCP _ rfl
  have hname : cp.spec.clusterName = (default (useConfigMap ref cp)).spec.clusterName := rfl
  rw [refusedFor_validateUpdate_iff hname]
  refine Iff.trans ⟨?_, ?_⟩ hsource
  · rintro ⟨e, he, hfield⟩
    exact ⟨e, mem_configSource_of_field he hfield, hfield⟩
  · rintro ⟨e, he, hfield⟩
    refine ⟨e, ?_, hfield⟩
    unfold validationErrors
    simp only [List.mem_append]
    exact Or.inl (Or.inl (Or.inr he))

/-- What is stored has lease durations exactly when its configuration is generated: the defaults
write them then, and the rules refuse them otherwise. -/
theorem Sound.leaseDurations_iff {s : ControlPlanes} (hs : Sound s) {cp : ControlPlane}
    (hcp : cp ∈ s) :
    (cp.spec.services.coreDHCP.unknownLeaseDuration ≠ "" ∨
      cp.spec.services.coreDHCP.knownLeaseDuration ≠ "") ↔
      cp.spec.services.coreDHCP.configMapRef = none := by
  cases href : cp.spec.services.coreDHCP.configMapRef with
  | none =>
    refine iff_of_true (Or.inl ?_) rfl
    have hstored : (defaultCoreDHCP cp.spec.services.coreDHCP) = cp.spec.services.coreDHCP :=
      congrArg (fun c : ControlPlane => c.spec.services.coreDHCP) (hs.defaulted cp hcp)
    rw [← hstored]
    unfold defaultCoreDHCP orElse
    simp only [href]
    split_ifs with hempty
    · decide
    · exact hempty
  | some ref =>
    refine iff_of_false ?_ (by simp)
    rw [← exists_leaseError_iff href]
    rintro ⟨e, he, -⟩
    have hown := hs.own cp hcp
    unfold ownErrors at hown
    simp only [List.append_eq_nil_iff] at hown
    rw [hown.1.1.2] at he
    cases he

/-- **Changing over to a configuration of the user.** In every reachable set, the update of a stored
object is not refused for its lease durations exactly when the object already has a ConfigMap of the
user: what the defaults have written is taken for what the user has set. -/
theorem useConfigMap_iff {cond : ControlPlanes → ControlPlane → Prop} {s : ControlPlanes}
    (h : ReflTransGen (Admitted cond) Store.empty s) {cp : ControlPlane} (hcp : cp ∈ s)
    (stored : List ControlPlane) (ref : CoreDHCPConfigMapRef) :
    ¬ RefusedFor leaseDurationFields
        (validateUpdate (some stored) cp (default (useConfigMap ref cp))) ↔
      cp.spec.services.coreDHCP.configMapRef ≠ none := by
  rw [refusedFor_useConfigMap_iff, (sound_run h).leaseDurations_iff hcp]

/-- A control plane whose configuration is the user's from the start. -/
def configured : ControlPlane := useConfigMap ⟨"site-coredhcp-config", ""⟩
  (labelled "delta" "openchami.org/delta" "true")

def delta : ControlPlane := withUid "uid-delta" (default configured)

theorem useConfigMap_delta :
    ¬ RefusedFor leaseDurationFields (validateUpdate (some [delta]) delta
      (default (useConfigMap ⟨"other-config", "config.yml"⟩ delta))) := by
  have hdelta : Admitted (fun _ _ => True) Store.empty (Store.empty.apply delta) :=
    @Admitted.create _ Store.empty configured "uid-delta"
      (by decide) (by decide) (by decide) (by decide) (Or.inl rfl) (by decide +kernel) trivial
  exact (useConfigMap_iff (ReflTransGen.single hdelta) (Store.mem_apply.mpr (Or.inl rfl)) _ _).mpr
    (by decide)

/-- A control plane that leaves its lease durations to the defaults. -/
def leasing : ControlPlane where
  metadata := { name := "alpha", «namespace» := "default" }
  spec :=
    { clusterName := "alpha"
      domain := "alpha.example.org"
      platform := { vault := { address := "https://vault.example.org:8200" } }
      services := { coreDHCP :=
        { enabled := true
          nodeSelector := GoMap.ofList [("openchami.org/alpha", "true")]
          leaseRanges := [⟨"10.0.0.0/24", "10.0.0.100", "10.0.0.200"⟩] } } }

/-- Once it is stored, it cannot change over. -/
theorem useConfigMap_refused :
    leasing.spec.services.coreDHCP.unknownLeaseDuration = "" ∧
    leasing.spec.services.coreDHCP.knownLeaseDuration = "" ∧
    Admitted (fun _ _ => True) Store.empty
      (Store.empty.apply (withUid "uid-alpha" (default leasing))) ∧
    ((validateUpdate (some [withUid "uid-alpha" (default leasing)])
      (withUid "uid-alpha" (default leasing))
      (default (useConfigMap ⟨"site-coredhcp-config", "config.yml"⟩
        (withUid "uid-alpha" (default leasing))))).2.map fun refusal =>
          match refusal with
          | .listFailed => []
          | .invalid errors => errors.map FieldError.field) = some leaseDurationFields := by
  refine ⟨rfl, rfl, ?_, by decide +kernel⟩
  exact @Admitted.create _ Store.empty leasing "uid-alpha"
    (by decide) (by decide) (by decide) (by decide) (Or.inl rfl) (by decide +kernel) trivial

end OpenchamiOperator.Api.Admission
