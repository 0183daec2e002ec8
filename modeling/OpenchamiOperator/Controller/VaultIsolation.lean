import OpenchamiOperator.Controller.DeleteIsolation
import OpenchamiOperator.Reconcilers.Platform

/-! # Vault paths under concurrent admission

Create requests and calls of `VaultReconciler.Reconcile`, interleaved. The webhook lists the stored
control planes and the server stores the request later, so what was listed may be out of date by
then; the reconciler takes the name of its control plane as it is.

* `secret_under`: a call writes below the prefix of its control plane only.
* `vault_paths_isolated`: when nothing of the same name is stored between listing and storing, no two
  control planes write below one prefix. -/

namespace OpenchamiOperator.Controller

open Lib Strings Api Reconcilers Admission Relation

/-! ### Steps -/

/-- A create request that the webhook has admitted and the server has not stored: the defaulted
object, and what the webhook listed. -/
structure PendingCreate where
  request : ControlPlane
  listed : List ControlPlane
deriving DecidableEq

/-- A call of `VaultReconciler.Reconcile` that is under way: its control plane, and the actions that
are left. -/
structure VaultCall where
  cp : ControlPlane
  acts : List Act
deriving DecidableEq

structure Concurrent where
  world : World := {}
  pending : List PendingCreate := []
  calls : List VaultCall := []

/-- One step of the server, the webhook or a call. `cond` is a condition on a request when it is
stored. A call takes one action at a time, and may end after any of them. -/
inductive ConcurrentStep (cond : PendingCreate → ControlPlanes → Prop) :
    Concurrent → Concurrent → Prop
  | list {s : Concurrent} (cp : ControlPlane) (hschema : schemaValid cp = true)
      (hadm : (Webhook.validateCreate (some s.world.controlPlanes.objects)
        (Webhook.default cp)).2 = none) :
      ConcurrentStep cond s { s with
        pending := ⟨Webhook.default cp, s.world.controlPlanes.objects⟩ :: s.pending }
  | store {s : Concurrent} {p : PendingCreate} {uid : String} (hp : p ∈ s.pending)
      (hkey : s.world.controlPlanes.has (planeKey p.request) = false) (huid : uid ≠ "")
      (hfresh : ∀ c ∈ s.world.controlPlanes, c.metadata.uid ≠ uid)
      (hrequest : p.request.metadata.uid = "" ∨ p.request.metadata.uid = uid)
      (hcond : cond p s.world.controlPlanes) :
      ConcurrentStep cond s { s with
        world := { s.world with
          controlPlanes := s.world.controlPlanes.apply (withUid uid p.request) }
        pending := s.pending.erase p }
  | call {s : Concurrent} {cp : ControlPlane} (op : Operator) (obs : Observed)
      (hcp : cp ∈ s.world.controlPlanes) :
      ConcurrentStep cond s { s with calls := ⟨cp, (reconcileVault op obs cp).acts⟩ :: s.calls }
  | act {s : Concurrent} {cp : ControlPlane} {a : Act} {acts : List Act}
      (hcall : ⟨cp, a :: acts⟩ ∈ s.calls) (hgoes : a.isStop = false) :
      ConcurrentStep cond s { s with
        world := a.run cp s.world
        calls := ⟨cp, acts⟩ :: s.calls.erase ⟨cp, a :: acts⟩ }
  | finish {s : Concurrent} (call : VaultCall) :
      ConcurrentStep cond s { s with calls := s.calls.erase call }

/-! ### What a call writes -/

/-- The directory of a cluster in the KV engine. -/
def secretDirectory (clusterName : String) : String := "openchami/" ++ clusterName ++ "/"

/-- The path an action may write a secret to. -/
def Act.secret? : Act → Option String
  | .request (.ensureSecret path _) _ _ _ => some path
  | _ => none

/-- The action writes a secret below the directory only. -/
def Act.Under (directory : String) (a : Act) : Prop :=
  ∀ path ∈ a.secret?, hasPrefix path directory = true

theorem Act.under_of_none {directory : String} {a : Act} (h : a.secret? = none) :
    a.Under directory := fun path hpath => by
  rw [h] at hpath
  cases hpath

theorem under_vaultRequest {clusterName path context : String} {overwrite : Bool}
    (h : ∃ sub, path = "openchami/" ++ clusterName ++ sub ∧ hasPrefix sub "/" = true) :
    (vaultRequest (.ensureSecret path overwrite) context).Under (secretDirectory clusterName) := by
  obtain ⟨sub, rfl, hsub⟩ := h
  obtain ⟨t, rfl⟩ := hasPrefix_iff.mp hsub
  intro path hpath
  obtain rfl := Option.some.inj hpath
  exact hasPrefix_iff.mpr ⟨t, String.append_assoc.symm⟩

theorem under_ensureClusterSecrets (clusterName : String) :
    ∀ a ∈ ensureClusterSecrets (Vault.paths clusterName), a.Under (secretDirectory clusterName) := by
  intro a ha
  unfold ensureClusterSecrets at ha
  simp only [List.map_cons, List.map_nil, List.mem_cons, List.not_mem_nil, or_false] at ha
  rcases ha with rfl | rfl | rfl | rfl | rfl <;> exact under_vaultRequest ⟨_, rfl, by decide⟩

theorem under_ensureServiceRole (obs : Observed) (cp : ControlPlane) (directory : String) :
    ∀ a ∈ ensureServiceRole obs cp, a.Under directory := by
  have hnone : ∀ a ∈ ensureServiceRole obs cp, a.secret? = none := by
    unfold ensureServiceRole ensureAppRoleSecretID
    intro a ha
    split at ha
    · simp only at ha
      rcases List.mem_cons.mp ha with rfl | ha
      · rfl
      split_ifs at ha
      all_goals
        simp only [List.mem_cons, List.not_mem_nil, or_false] at ha
        rcases ha with rfl | rfl | rfl | rfl <;> rfl
    · rw [List.mem_singleton.mp ha]
      rfl
  exact fun a ha => Act.under_of_none (hnone a ha)

theorem under_ensureOIDC (obs : Observed) (cp : ControlPlane) :
    ∀ a ∈ ensureOIDC obs cp, a.Under (secretDirectory cp.spec.clusterName) := by
  intro a ha
  unfold ensureOIDC at ha
  simp only at ha
  split_ifs at ha
  · cases ha
  · rw [List.mem_singleton.mp ha]
    exact Act.under_of_none rfl
  · simp only [List.mem_append, List.mem_cons, List.not_mem_nil, or_false] at ha
    rcases ha with (rfl | rfl) | rfl
    · exact Act.under_of_none rfl
    · exact under_vaultRequest ⟨_, rfl, by decide⟩
    · exact under_vaultRequest ⟨_, rfl, by decide⟩
  · simp only [List.mem_append, List.mem_cons, List.not_mem_nil, or_false] at ha
    rcases ha with rfl | rfl
    · exact Act.under_of_none rfl
    · exact under_vaultRequest ⟨_, rfl, by decide⟩

theorem under_applyVSOResources (cp : ControlPlane) (directory : String) :
    ∀ a ∈ applyVSOResources cp, a.Under directory := by
  intro a ha
  obtain ⟨o, -, rfl⟩ := List.mem_map.mp ha
  exact Act.under_of_none rfl

/-- **A call writes below the prefix of its control plane only.** -/
theorem secret_under (op : Operator) (obs : Observed) (cp : ControlPlane) :
    ∀ a ∈ (reconcileVault op obs cp).acts, a.Under (secretDirectory cp.spec.clusterName) := by
  intro a ha
  unfold reconcileVault at ha
  split_ifs at ha
  · rw [List.mem_singleton.mp ha]
    exact Act.under_of_none rfl
  · simp only [List.mem_cons, List.not_mem_nil, or_false] at ha
    rcases ha with rfl | rfl <;> exact Act.under_of_none rfl
  · unfold configureVault at ha
    simp only [List.mem_append] at ha
    rcases ha with (((((ha | ha) | ha) | ha) | ha) | ha) | ha
    · rw [List.mem_singleton.mp ha]
      exact Act.under_of_none rfl
    · exact under_ensureClusterSecrets cp.spec.clusterName a ha
    · rw [List.mem_singleton.mp ha]
      exact Act.under_of_none rfl
    · exact under_ensureServiceRole obs cp _ a ha
    · exact under_ensureOIDC obs cp a ha
    · exact under_applyVSOResources cp _ a ha
    · simp only [List.mem_cons, List.not_mem_nil, or_false] at ha
      rcases ha with rfl | rfl <;> exact Act.under_of_none rfl

theorem kvWrites_run {cp : ControlPlane} {a : Act} {w : World} {entry : String × String}
    (h : entry ∈ (a.run cp w).kvWrites) :
    entry ∈ w.kvWrites ∨ entry.1 = cp.metadata.uid ∧ entry.2 ∈ a.secret? := by
  cases a with
  | request eff context writes events =>
    cases eff with
    | ensureSecret path overwrite =>
      by_cases hens : w.vault.ensures path overwrite = true
      · simp only [Act.run, Effect.run, if_pos hens, List.mem_append, List.mem_singleton] at h
        rcases h with h | rfl
        · exact Or.inl h
        · exact Or.inr ⟨rfl, rfl⟩
      · simp only [Act.run, Effect.run, if_neg hens] at h
        exact Or.inl h
    | _ => exact Or.inl h
  | _ => exact Or.inl h

/-- Two directories below which one path can lie belong to one cluster, whichever directory above
both is taken. -/
theorem eq_of_common_directory {a b n p q : String} (ha : '/' ∉ a.toList) (hb : '/' ∉ b.toList)
    (hpa : hasPrefix p (secretDirectory a) = true) (hqb : hasPrefix q (secretDirectory b) = true)
    (hp : hasPrefix p (secretDirectory n) = true) (hq : hasPrefix q (secretDirectory n) = true) :
    a = b := by
  -- the part of `n` before its first slash is the name of either cluster
  have hfirst : ∀ {c r : String}, '/' ∉ c.toList → hasPrefix r (secretDirectory c) = true →
      hasPrefix r (secretDirectory n) = true → (cut '/' (n ++ "/")).1 = c := by
    intro c r hc hrc hrn
    obtain ⟨t, rfl⟩ := hasPrefix_iff.mp hrc
    obtain ⟨t', ht'⟩ := hasPrefix_iff.mp hrn
    unfold secretDirectory at ht'
    rw [String.append_assoc, String.append_assoc, String.append_assoc, String.append_assoc,
      String.append_right_inj] at ht'
    have hcut : cut '/' (c ++ (String.singleton '/' ++ t)) = (c, some t) := cut_append hc t
    rcases cut_cases '/' (n ++ "/") with hno | ⟨x, y, hxy, hx⟩
    · exact absurd (by rw [String.toList_append]; simp) hno
    · have hcutn : cut '/' (n ++ "/") = (x, some y) := by
        rw [hxy]
        exact cut_append hx y
      have hlong : cut '/' (x ++ (String.singleton '/' ++ (y ++ t'))) = (x, some (y ++ t')) :=
        cut_append hx (y ++ t')
      have hsame : c ++ (String.singleton '/' ++ t) = x ++ (String.singleton '/' ++ (y ++ t')) := by
        refine ht'.trans ?_
        rw [← String.append_assoc, hxy, String.append_assoc, String.append_assoc]
      rw [hsame, hlong] at hcut
      rw [hcutn]
      exact (Prod.mk.inj hcut).1
  exact (hfirst ha hpa hp).symm.trans (hfirst hb hqb hq)

/-! ### Runs -/

/-- The condition on a request when it is stored: whatever has its name by then, the webhook saw. -/
def ListedByName (p : PendingCreate) (stored : ControlPlanes) : Prop :=
  ∀ c ∈ stored, c.spec.clusterName = p.request.spec.clusterName → c ∈ p.listed

/-- What every step keeps when the stored requests meet the condition. -/
structure PathsApart (s : Concurrent) : Prop where
  schema : ∀ c ∈ s.world.controlPlanes, schemaValid c = true
  names : s.world.controlPlanes.Pairs fun a b => a.spec.clusterName ≠ b.spec.clusterName
  pending : ∀ p ∈ s.pending, schemaValid p.request = true ∧
    (Webhook.validateCreate (some p.listed) p.request).2 = none ∧
    ∀ c ∈ p.listed, c ∈ s.world.controlPlanes
  calls : ∀ call ∈ s.calls, call.cp ∈ s.world.controlPlanes ∧
    ∀ a ∈ call.acts, a.Under (secretDirectory call.cp.spec.clusterName)
  writes : ∀ entry ∈ s.world.kvWrites, ∃ c ∈ s.world.controlPlanes,
    c.metadata.uid = entry.1 ∧ hasPrefix entry.2 (secretDirectory c.spec.clusterName) = true

theorem pathsApart_init : PathsApart {} where
  schema c hc := absurd hc (Store.not_mem_empty c)
  names := Store.Pairs.empty _
  pending _ hp := absurd hp List.not_mem_nil
  calls _ hcall := absurd hcall List.not_mem_nil
  writes _ hentry := absurd hentry List.not_mem_nil

theorem name_ne_of_listed {s : Concurrent} (hs : PathsApart s) {p : PendingCreate}
    (hp : p ∈ s.pending) {uid : String} (hkey : s.world.controlPlanes.has (planeKey p.request) = false)
    (hfresh : ∀ c ∈ s.world.controlPlanes, c.metadata.uid ≠ uid)
    (hrequest : p.request.metadata.uid = "" ∨ p.request.metadata.uid = uid)
    (hcond : ListedByName p s.world.controlPlanes) {c : ControlPlane}
    (hc : c ∈ s.world.controlPlanes) : c.spec.clusterName ≠ p.request.spec.clusterName := by
  intro hname
  obtain ⟨-, hadm, -⟩ := hs.pending p hp
  obtain ⟨-, hnames, -⟩ := Webhook.validationErrors_eq_nil.mp (Webhook.validate_admits.mp hadm)
  refine hnames c (mem_listOtherClusters.mpr ⟨hcond c hc hname, fun hu => ?_, fun hk => ?_⟩) hname
  · rcases hrequest with h0 | h0
    · exact hu.1 (hu.2.trans h0)
    · exact hfresh c hc (hu.2.trans h0)
  · have hhas := Store.has_iff.mpr ⟨c, hc, hk.2⟩
    rw [hkey] at hhas
    cases hhas

/-- **One step.** -/
theorem PathsApart.step {s s' : Concurrent} (hs : PathsApart s)
    (h : ConcurrentStep ListedByName s s') : PathsApart s' := by
  cases h with
  | list cp hschema hadm =>
    refine ⟨hs.schema, hs.names, fun p hp => ?_, hs.calls, hs.writes⟩
    rcases List.mem_cons.mp hp with rfl | hp
    · exact ⟨hschema, hadm, fun c hc => hc⟩
    · exact hs.pending p hp
  | @store p uid hp hkey huid hfresh hrequest hcond =>
    obtain ⟨hschema, -, -⟩ := hs.pending p hp
    -- everything stored stays, because the key is new
    have hkept : ∀ c ∈ s.world.controlPlanes,
        c ∈ s.world.controlPlanes.apply (withUid uid p.request) := by
      intro c hc
      refine Store.mem_apply.mpr (Or.inr ⟨hc, fun hck => ?_⟩)
      have hhas := Store.has_iff.mpr ⟨c, hc, hck⟩
      rw [show planeKey (withUid uid p.request) = planeKey p.request from rfl, hkey] at hhas
      cases hhas
    have hne : ∀ c ∈ s.world.controlPlanes, c.spec.clusterName ≠ p.request.spec.clusterName :=
      fun c hc => name_ne_of_listed hs hp hkey hfresh hrequest hcond hc
    refine ⟨forall_apply hs.schema hschema,
      hs.names.apply fun c hc _ => ⟨(hne c hc).symm, hne c hc⟩, fun q hq => ?_, fun call hcall => ?_,
      fun entry hentry => ?_⟩
    · obtain ⟨hq1, hq2, hq3⟩ := hs.pending q (List.mem_of_mem_erase hq)
      exact ⟨hq1, hq2, fun c hc => hkept c (hq3 c hc)⟩
    · obtain ⟨hcp, hacts⟩ := hs.calls call hcall
      exact ⟨hkept _ hcp, hacts⟩
    · obtain ⟨c, hc, hcu, hcp⟩ := hs.writes entry hentry
      exact ⟨c, hkept c hc, hcu, hcp⟩
  | @call cp op obs hcp =>
    refine ⟨hs.schema, hs.names, hs.pending, fun call hcall => ?_, hs.writes⟩
    rcases List.mem_cons.mp hcall with rfl | hcall
    · exact ⟨hcp, secret_under op obs cp⟩
    · exact hs.calls call hcall
  | @act cp a acts hcall hgoes =>
    obtain ⟨hcp, hacts⟩ := hs.calls _ hcall
    have hplanes : (a.run cp s.world).controlPlanes = s.world.controlPlanes :=
      (Act.run_frame cp s.world a).1
    refine ⟨?_, ?_, ?_, fun call hmem => ?_, fun entry hentry => ?_⟩
    · rw [hplanes]
      exact hs.schema
    · rw [hplanes]
      exact hs.names
    · rw [hplanes]
      exact hs.pending
    · rw [hplanes]
      rcases List.mem_cons.mp hmem with rfl | hmem
      · exact ⟨hcp, fun b hb => hacts b (List.mem_cons_of_mem _ hb)⟩
      · exact hs.calls call (List.mem_of_mem_erase hmem)
    · rw [hplanes]
      rcases kvWrites_run hentry with hold | ⟨huid, hpath⟩
      · exact hs.writes entry hold
      · exact ⟨cp, hcp, huid.symm, hacts a List.mem_cons_self entry.2 hpath⟩
  | finish call =>
    exact ⟨hs.schema, hs.names, hs.pending,
      fun call' hcall => hs.calls call' (List.mem_of_mem_erase hcall), hs.writes⟩

theorem pathsApart_run {s : Concurrent}
    (h : ReflTransGen (ConcurrentStep ListedByName) {} s) : PathsApart s := by
  induction h with
  | refl => exact pathsApart_init
  | tail _ hstep ih => exact ih.step hstep

/-! ### Whole passes -/

theorem acts_run {cond : PendingCreate → ControlPlanes → Prop} {cp : ControlPlane} :
    ∀ {acts : List Act} {w : World} {pending : List PendingCreate},
      (∀ a ∈ acts, a.isStop = false) →
      ReflTransGen (ConcurrentStep cond) ⟨w, pending, [⟨cp, acts⟩]⟩
        ⟨acts.foldl (Act.run cp) w, pending, [⟨cp, []⟩]⟩
  | [], _, _, _ => ReflTransGen.refl
  | a :: acts, w, pending, h => by
    obtain ⟨ha, hacts⟩ := List.forall_mem_cons.mp h
    have hstep : ConcurrentStep cond ⟨w, pending, [⟨cp, a :: acts⟩]⟩
        ⟨a.run cp w, pending, [⟨cp, acts⟩]⟩ := by
      have h := @ConcurrentStep.act cond ⟨w, pending, [⟨cp, a :: acts⟩]⟩ cp a acts
        List.mem_cons_self ha
      rwa [List.erase_cons_head] at h
    exact (ReflTransGen.single hstep).trans (acts_run hacts)

/-- **A call that nothing interrupts** is a run from its first to its last action. -/
theorem pass_run {cond : PendingCreate → ControlPlanes → Prop} {cp : ControlPlane} {w : World}
    (op : Operator) (obs : Observed) (pending : List PendingCreate) (hcp : cp ∈ w.controlPlanes)
    (hstop : (reconcileVault op obs cp).Clear) :
    ReflTransGen (ConcurrentStep cond) ⟨w, pending, []⟩
      ⟨(reconcileVault op obs cp).acts.foldl (Act.run cp) w, pending, []⟩ := by
  have hcall := @ConcurrentStep.call cond ⟨w, pending, []⟩ cp op obs hcp
  have hend := @ConcurrentStep.finish cond
    ⟨(reconcileVault op obs cp).acts.foldl (Act.run cp) w, pending, [⟨cp, []⟩]⟩ ⟨cp, []⟩
  rw [List.erase_cons_head] at hend
  exact ((ReflTransGen.single hcall).trans (acts_run hstop)).tail hend

theorem two_passes_run {cond : PendingCreate → ControlPlanes → Prop} {a b : ControlPlane} {w : World}
    (op : Operator) (obs : Observed) (ha : a ∈ w.controlPlanes) (hb : b ∈ w.controlPlanes)
    (hstop : (reconcileVault op obs a).Clear) (hstop' : (reconcileVault op obs b).Clear) :
    ReflTransGen (ConcurrentStep cond) ⟨w, [], []⟩
      ⟨(reconcileVault op obs b).acts.foldl (Act.run b)
        ((reconcileVault op obs a).acts.foldl (Act.run a) w), [], []⟩ := by
  have hplanes : ∀ (acts : List Act) (v : World),
      (acts.foldl (Act.run a) v).controlPlanes = v.controlPlanes := by
    intro acts
    induction acts with
    | nil => exact fun _ => rfl
    | cons x acts ih => exact fun v => (ih _).trans (Act.run_frame a v x).1
  refine (pass_run op obs [] ha hstop).trans (pass_run op obs [] ?_ hstop')
  rw [hplanes]
  exact hb

/-! ### Isolation -/

/-- **Vault path isolation**, in every run in which each request is stored when the webhook has seen
everything of its name: secrets written for two control planes lie below no common prefix. -/
theorem vault_paths_isolated {s : Concurrent}
    (h : ReflTransGen (ConcurrentStep ListedByName) {} s) {uid uid' path path' : String}
    (hw : (uid, path) ∈ s.world.kvWrites) (hw' : (uid', path') ∈ s.world.kvWrites)
    (hne : uid ≠ uid') (clusterName : String) :
    ¬ (hasPrefix path (secretDirectory clusterName) = true ∧
      hasPrefix path' (secretDirectory clusterName) = true) := by
  rintro ⟨hp, hp'⟩
  have hs := pathsApart_run h
  obtain ⟨a, ha, rfl, hpa⟩ := hs.writes _ hw
  obtain ⟨b, hb, rfl, hpb⟩ := hs.writes _ hw'
  have hname : a.spec.clusterName = b.spec.clusterName :=
    eq_of_common_directory (slash_not_mem_of_schema (hs.schema a ha))
      (slash_not_mem_of_schema (hs.schema b hb)) hpa hpb hp hp'
  exact hs.names a ha b hb (fun hk => hne (by rw [Store.eq_of_key_eq ha hb hk])) hname

/-- The state after a pass for each of the two stored control planes. -/
def afterPasses (a b : ControlPlane) : Concurrent :=
  ⟨(reconcileVault {} {} b).acts.foldl (Act.run b) ((reconcileVault {} {} a).acts.foldl (Act.run a)
    { controlPlanes := (Store.empty.apply a).apply b }), [], []⟩

theorem create_run {cp : ControlPlane} {w : World} {uid : String} (hschema : schemaValid cp = true)
    (hadm : (Webhook.validateCreate (some w.controlPlanes.objects) (Webhook.default cp)).2 = none)
    (hkey : w.controlPlanes.has (planeKey cp) = false) (huid : uid ≠ "")
    (hfresh : ∀ c ∈ w.controlPlanes, c.metadata.uid ≠ uid) (hrequest : cp.metadata.uid = "") :
    ReflTransGen (ConcurrentStep ListedByName) ⟨w, [], []⟩
      ⟨{ w with controlPlanes := w.controlPlanes.apply (withUid uid (Webhook.default cp)) },
        [], []⟩ := by
  have hlist := @ConcurrentStep.list ListedByName ⟨w, [], []⟩ cp hschema hadm
  have hstore := @ConcurrentStep.store ListedByName
    ⟨w, [⟨Webhook.default cp, w.controlPlanes.objects⟩], []⟩ _ uid List.mem_cons_self hkey huid
    hfresh (Or.inl hrequest) (fun c hc _ => hc)
  rw [List.erase_cons_head] at hstore
  exact (ReflTransGen.single hlist).tail hstore

/-- Two clusters, the second requested when the first is stored. -/
theorem vault_paths_isolated_bothStored :
    ("uid-alpha", "openchami/alpha/db/smd") ∈ (afterPasses alpha beta).world.kvWrites ∧
      ("uid-beta", "openchami/beta/db/smd") ∈ (afterPasses alpha beta).world.kvWrites ∧
      ¬ (hasPrefix "openchami/alpha/db/smd" (secretDirectory "alpha") = true ∧
        hasPrefix "openchami/beta/db/smd" (secretDirectory "alpha") = true) := by
  have hcreated : ReflTransGen (ConcurrentStep ListedByName) {}
      ⟨{ controlPlanes := bothStored }, [], []⟩ :=
    (@create_run (labelled "alpha" "openchami.org/alpha" "true") {} "uid-alpha" (by decide)
      validateCreate_alpha (by decide) (by decide) (by decide) rfl).trans
    (@create_run (labelled "beta" "openchami.org/beta" "true")
      { controlPlanes := Store.empty.apply alpha } "uid-beta" (by decide) validateCreate_beta
      (by decide) (by decide) (by decide) rfl)
  have hrun : ReflTransGen (ConcurrentStep ListedByName) {} (afterPasses alpha beta) :=
    hcreated.trans (two_passes_run {} {} mem_bothStored.1 mem_bothStored.2 (by decide) (by decide))
  obtain ⟨hw, hw'⟩ :
      ("uid-alpha", "openchami/alpha/db/smd") ∈ (afterPasses alpha beta).world.kvWrites ∧
        ("uid-beta", "openchami/beta/db/smd") ∈ (afterPasses alpha beta).world.kvWrites := by
    decide +kernel
  exact ⟨hw, hw', vault_paths_isolated hrun hw hw' (by decide) "alpha"⟩

/-- A request for the cluster `alpha` under a name of its own. -/
def requestNamed (name : String) : ControlPlane :=
  let cp := labelled "alpha" "openchami.org/alpha" "true"
  { cp with
    metadata := { cp.metadata with name := name }
    spec := { cp.spec with
      services := { cp.spec.services with tokensmith := { oidcProvider := "vault" } } } }

def storedAs (name : String) : ControlPlane :=
  withUid ("uid-" ++ name) (Webhook.default (requestNamed name))

/-- Both requests are listed before either is stored: both control planes write the same secret. -/
theorem vault_path_shared :
    ReflTransGen (ConcurrentStep fun _ _ => True) {}
      (afterPasses (storedAs "first") (storedAs "second")) ∧
    ("uid-first", "openchami/alpha/oidc/tokensmith-client") ∈
      (afterPasses (storedAs "first") (storedAs "second")).world.kvWrites ∧
    ("uid-second", "openchami/alpha/oidc/tokensmith-client") ∈
      (afterPasses (storedAs "first") (storedAs "second")).world.kvWrites ∧
    hasPrefix "openchami/alpha/oidc/tokensmith-client" (secretDirectory "alpha") = true := by
  let free : PendingCreate → ControlPlanes → Prop := fun _ _ => True
  let first : PendingCreate := ⟨Webhook.default (requestNamed "first"), []⟩
  let second : PendingCreate := ⟨Webhook.default (requestNamed "second"), []⟩
  have hlist : ConcurrentStep free {} ⟨{}, [first], []⟩ :=
    @ConcurrentStep.list free {} (requestNamed "first") (by decide)
      (by decide +kernel)
  have hlist' : ConcurrentStep free ⟨{}, [first], []⟩ ⟨{}, [second, first], []⟩ :=
    @ConcurrentStep.list free ⟨{}, [first], []⟩ (requestNamed "second") (by decide)
      (by decide +kernel)
  have hstore : ConcurrentStep free ⟨{}, [second, first], []⟩
      ⟨{ controlPlanes := Store.empty.apply (storedAs "first") }, [second], []⟩ :=
    @ConcurrentStep.store free ⟨{}, [second, first], []⟩ first "uid-first" (by decide) (by decide)
      (by decide) (by decide) (Or.inl rfl) trivial
  have hstore' : ConcurrentStep free
      ⟨{ controlPlanes := Store.empty.apply (storedAs "first") }, [second], []⟩
      ⟨{ controlPlanes := (Store.empty.apply (storedAs "first")).apply (storedAs "second") },
        [], []⟩ :=
    @ConcurrentStep.store free
      ⟨{ controlPlanes := Store.empty.apply (storedAs "first") }, [second], []⟩ second "uid-second"
      (by decide) (by decide) (by decide) (by decide) (Or.inl rfl) trivial
  obtain ⟨hw, hw'⟩ : ("uid-first", "openchami/alpha/oidc/tokensmith-client") ∈
        (afterPasses (storedAs "first") (storedAs "second")).world.kvWrites ∧
      ("uid-second", "openchami/alpha/oidc/tokensmith-client") ∈
        (afterPasses (storedAs "first") (storedAs "second")).world.kvWrites := by
    decide +kernel
  refine ⟨((((ReflTransGen.single hlist).tail hlist').tail hstore).tail hstore').trans
    (two_passes_run {} {} (Store.mem_apply.mpr (Or.inr ⟨Store.mem_apply.mpr (Or.inl rfl), by decide⟩))
      (Store.mem_apply.mpr (Or.inl rfl)) (by decide) (by decide)),
    hw, hw', by decide⟩

end OpenchamiOperator.Controller
