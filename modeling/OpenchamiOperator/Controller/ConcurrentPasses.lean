import OpenchamiOperator.Controller.Territory
import OpenchamiOperator.Lib.Workers

/-! # Passes side by side

`SetupWithManager` lets five control planes be reconciled at once; one control plane is never
reconciled twice at the same time. So there is one worker for each control plane, a job of a worker is
one call of `Reconcile`, and between two requests of a call any requests of other calls are served.

* `plan`: the requests of a call, as they reach the servers.
* `plan_call`: done in one go, they make of the world what `reconcile` does.
* `View`: what belongs to a cluster, on which the answers to the reads of its calls may depend.
* `apart`: the calls for different control planes keep apart.
* `concurrent_calls_serial`: whatever the interleaving, each cluster ends as if its own calls had run
  one after the other and nothing else had happened. -/

namespace OpenchamiOperator.Controller

open Lib Strings Api Reconcilers Admission Relation Workers

/-! ### Calls as lists of requests -/

/-- A request: one of a sub-reconciler, the status patch, or the patch of the finalizers. -/
inductive Task where
  | effect (cp : ControlPlane) (eff : Effect)
  | status (cp : ControlPlane)
  | finalizers (k : String × String) (finalizers : List String)

def Task.run (w : World) : Task → World
  | .effect cp eff => eff.run cp w
  | .status cp => (patchStatus cp w).2
  | .finalizers k fs => (patchFinalizers k fs w).2

/-- What a call of `Reconcile` meets: the answers and the fates of its pass, and the fates of the read
at its beginning and of the patch at its end. -/
structure Job where
  env : Env
  get : Fate := .served
  patch : Fate := .served

/-- The object in memory at the end of a pass. -/
def Job.object (job : Job) (cp : ControlPlane) : ControlPlane :=
  (reconcileAll job.env.op (fullPass job.env (observed cp)) (observed cp) {}).2.1

/-- The patch, if it reaches the server. -/
def Job.patching (job : Job) (task : Task) : List Task := if job.patch = .lost then [] else [task]

/-- The requests of a call for a control plane that is not being deleted, as far as they reach the
servers. -/
def Job.tasks (job : Job) (cp : ControlPlane) : List Task :=
  if clusterFinalizer ∉ cp.metadata.finalizers then
    job.patching (.finalizers (planeKey cp) (cp.metadata.finalizers ++ [clusterFinalizer]))
  else (job.env.requests (observed cp)).map (.effect cp) ++ job.patching (.status (job.object cp))

/-- The requests of a call for the key `k`. -/
def plan (k : String × String) (job : Job) (w : World) : List Task :=
  if job.get = .served then
    match w.controlPlanes.get? k with
    | none => []
    | some cp => job.tasks cp
  else []

/-- A call of `Reconcile` for the key `k`, from its beginning to its end. -/
def Job.call (k : String × String) (w : World) (job : Job) : World :=
  match w.controlPlanes.get? k with
  | none => w
  | some cp =>
    ((reconcile job.env.op (fullPass job.env (observed cp)) k).run ⟨w, [job.get, job.patch]⟩).2.state

/-! ### The requests make of the world what `reconcile` does -/

theorem runSubs_object (op : Operator) (p : Pass) : ∀ (l : List Sub) (cp : ControlPlane) (w w' : World)
    (n : ℕ), (runSubs op p l cp w n).1 = (runSubs op p l cp w' n).1 ∧
      (runSubs op p l cp w n).2.1 = (runSubs op p l cp w' n).2.1
  | [], _, _, _, _ => ⟨rfl, rfl⟩
  | sub :: rest, cp, w, w', n => by
    unfold runSubs
    split_ifs
    · exact runSubs_object op p rest cp w w' n
    · rcases (p.runs sub).result with e | requeue
      · exact ⟨rfl, rfl⟩
      · exact runSubs_object op p rest _ _ _ _

theorem reconcileAll_object (op : Operator) (p : Pass) (cp : ControlPlane) (w w' : World) :
    (reconcileAll op p cp w).1 = (reconcileAll op p cp w').1 ∧
      (reconcileAll op p cp w).2.1 = (reconcileAll op p cp w').2.1 := by
  by_cases hpin : pinnedElsewhere op cp = true
  · unfold reconcileAll
    rw [if_pos hpin, if_pos hpin]
    exact ⟨rfl, rfl⟩
  · obtain ⟨hresult, hobject⟩ := runSubs_object op p subs (activated cp) w w' 0
    unfold reconcileAll
    rw [if_neg hpin, if_neg hpin]
    rcases hrun : runSubs op p subs (activated cp) w 0 with ⟨r, c, v⟩
    rcases hrun' : runSubs op p subs (activated cp) w' 0 with ⟨r', c', v'⟩
    rw [hrun, hrun'] at hresult hobject
    cases hresult
    cases hobject
    rcases r with e | n
    · exact ⟨rfl, rfl⟩
    · simp only
      split_ifs <;> exact ⟨rfl, rfl⟩

theorem foldl_effects (cp : ControlPlane) : ∀ (effs : List Effect) (w : World),
    ((effs.map (Task.effect cp)).foldl Task.run w).shared = effs.foldl Effect.onShared w.shared ∧
      ((effs.map (Task.effect cp)).foldl Task.run w).controlPlanes = w.controlPlanes
  | [], _ => ⟨rfl, rfl⟩
  | eff :: effs, w => by
    obtain ⟨hshared, hplanes⟩ := foldl_effects cp effs (eff.run cp w)
    have hkept : (eff.run cp w).controlPlanes = w.controlPlanes := by cases eff <;> rfl
    refine ⟨hshared.trans ?_, hplanes.trans hkept⟩
    rw [eff.shared_run]
    rfl

/-- The status patch changes the control planes only, and looks at nothing else. -/
theorem patchStatus_frame (cp : ControlPlane) (w : World) :
    (patchStatus cp w).2.shared = w.shared := by
  unfold patchStatus
  split <;> rfl

theorem patchStatus_congr {cp : ControlPlane} {w w' : World}
    (h : w.controlPlanes = w'.controlPlanes) :
    (patchStatus cp w).2.controlPlanes = (patchStatus cp w').2.controlPlanes := by
  unfold patchStatus
  rw [h]
  split
  · exact h
  · rfl

/-- The same objects, secrets and control planes. -/
def Agree (w w' : World) : Prop := w.shared = w'.shared ∧ w.controlPlanes = w'.controlPlanes

theorem agree_pass {job : Job} {cp : ControlPlane} {w : World} :
    Agree (((job.env.requests (observed cp)).map (Task.effect cp) ++
        job.patching (.status (job.object cp))).foldl Task.run w)
      ((reconcilePass job.env.op (fullPass job.env (observed cp)) cp).run ⟨w, [job.patch]⟩).2.state := by
  let r := reconcileAll job.env.op (fullPass job.env (observed cp)) (observed cp) w
  have hobject : job.object cp = r.2.1 := (reconcileAll_object _ _ _ _ _).2
  have hafter : Agree (((job.env.requests (observed cp)).map (Task.effect cp)).foldl Task.run w)
      r.2.2 := by
    obtain ⟨hshared, hplanes⟩ := foldl_effects cp (job.env.requests (observed cp)) w
    obtain ⟨-, -, hkept, -⟩ := reconcileAll_frame job.env.op (fullPass job.env (observed cp))
      (observed cp) w
    exact ⟨hshared.trans (shared_reconcileAll job.env (observed cp) w).symm,
      hplanes.trans hkept.symm⟩
  -- the answer of the patch makes no difference for the world
  have hanswer : job.patch ≠ .lost →
      ((reconcilePass job.env.op (fullPass job.env (observed cp)) cp).run ⟨w, [job.patch]⟩).2.state =
        (patchStatus r.2.1 r.2.2).2 := by
    intro hpatch
    unfold reconcilePass Prog.request
    rcases hp : patchStatus r.2.1 r.2.2 with ⟨e | u, v⟩ <;>
    · cases hfate : job.patch with
      | served => simp only [r, hp]
      | lost => exact absurd hfate hpatch
      | late => simp only [r, hp]
  rw [List.foldl_append, Job.patching]
  by_cases hlost : job.patch = .lost
  · rw [hlost]
    exact hafter
  · rw [if_neg hlost, hanswer hlost, ← hobject]
    refine ⟨?_, patchStatus_congr hafter.2⟩
    exact (patchStatus_frame _ _).trans (hafter.1.trans (patchStatus_frame _ _).symm)

theorem Agree.refl (w : World) : Agree w w := ⟨rfl, rfl⟩

theorem agree_addFinalizer {job : Job} {cp : ControlPlane} {w : World} :
    Agree ((job.patching (.finalizers (planeKey cp)
        (cp.metadata.finalizers ++ [clusterFinalizer]))).foldl Task.run w)
      (((addFinalizer cp >>= fun _ => pure 0 : Prog World OpError ℕ)).run
        ⟨w, [job.patch]⟩).2.state := by
  -- whatever the answer, the world is the one after the patch
  have hanswer : ∀ n : Net World, (((addFinalizer cp >>= fun _ => pure 0 :
      Prog World OpError ℕ)).run n).2 = ((addFinalizer cp).run n).2 := by
    intro n
    rcases hrun : (addFinalizer cp).run n with ⟨e | u, m⟩
    · rw [Prog.bind_run_error hrun]
    · rw [Prog.bind_run_ok hrun]
      rfl
  rw [hanswer, Job.patching]
  unfold addFinalizer Prog.ignoring Prog.request
  cases hfate : job.patch with
  | served =>
    rcases hpatch : patchFinalizers (planeKey cp) (cp.metadata.finalizers ++ [clusterFinalizer]) w
      with ⟨e | u, v⟩
    all_goals simp [Task.run, hpatch, Agree.refl]
  | lost => exact Agree.refl w
  | late => simp [Task.run, Agree.refl]

/-- **A call in one go** is `reconcile`, as far as the objects, the secrets and the control planes are
concerned. -/
theorem plan_call {k : String × String} {job : Job} {w : World}
    (hlive : ∀ cp, w.controlPlanes.get? k = some cp → cp.metadata.deletionTimestamp = false) :
    Agree ((plan k job w).foldl Task.run w) (job.call k w) := by
  unfold plan Job.call
  rcases hget : w.controlPlanes.get? k with _ | cp
  · simp only [ite_self]
    exact Agree.refl w
  cases hread : job.get with
  | served =>
    have hread : (Prog.request (⟨"", .failed⟩ : OpError)
        (fun w : World => (Except.ok (w.controlPlanes.get? k), w))).run ⟨w, [.served, job.patch]⟩ =
          (.ok (some cp), ⟨w, [job.patch]⟩) := by
      rw [← hget]
      rfl
    have hrun : (reconcile job.env.op (fullPass job.env (observed cp)) k).run
        ⟨w, [.served, job.patch]⟩ =
          (reconcileFound job.env.op (fullPass job.env (observed cp)) cp).run ⟨w, [job.patch]⟩ := by
      unfold reconcile
      rw [Prog.bind_run_ok hread]
    simp only [hrun, if_true]
    unfold Job.tasks reconcileFound
    rw [hlive cp hget]
    by_cases hfin : clusterFinalizer ∉ cp.metadata.finalizers
    · rw [if_pos hfin, if_neg (by decide), if_pos hfin]
      exact agree_addFinalizer
    · rw [if_neg hfin, if_neg (by decide), if_neg hfin]
      exact agree_pass
  | lost => exact Agree.refl w
  | late => exact Agree.refl w

/-! ### What belongs to a cluster -/

/-- Everything of the cluster of `cp` is the same in both worlds: the control plane, the objects, the
secrets. -/
structure SameFor (cp : ControlPlane) (w w' : World) : Prop where
  plane : w.controlPlanes.get? (planeKey cp) = w'.controlPlanes.get? (planeKey cp)
  objects : ∀ k, InTerritory cp k → w.objects.get? k = w'.objects.get? k
  secrets : ∀ s : Vault.Secret, s.Under "openchami" (cp.spec.clusterName ++ "/") →
    (s ∈ w.vault.secrets ↔ s ∈ w'.vault.secrets)

theorem SameFor.refl (cp : ControlPlane) (w : World) : SameFor cp w w :=
  ⟨rfl, fun _ _ => rfl, fun _ _ => Iff.rfl⟩

theorem SameFor.trans {cp : ControlPlane} {u v w : World} (huv : SameFor cp u v)
    (hvw : SameFor cp v w) : SameFor cp u w :=
  ⟨huv.plane.trans hvw.plane, fun k hk => (huv.objects k hk).trans (hvw.objects k hk),
    fun s hs => (huv.secrets s hs).trans (hvw.secrets s hs)⟩

/-- What belongs to the cluster of a control plane. -/
@[ext]
structure View where
  plane : Option ControlPlane
  objects : Set KubeObject
  secrets : Set Vault.Secret

def view (cp : ControlPlane) (w : World) : View where
  plane := w.controlPlanes.get? (planeKey cp)
  objects := { o | InTerritory cp o.key ∧ w.objects.get? o.key = some o }
  secrets := { s | s.Under "openchami" (cp.spec.clusterName ++ "/") ∧ s ∈ w.vault.secrets }

theorem SameFor.view_eq {cp : ControlPlane} {w w' : World} (h : SameFor cp w w') :
    view cp w = view cp w' := by
  have hobjects : (view cp w).objects = (view cp w').objects :=
    Set.ext fun o => and_congr_right fun ho => by rw [h.objects _ ho]
  have hsecrets : (view cp w).secrets = (view cp w').secrets :=
    Set.ext fun s => and_congr_right fun hs => h.secrets s hs
  exact View.ext h.plane hobjects hsecrets

/-- Worlds with the objects and the secrets of such worlds. -/
theorem SameFor.of_shared {cp : ControlPlane} {u v u' v' : World} (h : SameFor cp v v')
    (hu : u.shared = v.shared) (hu' : u'.shared = v'.shared)
    (hplane : u.controlPlanes.get? (planeKey cp) = u'.controlPlanes.get? (planeKey cp)) :
    SameFor cp u u' := by
  obtain ⟨hobjects, hvault⟩ := Shared.mk.inj hu
  obtain ⟨hobjects', hvault'⟩ := Shared.mk.inj hu'
  refine ⟨hplane, fun k hk => ?_, fun s hs => ?_⟩
  · rw [hobjects, hobjects', h.objects k hk]
  · rw [hvault, hvault', h.secrets s hs]

theorem Agree.sameFor {w w' : World} (h : Agree w w') (cp : ControlPlane) : SameFor cp w w' :=
  (SameFor.refl cp w').of_shared h.1 rfl (by rw [h.2])

/-- The request is one of the calls for `cp`. -/
def Task.Own (cp : ControlPlane) : Task → Prop
  | .effect _ eff => eff.Stays cp
  | .status c => planeKey c = planeKey cp
  | .finalizers k _ => k = planeKey cp

/-- The members of `s` have kept their names, and are not being deleted. -/
def Kept (s : ControlPlanes) (w : World) : Prop :=
  ∀ cp ∈ s, ∀ stored, w.controlPlanes.get? (planeKey cp) = some stored →
    stored.spec.clusterName = cp.spec.clusterName ∧ stored.metadata.deletionTimestamp = false

/-! ### What a request changes -/

theorem secret_eq {s t : Vault.Secret} (h : s.mount = t.mount ∧ s.path = t.path) : s = t := by
  cases s
  cases t
  simpa using h

/-- `EnsureSecret` leaves the secret of its path, and all others as they were. -/
theorem mem_ensureSecret {kv : Vault.Kv} {path : String} {overwrite : Bool} {s : Vault.Secret} :
    s ∈ (kv.ensureSecret path overwrite).secrets ↔
      s ∈ kv.secrets ∨ (s.mount = (Vault.splitKVPath path).1 ∧ s.path = (Vault.splitKVPath path).2) := by
  have hhas : kv.has (Vault.splitKVPath path).1 (Vault.splitKVPath path).2 = true →
      s.mount = (Vault.splitKVPath path).1 ∧ s.path = (Vault.splitKVPath path).2 →
        s ∈ kv.secrets := by
    intro hhas hs
    unfold Vault.Kv.has at hhas
    obtain ⟨t, ht, heq⟩ := List.any_eq_true.mp hhas
    have hts : t.mount = s.mount ∧ t.path = s.path := by
      rw [hs.1, hs.2]
      simpa using heq
    exact secret_eq hts ▸ ht
  unfold Vault.Kv.ensureSecret Vault.Kv.ensures Vault.Kv.put
  by_cases hin : kv.has (Vault.splitKVPath path).1 (Vault.splitKVPath path).2 = true
  · simp only [hin, if_true, ite_self]
    exact ⟨Or.inl, fun h => h.elim id (hhas hin)⟩
  · simp only [hin, Bool.not_false, Bool.or_true, if_true, Bool.false_eq_true, if_false]
    split_ifs with hleaf
    · rw [List.mem_append, List.mem_singleton]
      exact or_congr Iff.rfl ⟨fun h => by rw [h]; exact ⟨rfl, rfl⟩,
        fun h => secret_eq h⟩
    · refine ⟨Or.inl, fun h => h.elim id fun hs => absurd ?_ hleaf⟩
      rw [← hs.2]
      exact s.leaf

/-- Where a path below the directory of a cluster lies. -/
theorem under_of_split {cluster path : String} (h : hasPrefix path (secretDirectory cluster) = true)
    {s : Vault.Secret} (hs : s.mount = (Vault.splitKVPath path).1 ∧ s.path = (Vault.splitKVPath path).2) :
    s.Under "openchami" (cluster ++ "/") := by
  obtain ⟨t, rfl⟩ := hasPrefix_iff.mp h
  have hsplit : Vault.splitKVPath (secretDirectory cluster ++ t) =
      ("openchami", cluster ++ "/" ++ t) := by
    have hmount := @Vault.splitKVPath_append "openchami" (by decide) (cluster ++ "/" ++ t)
    have hslash : ("openchami/" : String) = "openchami" ++ "/" := by decide
    rw [← hmount]
    unfold secretDirectory
    simp only [hslash, String.append_assoc]
  rw [hsplit] at hs
  exact ⟨hs.1, hasPrefix_iff.mpr ⟨t, hs.2⟩⟩

theorem get?_patchStatus (cp : ControlPlane) (w : World) (j : String × String) :
    (patchStatus cp w).2.controlPlanes.get? j = if planeKey cp = j then
      (w.controlPlanes.get? j).map fun stored => { stored with status := cp.status }
    else w.controlPlanes.get? j := by
  unfold patchStatus
  rcases hget : w.controlPlanes.get? (planeKey cp) with _ | stored
  · split_ifs with hj
    · rw [← hj, hget]
      rfl
    · rfl
  · obtain ⟨-, hkey⟩ := Store.get?_eq_some_iff.mp hget
    have hkey' : planeKey ({ stored with status := cp.status } : ControlPlane) = planeKey cp := hkey
    simp only [Store.get?_apply, hkey']
    split_ifs with hj
    · rw [← hj, hget]
      rfl
    · rfl

theorem shared_patchFinalizers (k : String × String) (fs : List String) (w : World) :
    (patchFinalizers k fs w).2.shared = w.shared := by
  obtain ⟨hobjects, -, hvault, -⟩ := patchFinalizers_frame k fs w
  unfold World.shared
  rw [hobjects, hvault]

theorem get?_patchedFinalizers (k : String × String) (fs : List String) (w : World)
    (j : String × String) : (patchFinalizers k fs w).2.controlPlanes.get? j = if k = j then
      (w.controlPlanes.get? j).bind fun cp =>
        if cp.metadata.deletionTimestamp = true ∧ fs = [] then none
        else some { cp with metadata := { cp.metadata with finalizers := fs } }
    else w.controlPlanes.get? j := by
  unfold patchFinalizers
  rcases hget : w.controlPlanes.get? k with _ | cp
  · split_ifs with hj
    · rw [← hj, hget]
      rfl
    · rfl
  · obtain ⟨-, hkey⟩ := Store.get?_eq_some_iff.mp hget
    simp only
    by_cases hgone : cp.metadata.deletionTimestamp = true ∧ fs = []
    · rw [if_pos hgone]
      simp only [Store.get?_delete]
      split_ifs with hj
      · rw [← hj, hget]
        simp [hgone]
      · rfl
    · rw [if_neg hgone]
      have hkey' : planeKey ({ cp with metadata := { cp.metadata with finalizers := fs } } :
          ControlPlane) = k := hkey
      simp only [Store.get?_apply, hkey']
      split_ifs with hj
      · rw [← hj, hget]
        simp [hgone]
      · rfl

/-! ### The calls keep apart -/

/-- A request of `cp` makes the same of what belongs to `cp`. -/
theorem sameFor_run {cp : ControlPlane} {task : Task} (hown : task.Own cp) {w w' : World}
    (h : SameFor cp w w') : SameFor cp (task.run w) (task.run w') := by
  cases task with
  | effect c eff =>
    cases eff with
    | none | patch => exact h
    | apply o =>
      refine ⟨h.plane, fun k hk => ?_, h.secrets⟩
      simp only [Task.run, Effect.run, Store.get?_apply, h.objects k hk]
    | delete k' =>
      refine ⟨h.plane, fun k hk => ?_, h.secrets⟩
      simp only [Task.run, Effect.run, Store.get?_delete, h.objects k hk]
    | ensureSecret path overwrite =>
      refine ⟨h.plane, h.objects, fun s hs => ?_⟩
      simp only [Task.run, Effect.run, mem_ensureSecret, h.secrets s hs]
  | status c =>
    refine h.of_shared (patchStatus_frame c w) (patchStatus_frame c w') ?_
    simp only [Task.run, get?_patchStatus, h.plane]
  | finalizers k fs =>
    refine h.of_shared (shared_patchFinalizers k fs w) (shared_patchFinalizers k fs w') ?_
    simp only [Task.run, get?_patchedFinalizers, h.plane]

/-- A request of another cluster changes nothing of `a`. -/
theorem sameFor_run_other {a b : ControlPlane} (ha : schemaValid a = true) (hb : schemaValid b = true)
    (hkey : planeKey a ≠ planeKey b) (hname : a.spec.clusterName ≠ b.spec.clusterName)
    {task : Task} (hown : task.Own b) (w : World) : SameFor a (task.run w) w := by
  cases task with
  | effect c eff =>
    cases eff with
    | none | patch => exact SameFor.refl a w
    | apply o =>
      refine ⟨rfl, fun k hk => ?_, fun _ _ => Iff.rfl⟩
      have hne : o.key ≠ k := fun h => not_inTerritory hname hk (h ▸ hown)
      simp only [Task.run, Effect.run, Store.get?_apply, if_neg hne]
    | delete k' =>
      refine ⟨rfl, fun k hk => ?_, fun _ _ => Iff.rfl⟩
      have hne : k' ≠ k := fun h => not_inTerritory hname hk (h ▸ hown)
      simp only [Task.run, Effect.run, Store.get?_delete, if_neg hne]
    | ensureSecret path overwrite =>
      refine ⟨rfl, fun _ _ => rfl, fun s hs => ?_⟩
      simp only [Task.run, Effect.run, mem_ensureSecret]
      refine ⟨fun h => h.elim id fun hpath => ?_, Or.inl⟩
      exact absurd (under_of_split hown hpath) (disjoint_directories ha hb hname hs)
  | status c =>
    have hne : planeKey c ≠ planeKey a := fun h => hkey (h.symm.trans hown)
    refine (SameFor.refl a w).of_shared (patchStatus_frame c w) rfl ?_
    simp only [Task.run, get?_patchStatus, if_neg hne]
  | finalizers k fs =>
    have hne : k ≠ planeKey a := fun h => hkey (h.symm.trans hown)
    refine (SameFor.refl a w).of_shared (shared_patchFinalizers k fs w) rfl ?_
    simp only [Task.run, get?_patchedFinalizers, if_neg hne]

/-- A request changes no name and begins no deletion. -/
theorem Kept.run {s : ControlPlanes} {w : World} (h : Kept s w) (task : Task) :
    Kept s (task.run w) := by
  intro cp hcp stored hstored
  cases task with
  | effect c eff =>
    have hkept : (eff.run c w).controlPlanes = w.controlPlanes := by cases eff <;> rfl
    simp only [Task.run, hkept] at hstored
    exact h cp hcp stored hstored
  | status c =>
    simp only [Task.run, get?_patchStatus] at hstored
    split_ifs at hstored
    · obtain ⟨old, hold, rfl⟩ := Option.map_eq_some_iff.mp hstored
      exact h cp hcp old hold
    · exact h cp hcp stored hstored
  | finalizers k fs =>
    obtain ⟨old, fs', hold, rfl⟩ := get?_patchFinalizers hstored
    exact h cp hcp old hold

theorem Kept.foldl {s : ControlPlanes} {tasks : List Task} {w : World} (h : Kept s w) :
    Kept s (tasks.foldl Task.run w) :=
  List.foldlRecOn tasks _ h fun _ hv task _ => hv.run task

/-- The requests of a call are the cluster's own. -/
theorem own_of_plan {s : ControlPlanes} {w : World} (h : Kept s w) {cp : ControlPlane} (hcp : cp ∈ s)
    {job : Job} {task : Task} (htask : task ∈ plan (planeKey cp) job w) : task.Own cp := by
  rcases hget : w.controlPlanes.get? (planeKey cp) with _ | stored
  · simp [plan, hget] at htask
  have htasks : task ∈ job.tasks stored := by
    unfold plan at htask
    rw [hget] at htask
    split_ifs at htask
    · exact htask
    · cases htask
  obtain ⟨hname, -⟩ := h cp hcp stored hget
  have hkey : planeKey stored = planeKey cp := (Store.get?_eq_some_iff.mp hget).2
  have hpatch : ∀ t, t.Own cp → task ∈ job.patching t → task.Own cp := by
    intro t ht hmem
    unfold Job.patching at hmem
    split_ifs at hmem
    · cases hmem
    · rw [List.mem_singleton.mp hmem]
      exact ht
  unfold Job.tasks at htasks
  by_cases hfin : clusterFinalizer ∉ stored.metadata.finalizers
  · rw [if_pos hfin] at htasks
    exact hpatch (.finalizers (planeKey stored) _) hkey htasks
  · rw [if_neg hfin] at htasks
    rcases List.mem_append.mp htasks with hmem | hmem
    · obtain ⟨eff, heff, rfl⟩ := List.mem_map.mp hmem
      have hstays := requests_stay job.env (observed stored) eff heff
      exact (eff.stays_congr hname).mp hstays
    · refine hpatch _ ?_ hmem
      obtain ⟨hmeta, -⟩ := reconcileAll_frame job.env.op (fullPass job.env (observed stored))
        (observed stored) {}
      have hobject : planeKey (job.object stored) = planeKey stored := by
        unfold planeKey Job.object
        rw [hmeta]
        rfl
      exact hobject.trans hkey

/-- The worker of a control plane. -/
abbrev Member (s : ControlPlanes) : Type := { cp : ControlPlane // cp ∈ s }

/-- A call: what it meets depends on what belongs to its cluster when it begins. -/
abbrev Call : Type := View → Job

def Member.plan {s : ControlPlanes} (i : Member s) (call : Call) (w : World) : List Task :=
  Controller.plan (planeKey i.1) (call (view i.1 w)) w

/-- The call from its beginning to its end. -/
def Member.call {s : ControlPlanes} (i : Member s) (w : World) (call : Call) : World :=
  (call (view i.1 w)).call (planeKey i.1) w

/-- **The calls for different control planes keep apart.** -/
theorem apart {s : ControlPlanes} (hs : Sound s) :
    Apart Task.run (Member.plan (s := s)) (Kept s) (fun i => Task.Own i.1)
      (fun i => SameFor i.1) where
  refl i w := SameFor.refl i.1 w
  trans := SameFor.trans
  keeps _ h := h.run _
  planned {i _ _ _} h htask := own_of_plan h i.2 htask
  plan_same h := by
    unfold Member.plan plan
    rw [h.view_eq, h.plane]
  exec_same hown h := sameFor_run hown h
  exec_other {i j _ w} hown hij _ := by
    have hkey : planeKey i.1 ≠ planeKey j.1 := fun h =>
      hij (Subtype.ext (Store.eq_of_key_eq i.2 j.2 h))
    exact sameFor_run_other (hs.schema i.1 i.2) (hs.schema j.1 j.2) hkey
      (hs.names i.1 i.2 j.1 j.2 hkey) hown w

/-! ### Every interleaving is serial -/

/-- Nobody has begun anything. -/
def atRest (s : ControlPlanes) (w : World) : Pool (Member s) World Task := ⟨w, fun _ => []⟩

/-- The workers of `s` from a world, in the order of the turns. -/
def afterTurns {s : ControlPlanes} (w : World) (turns : List (Member s × Workers.Turn Call)) :
    Pool (Member s) World Task :=
  (atRest s w).run Task.run Member.plan turns

/-- The calls begun for a control plane. -/
def callsOf {s : ControlPlanes} (w : World) (turns : List (Member s × Workers.Turn Call))
    (i : Member s) : List Call :=
  (atRest s w).begun Task.run Member.plan i turns

/-- Calls in one go are calls of `reconcile`, by induction on them. -/
theorem sameFor_calls {s : ControlPlanes} (hs : Sound s) (i : Member s) : ∀ (calls : List Call)
    {w w' : World}, Kept s w → SameFor i.1 w w' →
      SameFor i.1 (calls.foldl (atOnce Task.run Member.plan i) w) (calls.foldl (Member.call i) w')
  | [], _, _, _, h => h
  | call :: calls, w, w', hkept, h => by
    have hlive : ∀ cp, w'.controlPlanes.get? (planeKey i.1) = some cp →
        cp.metadata.deletionTimestamp = false := fun cp hcp =>
      (hkept i.1 i.2 cp (h.plane.trans hcp)).2
    have hnext := (same_atOnce (apart hs) hkept h call).trans ((plan_call hlive).sameFor i.1)
    exact sameFor_calls hs i calls hkept.foldl hnext

/-- **Every interleaving is serial.** For the control planes of an admitted set, none of them being
deleted: however the requests of their calls interleave and whichever of them fail, at any time what
belongs to a cluster, and what its call has still to send, are as if the other calls had never been.
Once it has no call running, it has the control plane, the objects and the secrets that its own calls
leave when `reconcile` runs them one after the other. -/
theorem concurrent_calls_serial {s : ControlPlanes}
    (hs : ReflTransGen (Admitted fun _ _ => True) Store.empty s)
    (hlive : ∀ cp ∈ s, cp.metadata.deletionTimestamp = false) {w : World} (hw : w.controlPlanes = s)
    (turns : List (Member s × Workers.Turn Call)) (i : Member s) :
    SameFor i.1 (afterTurns w turns).state (afterTurns w (turns.filter (·.1 = i))).state ∧
    (afterTurns w turns).left i = (afterTurns w (turns.filter (·.1 = i))).left i ∧
    ((afterTurns w turns).left i = [] →
      SameFor i.1 (afterTurns w turns).state ((callsOf w turns i).foldl (Member.call i) w)) := by
  have hsound := sound_run hs
  have hkept : Kept s w := by
    intro cp hcp stored hstored
    rw [hw] at hstored
    obtain ⟨hmem, hkey⟩ := Store.get?_eq_some_iff.mp hstored
    rw [Store.eq_of_key_eq hmem hcp hkey]
    exact ⟨rfl, hlive cp hcp⟩
  have hgood : (atRest s w).Good (Kept s) (fun i => Task.Own i.1) :=
    ⟨hkept, fun _ task htask => absurd htask List.not_mem_nil⟩
  obtain ⟨hstate, hleft⟩ := same_alone (apart hsound) turns hgood (SameFor.refl i.1 w) rfl
  refine ⟨hstate, hleft, fun hidle => ?_⟩
  have hsettled := settled_run (apart hsound) turns hgood (SameFor.refl i.1 w)
  have hdone : (afterTurns w turns).settled Task.run i = (afterTurns w turns).state := by
    unfold Pool.settled
    rw [hidle]
    rfl
  have hserial := sameFor_calls hsound i (callsOf w turns i) hkept (SameFor.refl i.1 w)
  rw [← hdone]
  exact hsettled.trans hserial

/-- Two control planes that have not been reconciled yet. -/
def newWorld : World where
  controlPlanes := bothStored

def alphaWorker : Member bothStored := ⟨alpha, mem_bothStored.1⟩

def betaWorker : Member bothStored := ⟨beta, mem_bothStored.2⟩

/-- The first calls for both; the second one begins and sends its patch before the first sends its
own. -/
def firstCalls : List (Member bothStored × Workers.Turn Call) :=
  [(alphaWorker, .begin fun _ => ⟨{ perm := order_perm }, .served, .served⟩),
   (betaWorker, .begin fun _ => ⟨{ perm := order_perm }, .served, .late⟩),
   (betaWorker, .next), (alphaWorker, .next)]

theorem concurrent_calls_serial_first :
    SameFor alpha (afterTurns newWorld (firstCalls.take 3)).state
        (afterTurns newWorld ((firstCalls.take 3).filter (·.1 = alphaWorker))).state ∧
      (callsOf newWorld firstCalls alphaWorker).length = 1 ∧
      (afterTurns newWorld firstCalls).left alphaWorker = [] ∧
      SameFor alpha (afterTurns newWorld firstCalls).state
        ((callsOf newWorld firstCalls alphaWorker).foldl (Member.call alphaWorker) newWorld) := by
  have hrun : ReflTransGen (Admitted fun _ _ => True) Store.empty bothStored :=
    (ReflTransGen.single (admitted_alpha trivial)).tail admitted_beta
  have hlive : ∀ cp ∈ bothStored, cp.metadata.deletionTimestamp = false := by
    intro cp hcp
    rcases Store.mem_apply.mp hcp with rfl | ⟨hcp, -⟩
    · rfl
    · rcases Store.mem_apply.mp hcp with rfl | ⟨hcp, -⟩
      · rfl
      · exact absurd hcp (Store.not_mem_empty cp)
  exact ⟨(concurrent_calls_serial hrun hlive rfl (firstCalls.take 3) alphaWorker).1, rfl, rfl,
    (concurrent_calls_serial hrun hlive rfl firstCalls alphaWorker).2.2 rfl⟩

end OpenchamiOperator.Controller
