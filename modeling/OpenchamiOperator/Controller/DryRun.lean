import OpenchamiOperator.Controller.ReadyRuns

/-! # Dry-run mode

With `DryRun` set, the loop over the sub-reconcilers only describes. The flag is read nowhere else:
the deletion path runs in full, and the events of a pinned control plane and of the phase ladder are
recorded as always.

* `untouched_of_quiet`: a call that takes none of these paths changes nothing but the finalizers and
  the status of the control plane it is for.
* `dryRun_untouched`: so does a run of such calls. -/

namespace OpenchamiOperator.Controller

open Lib Api Reconcilers Status Relation

/-! ### What may change -/

/-- A control plane without its finalizers and its status. -/
def strip (cp : ControlPlane) : ControlPlane :=
  { cp with metadata := { cp.metadata with finalizers := [] }, status := {} }

/-- Nothing outside the finalizers and the status of the control planes in `called` is different. -/
structure Untouched (called : Set (String × String)) (w w' : World) : Prop where
  objects : w'.objects = w.objects
  events : w'.events = w.events
  vault : w'.vault = w.vault
  s3 : w'.s3 = w.s3
  controlPlanes : ∀ k, (w'.controlPlanes.get? k).map strip = (w.controlPlanes.get? k).map strip
  others : ∀ k ∉ called, w'.controlPlanes.get? k = w.controlPlanes.get? k

section Frame
variable {called : Set (String × String)}

theorem Untouched.refl (w : World) : Untouched called w w :=
  ⟨rfl, rfl, rfl, rfl, fun _ => rfl, fun _ _ => rfl⟩

theorem Untouched.trans {w₁ w₂ w₃ : World} (h : Untouched called w₁ w₂)
    (h' : Untouched called w₂ w₃) : Untouched called w₁ w₃ :=
  ⟨h'.objects.trans h.objects, h'.events.trans h.events, h'.vault.trans h.vault,
    h'.s3.trans h.s3, fun k => (h'.controlPlanes k).trans (h.controlPlanes k),
    fun k hk => (h'.others k hk).trans (h.others k hk)⟩

theorem Untouched.mono {more : Set (String × String)} {w w' : World} (h : Untouched called w w')
    (hsub : called ⊆ more) : Untouched more w w' :=
  { h with others := fun k hk => h.others k fun hc => hk (hsub hc) }

/-- Replacing a stored control plane by one that differs only in its finalizers and its status. -/
theorem untouched_apply {w : World} {cp stored : ControlPlane}
    (hget : w.controlPlanes.get? (planeKey cp) = some stored) (h : strip cp = strip stored)
    (log : List ControlPlane) : Untouched {planeKey cp} w
      { w with controlPlanes := w.controlPlanes.apply cp, statusLog := log } := by
  refine ⟨rfl, rfl, rfl, rfl, fun k => ?_, fun k hk => ?_⟩
  · rw [Store.get?_apply]
    split_ifs with heq
    · rw [← heq, hget, Option.map_some, Option.map_some, h]
    · rfl
  · rw [Store.get?_apply, if_neg fun heq => hk heq.symm]

end Frame

theorem untouched_patchFinalizers {k : String × String} {cp : ControlPlane} {w : World}
    (hget : w.controlPlanes.get? k = some cp) (hlive : cp.metadata.deletionTimestamp = false)
    (fs : List String) : Untouched {k} w (patchFinalizers k fs w).2 := by
  obtain ⟨-, hkey⟩ := Store.get?_eq_some_iff.mp hget
  let patched : ControlPlane := { cp with metadata := { cp.metadata with finalizers := fs } }
  have hstored : w.controlPlanes.get? (planeKey patched) = some cp :=
    (congrArg w.controlPlanes.get? hkey).trans hget
  have heffect : (patchFinalizers k fs w).2 =
      { w with controlPlanes := w.controlPlanes.apply patched } := by
    unfold patchFinalizers
    rw [hget]
    simp only
    rw [if_neg (by simp [hlive])]
  rw [heffect, ← hkey]
  exact untouched_apply hstored rfl _

/-! ### The events of a pass -/

/-- No event comes from the ladder of phases: either there was no regression of a service that the
phase `Ready` had vouched for, and no `False` condition about eligible nodes, or there is no
reporter. -/
def NoPhaseEvents (op : Operator) (cp : ControlPlane) : Prop :=
  op.reporter = true →
    (cp.status.phase = .ready → ∀ name ∈ enabledServiceNames cp, serviceReady cp name = true) ∧
      ∀ c ∈ cp.status.conditions, ¬ (c.status = .false ∧ c.type = .networkProbeReady ∧
        c.reason = Reason.noEligibleNodes)

theorem conditions_setCondition {cp : ControlPlane} {t : ConditionType} {s : ConditionStatus}
    {reason message : String} {P : Condition → Prop} (h : ∀ c ∈ cp.status.conditions, P c)
    (hnew : P ⟨t, s, reason, message, cp.metadata.generation⟩) :
    ∀ c ∈ (cp.setCondition t s reason message).status.conditions, P c := by
  intro c hc
  rcases mem_setStatusCondition hc with rfl | hc
  · exact hnew
  · exact h c hc

/-- The two conditions the controller itself sets are not about nodes. -/
theorem noEligible_managed {op : Operator} {p : Pass} {cp : ControlPlane}
    (h : ∀ c ∈ cp.status.conditions, ¬ (c.status = .false ∧ c.type = .networkProbeReady ∧
      c.reason = Reason.noEligibleNodes)) :
    ∀ c ∈ (managed op p (activated cp)).status.conditions,
      ¬ (c.status = .false ∧ c.type = .networkProbeReady ∧ c.reason = Reason.noEligibleNodes) := by
  have hactive : ∀ c ∈ (activated cp).status.conditions, ¬ (c.status = .false ∧
      c.type = .networkProbeReady ∧ c.reason = Reason.noEligibleNodes) :=
    conditions_setCondition h (by rintro ⟨hs, -⟩; cases hs)
  unfold managed aggregateServicesReady
  simp only
  split_ifs
  · exact conditions_setCondition hactive (by rintro ⟨hs, -⟩; cases hs)
  · exact conditions_setCondition hactive (by rintro ⟨-, ht, -⟩; cases ht)

/-- **A dry-run pass outside the pinned path leaves the world as it is** when the ladder is silent. -/
theorem reconcileAll_dryRun {op : Operator} (hdry : op.dryRun = true) {p : Pass} {cp : ControlPlane}
    (hpin : pinnedElsewhere op cp = false) (hquiet : NoPhaseEvents op cp) (w : World) :
    (reconcileAll op p cp w).2.2 = w := by
  have hsubs := runSubs_dryRun hdry p subs (activated cp) w 0
  unfold reconcileAll
  rw [hpin, hsubs]
  simp only [Bool.false_eq_true, if_false]
  split_ifs with hrep
  · obtain ⟨hreg, hno⟩ := hquiet hrep
    obtain ⟨-, hspec, hphase, hservices⟩ := aggregateServicesReady_frame p.order (activated cp)
    have hevents : phaseEvents (managed op p (activated cp)) = [] := by
      refine phaseEvents_eq_nil (fun hready name hname => ?_) (noEligible_managed hno)
      have hready' : cp.status.phase = .ready := hphase.symm.trans hready
      have hname' : name ∈ enabledServiceNames cp := by
        unfold enabledServiceNames serviceDefaults at hname ⊢
        simp only [managed, hspec] at hname
        exact hname
      have := hreg hready' name hname'
      unfold serviceReady at this ⊢
      simp only [managed, hservices]
      exact this
    unfold computeAndSetPhase World.record
    simp [hevents]
  · rfl

/-! ### Calls and runs -/

/-- The condition on a call for the control plane at `k`: it is not one that is being deleted and
still held, and if the call comes to a pass, it is not pinned elsewhere and no event is due. -/
def Quiet (op : Operator) (k : String × String) (w : World) : Prop :=
  ∀ cp, w.controlPlanes.get? k = some cp →
    (cp.metadata.deletionTimestamp = true → clusterFinalizer ∉ cp.metadata.finalizers) ∧
      (cp.metadata.deletionTimestamp = false → clusterFinalizer ∈ cp.metadata.finalizers →
        pinnedElsewhere op cp = false ∧ NoPhaseEvents op cp)

section Call
variable {op : Operator} {cp : ControlPlane} {w : World}
  (hstored : w.controlPlanes.get? (planeKey cp) = some cp)

include hstored in
/-- Adding the finalizer, whether the request gets through or not. -/
theorem untouched_addFinalizer (hlive : cp.metadata.deletionTimestamp = false) (fs : List Fate) :
    Untouched {planeKey cp} w
      ((addFinalizer cp >>= fun _ => (pure 0 : Prog World OpError ℕ)).run ⟨w, fs⟩).2.state := by
  have htriple : Prog.Triple (fun v => v = w)
      (addFinalizer cp >>= fun _ => (pure 0 : Prog World OpError ℕ))
      (fun _ => Untouched {planeKey cp} w) fun _ => Untouched {planeKey cp} w := by
    refine Prog.Triple.bind (R := fun _ => Untouched {planeKey cp} w) ?_
      fun _ => Prog.Triple.pure fun _ h => h
    refine Prog.Triple.ignoring (E := fun _ => Untouched {planeKey cp} w)
      (Prog.Triple.request ?_ ?_ ?_ ?_) (fun _ _ hp _ => by cases hp) fun _ _ _ h => h
    · rintro v _ rfl _
      exact untouched_patchFinalizers hstored hlive _
    · rintro v _ rfl _
      exact untouched_patchFinalizers hstored hlive _
    · rintro v rfl
      exact Untouched.refl v
    · rintro v rfl
      exact untouched_patchFinalizers hstored hlive _
  obtain ⟨hok, herr⟩ := htriple ⟨w, fs⟩ rfl
  rcases hrun : (addFinalizer cp >>= fun _ => (pure 0 : Prog World OpError ℕ)).run ⟨w, fs⟩
    with ⟨e | a, m⟩
  · exact herr e m hrun
  · exact hok a m hrun

include hstored in
/-- A pass changes the status of the stored object and nothing else. -/
theorem untouched_reconcilePass (hdry : op.dryRun = true) (hpin : pinnedElsewhere op cp = false)
    (hevents : NoPhaseEvents op cp) (p : Pass) (fs : List Fate) :
    Untouched {planeKey cp} w ((reconcilePass op p cp).run ⟨w, fs⟩).2.state := by
  have hworld : (reconcileAll op p (observed cp) w).2.2 = w :=
    @reconcileAll_dryRun op hdry p (observed cp) hpin hevents w
  obtain ⟨hm, hsp, -, -⟩ := reconcileAll_frame op p (observed cp) w
  have hkey : planeKey (reconcileAll op p (observed cp) w).2.1 = planeKey cp := by
    unfold planeKey
    rw [hm]
    rfl
  rcases @reconcilePass_state op p cp ⟨w, fs⟩ hstored with hp | hp
  · rw [hp, hworld]
    exact Untouched.refl w
  · have hstrip : strip (reconcileAll op p (observed cp) w).2.1 = strip cp := by
      unfold strip
      rw [hm, hsp]
      rfl
    rw [hp, hworld, ← hkey]
    exact untouched_apply (hkey ▸ hstored) hstrip _

end Call

/-- **One quiet call**, with any requests failing. -/
theorem untouched_of_quiet {op : Operator} (hdry : op.dryRun = true) {k : String × String}
    {w : World} (hquiet : Quiet op k w) (p : Pass) (fates : List Fate) :
    Untouched {k} w ((reconcile op p k).run ⟨w, fates⟩).2.state := by
  rcases reconcile_state op p k ⟨w, fates⟩ with hs | ⟨cp, fs, hget, hs⟩
  · rw [hs]
    exact Untouched.refl w
  rw [hs]
  obtain ⟨hdeleted, hlive⟩ := hquiet cp hget
  obtain ⟨-, hkey⟩ := Store.get?_eq_some_iff.mp hget
  have hstored : w.controlPlanes.get? (planeKey cp) = some cp := hkey.symm ▸ hget
  rw [← hkey]
  unfold reconcileFound
  by_cases hdel : cp.metadata.deletionTimestamp = true
  · -- being deleted, but not held by us any more: nothing is done
    have hnone : reconcileDelete op cp = pure () := if_pos (hdeleted hdel)
    rw [if_pos hdel, hnone]
    exact Untouched.refl w
  have hnot : cp.metadata.deletionTimestamp = false := by simpa using hdel
  rw [if_neg hdel]
  by_cases hfin : clusterFinalizer ∉ cp.metadata.finalizers
  · rw [if_pos hfin]
    exact untouched_addFinalizer hstored hnot fs
  · rw [if_neg hfin]
    obtain ⟨hpin, hevents⟩ := hlive hnot (not_not.mp hfin)
    exact untouched_reconcilePass hstored hdry hpin hevents p fs

/-- **Dry-run has no side effects**, in every run of quiet calls on any control planes: the planes
that were called may have another list of finalizers and another status, and nothing else differs. -/
theorem dryRun_untouched {op : Operator} (hdry : op.dryRun = true) {called : Set (String × String)}
    {w w' : World} (hrun : ReflTransGen (fun v v' => ∃ k ∈ called, ∃ p fates, Quiet op k v ∧
      v' = ((reconcile op p k).run ⟨v, fates⟩).2.state) w w') : Untouched called w w' := by
  induction hrun with
  | refl => exact Untouched.refl w
  | tail _ hstep ih =>
    obtain ⟨k, hk, p, fates, hquiet, rfl⟩ := hstep
    exact ih.trans ((untouched_of_quiet hdry hquiet p fates).mono (Set.singleton_subset_iff.mpr hk))

/-- A quiet call on a fresh control plane persists a status and nothing else. -/
theorem dryRun_untouched_fresh : Untouched {("default", "alpha")} freshWorld
    ((reconcile { dryRun := true } {} ("default", "alpha")).run ⟨freshWorld, []⟩).2.state := by
  refine @dryRun_untouched { dryRun := true } rfl _ _ _ (ReflTransGen.single
    ⟨("default", "alpha"), rfl, {}, [], fun cp hcp => ?_, rfl⟩)
  have hfresh : freshWorld.controlPlanes.get? ("default", "alpha") = some freshPlane := by decide
  rw [hfresh, Option.some.injEq] at hcp
  subst hcp
  exact ⟨fun h => (by cases h), fun _ _ => ⟨by decide, fun _ => ⟨fun h => (by cases h), by decide⟩⟩⟩

/-- Deleting a control plane in dry-run mode wipes its secrets and starts deleting its namespace. -/
theorem dryRun_wipes_vault :
    doomedWorld.vault.secrets ≠ [] ∧
      ((reconcile { dryRun := true } {} ("default", "alpha")).run
        ⟨doomedWorld, []⟩).2.state.vault.secrets = [] ∧
      ¬ Untouched Set.univ doomedWorld ((reconcile { dryRun := true } {} ("default", "alpha")).run
        ⟨doomedWorld, []⟩).2.state := by
  have hwiped : ((reconcile { dryRun := true } {} ("default", "alpha")).run
      ⟨doomedWorld, []⟩).2.state.vault.secrets = [] := by decide
  refine ⟨by decide, hwiped, fun h => ?_⟩
  have hsame := congrArg Vault.Kv.secrets h.vault
  rw [hwiped] at hsame
  exact absurd hsame (by decide)

end OpenchamiOperator.Controller
