import Mathlib.Logic.Relation
import OpenchamiOperator.Controller.Reconcile

/-! # What a persisted `Ready` means

The phase is computed at the end of a pass, the status is persisted on every exit. A pass that is cut
short by an error persists the conditions written so far together with the phase it found, so a
`Ready` survives when the pass was entered with it.

* `runSubs_healthy`: writes that report nothing bad keep a healthy object healthy.
* `reconcileAll_ready`: when a pass may leave the phase `Ready`.
* `persisted_ready`: over any run of calls that meet the condition `KeepsReady`, a status persisted
  with the phase `Ready` is healthy. -/

namespace OpenchamiOperator.Controller

open Lib Api Reconcilers Status Relation

/-! ### Passes that are cut short -/

/-- Some sub-reconciler returns an error. -/
def Pass.Fails (p : Pass) : Prop := ∃ sub e, (p.runs sub).result = .error e

/-- The sub-reconcilers a pass calls: up to the first error. -/
def reached (p : Pass) : List Sub → List Sub
  | [] => []
  | sub :: rest => sub ::
    match (p.runs sub).result with
    | .error _ => []
    | .ok _ => reached p rest

/-- The write reports nothing bad. -/
def StatusWrite.Good : StatusWrite → Prop
  | .condition _ status _ _ => status ≠ .false
  | .service _ status => status.ready = true
  | .gateway _ => True
  | .networkProbe _ => True
  | .field _ _ => True

theorem healthy_setCondition {cp : ControlPlane} {t : ConditionType} {s : ConditionStatus}
    {reason message : String} (h : Healthy cp) (hs : s ≠ .false) :
    Healthy (cp.setCondition t s reason message) := by
  refine ⟨fun c hc => ?_, h.2⟩
  rcases mem_setStatusCondition hc with rfl | hc
  · exact hs
  · exact h.1 c hc

theorem StatusWrite.Good.healthy {x : StatusWrite} (hx : x.Good) {cp : ControlPlane}
    (h : Healthy cp) : Healthy (x.apply cp) := by
  cases x with
  | condition t s reason message => exact healthy_setCondition h hx
  | service name st =>
    refine ⟨h.1, fun svc hsvc => ?_⟩
    have hready := h.2 svc hsvc
    unfold serviceReady at hready ⊢
    simp only [StatusWrite.apply, GoMap.get?_insert]
    split_ifs
    · exact hx
    · exact hready
  | gateway g => exact h
  | networkProbe p => exact h
  | field f value => cases f <;> exact h

theorem writes_healthy : ∀ {xs : List StatusWrite} {cp : ControlPlane}, (∀ x ∈ xs, x.Good) →
    Healthy cp → Healthy (xs.foldl StatusWrite.apply cp)
  | [], _, _, h => h
  | x :: xs, cp, hx, h => by
    have htail : ∀ y ∈ xs, y.Good := fun y hy => hx y (List.mem_cons_of_mem x hy)
    rw [List.foldl_cons]
    exact writes_healthy htail ((hx x (by simp)).healthy h)

/-- The loop over the sub-reconcilers, by induction on those still to call. -/
theorem runSubs_healthy {op : Operator} (hdry : op.dryRun = false) {p : Pass} :
    ∀ {l : List Sub} {cp : ControlPlane} {w : World} {longest : ℕ},
      (∀ sub ∈ reached p l, ∀ x ∈ (p.runs sub).writes, x.Good) → Healthy cp →
        Healthy (runSubs op p l cp w longest).2.1
  | [], _, _, _, _, h => h
  | sub :: rest, cp, w, longest, hgood, h => by
    have hsub : Healthy ((p.runs sub).writes.foldl StatusWrite.apply cp) :=
      writes_healthy (hgood sub (by simp [reached])) h
    unfold runSubs
    rw [if_neg (by simp [hdry])]
    rcases hresult : (p.runs sub).result with e | requeue
    · exact hsub
    · refine runSubs_healthy hdry (fun sub' hsub' => hgood sub' ?_) hsub
      unfold reached
      rw [hresult]
      exact List.mem_cons_of_mem _ hsub'

/-- An error of the loop is that of a sub-reconciler. -/
theorem runSubs_error {op : Operator} {p : Pass} : ∀ {l : List Sub} {cp : ControlPlane} {w : World}
    {longest : ℕ} {e : OpError} {r : ControlPlane × World},
      runSubs op p l cp w longest = (.error e, r) → p.Fails
  | [], _, _, _, _, _, h => by cases h
  | sub :: rest, cp, w, longest, e, r, h => by
    unfold runSubs at h
    split_ifs at h
    · exact runSubs_error h
    · rcases hresult : (p.runs sub).result with e' | requeue
      · exact ⟨sub, e', hresult⟩
      · rw [hresult] at h
        exact runSubs_error h

/-! ### One pass -/

/-- The condition on a pass over `cp` under which it reports no stale `Ready`: if it is entered with
`Ready` and a sub-reconciler fails, then none of those called reports anything bad, and every service
the specification enables was ready before. -/
def KeepsReady (p : Pass) (cp : ControlPlane) : Prop :=
  cp.status.phase = .ready → p.Fails →
    (∀ sub ∈ reached p subs, ∀ x ∈ (p.runs sub).writes, x.Good) ∧
      ∀ name ∈ enabledServiceNames cp, serviceReady cp name = true

theorem healthy_managed {op : Operator} {p : Pass} {cp : ControlPlane}
    (h : (computeAndSetPhase (managed op p cp)).1.status.phase = .ready) :
    Healthy (computeAndSetPhase (managed op p cp)).1 := by
  have hready : Healthy (managed op p cp) := computePhase_ready_iff.mp h
  exact hready

/-- **A pass that ends with the phase `Ready` leaves a healthy object**, under the condition. -/
theorem reconcileAll_ready {op : Operator} (hdry : op.dryRun = false) (hrep : op.reporter = true)
    {p : Pass} {cp : ControlPlane} (hpin : pinnedElsewhere op cp = false)
    (hbefore : cp.status.phase = .ready → ∀ c ∈ cp.status.conditions, c.status ≠ .false)
    (hkeeps : KeepsReady p cp) (w : World)
    (h : (reconcileAll op p cp w).2.1.status.phase = .ready) :
    Healthy (reconcileAll op p cp w).2.1 := by
  rcases reconcileAll_cases (p := p) (w := w) hpin with
    ⟨e, cp', w', hrun, heq⟩ | ⟨longest, cp', w', hrun, heq⟩
  · -- cut short: the phase is the one it was entered with
    obtain ⟨-, -, hphase, -, -⟩ := runSubs_frame op p subs (activated cp) w 0
    rw [hrun] at hphase
    rw [heq] at h ⊢
    have hready : cp.status.phase = .ready := hphase.symm.trans h
    obtain ⟨hgood, hsvc⟩ := hkeeps hready (runSubs_error hrun)
    have hstart : Healthy (activated cp) :=
      healthy_setCondition ⟨hbefore hready, hsvc⟩ (by decide)
    have hend : Healthy (runSubs op p subs (activated cp) w 0).2.1 :=
      runSubs_healthy hdry hgood hstart
    rw [hrun] at hend
    exact hend
  · rw [heq, if_pos hrep] at h ⊢
    exact healthy_managed h

/-! ### Runs -/

/-- What happens to the control plane at `k`: its owner edits anything but the status, or the
operator reconciles it, with any requests failing. The calls are those of an operator that is not in
dry-run mode and has a reporter, on a control plane not pinned elsewhere; `cond` is a condition on
the pass and on the object it finds. -/
inductive Turn (op : Operator) (cond : Pass → ControlPlane → Prop) (k : String × String) :
    World → World → Prop
  | edit {w : World} {cp cp' : ControlPlane} (hget : w.controlPlanes.get? k = some cp)
      (hkey : planeKey cp' = k) (hstatus : cp'.status = cp.status) :
      Turn op cond k w { w with controlPlanes := w.controlPlanes.apply cp' }
  | call {w : World} (p : Pass) (fates : List Fate)
      (hpin : ∀ cp, w.controlPlanes.get? k = some cp → pinnedElsewhere op cp = false)
      (hcond : ∀ cp, w.controlPlanes.get? k = some cp → cond p cp) :
      Turn op cond k w ((reconcile op p k).run ⟨w, fates⟩).2.state

/-- The invariant: a stored `Ready` has no `False` condition, and every status persisted so far with
the phase `Ready` was healthy when it was persisted. -/
structure ReadyInv (k : String × String) (w : World) : Prop where
  stored : ∀ cp, w.controlPlanes.get? k = some cp → cp.status.phase = .ready →
    ∀ c ∈ cp.status.conditions, c.status ≠ .false
  logged : ∀ cp ∈ w.statusLog, cp.status.phase = .ready → Healthy cp

/-- The invariant looks only at the status of the stored object and at the log. -/
theorem ReadyInv.of_status {k : String × String} {w w' : World} (h : ReadyInv k w)
    (hlog : w'.statusLog = w.statusLog)
    (hstatus : ∀ cp', w'.controlPlanes.get? k = some cp' →
      ∃ cp, w.controlPlanes.get? k = some cp ∧ cp'.status = cp.status) : ReadyInv k w' := by
  refine ⟨fun cp' hget hready => ?_, fun cp hcp => h.logged cp (hlog ▸ hcp)⟩
  obtain ⟨cp, hcp, heq⟩ := hstatus cp' hget
  rw [heq] at hready ⊢
  exact h.stored cp hcp hready

theorem ReadyInv.of_frame {k : String × String} {w w' : World} (h : ReadyInv k w)
    (hcps : w'.controlPlanes = w.controlPlanes) (hlog : w'.statusLog = w.statusLog) :
    ReadyInv k w' :=
  h.of_status hlog fun cp' hget => ⟨cp', hcps ▸ hget, rfl⟩

theorem ReadyInv.patchFinalizers {k j : String × String} {w : World} (h : ReadyInv k w)
    (fs : List String) : ReadyInv k (patchFinalizers j fs w).2 := by
  obtain ⟨-, -, -, -, hlog⟩ := patchFinalizers_frame j fs w
  refine h.of_status hlog fun cp' hget => ?_
  obtain ⟨stored, fs', hstored, rfl⟩ := get?_patchFinalizers hget
  exact ⟨stored, hstored, rfl⟩

theorem reconcileDelete_readyInv {k : String × String} {op : Operator} {cp : ControlPlane} :
    Prog.Keeps (ReadyInv k) (reconcileDelete op cp) := by
  refine reconcileDelete_keeps (fun w hw => ?_) (fun kv w hw _ => hw.of_frame rfl rfl)
    (fun _ _ bs w hw _ => hw.of_frame rfl rfl) (fun kind _ w hw => ?_) fun fs w hw => ?_
  · obtain ⟨hc, -, -, -, hl⟩ := deleteNamespace_frame (controlPlaneNamespace cp) w
    exact hw.of_frame hc hl
  · obtain ⟨hc, -, -, -, hl⟩ := deleteClusterObject_frame kind (networkProbeRoleName cp) w
    exact hw.of_frame hc hl
  · exact hw.patchFinalizers fs

/-- **One pass keeps the invariant.** -/
theorem ReadyInv.pass {op : Operator} (hdry : op.dryRun = false) (hrep : op.reporter = true)
    {k : String × String} {p : Pass} {cp : ControlPlane} {n : Net World} (h : ReadyInv k n.state)
    (hget : n.state.controlPlanes.get? k = some cp) (hpin : pinnedElsewhere op cp = false)
    (hkeeps : KeepsReady p cp) : ReadyInv k ((reconcilePass op p cp).run n).2.state := by
  obtain ⟨-, hkey⟩ := Store.get?_eq_some_iff.mp hget
  obtain ⟨hm, -, hc, hl⟩ := reconcileAll_frame op p (observed cp) n.state
  have hunpatched : ReadyInv k (reconcileAll op p (observed cp) n.state).2.2 := h.of_frame hc hl
  have hready := @reconcileAll_ready op hdry hrep p (observed cp) hpin
    (h.stored cp hget) hkeeps n.state
  have hkey' : planeKey (reconcileAll op p (observed cp) n.state).2.1 = k := by
    unfold planeKey
    rw [hm]
    exact hkey
  rcases @reconcilePass_state op p cp n (hkey.symm ▸ hget) with hs | hs
  · rw [hs]
    exact hunpatched
  · rw [hs]
    constructor
    · intro cp' hcp'
      simp only [Store.get?_apply, hkey', if_true, Option.some.injEq] at hcp'
      subst hcp'
      exact fun hr => (hready hr).1
    · intro cp' hcp'
      rcases List.mem_cons.mp hcp' with rfl | hcp'
      · exact hready
      · exact hunpatched.logged cp' hcp'

/-- **One call keeps the invariant**, on whichever path it takes. -/
theorem ReadyInv.turn {op : Operator} (hdry : op.dryRun = false) (hrep : op.reporter = true)
    {k : String × String} {w w' : World} (h : ReadyInv k w) (ht : Turn op KeepsReady k w w') :
    ReadyInv k w' := by
  cases ht with
  | @edit cp cp' hget hkey hstatus =>
    refine h.of_status rfl fun c hc => ?_
    simp only [Store.get?_apply, hkey, if_true, Option.some.injEq] at hc
    exact ⟨cp, hget, hc ▸ hstatus⟩
  | call p fates hpin hcond =>
    rcases reconcile_state op p k ⟨w, fates⟩ with hs | ⟨cp, fs, hget, hs⟩
    · rw [hs]
      exact h
    · rw [hs]
      unfold reconcileFound
      split_ifs
      · have hkeeps : Prog.Keeps (ReadyInv k)
            (reconcileDelete op cp >>= fun _ => (pure 0 : Prog World OpError ℕ)) :=
          Prog.Keeps.bind reconcileDelete_readyInv fun _ => Prog.Keeps.pure 0
        exact hkeeps.state ⟨w, fs⟩ h
      · exact h.pass hdry hrep hget (hpin cp hget) (hcond cp hget)
      · have hadd : Prog.Keeps (ReadyInv k) (addFinalizer cp) :=
          Prog.Keeps.ignoring (Prog.Keeps.request fun w hw => hw.patchFinalizers _)
        have hkeeps : Prog.Keeps (ReadyInv k)
            (addFinalizer cp >>= fun _ => (pure 0 : Prog World OpError ℕ)) :=
          Prog.Keeps.bind hadd fun _ => Prog.Keeps.pure 0
        exact hkeeps.state ⟨w, fs⟩ h

/-- **`Ready` is not reported over a failure**, in every run whose calls meet `KeepsReady`: started
from an empty status, every status persisted with the phase `Ready` has no `False` condition, and
every service enabled in its specification is ready. -/
theorem persisted_ready {op : Operator} (hdry : op.dryRun = false) (hrep : op.reporter = true)
    {k : String × String} {w₀ w : World} {cp₀ : ControlPlane}
    (hnew : w₀.controlPlanes.get? k = some cp₀ ∧ cp₀.status = {} ∧ w₀.statusLog = [])
    (hrun : ReflTransGen (Turn op KeepsReady k) w₀ w) :
    ∀ cp ∈ w.statusLog, cp.status.phase = .ready →
      (∀ c ∈ cp.status.conditions, c.status ≠ .false) ∧
        ∀ name ∈ enabledServiceNames cp, serviceReady cp name = true := by
  have hstart : ReadyInv k w₀ := by
    obtain ⟨hget, hempty, hlog⟩ := hnew
    refine ⟨fun cp hcp hready => ?_, fun cp hcp => ?_⟩
    · rw [hget, Option.some.injEq] at hcp
      rw [← hcp, hempty] at hready
      cases hready
    · rw [hlog] at hcp
      cases hcp
  have hinv : ReadyInv k w := by
    clear hnew
    induction hrun with
    | refl => exact hstart
    | tail _ hstep ih => exact ih.turn hdry hrep hstep
  exact hinv.logged

/-- A control plane with one service, before its first pass. -/
def freshPlane : ControlPlane where
  metadata := { name := "alpha", «namespace» := "default", finalizers := [clusterFinalizer] }
  spec := { clusterName := "alpha", services := { smd := { enabled := true } } }

def freshWorld : World where
  controlPlanes := Store.empty.apply freshPlane

/-- Every sub-reconciler succeeds, and SMD is ready. -/
def smoothPass : Pass where
  runs
    | .smd => { writes := [.service "smd" { ready := true }] }
    | _ => {}

/-- Vault cannot be reached: its sub-reconciler sets its condition and returns the error. -/
def vaultDownPass : Pass where
  runs
    | .vault =>
      { writes := [.condition .vaultConfigured .false Reason.error "vault unreachable"]
        result := .error ⟨"vault unreachable", .failed⟩ }
    | _ => {}

def afterSmooth : World := ((reconcile {} smoothPass ("default", "alpha")).run ⟨freshWorld, []⟩).2.state

def afterVaultDown : World :=
  ((reconcile {} vaultDownPass ("default", "alpha")).run ⟨afterSmooth, []⟩).2.state

theorem pinnedElsewhere_of_channel {op : Operator} {w : World} {k : String × String}
    (h : (w.controlPlanes.get? k).all (fun cp => cp.spec.operatorChannel = "") = true) :
    ∀ cp, w.controlPlanes.get? k = some cp → pinnedElsewhere op cp = false := by
  intro cp hcp
  rw [hcp] at h
  have hchannel : cp.spec.operatorChannel = "" := by simpa using h
  unfold pinnedElsewhere
  rw [hchannel]
  rfl

/-- The gateway cannot be applied. -/
def gatewayDownPass : Pass where
  runs
    | .gateway => { result := .error ⟨"applying the gateway", .failed⟩ }
    | _ => {}

def afterGatewayDown : World :=
  ((reconcile {} gatewayDownPass ("default", "alpha")).run ⟨afterSmooth, []⟩).2.state

theorem keepsReady_fresh (p : Pass) : ∀ cp,
    freshWorld.controlPlanes.get? ("default", "alpha") = some cp → KeepsReady p cp := by
  intro cp hcp hready
  have hfresh : freshWorld.controlPlanes.get? ("default", "alpha") = some freshPlane := by decide
  rw [hfresh, Option.some.injEq] at hcp
  rw [← hcp] at hready
  cases hready

theorem keepsReady_afterSmooth : ∀ cp, afterSmooth.controlPlanes.get? ("default", "alpha") = some cp →
    KeepsReady gatewayDownPass cp := by
  intro cp hcp _ _
  have hservices : (afterSmooth.controlPlanes.get? ("default", "alpha")).all
      (fun cp => (enabledServiceNames cp).all (serviceReady cp)) = true := by decide
  rw [hcp] at hservices
  refine ⟨fun sub _ x hx => ?_, List.all_eq_true.mp hservices⟩
  cases sub <;> cases hx

/-- A second call is entered with `Ready` and fails, with nothing bad to report. -/
theorem persisted_ready_afterGatewayDown :
    (afterGatewayDown.statusLog.map fun cp => cp.status.phase) = [.ready, .ready] ∧
    ∀ cp ∈ afterGatewayDown.statusLog, cp.status.phase = .ready →
      (∀ c ∈ cp.status.conditions, c.status ≠ .false) ∧
        ∀ name ∈ enabledServiceNames cp, serviceReady cp name = true := by
  have hfirst : Turn {} KeepsReady ("default", "alpha") freshWorld afterSmooth :=
    .call smoothPass [] (pinnedElsewhere_of_channel (by decide)) (keepsReady_fresh smoothPass)
  have hsecond : Turn {} KeepsReady ("default", "alpha") afterSmooth afterGatewayDown :=
    .call gatewayDownPass [] (pinnedElsewhere_of_channel (by decide)) keepsReady_afterSmooth
  exact ⟨by decide, @persisted_ready {} rfl rfl ("default", "alpha") freshWorld _ freshPlane
    ⟨by decide, rfl, rfl⟩ ((ReflTransGen.single hfirst).tail hsecond)⟩

/-- The second pass persists the failure of Vault under the phase of the first. -/
theorem ready_over_vault_failure :
    ReflTransGen (Turn {} (fun _ _ => True) ("default", "alpha")) freshWorld afterVaultDown ∧
      ∃ cp ∈ afterVaultDown.statusLog, cp.status.phase = .ready ∧
        ∃ c ∈ cp.status.conditions, c.status = .false := by
  constructor
  · refine (ReflTransGen.single (Turn.call smoothPass [] ?_ fun _ _ => trivial)).tail
      (Turn.call vaultDownPass [] ?_ fun _ _ => trivial)
    · exact pinnedElsewhere_of_channel (by decide)
    · exact pinnedElsewhere_of_channel
        (show (afterSmooth.controlPlanes.get? ("default", "alpha")).all _ = true by decide)
  · decide

end OpenchamiOperator.Controller
