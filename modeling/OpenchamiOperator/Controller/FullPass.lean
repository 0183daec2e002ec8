import OpenchamiOperator.Reconcilers.Edge
import OpenchamiOperator.Reconcilers.Logging
import OpenchamiOperator.Reconcilers.NetworkPolicies
import OpenchamiOperator.Reconcilers.NodeServices
import OpenchamiOperator.Reconcilers.Platform

/-! # A full pass

The pass of `reconcileAll` in which every sub-reconciler runs its own program on the object as its
predecessors left it, with given answers to its reads and given fates of its requests.

* `runSubs_fullPass`: a full pass without an error has done all the actions of all programs.
* `runSubs_served`: when every request is served and no program stops, a full pass has no error.
* `reconcileAll_fullPass`: the outcome of `reconcileAll` in terms of these actions. -/

namespace OpenchamiOperator.Controller

open Lib Api Reconcilers

/-! ### Programs -/

/-- What each sub-reconciler does. -/
def program (op : Operator) (obs : Observed) (cp : ControlPlane) : Sub → Program
  | .namespace => reconcileNamespace cp
  | .rbac => reconcileRBAC cp
  | .vault => reconcileVault op obs cp
  | .bucket => reconcileBucket op obs cp
  | .database => reconcileDatabase obs cp
  | .serviceIdentity => reconcileServiceIdentity obs cp
  | .smd => reconcileSMD obs cp
  | .tokensmith => reconcileTokensmith obs cp
  | .bootService => reconcileBootService obs cp
  | .metadataService => reconcileMetadataService obs cp
  | .networkProbe => reconcileNetworkProbe obs cp
  | .coreDHCP => reconcileCoreDHCP obs cp
  | .magellan => reconcileMagellan obs cp
  | .certificates => reconcileCertificates obs cp
  | .gateway => reconcileGateway obs cp
  | .networkPolicies => reconcileNetworkPolicies obs.network cp
  | .topology => reconcileTopology obs cp
  | .serviceMonitor => reconcileServiceMonitor cp
  | .logBucket => reconcileLogBucket op obs cp
  | .funicular => reconcileFunicular obs cp
  | .logqCompactor => reconcileLogqCompactor cp
  | .logqQuery => reconcileLogqQuery obs cp

/-- What a pass depends on besides the object: the operator, the answers to the reads, the fates of
the requests, and the order in which the services are listed at the end. -/
structure Env where
  op : Operator := {}
  obs : Observed := {}
  fates : Sub → List Fate := fun _ => []
  order : List Service := [.smd, .tokensmith, .bootService, .metadataService]
  perm : order.Perm [.smd, .tokensmith, .bootService, .metadataService] := by decide

theorem order_perm : List.Perm [Service.smd, .tokensmith, .bootService, .metadataService]
    [.smd, .tokensmith, .bootService, .metadataService] := .refl _

variable (env : Env)

/-- One call, on the object in memory. -/
def Env.call (cp : ControlPlane) (sub : Sub) : SubRun :=
  (program env.op env.obs cp sub).run cp (env.fates sub)

/-- The object in memory after a call. -/
def Env.called (cp : ControlPlane) (sub : Sub) : ControlPlane :=
  (env.call cp sub).writes.foldl StatusWrite.apply cp

/-- The object in memory when `sub` is called. -/
def Env.before (cp : ControlPlane) (sub : Sub) : ControlPlane :=
  (subs.takeWhile (· ≠ sub)).foldl env.called cp

/-- The pass over an object. -/
def fullPass (cp : ControlPlane) : Pass where
  runs sub := env.call (env.before (activated cp) sub) sub
  order := env.order
  perm := env.perm

/-! ### Passes without an error -/

/-- The object after a call that does all its actions. -/
def Env.done (cp : ControlPlane) (sub : Sub) : ControlPlane :=
  (program env.op env.obs cp sub).writes.foldl StatusWrite.apply cp

/-- The actions of the calls of `l`, one after the other. -/
def Env.acts : List Sub → ControlPlane → List Act
  | [], _ => []
  | sub :: rest, cp => (program env.op env.obs cp sub).acts ++ Env.acts rest (env.done cp sub)

variable {env}

/-- What an action does depends on the identity of the object only. -/
theorem Act.run_congr {cp cp' : ControlPlane} (h : cp.metadata = cp'.metadata) (w : World) (a : Act) :
    a.run cp w = a.run cp' w := by
  cases a with
  | event e =>
    simp only [Act.run, World.record, planeKey, h]
  | request eff context writes events =>
    cases eff with
    | ensureSecret path overwrite => simp only [Act.run, Effect.run, h]
    | _ => rfl
  | _ => rfl

theorem Env.done_frame (cp : ControlPlane) (sub : Sub) :
    (env.done cp sub).metadata = cp.metadata ∧ (env.done cp sub).spec = cp.spec := by
  obtain ⟨hm, hs, -⟩ := writes_frame (program env.op env.obs cp sub).writes cp
  exact ⟨hm, hs⟩

theorem Env.dones_frame : ∀ (l : List Sub) (cp : ControlPlane),
    (l.foldl env.done cp).metadata = cp.metadata ∧ (l.foldl env.done cp).spec = cp.spec
  | [], _ => ⟨rfl, rfl⟩
  | sub :: rest, cp => by
    obtain ⟨hm, hs⟩ := Env.dones_frame rest (env.done cp sub)
    obtain ⟨hm', hs'⟩ := env.done_frame cp sub
    exact ⟨hm.trans hm', hs.trans hs'⟩

/-- Effects of actions leave what the loop restores anyway. -/
theorem acts_frame (cp : ControlPlane) : ∀ (acts : List Act) (w : World),
    (acts.foldl (Act.run cp) w).controlPlanes = w.controlPlanes ∧
      (acts.foldl (Act.run cp) w).statusLog = w.statusLog
  | [], _ => ⟨rfl, rfl⟩
  | a :: acts, w => by
    obtain ⟨hc, hl⟩ := acts_frame cp acts (a.run cp w)
    obtain ⟨hc', hl'⟩ := a.run_frame cp w
    exact ⟨hc.trans hc', hl.trans hl'⟩

theorem acts_congr {cp cp' : ControlPlane} (h : cp.metadata = cp'.metadata) (acts : List Act)
    (w : World) : acts.foldl (Act.run cp) w = acts.foldl (Act.run cp') w := by
  have hrun : Act.run cp = Act.run cp' := funext₂ fun w a => Act.run_congr h w a
  rw [hrun]

theorem subs_nodup : subs.Nodup := by decide

theorem takeWhile_subs {pre rest : List Sub} {sub : Sub} (h : pre ++ sub :: rest = subs) :
    subs.takeWhile (· ≠ sub) = pre := by
  have hnodup : (pre ++ sub :: rest).Nodup := h ▸ subs_nodup
  have hpre : ∀ s ∈ pre, decide (s ≠ sub) = true := fun s hs => by
    have hne : s ≠ sub := (List.nodup_append.mp hnodup).2.2 s hs sub (by simp)
    simpa using hne
  rw [← h, List.takeWhile_append_of_pos hpre]
  simp

/-- **A full pass without an error has done all its actions**, by induction on the calls that are
left. -/
theorem runSubs_fullPass (hdry : env.op.dryRun = false) (cp : ControlPlane) {longest : ℕ}
    {cp' : ControlPlane} {w' : World} : ∀ {rest pre : List Sub} {w : World} {n : ℕ},
      pre ++ rest = subs → pre.foldl env.called (activated cp) = pre.foldl env.done (activated cp) →
      runSubs env.op (fullPass env cp) rest (pre.foldl env.done (activated cp)) w n =
        (.ok longest, cp', w') →
      (∀ a ∈ env.acts rest (pre.foldl env.done (activated cp)), a.isStop = false) ∧
        cp' = subs.foldl env.done (activated cp) ∧
        w' = (env.acts rest (pre.foldl env.done (activated cp))).foldl (Act.run cp) w
  | [], pre, w, n, hsplit, _, h => by
    rw [List.append_nil] at hsplit
    cases h
    rw [hsplit]
    exact ⟨by simp [Env.acts], rfl, rfl⟩
  | sub :: rest, pre, w, n, hsplit, hpre, h => by
    let c := pre.foldl env.done (activated cp)
    have hcall : (fullPass env cp).runs sub = env.call c sub := by
      unfold fullPass Env.before
      simp only [takeWhile_subs hsplit, hpre]
      rfl
    unfold runSubs at h
    rw [if_neg (by simp [hdry]), hcall] at h
    rcases hresult : (env.call c sub).result with e | requeue
    · rw [hresult] at h
      cases h
    · obtain ⟨-, hstop, hwrites, heffect⟩ := runActs_ok hresult
      have hdone : env.called c sub = env.done c sub := by
        unfold Env.called Env.done
        exact congrArg (·.foldl StatusWrite.apply c) hwrites
      have hsplit' : (pre ++ [sub]) ++ rest = subs := by simpa using hsplit
      have hfold : (pre ++ [sub]).foldl env.done (activated cp) = env.done c sub := by
        rw [List.foldl_append]
        rfl
      have hpre' : (pre ++ [sub]).foldl env.called (activated cp) =
          (pre ++ [sub]).foldl env.done (activated cp) := by
        rw [hfold, List.foldl_append, hpre]
        exact hdone
      have hmeta : c.metadata = cp.metadata := (env.dones_frame pre (activated cp)).1
      have hworld : { (env.call c sub).effect w with
          controlPlanes := w.controlPlanes, statusLog := w.statusLog } =
            (program env.op env.obs c sub).acts.foldl (Act.run cp) w := by
        obtain ⟨hc, hl⟩ := acts_frame cp (program env.op env.obs c sub).acts w
        have hrun : (env.call c sub).effect w =
            (program env.op env.obs c sub).acts.foldl (Act.run cp) w :=
          (heffect w).trans (acts_congr hmeta _ w)
        rw [hrun, ← hc, ← hl]
      rw [hresult] at h
      simp only at h
      have hnext : runSubs env.op (fullPass env cp) rest
          ((pre ++ [sub]).foldl env.done (activated cp))
          ((program env.op env.obs c sub).acts.foldl (Act.run cp) w) (max n requeue) =
            (.ok longest, cp', w') := by
        rw [hfold, ← hworld, ← hdone]
        exact h
      obtain ⟨hstops, hcp, hw⟩ := runSubs_fullPass hdry cp hsplit' hpre' hnext
      rw [hfold] at hstops hw
      refine ⟨fun a ha => ?_, hcp, ?_⟩
      · rcases List.mem_append.mp ha with ha | ha
        · exact hstop a ha
        · exact hstops a ha
      · rw [hw]
        exact (List.foldl_append ..).symm

theorem runSubs_served (hdry : env.op.dryRun = false) (hfates : ∀ sub, env.fates sub = [])
    (cp : ControlPlane) : ∀ {rest pre : List Sub} {w : World} {n : ℕ},
      pre ++ rest = subs → pre.foldl env.called (activated cp) = pre.foldl env.done (activated cp) →
      (∀ a ∈ env.acts rest (pre.foldl env.done (activated cp)), a.isStop = false) →
      ∃ longest r, runSubs env.op (fullPass env cp) rest (pre.foldl env.done (activated cp)) w n =
        (.ok longest, r)
  | [], pre, w, n, _, _, _ => ⟨n, _, rfl⟩
  | sub :: rest, pre, w, n, hsplit, hpre, hstops => by
    let c := pre.foldl env.done (activated cp)
    have hcall : (fullPass env cp).runs sub = env.call c sub := by
      unfold fullPass Env.before
      simp only [takeWhile_subs hsplit, hpre]
      rfl
    obtain ⟨hstop, hrest⟩ := List.forall_mem_append.mp hstops
    have hresult : (env.call c sub).result =
        .ok (program env.op env.obs c sub).requeueAfter := by
      unfold Env.call Program.run
      rw [hfates sub]
      exact runActs_served c _ hstop
    obtain ⟨-, -, hwrites, -⟩ := runActs_ok hresult
    have hdone : env.called c sub = env.done c sub := by
      unfold Env.called Env.done
      exact congrArg (·.foldl StatusWrite.apply c) hwrites
    have hfold : (pre ++ [sub]).foldl env.done (activated cp) = env.done c sub := by
      rw [List.foldl_append]
      rfl
    have hpre' : (pre ++ [sub]).foldl env.called (activated cp) =
        (pre ++ [sub]).foldl env.done (activated cp) := by
      rw [hfold, List.foldl_append, hpre]
      exact hdone
    have hsplit' : (pre ++ [sub]) ++ rest = subs := by simpa using hsplit
    have hnext := @runSubs_served hdry hfates cp rest (pre ++ [sub])
      { (env.call c sub).effect w with
        controlPlanes := w.controlPlanes, statusLog := w.statusLog }
      (max n (program env.op env.obs c sub).requeueAfter)
      hsplit' hpre' (by rw [hfold]; exact hrest)
    unfold runSubs
    rw [if_neg (by simp [hdry]), hcall, hresult]
    rw [hfold, ← hdone] at hnext
    exact hnext

/-! ### The outcome -/

/-- The object in memory when `sub` is called, in a pass without an error. -/
def Env.entering (env : Env) (cp : ControlPlane) (sub : Sub) : ControlPlane :=
  (subs.takeWhile (· ≠ sub)).foldl env.done cp

theorem Env.entering_frame (cp : ControlPlane) (sub : Sub) :
    (env.entering cp sub).metadata = cp.metadata ∧ (env.entering cp sub).spec = cp.spec :=
  env.dones_frame _ cp

/-- No call of a pass over `cp` comes to an error of its own. -/
abbrev Env.Clear (env : Env) (cp : ControlPlane) : Prop :=
  ∀ sub, (program env.op env.obs (env.entering (activated cp) sub) sub).Clear

theorem Env.mem_acts {a : Act} : ∀ {l : List Sub} {cp : ControlPlane},
    a ∈ env.acts l cp ↔ ∃ pre sub rest, pre ++ sub :: rest = l ∧
      a ∈ (program env.op env.obs (pre.foldl env.done cp) sub).acts
  | [], cp => by simp [Env.acts]
  | sub :: l, cp => by
    have ih := @Env.mem_acts a l (env.done cp sub)
    unfold Env.acts
    rw [List.mem_append, ih]
    constructor
    · rintro (h | ⟨pre, s, rest, rfl, h⟩)
      · exact ⟨[], sub, l, rfl, h⟩
      · exact ⟨sub :: pre, s, rest, rfl, h⟩
    · rintro ⟨_ | ⟨s', pre⟩, s, rest, heq, h⟩
      · obtain ⟨rfl, rfl⟩ := List.cons.inj heq
        exact Or.inl h
      · obtain ⟨rfl, rfl⟩ := List.cons.inj heq
        exact Or.inr ⟨pre, s, rest, rfl, h⟩

theorem mem_subs (sub : Sub) : sub ∈ subs := by cases sub <;> decide

/-- The actions of a pass are those of the sub-reconcilers. -/
theorem Env.mem_acts_subs {a : Act} {cp : ControlPlane} : a ∈ env.acts subs cp ↔
    ∃ sub, a ∈ (program env.op env.obs (env.entering cp sub) sub).acts := by
  rw [Env.mem_acts]
  constructor
  · rintro ⟨pre, sub, rest, hsplit, ha⟩
    refine ⟨sub, ?_⟩
    unfold Env.entering
    rw [takeWhile_subs hsplit]
    exact ha
  · rintro ⟨sub, ha⟩
    obtain ⟨pre, rest, hsplit⟩ := List.append_of_mem (mem_subs sub)
    unfold Env.entering at ha
    rw [takeWhile_subs hsplit.symm] at ha
    exact ⟨pre, sub, rest, hsplit.symm, ha⟩

/-- The object in memory at the end of a pass without an error, before the services are counted. -/
def Env.outcome (env : Env) (cp : ControlPlane) : ControlPlane := subs.foldl env.done (activated cp)

/-- **What a full pass without an error leaves**: nothing has stopped, the conditions and the entries
of the services are those of the object in memory once the services are counted, and the objects are
those of all the actions. -/
theorem reconcileAll_fullPass (hdry : env.op.dryRun = false) {cp cp' : ControlPlane} {w w' : World}
    {longest : ℕ} (hpin : pinnedElsewhere env.op cp = false)
    (h : reconcileAll env.op (fullPass env cp) cp w = (.ok longest, cp', w')) :
    env.Clear cp ∧
    cp'.status.conditions = (aggregateServicesReady env.order (env.outcome cp)).status.conditions ∧
    cp'.status.services = (env.outcome cp).status.services ∧
    w'.objects = ((env.acts subs (activated cp)).foldl (Act.run cp) w).objects := by
  rcases reconcileAll_cases (p := fullPass env cp) (w := w) hpin with
    ⟨e, cp₁, w₁, -, heq⟩ | ⟨n, cp₁, w₁, hrun, heq⟩
  · rw [heq] at h
    cases h
  · obtain ⟨hstops, hcp₁, hw₁⟩ :=
      runSubs_fullPass hdry cp (show [] ++ subs = subs from rfl) rfl hrun
    obtain ⟨-, -, -, hservices⟩ := aggregateServicesReady_frame env.order (env.outcome cp)
    have hstop : env.Clear cp := fun sub a ha => hstops a (Env.mem_acts_subs.mpr ⟨sub, ha⟩)
    rw [heq] at h
    have hparts : w'.objects = w₁.objects ∧
        cp'.status.conditions = (aggregateServicesReady env.order cp₁).status.conditions ∧
        cp'.status.services = (aggregateServicesReady env.order cp₁).status.services := by
      split_ifs at h
      · cases h
        exact ⟨rfl, rfl, rfl⟩
      · cases h
        exact ⟨rfl, rfl, rfl⟩
    obtain ⟨hobjects, hconditions, hservices'⟩ := hparts
    have hcp : cp₁ = env.outcome cp := hcp₁
    rw [hcp] at hconditions hservices'
    refine ⟨hstop, hconditions, hservices'.trans hservices, ?_⟩
    rw [hobjects, hw₁]
    rfl

theorem reconcileAll_served (hdry : env.op.dryRun = false) (hfates : ∀ sub, env.fates sub = [])
    {cp : ControlPlane} (hpin : pinnedElsewhere env.op cp = false) (hstops : env.Clear cp)
    (w : World) :
    ∃ longest r, reconcileAll env.op (fullPass env cp) cp w = (.ok longest, r) := by
  have hacts : ∀ a ∈ env.acts subs (activated cp), a.isStop = false := fun a ha => by
    obtain ⟨sub, ha⟩ := Env.mem_acts_subs.mp ha
    exact hstops sub a ha
  obtain ⟨longest, r, hrun⟩ :=
    @runSubs_served env hdry hfates cp subs [] w 0 rfl rfl hacts
  have hrun' : runSubs env.op (fullPass env cp) subs (activated cp) w 0 = (.ok longest, r) := hrun
  rcases reconcileAll_cases (p := fullPass env cp) (w := w) hpin with
    ⟨e, cp₁, w₁, hrun₁, -⟩ | ⟨n, cp₁, w₁, -, heq⟩
  · rw [hrun'] at hrun₁
    cases hrun₁
  · rw [heq]
    split_ifs
    · exact ⟨n, _, rfl⟩
    · exact ⟨n, _, rfl⟩

end OpenchamiOperator.Controller
