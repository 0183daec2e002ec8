import OpenchamiOperator.Controller.FullPass

/-! # The requests of a pass

A pass seen from the servers: the requests that reach them, in order. What the other calls of the pass
do in memory only matters through these and the status patch at the end.

* `Env.sent`: the requests of a pass that reach a server, whatever fails.
* `sent_isPrefix_acts`: they are a beginning of what the calls ask for.
* `shared_reconcileAll`: what a pass makes of the Kubernetes objects and of Vault is what these
  requests make of them. -/

namespace OpenchamiOperator.Controller

open Lib Api Reconcilers

variable (env : Env)

/-- The requests of the calls of `l` that reach a server. A call that fails is the last. -/
def Env.sent : List Sub → ControlPlane → List Effect
  | [], _ => []
  | sub :: rest, cp =>
    Controller.sent (program env.op env.obs cp sub).acts (env.fates sub) ++
      match (env.call cp sub).result with
      | .ok _ => Env.sent rest (env.called cp sub)
      | .error _ => []

variable {env}

theorem Env.sent_cons_ok {sub : Sub} {rest : List Sub} {cp : ControlPlane} {n : ℕ}
    (h : (env.call cp sub).result = .ok n) : env.sent (sub :: rest) cp =
      Controller.sent (program env.op env.obs cp sub).acts (env.fates sub) ++
        env.sent rest (env.called cp sub) := by
  rw [Env.sent, h]

theorem Env.sent_cons_error {sub : Sub} {rest : List Sub} {cp : ControlPlane} {e : OpError}
    (h : (env.call cp sub).result = .error e) : env.sent (sub :: rest) cp =
      Controller.sent (program env.op env.obs cp sub).acts (env.fates sub) := by
  rw [Env.sent, h]
  exact List.append_nil _

/-- **What the loop makes of the objects and of Vault**, by induction on the calls that are left. -/
theorem shared_runSubs (hdry : env.op.dryRun = false) (cp : ControlPlane) :
    ∀ {rest pre : List Sub} {w : World} {n : ℕ}, pre ++ rest = subs →
      (runSubs env.op (fullPass env cp) rest (pre.foldl env.called (activated cp)) w n).2.2.shared =
        (env.sent rest (pre.foldl env.called (activated cp))).foldl Effect.onShared w.shared
  | [], _, _, _, _ => rfl
  | sub :: rest, pre, w, n, hsplit => by
    let c := pre.foldl env.called (activated cp)
    have hcall : (fullPass env cp).runs sub = env.call c sub := by
      unfold fullPass Env.before
      simp only [takeWhile_subs hsplit]
      rfl
    have hshared : ((env.call c sub).effect w).shared =
        (Controller.sent (program env.op env.obs c sub).acts (env.fates sub)).foldl
          Effect.onShared w.shared :=
      shared_runActs c _ _ _ w
    have hsplit' : (pre ++ [sub]) ++ rest = subs := by simpa using hsplit
    have hfold : (pre ++ [sub]).foldl env.called (activated cp) = env.called c sub := by
      rw [List.foldl_append]
      rfl
    unfold runSubs
    rw [if_neg (by simp [hdry]), hcall]
    rcases hresult : (env.call c sub).result with e | requeue
    · rw [Env.sent_cons_error hresult]
      exact hshared
    · have ih := @shared_runSubs hdry cp rest (pre ++ [sub])
        { (env.call c sub).effect w with
          controlPlanes := w.controlPlanes, statusLog := w.statusLog } (max n requeue) hsplit'
      rw [hfold] at ih
      rw [Env.sent_cons_ok hresult, List.foldl_append, ← hshared]
      exact ih

/-- The requests of `reconcileAll` that reach a server: none of a control plane that is pinned to
another version, none in dry-run mode. -/
def Env.requests (env : Env) (cp : ControlPlane) : List Effect :=
  if pinnedElsewhere env.op cp || env.op.dryRun then [] else env.sent subs (activated cp)

/-- **What a pass makes of the objects and of Vault.** -/
theorem shared_reconcileAll (env : Env) (cp : ControlPlane) (w : World) :
    (reconcileAll env.op (fullPass env cp) cp w).2.2.shared =
      (env.requests cp).foldl Effect.onShared w.shared := by
  unfold Env.requests
  by_cases hpin : pinnedElsewhere env.op cp = true
  · unfold reconcileAll
    rw [if_pos hpin, hpin]
    rfl
  rw [Bool.not_eq_true] at hpin
  have hloop : (runSubs env.op (fullPass env cp) subs (activated cp) w 0).2.2.shared =
      (if pinnedElsewhere env.op cp || env.op.dryRun then []
        else env.sent subs (activated cp)).foldl Effect.onShared w.shared := by
    rw [hpin]
    cases hdry : env.op.dryRun with
    | true =>
      rw [runSubs_dryRun hdry]
      rfl
    | false => exact shared_runSubs hdry cp (show [] ++ subs = subs from rfl)
  rcases reconcileAll_cases (p := fullPass env cp) (w := w) hpin with
    ⟨e, cp', w', hrun, heq⟩ | ⟨longest, cp', w', hrun, heq⟩
  · rw [hrun] at hloop
    rw [heq, ← hloop]
  · rw [hrun] at hloop
    rw [heq, ← hloop]
    split_ifs <;> rfl

/-- **What reaches the servers is a beginning of what the calls ask for**, by induction on the calls
that are left. -/
theorem sent_isPrefix_acts : ∀ (l : List Sub) (cp : ControlPlane),
    env.sent l cp <+: (env.acts l cp).filterMap Act.effect?
  | [], _ => List.nil_prefix
  | sub :: rest, cp => by
    rw [Env.acts, List.filterMap_append]
    rcases hresult : (env.call cp sub).result with e | n
    · rw [Env.sent_cons_error hresult]
      exact (sent_isPrefix _ _).trans (List.prefix_append _ _)
    · obtain ⟨-, -, hwrites, -⟩ := runActs_ok hresult
      have hdone : env.called cp sub = env.done cp sub :=
        congrArg (·.foldl StatusWrite.apply cp) hwrites
      rw [Env.sent_cons_ok hresult, sent_of_ok hresult, hdone]
      exact (List.prefix_append_right_inj _).mpr (sent_isPrefix_acts rest _)

/-- What a call of a pass asks for. -/
def Env.asks (env : Env) (cp : ControlPlane) (sub : Sub) : List Effect :=
  (program env.op env.obs (env.entering (activated cp) sub) sub).acts.filterMap Act.effect?

/-- Every request of a pass is one that a call asks for. -/
theorem exists_of_mem_requests {cp : ControlPlane} {eff : Effect} (h : eff ∈ env.requests cp) :
    ∃ sub, eff ∈ env.asks cp sub := by
  unfold Env.requests at h
  split_ifs at h
  · cases h
  · obtain ⟨a, ha, hae⟩ := List.mem_filterMap.mp ((sent_isPrefix_acts _ _).subset h)
    obtain ⟨sub, hsub⟩ := Env.mem_acts_subs.mp ha
    exact ⟨sub, List.mem_filterMap.mpr ⟨a, hsub, hae⟩⟩

end OpenchamiOperator.Controller
