import OpenchamiOperator.Controller.PassRequests
import OpenchamiOperator.Controller.StatusMemory

/-! # Passes that are tried again

A pass that fails is tried again, from the status it has left. As long as the reads are answered the
same, an attempt asks for a beginning of what a complete pass asks for.

* `asks_subset`: what a call asks for does not depend on the status the pass began with.
* `retries_vanish`: once a pass is complete, the attempts before it have left no object behind. -/

namespace OpenchamiOperator.Controller

open Lib Api Reconcilers

/-! ### Objects -/

/-- The object a request concerns. -/
def Effect.object? : Effect → Option (KubeKind × String × String)
  | .apply o => some o.key
  | .delete k => some k
  | _ => Option.none

/-- What it puts there. -/
def Effect.put? : Effect → Option KubeObject
  | .apply o => some o
  | _ => Option.none

section Objects

variable {k : KubeKind × String × String}

theorem get?_onObjects (eff : Effect) (s : KubeObjects) : (eff.onObjects s).get? k =
    if eff.object? = some k then eff.put? else s.get? k := by
  cases eff with
  | apply o => simp only [Effect.onObjects, Effect.object?, Effect.put?, Store.get?_apply,
      Option.some.injEq]
  | delete j => simp only [Effect.onObjects, Effect.object?, Effect.put?, Store.get?_delete,
      Option.some.injEq]
  | _ => rfl

/-- After the same requests two stores agree on every object that one of these concerns. -/
theorem get?_foldl_congr : ∀ {effs : List Effect} {s t : KubeObjects},
    ((∀ eff ∈ effs, eff.object? ≠ some k) → s.get? k = t.get? k) →
      (effs.foldl Effect.onObjects s).get? k = (effs.foldl Effect.onObjects t).get? k
  | [], _, _, h => h (by simp)
  | eff :: effs, s, t, h => by
    refine @get?_foldl_congr effs _ _ fun hrest => ?_
    rw [get?_onObjects, get?_onObjects]
    split_ifs with hk
    · rfl
    · exact h (List.forall_mem_cons.mpr ⟨hk, hrest⟩)

theorem get?_foldl_of_forall {effs : List Effect} {s : KubeObjects}
    (h : ∀ eff ∈ effs, eff.object? ≠ some k) :
    (effs.foldl Effect.onObjects s).get? k = s.get? k := by
  refine List.foldlRecOn (motive := fun t : KubeObjects => t.get? k = s.get? k) effs _ rfl
    fun t ht eff heff => ?_
  rw [get?_onObjects, if_neg (h eff heff), ht]

end Objects

theorem objects_acts (cp : ControlPlane) : ∀ (acts : List Act) (w : World),
    (acts.foldl (Act.run cp) w).objects =
      (acts.filterMap Act.effect?).foldl Effect.onObjects w.objects
  | [], _ => rfl
  | a :: acts, w => by
    rw [List.foldl_cons, objects_acts cp acts]
    cases a with
    | request eff context writes events =>
      exact congrArg ((acts.filterMap Act.effect?).foldl Effect.onObjects)
        (congrArg Shared.objects (eff.shared_run cp w))
    | _ => rfl

theorem objects_reconcileAll (env : Env) (cp : ControlPlane) (w : World) :
    (reconcileAll env.op (fullPass env cp) cp w).2.2.objects =
      (env.requests cp).foldl Effect.onObjects w.objects := by
  exact (congrArg Shared.objects (shared_reconcileAll env cp w)).trans (objects_foldl _ _)

/-! ### What a pass asks for -/

section Wanted

variable {env : Env} {a b : ControlPlane}

theorem program_logqQuery {op : Operator} {obs : Observed} (hs : a.spec = b.spec)
    (hbucket : a.status.logBucket = "" ↔ b.status.logBucket = "") :
    program op obs a .logqQuery = program op obs b .logqQuery := by
  unfold program reconcileLogqQuery buildQueryDeployment buildQueryService objectIn queryPort
    controlPlaneNamespace
  simp only [hs, hbucket]

/-- **What a call asks for does not depend on the status the pass began with.** Only the query service
asks for more when a log bucket is on record. -/
theorem asks_subset (hm : a.metadata = b.metadata) (hs : a.spec = b.spec)
    (hstop : env.Clear a) (hbucket : b.status.logBucket ≠ "" → a.status.logBucket ≠ "") (sub : Sub) :
    env.asks b sub ⊆ env.asks a sub := by
  have hm' : (activated a).metadata = (activated b).metadata := hm
  have hs' : (activated a).spec = (activated b).spec := hs
  obtain ⟨hme, hse⟩ := @entering_congr env _ _ hm' hs' sub
  unfold Env.asks
  by_cases hreads : readsStatus sub = true
  · cases sub with
    | coreDHCP => rw [coreDHCP_congr hm' hs' hstop]; exact List.Subset.refl _
    | gateway => rw [gateway_congr hm' hs' hstop]; exact List.Subset.refl _
    | logqCompactor => rw [logqCompactor_congr hm' hs' hstop]; exact List.Subset.refl _
    | topology =>
      have happly : ∀ cp, (program env.op env.obs cp .topology).acts.filterMap Act.effect? =
          [.apply (buildTopologyConfigMap cp)] := fun _ => rfl
      rw [happly, happly]
      unfold buildTopologyConfigMap objectIn controlPlaneNamespace
      rw [hse]
      exact List.Subset.refl _
    | logqQuery =>
      by_cases hnone : (env.entering (activated b) .logqQuery).status.logBucket = ""
      · have hacts : (program env.op env.obs (env.entering (activated b) .logqQuery)
            .logqQuery).acts = [] := by
          unfold program reconcileLogqQuery
          simp only [hnone, decide_true, Bool.or_true, if_true]
          split_ifs <;> rfl
        rw [hacts]
        exact List.nil_subset _
      · have hfound : (env.entering (activated a) .logqQuery).status.logBucket ≠ "" := by
          rw [logBucket_entering]
          refine Or.imp (fun h => ?_) hbucket (logBucket_entering.mp hnone)
          unfold logBucketReported secretName at h ⊢
          rwa [hs]
        rw [program_logqQuery hse (iff_of_false hfound hnone)]
        exact List.Subset.refl _
    | _ => cases hreads
  · rw [@program_congr env.op env.obs _ _ sub hme hse (by simpa using hreads)]
    exact List.Subset.refl _

end Wanted

/-! ### Attempts -/

/-- An attempt: the object it begins with, and what happens to its requests. -/
structure Attempt where
  cp : ControlPlane
  fates : Sub → List Fate

def Attempt.run (env : Env) (w : World) (t : Attempt) : World :=
  (reconcileAll env.op (fullPass { env with fates := t.fates } t.cp) t.cp w).2.2

theorem get?_attempts {env : Env} {k : KubeKind × String × String} {tries : List Attempt} {w : World}
    (h : ∀ t ∈ tries, ∀ eff ∈ Env.requests { env with fates := t.fates } t.cp,
      eff.object? ≠ some k) :
    (tries.foldl (Attempt.run env) w).objects.get? k = w.objects.get? k := by
  refine List.foldlRecOn (motive := fun v : World => v.objects.get? k = w.objects.get? k) tries _ rfl
    fun v hv t ht => ?_
  have hobjects := objects_reconcileAll { env with fates := t.fates } t.cp v
  rw [Attempt.run, hobjects, get?_foldl_of_forall (h t ht), hv]

/-- **Attempts leave no object behind.** However often a pass over a specification has been tried
before, from whatever statuses, and wherever each attempt broke off: once a pass is complete, the
objects are there that would be there without the attempts. The reads are answered the same
throughout, and a log bucket on record stays there. -/
theorem retries_vanish {env : Env} (hdry : env.op.dryRun = false) {cp : ControlPlane}
    (hpin : pinnedElsewhere env.op cp = false) {tries : List Attempt}
    (htries : ∀ t ∈ tries, cp.metadata = t.cp.metadata ∧ cp.spec = t.cp.spec ∧
      (t.cp.status.logBucket ≠ "" → cp.status.logBucket ≠ ""))
    {w v v' : World} {c c' : ControlPlane} {n m : ℕ}
    (honce : reconcileAll env.op (fullPass env cp) cp w = (.ok n, c, v))
    (hagain : reconcileAll env.op (fullPass env cp) cp (tries.foldl (Attempt.run env) w) =
      (.ok m, c', v')) (k : KubeKind × String × String) :
    v'.objects.get? k = v.objects.get? k := by
  obtain ⟨hstop, -, -, hv⟩ := reconcileAll_fullPass hdry hpin honce
  obtain ⟨-, -, -, hv'⟩ := reconcileAll_fullPass hdry hpin hagain
  rw [hv, hv', objects_acts, objects_acts]
  -- an object that the pass does not concern is none of the attempts' either
  refine get?_foldl_congr fun hunwanted => get?_attempts fun t ht eff heff => hunwanted eff ?_
  obtain ⟨hm, hs, hbucket⟩ := htries t ht
  obtain ⟨sub, hmem⟩ := exists_of_mem_requests heff
  obtain ⟨y, hy, hye⟩ := List.mem_filterMap.mp (asks_subset hm hs hstop hbucket sub hmem)
  exact List.mem_filterMap.mpr ⟨y, Env.mem_acts_subs.mpr ⟨sub, hy⟩, hye⟩

/-- Two attempts: one in which nothing is answered, and one that breaks off in Vault. -/
def brokenOff : List Attempt :=
  [⟨observed failedSite, fun _ => [.lost]⟩,
   ⟨observed failedSite, fun sub => if sub = .vault then [.late] else []⟩]

theorem retries_vanish_site : ∃ cp n m c c' v v',
    reconcileAll quiet.op (fullPass quiet cp) cp {} = (.ok n, c, v) ∧
    reconcileAll quiet.op (fullPass quiet cp) cp (brokenOff.foldl (Attempt.run quiet) {}) =
      (.ok m, c', v') ∧ ∀ k, v'.objects.get? k = v.objects.get? k := by
  obtain ⟨hpin, n, c, v, honce, -, -⟩ :=
    @quiet_run false (Webhook.default (site false)) {} rfl rfl
  obtain ⟨-, m, c', v', hagain, -, -⟩ := @quiet_run false (Webhook.default (site false))
    (brokenOff.foldl (Attempt.run quiet) {}) rfl rfl
  refine ⟨_, n, m, c, c', v, v', honce, hagain, retries_vanish rfl hpin (fun t ht => ?_) honce
    hagain⟩
  simp only [brokenOff, List.mem_cons, List.not_mem_nil, or_false] at ht
  rcases ht with rfl | rfl <;> exact ⟨rfl, rfl, id⟩

end OpenchamiOperator.Controller
