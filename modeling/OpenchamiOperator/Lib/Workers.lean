import Mathlib.Logic.Function.Basic

/-! # Workers on one state

Several workers share a state. A worker without tasks begins a job, which it plans by looking at the
state once; after that it does its tasks one by one, and between two of them the tasks of any other
workers may be done.

* `Apart`: each worker sees a part of the state that the tasks of the others do not touch.
* `same_alone`: at any time a worker sees what it would see alone, and has the same left to do.
* `settled_run`: what a worker sees, once it has done what is left, is what its jobs make of the state
  one after the other, each in one go. -/

namespace OpenchamiOperator.Lib.Workers

variable {ι σ τ β : Type}

/-- The shared state, and the tasks each worker has left. -/
structure Pool (ι σ τ : Type) where
  state : σ
  left : ι → List τ

/-- What a worker can do next: begin a job, if it has nothing left, or do the next task. -/
inductive Turn (β : Type) where
  | begin (job : β)
  | next

variable (exec : σ → τ → σ) (plan : ι → β → σ → List τ)

/-- A job in one go. -/
def atOnce (i : ι) (s : σ) (job : β) : σ := (plan i job s).foldl exec s

/-- **Workers that keep apart.** `same i` is equality of what the worker `i` sees, `own i` says which
tasks are its own, and `inv` holds of all states in question. -/
structure Apart (inv : σ → Prop) (own : ι → τ → Prop) (same : ι → σ → σ → Prop) : Prop where
  refl : ∀ i s, same i s s
  trans : ∀ {i s t u}, same i s t → same i t u → same i s u
  keeps : ∀ {i s task}, own i task → inv s → inv (exec s task)
  planned : ∀ {i job s task}, inv s → task ∈ plan i job s → own i task
  plan_same : ∀ {i job s t}, same i s t → plan i job s = plan i job t
  exec_same : ∀ {i task s t}, own i task → same i s t → same i (exec s task) (exec t task)
  exec_other : ∀ {i j task s}, own j task → i ≠ j → inv s → same i (exec s task) s

/-- A pool whose workers have only tasks of their own left. -/
structure Pool.Good (inv : σ → Prop) (own : ι → τ → Prop) (p : Pool ι σ τ) : Prop where
  state : inv p.state
  left : ∀ i, ∀ task ∈ p.left i, own i task

section Same

variable {exec plan} {inv : σ → Prop} {own : ι → τ → Prop} {same : ι → σ → σ → Prop}

/-- The tasks of a worker make the same of what it sees. -/
theorem same_foldl (h : Apart exec plan inv own same) {i : ι} : ∀ {tasks : List τ} {s t : σ},
    (∀ task ∈ tasks, own i task) → same i s t → same i (tasks.foldl exec s) (tasks.foldl exec t)
  | [], _, _, _, hst => hst
  | task :: rest, _, _, hown, hst => by
    obtain ⟨htask, hrest⟩ := List.forall_mem_cons.mp hown
    rw [List.foldl_cons, List.foldl_cons]
    exact same_foldl h hrest (h.exec_same htask hst)

theorem same_atOnce (h : Apart exec plan inv own same) {i : ι} {s t : σ} (hs : inv s)
    (hst : same i s t) (job : β) : same i (atOnce exec plan i s job) (atOnce exec plan i t job) := by
  unfold atOnce
  rw [← h.plan_same hst]
  exact same_foldl h (fun task htask => h.planned hs htask) hst

end Same

/-! ### Turns -/

variable [DecidableEq ι]

/-- One turn of one worker. A turn that is not possible changes nothing. -/
def Pool.step (p : Pool ι σ τ) (x : ι × Turn β) : Pool ι σ τ :=
  match x.2, p.left x.1 with
  | .begin job, [] => ⟨p.state, Function.update p.left x.1 (plan x.1 job p.state)⟩
  | .next, task :: rest => ⟨exec p.state task, Function.update p.left x.1 rest⟩
  | _, _ => p

/-- The turns of all workers, in the order in which they happen. -/
def Pool.run (p : Pool ι σ τ) (turns : List (ι × Turn β)) : Pool ι σ τ :=
  turns.foldl (Pool.step exec plan) p

/-- The jobs a worker begins in the course of the turns. -/
def Pool.begun (i : ι) (p : Pool ι σ τ) : List (ι × Turn β) → List β
  | [] => []
  | x :: turns =>
    let rest := Pool.begun i (p.step exec plan x) turns
    match x.2 with
    | .begin job => if x.1 = i ∧ p.left i = [] then job :: rest else rest
    | .next => rest

/-- The state once a worker has done what it has left. -/
def Pool.settled (p : Pool ι σ τ) (i : ι) : σ := (p.left i).foldl exec p.state

@[simp] theorem settled_update_self (s : σ) (left : ι → List τ) (i : ι) (tasks : List τ) :
    (⟨s, Function.update left i tasks⟩ : Pool ι σ τ).settled exec i = tasks.foldl exec s := by
  simp [Pool.settled]

variable {exec plan} {inv : σ → Prop} {own : ι → τ → Prop} {same : ι → σ → σ → Prop}

/-! ### One turn -/

theorem step_begin {p : Pool ι σ τ} {i : ι} (job : β) (h : p.left i = []) :
    p.step exec plan (i, .begin job) = ⟨p.state, Function.update p.left i (plan i job p.state)⟩ := by
  unfold Pool.step
  simp only [h]

theorem step_next {p : Pool ι σ τ} {i : ι} {task : τ} {rest : List τ} (h : p.left i = task :: rest) :
    p.step exec plan (i, .next) = ⟨exec p.state task, Function.update p.left i rest⟩ := by
  unfold Pool.step
  simp only [h]

variable (exec plan) in
/-- What a turn can do. -/
theorem step_cases (p : Pool ι σ τ) (i : ι) (turn : Turn β) :
    (∃ job, turn = .begin job ∧ p.left i = [] ∧ p.step exec plan (i, turn) =
      ⟨p.state, Function.update p.left i (plan i job p.state)⟩) ∨
    (∃ task rest, turn = .next ∧ p.left i = task :: rest ∧ p.step exec plan (i, turn) =
      ⟨exec p.state task, Function.update p.left i rest⟩) ∨
    (p.step exec plan (i, turn) = p ∧ ∀ job, turn = .begin job → p.left i ≠ []) := by
  rcases hleft : p.left i with _ | ⟨task, rest⟩
  · cases turn with
    | begin job => exact Or.inl ⟨job, rfl, rfl, step_begin job hleft⟩
    | next =>
      refine Or.inr (Or.inr ⟨?_, fun job h => by cases h⟩)
      unfold Pool.step
      simp only [hleft]
  · cases turn with
    | begin job =>
      refine Or.inr (Or.inr ⟨?_, fun _ _ h => by cases h⟩)
      unfold Pool.step
      simp only [hleft]
    | next => exact Or.inr (Or.inl ⟨task, rest, rfl, rfl, step_next hleft⟩)

theorem Pool.Good.step (h : Apart exec plan inv own same) {p : Pool ι σ τ} (hp : p.Good inv own)
    (i : ι) (turn : Turn β) : (p.step exec plan (i, turn)).Good inv own := by
  have hleft : ∀ tasks, (∀ task ∈ tasks, own i task) →
      ∀ j, ∀ task ∈ Function.update p.left i tasks j, own j task := by
    intro tasks htasks j task htask
    by_cases hj : j = i
    · subst hj
      rw [Function.update_self] at htask
      exact htasks task htask
    · rw [Function.update_of_ne hj] at htask
      exact hp.left j task htask
  rcases step_cases exec plan p i turn with
    ⟨job, -, -, heq⟩ | ⟨task, rest, -, htasks, heq⟩ | ⟨heq, -⟩
  · rw [heq]
    exact ⟨hp.state, hleft _ fun task htask => h.planned hp.state htask⟩
  · have hown : ∀ t ∈ task :: rest, own i t := htasks ▸ hp.left i
    rw [heq]
    exact ⟨h.keeps (hown task (by simp)) hp.state,
      hleft _ fun t ht => hown t (List.mem_cons_of_mem task ht)⟩
  · rw [heq]
    exact hp

/-! ### All turns -/

/-- A turn of another worker is not seen. -/
theorem same_step_of_ne (h : Apart exec plan inv own same) {p : Pool ι σ τ} (hp : p.Good inv own)
    {i j : ι} (hij : i ≠ j) (turn : Turn β) : same i (p.step exec plan (j, turn)).state p.state ∧
      (p.step exec plan (j, turn)).left i = p.left i := by
  rcases step_cases exec plan p j turn with
    ⟨job, -, -, heq⟩ | ⟨task, rest, -, htasks, heq⟩ | ⟨heq, -⟩
  · rw [heq]
    exact ⟨h.refl i _, Function.update_of_ne hij _ _⟩
  · have hown : own j task := hp.left j task (by rw [htasks]; simp)
    rw [heq]
    exact ⟨h.exec_other hown hij hp.state, Function.update_of_ne hij _ _⟩
  · rw [heq]
    exact ⟨h.refl i _, rfl⟩

/-- A turn of the worker itself, in two pools that it cannot tell apart. -/
theorem same_step (h : Apart exec plan inv own same) {p q : Pool ι σ τ} (hp : p.Good inv own) {i : ι}
    (hs : same i p.state q.state) (hleft : p.left i = q.left i) (turn : Turn β) :
    same i (p.step exec plan (i, turn)).state (q.step exec plan (i, turn)).state ∧
      (p.step exec plan (i, turn)).left i = (q.step exec plan (i, turn)).left i := by
  rcases htasks : p.left i with _ | ⟨task, rest⟩ <;> rw [htasks] at hleft
  · cases turn with
    | begin job =>
      rw [step_begin job htasks, step_begin job hleft.symm]
      exact ⟨hs, by simp only [Function.update_self, h.plan_same hs]⟩
    | next => simpa only [Pool.step, htasks, ← hleft, and_true] using hs
  · have hown : own i task := hp.left i task (by rw [htasks]; simp)
    cases turn with
    | begin job => simpa only [Pool.step, htasks, ← hleft, and_true] using hs
    | next =>
      rw [step_next htasks, step_next hleft.symm]
      exact ⟨h.exec_same hown hs, by simp only [Function.update_self]⟩

/-- **At any time a worker sees what it would see alone**: the turns of the others can be left out. By
induction on the turns. -/
theorem same_alone (h : Apart exec plan inv own same) {i : ι} : ∀ (turns : List (ι × Turn β))
    {p q : Pool ι σ τ}, p.Good inv own → same i p.state q.state → p.left i = q.left i →
      same i (p.run exec plan turns).state (q.run exec plan (turns.filter (·.1 = i))).state ∧
        (p.run exec plan turns).left i = (q.run exec plan (turns.filter (·.1 = i))).left i
  | [], _, _, _, hs, hleft => ⟨hs, hleft⟩
  | (j, turn) :: turns, p, q, hp, hs, hleft => by
    have hnext := hp.step h j turn
    by_cases hij : j = i
    · subst hij
      obtain ⟨hs', hleft'⟩ := same_step h hp hs hleft turn
      rw [List.filter_cons_of_pos (by simp)]
      exact same_alone h turns hnext hs' hleft'
    · obtain ⟨hseen, hkept⟩ := same_step_of_ne h hp (Ne.symm hij) turn
      rw [List.filter_cons_of_neg (by simpa using hij)]
      exact same_alone h turns hnext (h.trans hseen hs) (hkept.trans hleft)

/-- **Every run is a serial run.** By induction on the turns: what the worker sees once it has
settled is carried along, and it moves only when the worker begins a job. -/
theorem settled_run (h : Apart exec plan inv own same)
    {i : ι} : ∀ (turns : List (ι × Turn β)) {p : Pool ι σ τ} {s : σ}, p.Good inv own →
      same i (p.settled exec i) s →
      same i ((p.run exec plan turns).settled exec i)
        ((p.begun exec plan i turns).foldl (atOnce exec plan i) s)
  | [], _, _, _, hs => hs
  | (j, turn) :: turns, p, s, hp, hs => by
    have hnext := hp.step h j turn
    by_cases hij : i = j
    · subst hij
      rcases step_cases exec plan p i turn with
        ⟨job, rfl, hleft, heq⟩ | ⟨task, rest, rfl, htasks, heq⟩ | ⟨heq, hbusy⟩
      · have hbegun : p.begun exec plan i ((i, .begin job) :: turns) =
            job :: (p.step exec plan (i, .begin job)).begun exec plan i turns := by
          simp [Pool.begun, hleft]
        have hsettled : p.settled exec i = p.state := by
          unfold Pool.settled
          rw [hleft]
          rfl
        have hatOnce : (p.step exec plan (i, .begin job)).settled exec i =
            atOnce exec plan i p.state job := by
          rw [heq, settled_update_self]
          rfl
        rw [hsettled] at hs
        rw [hbegun]
        refine settled_run h turns hnext ?_
        rw [hatOnce]
        exact same_atOnce h hp.state hs job
      · have hsettled : (p.step exec plan (i, .next)).settled exec i = p.settled exec i := by
          rw [heq, settled_update_self]
          unfold Pool.settled
          rw [htasks]
          rfl
        refine settled_run h turns hnext ?_
        rw [hsettled]
        exact hs
      · have hbegun : p.begun exec plan i ((i, turn) :: turns) =
            (p.step exec plan (i, turn)).begun exec plan i turns := by
          cases turn with
          | next => rfl
          | begin job => simp [Pool.begun, hbusy job rfl]
        rw [hbegun]
        refine settled_run h turns hnext ?_
        rw [heq]
        exact hs
    · have hbegun : p.begun exec plan i ((j, turn) :: turns) =
          (p.step exec plan (j, turn)).begun exec plan i turns := by
        cases turn with
        | next => rfl
        | begin job => simp [Pool.begun, Ne.symm hij]
      obtain ⟨hseen, hkept⟩ := same_step_of_ne h hp hij turn
      have hsettled : same i ((p.step exec plan (j, turn)).settled exec i) (p.settled exec i) := by
        unfold Pool.settled
        rw [hkept]
        exact same_foldl h (hp.left i) hseen
      rw [hbegun]
      exact settled_run h turns hnext (h.trans hsettled hs)

end OpenchamiOperator.Lib.Workers
