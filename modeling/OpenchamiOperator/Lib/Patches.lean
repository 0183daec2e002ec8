import OpenchamiOperator.Lib.GoMap

/-! # Maps changed by merge patches

Several writers change one map, each by a patch that sets some of its keys and leaves the others.

* `get?_after`: a key has the value of the last patch that sets it.
* `merge_comm`: patches that set different keys can be exchanged. -/

namespace OpenchamiOperator.Lib.GoMap

variable {β : Type}

/-- The map after a merge patch. -/
def merge (labels patch : GoMap β) : GoMap β := patch.union labels

theorem get?_merge (labels patch : GoMap β) (k : String) :
    (labels.merge patch).get? k = (patch.get? k).or (labels.get? k) := get?_union patch labels k

/-- **Patches of different keys commute.** -/
theorem merge_comm {p q : GoMap β} (h : ∀ k, p.get? k = none ∨ q.get? k = none)
    (labels : GoMap β) : (labels.merge p).merge q = (labels.merge q).merge p := by
  refine ext fun k => ?_
  simp only [get?_merge]
  rcases h k with hp | hq
  · rw [hp]
    simp
  · rw [hq]
    simp

section History
variable {W : Type} (patchOf : W → GoMap β)

/-- The map after the patches of `ws`, the first of them first. -/
def after (start : GoMap β) (ws : List W) : GoMap β :=
  ws.foldl (fun labels w => labels.merge (patchOf w)) start

/-- The last of `ws` whose patch sets `k`. -/
def lastWriter (k : String) (ws : List W) : Option W :=
  ws.reverse.find? fun w => ((patchOf w).get? k).isSome

theorem get?_after (k : String) (ws : List W) : ∀ start : GoMap β,
    (after patchOf start ws).get? k = match lastWriter patchOf k ws with
      | some w => (patchOf w).get? k
      | none => start.get? k := by
  induction ws with
  | nil => exact fun _ => rfl
  | cons w ws ih =>
    intro start
    have hrun : after patchOf start (w :: ws) = after patchOf (start.merge (patchOf w)) ws := rfl
    have hlast : lastWriter patchOf k (w :: ws) = (lastWriter patchOf k ws).or
        (if ((patchOf w).get? k).isSome then some w else none) := by
      unfold lastWriter
      rw [List.reverse_cons, List.find?_append]
      congr 1
      by_cases hw : ((patchOf w).get? k).isSome = true <;> simp [hw]
    rw [hrun, ih, hlast]
    -- a later writer decides, then this one, then the start
    rcases lastWriter patchOf k ws with _ | w'
    · rw [get?_merge]
      rcases hw : (patchOf w).get? k with _ | v
      · simp
      · simp [hw]
    · rfl

theorem mem_of_lastWriter {k : String} {ws : List W} {w : W} (h : lastWriter patchOf k ws = some w) :
    w ∈ ws := List.mem_reverse.mp (List.mem_of_find?_eq_some h)

end History

end OpenchamiOperator.Lib.GoMap
