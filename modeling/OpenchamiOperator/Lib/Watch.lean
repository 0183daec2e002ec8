import Mathlib.Logic.Function.Basic

/-! # Watched inputs

A controller has a queue of keys. A pass for a key begins with taking the key from the queue and
reading its object; the other inputs are read later, each at a time of its own, and the world may
change in between. A change puts keys into the queue, if it is heard.

* `Covered`: a change that is heard and does not put a key into the queue makes no difference to a
  pass for it.
* `fresh_run`: at any time a key is in the queue, or what the last pass for it has read makes no
  difference to what there is now, provided that a pass has begun after each change not heard. -/

namespace OpenchamiOperator.Lib.Watch

variable {κ ω ε ο ι : Type} {V : ι → Type}

/-- A world that changes by events, the objects and the inputs in it, and the keys that an event puts
into the queue. -/
structure System (κ ω ε ο ι : Type) (V : ι → Type) where
  effect : ω → ε → ω
  notify : ω → ε → κ → Bool
  object : κ → ω → Option ο
  input : (i : ι) → ω → V i

/-- What a pass has read so far. -/
structure Notes (ο : Type) {ι : Type} (V : ι → Type) where
  object : Option ο
  inputs : (i : ι) → Option (V i)

/-- The world, the queue, and what the last pass for each key has read. -/
structure State (κ ω ο : Type) {ι : Type} (V : ι → Type) where
  world : ω
  queue : κ → Bool
  notes : κ → Notes ο V

/-- What can happen: a change of the world, the beginning of a pass, one of its reads, or that a key
goes back into the queue, after an error or when its time has come. -/
inductive Move (κ ε ι : Type) where
  | change (e : ε)
  | begin (k : κ)
  | read (k : κ) (i : ι)
  | requeue (k : κ)

variable [DecidableEq κ] [DecidableEq ι] (S : System κ ω ε ο ι V)

def step (s : State κ ω ο V) : Move κ ε ι → State κ ω ο V
  | .change e => ⟨S.effect s.world e, fun k => s.queue k || S.notify s.world e k, s.notes⟩
  | .begin k => ⟨s.world, Function.update s.queue k false,
      Function.update s.notes k ⟨S.object k s.world, fun _ => none⟩⟩
  | .read k i => ⟨s.world, s.queue, Function.update s.notes k ⟨(s.notes k).object,
      Function.update (s.notes k).inputs i (some (S.input i s.world))⟩⟩
  | .requeue k => ⟨s.world, Function.update s.queue k true, s.notes⟩

def run (s : State κ ω ο V) (moves : List (Move κ ε ι)) : State κ ω ο V := moves.foldl (step S) s

/-- The beginning: every key is in the queue. -/
def start (w : ω) : State κ ω ο V := ⟨w, fun _ => true, fun _ => ⟨none, fun _ => none⟩⟩

/-- **A change that is heard and not reported for a key makes no difference to it.** `same o i`
relates the values of an input between which a pass over the object `o` cannot tell. -/
structure Covered (heard : ε → Prop) (same : ο → (i : ι) → V i → V i → Prop) : Prop where
  refl : ∀ o i v, same o i v v
  trans : ∀ {o i u v w}, same o i u v → same o i v w → same o i u w
  object : ∀ {w e k}, S.notify w e k = false → S.object k (S.effect w e) = S.object k w
  input : ∀ {w e k o}, heard e → S.notify w e k = false → S.object k w = some o →
    ∀ i, same o i (S.input i w) (S.input i (S.effect w e))

/-- The last pass has read the object as it is, and inputs that make no difference. -/
structure UpToDate (same : ο → (i : ι) → V i → V i → Prop) (s : State κ ω ο V) (k : κ) : Prop where
  object : (s.notes k).object = S.object k s.world
  input : ∀ o, S.object k s.world = some o → ∀ i v, (s.notes k).inputs i = some v →
    same o i v (S.input i s.world)

/-- The key is in the queue, or its last pass is up to date. -/
def Fresh (same : ο → (i : ι) → V i → V i → Prop) (s : State κ ω ο V) (k : κ) : Prop :=
  s.queue k = true ∨ UpToDate S same s k

variable {S} {heard : ε → Prop} {same : ο → (i : ι) → V i → V i → Prop}

theorem fresh_change (h : Covered S heard same) {s : State κ ω ο V} {k : κ} (hs : Fresh S same s k)
    {e : ε} (he : heard e) : Fresh S same (step S s (.change e)) k := by
  cases hnotify : S.notify s.world e k
  · rcases hs with hqueue | ⟨hobject, hinput⟩
    · exact Or.inl (by simp [step, hqueue])
    · have hsame := h.object hnotify
      refine Or.inr ⟨hobject.trans hsame.symm, fun o ho i v hv => ?_⟩
      have ho' : S.object k s.world = some o := hsame.symm.trans ho
      exact h.trans (hinput o ho' i v hv) (h.input he hnotify ho' i)
  · exact Or.inl (by simp [step, hnotify])

theorem fresh_begin_self (s : State κ ω ο V) (k : κ) : Fresh S same (step S s (.begin k)) k :=
  Or.inr ⟨by simp [step], fun o _ i v hv => by simp [step] at hv⟩

theorem fresh_begin {s : State κ ω ο V} {k : κ} (hs : Fresh S same s k) (j : κ) :
    Fresh S same (step S s (.begin j)) k := by
  by_cases hkj : k = j
  · subst hkj
    exact fresh_begin_self s k
  · rcases hs with hqueue | ⟨hobject, hinput⟩
    · exact Or.inl (by simpa [step, Function.update_of_ne hkj] using hqueue)
    · refine Or.inr ⟨?_, fun o ho i v hv => hinput o ho i v ?_⟩
      · simpa [step, Function.update_of_ne hkj] using hobject
      · simpa [step, Function.update_of_ne hkj] using hv

theorem fresh_read (h : Covered S heard same) {s : State κ ω ο V} {k : κ} (hs : Fresh S same s k)
    (j : κ) (i : ι) : Fresh S same (step S s (.read j i)) k := by
  rcases hs with hqueue | ⟨hobject, hinput⟩
  · exact Or.inl hqueue
  · by_cases hkj : k = j
    · subst hkj
      refine Or.inr ⟨by simpa [step] using hobject, fun o ho i' v hv => ?_⟩
      by_cases hi : i' = i
      · subst hi
        have hv' : S.input i' s.world = v := by simpa [step] using hv
        rw [← hv']
        exact h.refl o i' _
      · exact hinput o ho i' v (by simpa [step, Function.update_of_ne hi] using hv)
    · refine Or.inr ⟨?_, fun o ho i' v hv => hinput o ho i' v ?_⟩
      · simpa [step, Function.update_of_ne hkj] using hobject
      · simpa [step, Function.update_of_ne hkj] using hv

theorem fresh_requeue {s : State κ ω ο V} {k : κ} (hs : Fresh S same s k) (j : κ) :
    Fresh S same (step S s (.requeue j)) k := by
  by_cases hkj : k = j
  · subst hkj
    exact Or.inl (by simp [step])
  · rcases hs with hqueue | ⟨hobject, hinput⟩
    · exact Or.inl (by simpa [step, Function.update_of_ne hkj] using hqueue)
    · exact Or.inr ⟨hobject, hinput⟩

theorem fresh_step (h : Covered S heard same) {s : State κ ω ο V} {k : κ} (hs : Fresh S same s k)
    (m : Move κ ε ι) (hm : ∀ e, m = .change e → heard e) : Fresh S same (step S s m) k := by
  cases m with
  | change e => exact fresh_change h hs (hm e rfl)
  | begin j => exact fresh_begin hs j
  | read j i => exact fresh_read h hs j i
  | requeue j => exact fresh_requeue hs j

/-- **Nothing is missed**: whatever happens and in whatever order, by induction on the moves. What is
carried along is that the key is fresh, or that a pass for it is still to begin. -/
theorem fresh_run (h : Covered S heard same) (k : κ) : ∀ (moves : List (Move κ ε ι))
    {s : State κ ω ο V}, (Fresh S same s k ∨ .begin k ∈ moves) →
      (∀ e rest, .change e :: rest <:+ moves → heard e ∨ .begin k ∈ rest) →
      Fresh S same (run S s moves) k
  | [], _, hs, _ => hs.resolve_right List.not_mem_nil
  | m :: moves, s, hs, hheard => by
    have hlater : ∀ e rest, .change e :: rest <:+ moves → heard e ∨ .begin k ∈ rest :=
      fun e rest hrest => hheard e rest (hrest.trans (List.suffix_cons m moves))
    refine fresh_run h k moves ?_ hlater
    rcases hs with hs | hbegin
    · by_cases hm : ∀ e, m = .change e → heard e
      · exact Or.inl (fresh_step h hs m hm)
      · obtain ⟨e, he⟩ := Classical.not_forall.mp hm
        obtain ⟨rfl, hunheard⟩ := Classical.not_imp.mp he
        exact Or.inr ((hheard e moves List.suffix_rfl).resolve_left hunheard)
    · rcases List.mem_cons.mp hbegin with rfl | hbegin
      · exact Or.inl (fresh_begin_self s k)
      · exact Or.inr hbegin

end OpenchamiOperator.Lib.Watch
