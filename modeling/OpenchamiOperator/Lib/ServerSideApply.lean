import Mathlib.Data.List.Basic
import Mathlib.Data.Set.Basic

/-! # Server-side apply

An object whose fields are owned by field managers, and the forced apply of a manager: what the
manager sends is set and becomes its own, what it alone owned and no longer sends is removed, and
all else stays as it is. A manager that sends another value takes the field from the others; one
that sends the value that is there shares it.

* `value_apply_of_owner`: a field that another manager owns is not removed.
* `Confined.value_apply`, `Confined.owners_apply`: a manager that owns and sends fields of a set
  only changes nothing outside the set. -/

namespace OpenchamiOperator.Lib

/-- Atomic fields `F` with values `V` and the managers `M` that own them. -/
structure Managed (F V M : Type*) where
  value : F → Option V := fun _ => none
  owners : F → List M := fun _ => []

namespace Managed

variable {F V M : Type*} [DecidableEq V] [DecidableEq M]

/-- The apply of a manager with forced ownership. -/
def apply (m : M) (config : F → Option V) (o : Managed F V M) : Managed F V M where
  value f := match config f with
    | some v => some v
    | none => if m ∈ o.owners f ∧ ∀ x ∈ o.owners f, x = m then none else o.value f
  owners f := match config f with
    | some v => if o.value f = some v then m :: (o.owners f).filter (· ≠ m) else [m]
    | none => (o.owners f).filter (· ≠ m)

variable {m x : M} {config : F → Option V} {o : Managed F V M} {f : F}

theorem value_apply_of_some {v : V} (h : config f = some v) :
    (o.apply m config).value f = some v := by
  unfold apply
  simp only [h]

theorem value_apply_of_notMem (h : config f = none) (hm : m ∉ o.owners f) :
    (o.apply m config).value f = o.value f := by
  unfold apply
  simp only [h]
  exact if_neg fun hsole => hm hsole.1

/-- A field that another manager owns is not removed. -/
theorem value_apply_of_owner (h : config f = none) (hx : x ∈ o.owners f) (hne : x ≠ m) :
    (o.apply m config).value f = o.value f := by
  unfold apply
  simp only [h]
  exact if_neg fun hsole => hne (hsole.2 x hx)

/-- After an apply its manager owns what it has sent. -/
theorem mem_owners_apply_self : m ∈ (o.apply m config).owners f ↔ (config f).isSome := by
  unfold apply
  rcases hconfig : config f with _ | v
  · simp [hconfig]
  · simp only [hconfig, Option.isSome_some, iff_true]
    split_ifs
    · exact List.mem_cons_self
    · exact List.mem_cons_self

/-- An apply makes no other manager an owner. -/
theorem mem_of_mem_owners_apply (hne : x ≠ m) (hx : x ∈ (o.apply m config).owners f) :
    x ∈ o.owners f := by
  have hfilter : x ∈ (o.owners f).filter (· ≠ m) → x ∈ o.owners f := List.mem_of_mem_filter
  unfold apply at hx
  rcases hconfig : config f with _ | v
  · simp only [hconfig] at hx
    exact hfilter hx
  · simp only [hconfig] at hx
    split_ifs at hx
    · exact hfilter ((List.mem_cons.mp hx).resolve_left hne)
    · exact absurd (List.mem_singleton.mp hx) hne

/-! ### Managers of a few fields -/

/-- The manager owns fields of the set only. -/
def Confined (m : M) (S : Set F) (o : Managed F V M) : Prop := ∀ f, m ∈ o.owners f → f ∈ S

namespace Confined

variable {S : Set F}

theorem apply_self (hconfig : ∀ f, (config f).isSome → f ∈ S) :
    Confined m S (o.apply m config) :=
  fun f hf => hconfig f (mem_owners_apply_self.mp hf)

theorem apply_of_ne (h : Confined x S o) (hne : x ≠ m) : Confined x S (o.apply m config) :=
  fun f hf => h f (mem_of_mem_owners_apply hne hf)

variable (h : Confined m S o) (hconfig : ∀ f, (config f).isSome → f ∈ S) (hf : f ∉ S)
include h hconfig hf

theorem value_apply : (o.apply m config).value f = o.value f := by
  have hnone : config f = none := Option.not_isSome_iff_eq_none.mp fun hsome => hf (hconfig f hsome)
  exact value_apply_of_notMem hnone fun hm => hf (h f hm)

theorem owners_apply : (o.apply m config).owners f = o.owners f := by
  have hnone : config f = none := Option.not_isSome_iff_eq_none.mp fun hsome => hf (hconfig f hsome)
  have hkept : ∀ x ∈ o.owners f, decide (x ≠ m) = true := fun x hx =>
    decide_eq_true fun hxm => hf (h f (hxm ▸ hx))
  unfold apply
  simp only [hnone]
  exact List.filter_eq_self.mpr hkept

end Confined

end Managed

end OpenchamiOperator.Lib
