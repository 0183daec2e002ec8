import Mathlib.Algebra.Group.Nat.Defs
import Mathlib.Data.Nat.Log
import Mathlib.Tactic.Common

/-! # Rounding to 53 bits

The positive numbers of Go's type `float64` in the range without overflow and underflow, as fractions
of naturals. A result is the exact value rounded to 53 bits, to the even neighbour in the middle.

* `round_exact`: a natural number of at most 53 bits is its own rounding. -/

namespace OpenchamiOperator.Lib.Float64

/-- The natural number nearest to `a / b`, the even one of two. -/
def nearest (a b : ℕ) : ℕ :=
  if 2 * (a % b) < b ∨ (2 * (a % b) = b ∧ a / b % 2 = 0) then a / b else a / b + 1

theorem nearest_mul {b : ℕ} (q : ℕ) (hb : 0 < b) : nearest (q * b) b = q := by
  unfold nearest
  rw [Nat.mul_mod_left, Nat.mul_div_cancel _ hb, if_pos (Or.inl (by omega))]

/-- The fraction `a / b`, rounded to 53 bits. Scaled by the power of two the quotient has at least 53
bits, and the surplus is rounded away. -/
def round (a b : ℕ) : ℕ × ℕ :=
  let scale := 2 ^ (53 + Nat.log2 b)
  let surplus := 2 ^ (Nat.log2 (a * scale / b) - 52)
  (nearest (a * scale) (b * surplus) * surplus, scale)

theorem round_exact {b q : ℕ} (hb : 0 < b) (hq : 0 < q) (hlt : q < 2 ^ 53) :
    0 < (round (q * b) b).2 ∧ (round (q * b) b).1 = q * (round (q * b) b).2 := by
  have hpow : ∀ k : ℕ, 0 < 2 ^ k := fun k => Nat.pow_pos (by decide)
  refine ⟨hpow _, ?_⟩
  simp only [round]
  generalize hs : 53 + Nat.log2 b = s
  have hdiv : q * b * 2 ^ s / b = q * 2 ^ s := by
    rw [Nat.mul_right_comm, Nat.mul_div_cancel _ hb]
  have hlog : Nat.log2 (q * 2 ^ s) ≤ 52 + s := by
    have hlt' : q * 2 ^ s < 2 ^ (53 + s) := by
      rw [Nat.pow_add]
      exact Nat.mul_lt_mul_of_pos_right hlt (hpow s)
    have := (Nat.log2_lt (Nat.mul_pos hq (hpow s)).ne').mpr hlt'
    omega
  rw [hdiv]
  generalize hk : Nat.log2 (q * 2 ^ s) - 52 = k
  have hsplit : 2 ^ s = 2 ^ (s - k) * 2 ^ k := by
    rw [← Nat.pow_add]
    congr 1
    omega
  have hfactor : q * b * 2 ^ s = q * 2 ^ (s - k) * (b * 2 ^ k) := by
    rw [hsplit]
    ac_rfl
  rw [hfactor, nearest_mul _ (Nat.mul_pos hb (hpow k)), Nat.mul_assoc, ← hsplit]

end OpenchamiOperator.Lib.Float64
