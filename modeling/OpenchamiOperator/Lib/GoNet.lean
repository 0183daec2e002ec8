import Mathlib.Tactic.Linarith
import Mathlib.Tactic.Ring
import OpenchamiOperator.Lib.NetipText

/-! # Masks and networks of the Go package `net`

`net.IP`, `net.IPMask` and `net.IPNet` are slices of bytes, on which the package works byte by byte.
The nil slice is the empty list.

* `value_zipWith_cidrMask`: clearing the host part byte by byte is rounding the number down.
* `maskSize_cidrMask`: a mask tells its length. -/

namespace OpenchamiOperator.Lib.GoNet

open Netip

/-! ### Bytes -/

/-- The last `count` bytes of a number, the most significant first. -/
def bytesOf : ℕ → ℕ → List (BitVec 8)
  | 0, _ => []
  | count + 1, n => bytesOf count (n / 256) ++ [BitVec.ofNat 8 n]

/-- The number that a sequence of bytes stands for. -/
def value : List (BitVec 8) → ℕ
  | [] => 0
  | b :: l => b.toNat * 256 ^ l.length + value l

theorem length_bytesOf : ∀ count n, (bytesOf count n).length = count
  | 0, _ => rfl
  | count + 1, n => by simp [bytesOf, length_bytesOf count]

theorem value_lt (l : List (BitVec 8)) : value l < 256 ^ l.length := by
  induction l with
  | nil => exact Nat.one_pos
  | cons b l ih =>
    have hb : b.toNat < 256 := b.isLt
    calc b.toNat * 256 ^ l.length + value l < (b.toNat + 1) * 256 ^ l.length := by linarith
      _ ≤ 256 * 256 ^ l.length := Nat.mul_le_mul_right _ hb
      _ = 256 ^ (b :: l).length := by rw [List.length_cons, Nat.pow_succ, Nat.mul_comm]

theorem value_append (l : List (BitVec 8)) (b : BitVec 8) :
    value (l ++ [b]) = 256 * value l + b.toNat := by
  induction l with
  | nil => simp [value]
  | cons a l ih =>
    simp only [List.cons_append, value, ih, List.length_append, List.length_singleton,
      Nat.pow_succ]
    ring

theorem value_bytesOf : ∀ count n, n < 256 ^ count → value (bytesOf count n) = n
  | 0, n, h => by
    have : n = 0 := by simpa using h
    rw [this]
    rfl
  | count + 1, n, h => by
    have hquot : n / 256 < 256 ^ count := by
      rw [Nat.div_lt_iff_lt_mul (by decide), ← Nat.pow_succ]
      exact h
    rw [bytesOf, value_append, value_bytesOf count _ hquot, BitVec.toNat_ofNat]
    omega

/-! ### Addresses -/

/-- `v4InV6Prefix`. -/
def v4InV6Prefix : List (BitVec 8) := List.replicate 10 0#8 ++ [0xff#8, 0xff#8]

/-- `As16`. -/
def as16 : Addr → List (BitVec 8)
  | .v4 n => v4InV6Prefix ++ bytesOf 4 n
  | .v6 n _ => bytesOf 16 n

/-- `IP.To4`. -/
def to4 (ip : List (BitVec 8)) : Option (List (BitVec 8)) :=
  if ip.length = 4 then some ip
  else if ip.length = 16 ∧ ip.take 12 = v4InV6Prefix then some (ip.drop 12)
  else none

/-! ### Masks -/

/-- `CIDRMask`, in bytes. -/
def cidrMask : ℕ → ℕ → List (BitVec 8)
  | _, 0 => []
  | n, count + 1 =>
    if 8 ≤ n then 0xff#8 :: cidrMask (n - 8) count else ~~~(0xff#8 >>> n) :: cidrMask 0 count

/-- `IP.Mask`. -/
def mask (ip m : List (BitVec 8)) : List (BitVec 8) :=
  let m := if m.length = 16 ∧ ip.length = 4 ∧ m.take 12 = List.replicate 12 0xff#8 then m.drop 12
    else m
  let ip := if m.length = 4 ∧ ip.length = 16 ∧ ip.take 12 = v4InV6Prefix then ip.drop 12 else ip
  if ip.length ≠ m.length then [] else List.zipWith (· &&& ·) ip m

/-- How many of the first bits are set, and the byte after they have been shifted out. A byte has
no more than eight. -/
def leadingOnes : ℕ → BitVec 8 → ℕ × BitVec 8
  | 0, v => (0, v)
  | rounds + 1, v =>
    if v &&& 0x80#8 ≠ 0#8 then
      let (n, rest) := leadingOnes rounds (v <<< 1)
      (n + 1, rest)
    else (0, v)

/-- `simpleMaskLength`; none stands for `-1`. -/
def simpleMaskLength : List (BitVec 8) → Option ℕ
  | [] => some 0
  | v :: m =>
    if v = 0xff#8 then (simpleMaskLength m).map (8 + ·)
    else
      let (n, rest) := leadingOnes 8 v
      if rest = 0#8 ∧ ∀ b ∈ m, b = 0#8 then some n else none

/-- `IPMask.Size`: the number of ones and of all bits. -/
def maskSize (m : List (BitVec 8)) : ℕ × ℕ :=
  match simpleMaskLength m with
  | none => (0, 0)
  | some n => (n, m.length * 8)

theorem length_cidrMask : ∀ n count, (cidrMask n count).length = count
  | _, 0 => rfl
  | n, count + 1 => by
    unfold cidrMask
    split <;> simp [length_cidrMask]

theorem cidrMask_zero : ∀ count, cidrMask 0 count = List.replicate count 0#8
  | 0 => rfl
  | count + 1 => by
    rw [cidrMask, if_neg (by decide), cidrMask_zero count, List.replicate_succ]
    rfl

/-- The byte of a mask in which its ones end. -/
theorem leadingOnes_edge : ∀ n < 8, ~~~(0xff#8 >>> n) ≠ 0xff#8 ∧
    leadingOnes 8 (~~~(0xff#8 >>> n)) = (n, 0#8) := by
  decide

theorem simpleMaskLength_cidrMask {n count : ℕ} (h : n ≤ count * 8) :
    simpleMaskLength (cidrMask n count) = some n := by
  induction count generalizing n with
  | zero =>
    have : n = 0 := by omega
    rw [this]
    rfl
  | succ count ih =>
    unfold cidrMask
    split
    next hn =>
      rw [simpleMaskLength, if_pos rfl, ih (by omega), Option.map_some]
      congr 1
      omega
    next hn =>
      obtain ⟨hne, hedge⟩ := leadingOnes_edge n (by omega)
      rw [simpleMaskLength, if_neg hne]
      simp [hedge, cidrMask_zero]

theorem maskSize_cidrMask {n count : ℕ} (h : n ≤ count * 8) :
    maskSize (cidrMask n count) = (n, count * 8) := by
  rw [maskSize, simpleMaskLength_cidrMask h, length_cidrMask]

/-- The byte in which the network part ends keeps its first `n` bits. -/
theorem toNat_and_edge : ∀ n < 8, ∀ b : BitVec 8,
    (b &&& ~~~(0xff#8 >>> n)).toNat = b.toNat / 2 ^ (8 - n) * 2 ^ (8 - n) := by
  decide +kernel

theorem value_replicate_zero : ∀ count, value (List.replicate count 0#8) = 0
  | 0 => rfl
  | count + 1 => by simp [List.replicate_succ, value, value_replicate_zero count]

theorem zipWith_and_zero (l : List (BitVec 8)) :
    List.zipWith (· &&& ·) l (List.replicate l.length 0#8) = List.replicate l.length 0#8 := by
  induction l with
  | nil => rfl
  | cons b l ih => simp [List.replicate_succ, ih]

/-- **The network part** of an address, byte by byte, is the number rounded down. -/
theorem value_zipWith_cidrMask {l : List (BitVec 8)} {n : ℕ} (h : n ≤ l.length * 8) :
    value (List.zipWith (· &&& ·) l (cidrMask n l.length)) =
      value l / 2 ^ (l.length * 8 - n) * 2 ^ (l.length * 8 - n) := by
  have hpow : ∀ k, 256 ^ k = 2 ^ (k * 8) := fun k => by rw [Nat.mul_comm, Nat.pow_mul]
  induction l generalizing n with
  | nil => simp [value]
  | cons b l ih =>
    rw [List.length_cons] at h ⊢
    unfold cidrMask
    by_cases hn : 8 ≤ n
    · -- the first byte belongs to the network
      rw [if_pos hn, List.zipWith_cons_cons, value, value, ih (by omega), List.length_zipWith,
        length_cidrMask, Nat.min_self]
      have hk : (l.length + 1) * 8 - n = l.length * 8 - (n - 8) := by omega
      have hfactor : 256 ^ l.length = 2 ^ (l.length * 8 - (n - 8)) * 2 ^ (n - 8) := by
        rw [hpow, ← Nat.pow_add]
        congr 1
        omega
      have hbyte : b &&& 0xff#8 = b := BitVec.and_allOnes
      rw [hk, hbyte, hfactor, Nat.mul_left_comm, Nat.mul_add_div (Nat.two_pow_pos _)]
      ring
    · -- the network ends in the first byte
      rw [if_neg hn, List.zipWith_cons_cons, cidrMask_zero, zipWith_and_zero, value, value,
        value_replicate_zero, List.length_replicate, toNat_and_edge n (by omega)]
      have hk : (l.length + 1) * 8 - n = l.length * 8 + (8 - n) := by omega
      have hquot : (b.toNat * 256 ^ l.length + value l) / 256 ^ l.length = b.toNat := by
        rw [Nat.add_comm, Nat.add_mul_div_right _ _ (Nat.pow_pos (by decide)),
          Nat.div_eq_of_lt (value_lt l), Nat.zero_add]
      rw [hk, Nat.pow_add, ← hpow, ← Nat.div_div_eq_div_mul, hquot]
      ring

/-! ### Networks -/

/-- `net.IPNet`. -/
structure IPNet where
  ip : List (BitVec 8)
  mask : List (BitVec 8)

/-- The network that `net.ParseCIDR` returns for an address and a length. -/
def ipNetOf (addr : Addr) (bits : ℕ) : IPNet where
  ip := mask (as16 addr) (cidrMask bits (addr.bitLen / 8))
  mask := cidrMask bits (addr.bitLen / 8)

theorem maskSize_ipNetOf {addr : Addr} {bits : ℕ} (h : bits ≤ addr.bitLen) :
    maskSize (ipNetOf addr bits).mask = (bits, addr.bitLen) := by
  have hbytes : addr.bitLen / 8 * 8 = addr.bitLen := by cases addr <;> simp [Addr.bitLen]
  rw [ipNetOf, maskSize_cidrMask (by omega), hbytes]

/-- The network of an IPv4 address has the four bytes of its number. -/
theorem ipNetOf_v4 (n bits : ℕ) : (ipNetOf (.v4 n) bits).ip =
    List.zipWith (· &&& ·) (bytesOf 4 n) (cidrMask bits 4) := by
  have hm : (cidrMask bits 4).length = 4 := length_cidrMask bits 4
  have hb : (bytesOf 4 n).length = 4 := length_bytesOf 4 n
  simp [ipNetOf, mask, as16, Addr.bitLen, v4InV6Prefix, hm, hb]

end OpenchamiOperator.Lib.GoNet
