import Mathlib.Tactic.Ring
import OpenchamiOperator.Lib.Float64
import OpenchamiOperator.Lib.Strconv

/-! # Durations of the Go package `time`

A duration is a signed number of nanoseconds, read by `time.ParseDuration` and written by `String`.
The fraction of a number goes through `float64`, as in Go.

* `parse_range`: what is read fits 64 bits.
* `parse_string`: what is written reads back. -/

namespace OpenchamiOperator.Lib.Duration

open Strconv

/-- The units, in nanoseconds; the micro sign has two code points. -/
def unit? : List Char → Option ℕ
  | ['n', 's'] => some 1
  | ['u', 's'] => some 1000
  | ['µ', 's'] => some 1000
  | ['μ', 's'] => some 1000
  | ['m', 's'] => some 1000000
  | ['s'] => some 1000000000
  | ['m'] => some 60000000000
  | ['h'] => some 3600000000000
  | _ => none

def value (digits : List Char) : ℕ := digits.foldl (fun n c => 10 * n + (c.toNat - 48)) 0

/-- The largest number of nanoseconds, `1 << 63`. -/
def limit : ℕ := 2 ^ 63

/-- The digits after a point, if there is one, and the rest. -/
def fraction : List Char → List Char × List Char
  | '.' :: rest => (rest.takeWhile Char.isDigit, rest.dropWhile Char.isDigit)
  | rest => ([], rest)

def unitChar (c : Char) : Bool := c ≠ '.' && !c.isDigit

/-- `leadingFraction`: the digits as a number, and how many they are; digits that no longer fit are
passed over. -/
def leadingFraction : List Char → ℕ → ℕ → ℕ × ℕ
  | [], x, k => (x, k)
  | c :: cs, x, k =>
    if (limit - 1) / 10 < x then (x, k)
    else
      let y := 10 * x + (c.toNat - 48)
      if limit < y then (x, k) else leadingFraction cs y (k + 1)

/-- The scale of `k` digits: one, multiplied by ten for each of them. Up to 22 digits it is exact. -/
def scale : ℕ → ℕ × ℕ
  | 0 => (1, 1)
  | k + 1 => Float64.round (10 * (scale k).1) (scale k).2

/-- `uint64(float64(f) * (float64(unit) / scale))`. -/
def fractionOf (f k unit : ℕ) : ℕ :=
  let factor := Float64.round f 1
  let ratio := Float64.round (unit * (scale k).2) (scale k).1
  let product := Float64.round (factor.1 * ratio.1) (factor.2 * ratio.2)
  product.1 / product.2

/-- The nanoseconds of a number of units, given by the digits before and after its point. -/
def amount (whole part : List Char) (u : ℕ) : ℕ :=
  let (f, k) := leadingFraction part 0 0
  value whole * u + if 0 < f then fractionOf f k u else 0

/-- One term: digits, perhaps a fraction, and a unit. Gives the nanoseconds and the rest. -/
def term? (s : List Char) : Option (ℕ × List Char) :=
  let whole := s.takeWhile Char.isDigit
  let (part, rest) := fraction (s.dropWhile Char.isDigit)
  if whole = [] ∧ part = [] then none
  else
    match unit? (rest.takeWhile unitChar) with
    | none => none
    | some u =>
      if amount whole part u ≤ limit then some (amount whole part u, rest.dropWhile unitChar)
      else none

/-- The sum of the terms, at least one; every term uses up a character. -/
def terms? : ℕ → List Char → ℕ → Option ℕ
  | 0, _, _ => none
  | fuel + 1, s, acc =>
    match term? s with
    | none => none
    | some (n, rest) =>
      if limit < acc + n then none
      else if rest = [] then some (acc + n)
      else terms? fuel rest (acc + n)

/-- The sign, and what comes after it. -/
def sign : List Char → Bool × List Char
  | '-' :: rest => (true, rest)
  | '+' :: rest => (false, rest)
  | rest => (false, rest)

/-- `time.ParseDuration`. -/
def parse (s : String) : Option ℤ :=
  let (negative, rest) := sign s.toList
  if rest = ['0'] then some 0
  else
    match terms? (rest.length + 1) rest 0 with
    | none => none
    | some n =>
      if negative then some (-n)
      else if n < limit then some n
      else none

theorem length_fraction_le (s : List Char) : (fraction s).2.length ≤ s.length := by
  unfold fraction
  split
  · exact (List.dropWhile_suffix _).length_le.trans (Nat.le_succ _)
  · exact le_rfl

/-- A term takes at least the unit off the string. -/
theorem length_of_term? {s rest : List Char} {n : ℕ} (h : term? s = some (n, rest)) :
    rest.length < s.length := by
  unfold term? at h
  have hwhole : (s.dropWhile Char.isDigit).length ≤ s.length := (List.dropWhile_suffix _).length_le
  have hpart := length_fraction_le (s.dropWhile Char.isDigit)
  rcases hfraction : fraction (s.dropWhile Char.isDigit) with ⟨part, tail⟩
  rw [hfraction] at h hpart
  simp only at h hpart
  split_ifs at h
  split at h
  · cases h
  · rename_i u hu
    split_ifs at h
    have hrest : rest = tail.dropWhile unitChar := by cases h; rfl
    have hsplit := congrArg List.length (List.takeWhile_append_dropWhile (p := unitChar) (l := tail))
    rw [List.length_append] at hsplit
    -- the empty string is no unit
    have hpos : 0 < (tail.takeWhile unitChar).length := by
      rcases hunit : tail.takeWhile unitChar with _ | ⟨c, cs⟩
      · rw [hunit] at hu
        cases hu
      · exact Nat.succ_pos _
    rw [hrest]
    omega

/-- The fuel `parse` gives is enough: more of it changes nothing. -/
theorem terms?_fuel : ∀ (fuel : ℕ) (s : List Char) (acc : ℕ), s.length < fuel →
    terms? fuel s acc = terms? (s.length + 1) s acc
  | 0, _, _, h => absurd h (Nat.not_lt_zero _)
  | fuel + 1, s, acc, h => by
    rw [terms?, terms?]
    rcases hterm : term? s with _ | ⟨n, rest⟩
    · rfl
    · have hlt := length_of_term? hterm
      simp only
      rw [terms?_fuel fuel rest (acc + n) (by omega), terms?_fuel s.length rest (acc + n) hlt]

theorem terms?_le : ∀ (fuel : ℕ) {s : List Char} {acc n : ℕ}, terms? fuel s acc = some n → n ≤ limit
  | 0, _, _, _, h => by cases h
  | fuel + 1, s, acc, n, h => by
    rw [terms?] at h
    split at h
    · cases h
    · split_ifs at h with hover hrest
      · cases h
        exact not_lt.mp hover
      · exact terms?_le fuel h

theorem parse_range {s : String} {d : ℤ} (h : parse s = some d) : -limit ≤ d ∧ d < limit := by
  unfold parse at h
  rcases hsign : sign s.toList with ⟨negative, rest⟩
  rw [hsign] at h
  simp only at h
  by_cases hzero : rest = ['0']
  · rw [if_pos hzero] at h
    cases h
    decide
  · rw [if_neg hzero] at h
    rcases hterms : terms? (rest.length + 1) rest 0 with _ | n
    · rw [hterms] at h
      cases h
    · have hle := terms?_le _ hterms
      rw [hterms] at h
      simp only at h
      have hpos : 0 < limit := by decide
      by_cases hneg : negative = true
      · rw [if_pos hneg] at h
        cases h
        omega
      · rw [if_neg hneg] at h
        obtain ⟨hlt, hd⟩ := Option.ite_none_right_eq_some.mp h
        cases hd
        omega

example : parse "1h30m" = some 5400000000000 := by decide

example : parse "-1.5s" = some (-1500000000) := by decide

example : parse "0.3333333333333333333h" = some 1200000000000 := by decide +kernel

/-! ### Writing -/

/-- The digits of `fmtFrac`: the last `prec` digits of `v`, without the zeros at the end. -/
def fracDigits : ℕ → ℕ → List Char → List Char
  | 0, _, acc => acc
  | prec + 1, v, acc =>
    fracDigits prec (v / 10) (if acc = [] ∧ v % 10 = 0 then [] else Nat.digitChar (v % 10) :: acc)

/-- Digits behind a point, if there are any. -/
def point : List Char → List Char
  | [] => []
  | part => '.' :: part

/-- `v / 10 ^ prec` units. -/
def fmtTerm (v prec : ℕ) (unit : List Char) : List Char :=
  Nat.toDigits 10 (v / 10 ^ prec) ++ (point (fracDigits prec v []) ++ unit)

/-- From a second on: hours, minutes and seconds, from the first that is not zero. -/
def fmtSeconds (u : ℕ) : List Char :=
  let seconds := u / 1000000000
  let minutes := seconds / 60
  let hours := minutes / 60
  (if 0 < hours then Nat.toDigits 10 hours ++ ['h'] else []) ++
  ((if 0 < minutes then Nat.toDigits 10 (minutes % 60) ++ ['m'] else []) ++
  (Nat.toDigits 10 (seconds % 60) ++ (point (fracDigits 9 u []) ++ ['s'])))

/-- `format`, for the absolute value. -/
def format (u : ℕ) : List Char :=
  if u = 0 then ['0', 's']
  else if u < 1000 then fmtTerm u 0 ['n', 's']
  else if u < 1000000 then fmtTerm u 3 ['µ', 's']
  else if u < 1000000000 then fmtTerm u 6 ['m', 's']
  else fmtSeconds u

/-- `Duration.String`. -/
def string (d : ℤ) : String :=
  String.ofList (if d < 0 then '-' :: format d.natAbs else format d.natAbs)

/-! ### What is written reads back -/

theorem value_toDigits (n : ℕ) : value (Nat.toDigits 10 n) = n :=
  Nat.ofDigitChars_toDigits (by decide) (by decide)

theorem value_cons {d : ℕ} (hd : d < 10) (l : List Char) :
    value (Nat.digitChar d :: l) = d * 10 ^ l.length + value l := by
  calc value (Nat.digitChar d :: l)
    _ = Nat.ofDigitChars 10 l (10 * 0 + d) := Nat.ofDigitChars_cons_digitChar_of_lt_ten hd
    _ = 10 ^ l.length * (10 * 0 + d) + value l := Nat.ofDigitChars_eq_ofDigitChars_zero
    _ = d * 10 ^ l.length + value l := by rw [Nat.mul_zero, Nat.zero_add, Nat.mul_comm]

/-- The digits below the point and the zeros left out make up the digits of `v`. -/
theorem fracDigits_value : ∀ (prec v q : ℕ) (acc : List Char), acc.length ≤ q →
    (fracDigits prec v acc).length ≤ prec + q ∧
      value (fracDigits prec v acc) * 10 ^ (prec + q - (fracDigits prec v acc).length) =
        v % 10 ^ prec * 10 ^ q + value acc * 10 ^ (q - acc.length)
  | 0, v, q, acc, h => by
    rw [fracDigits, Nat.pow_zero, Nat.mod_one, Nat.zero_mul, Nat.zero_add, Nat.zero_add]
    exact ⟨h, rfl⟩
  | prec + 1, v, q, acc, h => by
    have hmod : v % 10 ^ (prec + 1) = v / 10 % 10 ^ prec * 10 + v % 10 := by
      rw [Nat.pow_succ', Nat.mod_mul]
      omega
    rw [fracDigits]
    by_cases hzero : acc = [] ∧ v % 10 = 0
    · rw [if_pos hzero]
      obtain ⟨hlen, hval⟩ := fracDigits_value prec (v / 10) (q + 1) [] (Nat.zero_le _)
      rw [show prec + 1 + q = prec + (q + 1) by omega]
      refine ⟨hlen, hval.trans ?_⟩
      rw [hmod, hzero.2, hzero.1, Nat.pow_succ']
      simp only [value, List.foldl_nil, Nat.zero_mul, Nat.add_zero]
      ring
    · rw [if_neg hzero]
      have hd : v % 10 < 10 := Nat.mod_lt _ (by decide)
      obtain ⟨hlen, hval⟩ := fracDigits_value prec (v / 10) (q + 1)
        (Nat.digitChar (v % 10) :: acc) (by rw [List.length_cons]; omega)
      rw [show prec + 1 + q = prec + (q + 1) by omega]
      refine ⟨hlen, hval.trans ?_⟩
      have hpow : 10 ^ acc.length * 10 ^ (q - acc.length) = 10 ^ q := by
        rw [← Nat.pow_add]
        congr 1
        omega
      rw [hmod, value_cons hd, List.length_cons, Nat.add_sub_add_right, Nat.pow_succ', ← hpow]
      ring

theorem fracDigits_isDigit : ∀ (prec v : ℕ) (acc : List Char), (∀ c ∈ acc, c.isDigit = true) →
    ∀ c ∈ fracDigits prec v acc, c.isDigit = true
  | 0, _, _, h => h
  | prec + 1, v, acc, h => by
    rw [fracDigits]
    refine fracDigits_isDigit prec (v / 10) _ ?_
    split_ifs
    · simp
    · intro c hc
      rcases List.mem_cons.mp hc with rfl | hc
      · rw [Nat.isDigit_digitChar]
        exact decide_eq_true (Nat.mod_lt _ (by decide))
      · exact h c hc

/-- Up to nine digits, none is passed over. -/
theorem leadingFraction_eq : ∀ (l : List Char) (x k : ℕ), (∀ c ∈ l, c.isDigit = true) →
    (x + 1) * 10 ^ l.length ≤ 1000000000 →
      leadingFraction l x k = (Nat.ofDigitChars 10 l x, k + l.length)
  | [], x, k, _, _ => rfl
  | c :: l, x, k, hdigit, hle => by
    have hc : c.toNat - 48 ≤ 9 := by
      have := hdigit c (by simp)
      simp only [Char.isDigit, Bool.and_eq_true, decide_eq_true_eq] at this
      have h57 : c.toNat ≤ 57 := this.2
      omega
    rw [List.length_cons, Nat.pow_succ'] at hle
    have hstep : (10 * x + (c.toNat - 48) + 1) * 10 ^ l.length ≤ 1000000000 := by
      refine le_trans (Nat.mul_le_mul_right _ ?_) ((Nat.mul_assoc (x + 1) 10 _).trans_le hle)
      omega
    have hx : 10 * x + (c.toNat - 48) + 1 ≤ 1000000000 :=
      le_trans (Nat.le_mul_of_pos_right _ (Nat.pow_pos (by decide))) hstep
    have hlimit : limit = 9223372036854775808 := rfl
    rw [leadingFraction, if_neg (by omega)]
    simp only
    rw [if_neg (by omega), leadingFraction_eq l _ (k + 1) (fun d hd => hdigit d (by simp [hd])) hstep,
      Nat.ofDigitChars_cons, List.length_cons]
    congr 1
    omega

theorem scale_exact : ∀ {k : ℕ}, k ≤ 15 → 0 < (scale k).2 ∧ (scale k).1 = 10 ^ k * (scale k).2
  | 0, _ => by decide
  | k + 1, hk => by
    obtain ⟨hpos, hscale⟩ := @scale_exact k (by omega)
    have hlt : 10 ^ (k + 1) < 2 ^ 53 :=
      lt_of_le_of_lt (Nat.pow_le_pow_right (by decide) hk) (by decide)
    have hnext : 10 * (scale k).1 = 10 ^ (k + 1) * (scale k).2 := by
      rw [hscale, Nat.pow_succ', Nat.mul_assoc]
    rw [scale, hnext]
    exact Float64.round_exact hpos (Nat.pow_pos (by decide)) hlt

/-- The fraction of a decimal unit is exact as long as it is a whole number of nanoseconds. -/
theorem fractionOf_eq {f k prec : ℕ} (hf : 0 < f) (hk : k ≤ prec) (hprec : prec ≤ 9)
    (hlt : f * 10 ^ (prec - k) < 10 ^ 9) : fractionOf f k (10 ^ prec) = f * 10 ^ (prec - k) := by
  have hpow : ∀ j : ℕ, 0 < 10 ^ j := fun j => Nat.pow_pos (by decide)
  obtain ⟨hpos, hscale⟩ := @scale_exact k (by omega)
  have hunit : 10 ^ prec * (scale k).2 = 10 ^ (prec - k) * (10 ^ k * (scale k).2) := by
    rw [← Nat.mul_assoc, ← Nat.pow_add, Nat.sub_add_cancel hk]
  have hsmall : (10 : ℕ) ^ 9 < 2 ^ 53 := by decide
  have hle : f ≤ f * 10 ^ (prec - k) := Nat.le_mul_of_pos_right _ (hpow _)
  have hle' : 10 ^ (prec - k) ≤ f * 10 ^ (prec - k) := Nat.le_mul_of_pos_left _ hf
  obtain ⟨hb, ha⟩ := @Float64.round_exact 1 f (by decide) hf (by omega)
  obtain ⟨hb', ha'⟩ := @Float64.round_exact (10 ^ k * (scale k).2) (10 ^ (prec - k))
    (Nat.mul_pos (hpow k) hpos) (hpow _) (by omega)
  rw [Nat.mul_one] at hb ha
  unfold fractionOf
  simp only
  rw [hscale, hunit]
  generalize Float64.round f 1 = factor at hb ha
  generalize Float64.round (10 ^ (prec - k) * (10 ^ k * (scale k).2)) (10 ^ k * (scale k).2) =
    ratio at hb' ha'
  rw [ha, ha', Nat.mul_mul_mul_comm]
  obtain ⟨hb'', ha''⟩ := @Float64.round_exact (factor.2 * ratio.2) (f * 10 ^ (prec - k))
    (Nat.mul_pos hb hb') (Nat.mul_pos hf (hpow _)) (by omega)
  rw [ha'', Nat.mul_div_cancel _ hb'']

/-- **A number of decimal units reads back**, whole part and fraction. -/
theorem amount_eq {w v prec : ℕ} (hprec : prec ≤ 9) :
    amount (Nat.toDigits 10 w) (fracDigits prec v []) (10 ^ prec) =
      w * 10 ^ prec + v % 10 ^ prec := by
  have hpow : ∀ j : ℕ, 0 < 10 ^ j := fun j => Nat.pow_pos (by decide)
  obtain ⟨hlen, hval⟩ := fracDigits_value prec v 0 [] le_rfl
  have hdigits := fracDigits_isDigit prec v [] (by simp)
  generalize fracDigits prec v [] = part at hlen hval hdigits
  simp only [Nat.add_zero, Nat.pow_zero, Nat.mul_one, List.length_nil, Nat.sub_zero, value,
    List.foldl_nil] at hlen hval
  have hlead : leadingFraction part 0 0 = (value part, part.length) := by
    rw [leadingFraction_eq part 0 0 hdigits, Nat.zero_add]
    · rfl
    · rw [Nat.zero_add, Nat.one_mul]
      exact le_trans (Nat.pow_le_pow_right (by decide) (hlen.trans hprec)) (by decide)
  have hval' : value part * 10 ^ (prec - part.length) = v % 10 ^ prec := hval
  unfold amount
  rw [hlead, value_toDigits]
  simp only
  congr 1
  by_cases hpos : 0 < value part
  · rw [if_pos hpos, fractionOf_eq hpos hlen hprec, hval']
    rw [hval']
    exact lt_of_lt_of_le (Nat.mod_lt _ (hpow prec)) (Nat.pow_le_pow_right (by decide) hprec)
  · rw [if_neg hpos, ← hval', Nat.eq_zero_of_not_pos hpos, Nat.zero_mul]

theorem takeWhile_append_stop {p : Char → Bool} {l r : List Char} (hl : ∀ c ∈ l, p c = true)
    (hr : ∀ c ∈ r.head?, p c = false) : (l ++ r).takeWhile p = l ∧ (l ++ r).dropWhile p = r := by
  rw [List.takeWhile_append_of_pos hl, List.dropWhile_append_of_pos hl]
  rcases r with _ | ⟨c, r⟩
  · simp
  · have hc : p c = false := hr c rfl
    simp [hc]

theorem fraction_point {part r : List Char} (hpart : ∀ c ∈ part, c.isDigit = true)
    (hr : ∀ c ∈ r.head?, c.isDigit = false) (hdot : r.head? ≠ some '.') :
    fraction (point part ++ r) = (part, r) := by
  rcases part with _ | ⟨d, part⟩
  · show fraction r = ([], r)
    unfold fraction
    split
    · exact absurd rfl hdot
    · rfl
  · obtain ⟨htake, hdrop⟩ := takeWhile_append_stop hpart hr
    show fraction ('.' :: (d :: part ++ r)) = _
    rw [fraction, htake, hdrop]

/-- One term in front of another one, or at the end. -/
theorem term?_append {w u : ℕ} {part unit rest : List Char}
    (hpart : ∀ c ∈ part, c.isDigit = true) (hunit : unit? unit = some u)
    (hchars : ∀ c ∈ unit, unitChar c = true) (hrest : ∀ c ∈ rest.head?, c.isDigit = true)
    (hfit : amount (Nat.toDigits 10 w) part u ≤ limit) :
    term? (Nat.toDigits 10 w ++ (point part ++ (unit ++ rest))) =
      some (amount (Nat.toDigits 10 w) part u, rest) := by
  have hne : unit ≠ [] := by rintro rfl; cases hunit
  obtain ⟨c, cs, rfl⟩ := List.exists_cons_of_ne_nil hne
  have hc : unitChar c = true := hchars c (by simp)
  simp only [unitChar, Bool.and_eq_true, decide_eq_true_eq, Bool.not_eq_true'] at hc
  have hfraction : fraction (point part ++ (c :: cs ++ rest)) = (part, c :: cs ++ rest) :=
    fraction_point hpart (by rintro d hd; cases hd; exact hc.2)
      (by rintro hd; cases hd; exact hc.1 rfl)
  have hhead : ∀ d ∈ (point part ++ (c :: cs ++ rest)).head?, d.isDigit = false := by
    intro d hd
    rcases part with _ | ⟨e, part⟩
    · cases hd
      exact hc.2
    · cases hd
      decide
  have hdigits : ∀ d ∈ Nat.toDigits 10 w, Char.isDigit d = true :=
    fun d hd => Nat.isDigit_of_mem_toDigits (by decide) (by decide) hd
  obtain ⟨htake, hdrop⟩ := takeWhile_append_stop hdigits hhead
  obtain ⟨hutake, hudrop⟩ := takeWhile_append_stop hchars (r := rest) (by
    intro d hd
    simp [unitChar, hrest d hd])
  unfold term?
  simp only [htake, hdrop, hfraction, hutake, hudrop, hunit]
  rw [if_neg (fun h => Nat.toDigits_ne_nil h.1), if_pos hfit]

theorem terms?_cons {fuel acc n : ℕ} {s rest : List Char} (h : term? s = some (n, rest))
    (hfit : acc + n ≤ limit) :
    terms? (fuel + 1) s acc = if rest = [] then some (acc + n) else terms? fuel rest (acc + n) := by
  rw [terms?, h]
  simp only
  rw [if_neg (not_lt.mpr hfit)]

theorem head?_toDigits_append (w : ℕ) (l : List Char) :
    ∀ c ∈ (Nat.toDigits 10 w ++ l).head?, c.isDigit = true := by
  obtain ⟨c, cs, hdigits, hc⟩ := toDigits_cons w
  intro d hd
  rw [hdigits] at hd
  cases hd
  exact hc

theorem terms?_fmtTerm {v prec fuel : ℕ} {unit : List Char} (hprec : prec ≤ 9)
    (hunit : unit? unit = some (10 ^ prec)) (hchars : ∀ c ∈ unit, unitChar c = true)
    (hv : v ≤ limit) : terms? (fuel + 1) (fmtTerm v prec unit) 0 = some v := by
  have hamount := @amount_eq (v / 10 ^ prec) v prec hprec
  rw [Nat.div_add_mod'] at hamount
  have hterm := @term?_append (v / 10 ^ prec) (10 ^ prec) (fracDigits prec v []) unit []
    (fracDigits_isDigit prec v [] (by simp)) hunit hchars (by simp) (hamount.trans_le hv)
  rw [List.append_nil, hamount] at hterm
  unfold fmtTerm
  rw [terms?_cons hterm (by omega), if_pos rfl, Nat.zero_add]

/-- A whole number of units in front of a further term. -/
theorem terms?_whole {w u acc fuel : ℕ} {c : Char} {rest : List Char} (hunit : unit? [c] = some u)
    (hchar : unitChar c = true) (hrest : ∀ d ∈ rest.head?, d.isDigit = true) (hne : rest ≠ [])
    (hfit : acc + w * u ≤ limit) :
    terms? (fuel + 1) (Nat.toDigits 10 w ++ [c] ++ rest) acc = terms? fuel rest (acc + w * u) := by
  have hamount : amount (Nat.toDigits 10 w) [] u = w * u := by
    simp [amount, leadingFraction, value_toDigits]
  have hterm := @term?_append w u [] [c] rest (by simp) hunit (by simpa using hchar) hrest
    (by omega)
  rw [hamount] at hterm
  have hlist : Nat.toDigits 10 w ++ [c] ++ rest =
      Nat.toDigits 10 w ++ (point [] ++ ([c] ++ rest)) := by simp [point]
  rw [hlist, terms?_cons hterm hfit, if_neg hne]

/-- The seconds, which come last. -/
theorem terms?_seconds {w v acc fuel : ℕ}
    (hfit : acc + (w * 1000000000 + v % 1000000000) ≤ limit) :
    terms? (fuel + 1) (Nat.toDigits 10 w ++ (point (fracDigits 9 v []) ++ ['s'])) acc =
      some (acc + (w * 1000000000 + v % 1000000000)) := by
  have hamount : amount (Nat.toDigits 10 w) (fracDigits 9 v []) 1000000000 =
      w * 1000000000 + v % 1000000000 := @amount_eq w v 9 le_rfl
  have hterm := @term?_append w 1000000000 (fracDigits 9 v []) ['s'] []
    (fracDigits_isDigit 9 v [] (by simp)) rfl (List.all_eq_true.mp (by decide)) (by simp)
    (by omega)
  rw [List.append_nil, hamount] at hterm
  rw [terms?_cons hterm hfit, if_pos rfl]

theorem terms?_fmtSeconds {u fuel : ℕ} (hu : u ≤ limit) :
    terms? (fuel + 3) (fmtSeconds u) 0 = some u := by
  unfold fmtSeconds
  simp only
  set last := Nat.toDigits 10 (u / 1000000000 % 60) ++ (point (fracDigits 9 u []) ++ ['s']) with hlast
  have hhead : ∀ d ∈ last.head?, d.isDigit = true := head?_toDigits_append _ _
  have hne : last ≠ [] := by simp [hlast]
  by_cases hminutes : 0 < u / 1000000000 / 60
  · rw [if_pos hminutes]
    by_cases hhours : 0 < u / 1000000000 / 60 / 60
    · rw [if_pos hhours, terms?_whole (u := 3600000000000) rfl (by decide) _ _ (by omega),
        terms?_whole (u := 60000000000) rfl (by decide) hhead hne (by omega), hlast,
        terms?_seconds (by omega)]
      · exact congrArg some (by omega)
      · rw [List.append_assoc]
        exact head?_toDigits_append _ _
      · simp
    · rw [if_neg hhours, List.nil_append,
        terms?_whole (u := 60000000000) rfl (by decide) hhead hne (by omega), hlast,
        terms?_seconds (by omega)]
      exact congrArg some (by omega)
  · rw [if_neg hminutes, if_neg (by omega), List.nil_append, List.nil_append, hlast,
      terms?_seconds (by omega)]
    exact congrArg some (by omega)

/-- The absolute value reads back, whatever the fuel beyond what is needed. -/
theorem terms?_format {u fuel : ℕ} (hu : u ≤ limit) : terms? (fuel + 3) (format u) 0 = some u := by
  unfold format
  by_cases hzero : u = 0
  · rw [if_pos hzero, hzero]
    exact @terms?_fmtTerm 0 9 _ ['s'] le_rfl rfl (List.all_eq_true.mp (by decide)) (Nat.zero_le _)
  rw [if_neg hzero]
  by_cases hns : u < 1000
  · rw [if_pos hns]
    exact @terms?_fmtTerm u 0 _ _ (by decide) rfl (List.all_eq_true.mp (by decide)) hu
  rw [if_neg hns]
  by_cases hus : u < 1000000
  · rw [if_pos hus]
    exact @terms?_fmtTerm u 3 _ _ (by decide) rfl (List.all_eq_true.mp (by decide)) hu
  rw [if_neg hus]
  by_cases hms : u < 1000000000
  · rw [if_pos hms]
    exact @terms?_fmtTerm u 6 _ _ (by decide) rfl (List.all_eq_true.mp (by decide)) hu
  · rw [if_neg hms]
    exact terms?_fmtSeconds hu

theorem head?_format (u : ℕ) : ∀ c ∈ (format u).head?, c.isDigit = true := by
  unfold format
  split_ifs
  · simp
  · exact head?_toDigits_append _ _
  · exact head?_toDigits_append _ _
  · exact head?_toDigits_append _ _
  · unfold fmtSeconds
    simp only
    split_ifs
    · rw [List.append_assoc]
      exact head?_toDigits_append _ _
    · rw [List.append_assoc]
      exact head?_toDigits_append _ _
    · rw [List.nil_append, List.append_assoc]
      exact head?_toDigits_append _ _
    · exact head?_toDigits_append _ _

theorem sign_of_isDigit {l : List Char} (h : ∀ c ∈ l.head?, c.isDigit = true) :
    sign l = (false, l) := by
  unfold sign
  split
  · exact absurd (h '-' rfl) (by decide)
  · exact absurd (h '+' rfl) (by decide)
  · rfl

/-- **A duration reads back as it was written.** -/
theorem parse_string {d : ℤ} (hlo : -limit ≤ d) (hhi : d < limit) : parse (string d) = some d := by
  have hu : d.natAbs ≤ limit := by omega
  have hterms : terms? ((format d.natAbs).length + 1) (format d.natAbs) 0 = some d.natAbs := by
    rw [← terms?_fuel ((format d.natAbs).length + 3) _ _ (by omega)]
    exact terms?_format hu
  have hzero : format d.natAbs ≠ ['0'] := by
    intro h
    rw [h] at hterms
    cases hterms
  unfold parse string
  by_cases hneg : d < 0
  · rw [if_pos hneg, String.toList_ofList]
    simp only [sign]
    rw [if_neg hzero, hterms]
    simp only [if_true]
    exact congrArg some (by omega)
  · rw [if_neg hneg, String.toList_ofList, sign_of_isDigit (head?_format _)]
    simp only
    rw [if_neg hzero, hterms]
    simp only [Bool.false_eq_true, if_false]
    rw [if_pos (by omega)]
    exact congrArg some (by omega)

end OpenchamiOperator.Lib.Duration
