import Mathlib.Data.Nat.Notation
import Mathlib.Tactic.Common
import OpenchamiOperator.Lib.Strings

/-! # The Go package `strconv`

Decimal numerals and quoted strings, as far as texts are built from them.

* `decimal?_repr`, `atoi_formatInt`: a numeral reads back as its number.
* `quote_append_inj`: a quoted string ends where it says it does, so what follows it can be told
  apart, whatever characters are taken to be printable. -/

namespace OpenchamiOperator.Lib.Strconv

open Strings

/-! ### Numerals -/

theorem all_isDigit_toDigits (n : ℕ) : (Nat.toDigits 10 n).all Char.isDigit = true :=
  List.all_eq_true.mpr fun _ hc => Nat.isDigit_of_mem_toDigits (by decide) (by decide) hc

theorem decimal?_repr (n : ℕ) : decimal? n.repr = some n := by
  unfold decimal?
  rw [Nat.toList_repr, if_pos ⟨Nat.repr_ne_empty, all_isDigit_toDigits n⟩]
  exact congrArg some (Nat.ofDigitChars_toDigits (by decide) (by decide))

/-- A numeral of more than one digit does not start with a zero. -/
theorem head?_toDigits {n : ℕ} (h : 0 < n) : (Nat.toDigits 10 n).head? ≠ some '0' := by
  induction n using Nat.base_induction 10 (by decide) with
  | single m hm =>
    rw [Nat.toDigits_of_lt_base hm]
    simp only [List.head?_cons, ne_eq, Option.some.injEq, Nat.digitChar_eq_zero]
    omega
  | digit m k hk hm ih =>
    rw [← Nat.toDigits_append_toDigits (by decide) hm hk, List.head?_append_of_ne_nil _ (by simp)]
    exact ih hm

/-- `strconv.FormatInt` in base ten. -/
def formatInt (n : ℤ) : String := if n < 0 then "-" ++ n.natAbs.repr else n.natAbs.repr

/-- The range of an `int`. -/
def maxInt : ℕ := 9223372036854775807

/-- `strconv.Atoi`: an optional sign and digits, in the range of 64 bits. -/
def atoi (s : String) : Option ℤ :=
  let (negative, digits) := match s.toList with
    | '-' :: rest => (true, rest)
    | '+' :: rest => (false, rest)
    | rest => (false, rest)
  match decimal? (String.ofList digits) with
  | none => none
  | some n =>
    if negative then if n ≤ maxInt + 1 then some (-n) else none
    else if n ≤ maxInt then some n else none

theorem toDigits_cons (n : ℕ) : ∃ c cs, Nat.toDigits 10 n = c :: cs ∧ c.isDigit = true := by
  rcases h : Nat.toDigits 10 n with _ | ⟨c, cs⟩
  · exact absurd h Nat.toDigits_ne_nil
  · have hall := all_isDigit_toDigits n
    rw [h, List.all_cons, Bool.and_eq_true] at hall
    exact ⟨c, cs, rfl, hall.1⟩

theorem atoi_formatInt (n : ℤ) :
    atoi (formatInt n) = if -(maxInt + 1) ≤ n ∧ n ≤ maxInt then some n else none := by
  obtain ⟨c, cs, hdigits, hc⟩ := toDigits_cons n.natAbs
  have hback : decimal? (String.ofList (c :: cs)) = some n.natAbs := by
    rw [← hdigits, ← Nat.repr_eq_ofList_toDigits]
    exact decimal?_repr _
  unfold formatInt atoi
  by_cases hneg : n < 0
  · rw [if_pos hneg]
    have hlist : ("-" ++ n.natAbs.repr).toList = '-' :: c :: cs := by simp [hdigits]
    simp only [hlist, hback, if_true]
    by_cases hrange : n.natAbs ≤ maxInt + 1
    · rw [if_pos hrange, if_pos (by omega)]
      exact congrArg some (by omega)
    · rw [if_neg hrange, if_neg (by omega)]
  · rw [if_neg hneg]
    have hlist : (n.natAbs.repr).toList = c :: cs := by simp [hdigits]
    have hminus : c ≠ '-' := by rintro rfl; exact absurd hc (by decide)
    have hplus : c ≠ '+' := by rintro rfl; exact absurd hc (by decide)
    rw [hlist]
    split
    rename_i negative digits hsign
    have : negative = false ∧ digits = c :: cs := by
      split at hsign
      · rename_i heq; exact absurd (List.cons.inj heq).1 hminus
      · rename_i heq; exact absurd (List.cons.inj heq).1 hplus
      · cases hsign; exact ⟨rfl, rfl⟩
    obtain ⟨rfl, rfl⟩ := this
    simp only [hback, Bool.false_eq_true, if_false]
    by_cases hrange : n.natAbs ≤ maxInt
    · rw [if_pos hrange, if_pos (by omega)]
      exact congrArg some (by omega)
    · rw [if_neg hrange, if_neg (by omega)]

theorem formatInt_ne_empty (n : ℤ) : formatInt n ≠ "" := by
  obtain ⟨c, cs, hdigits, -⟩ := toDigits_cons n.natAbs
  intro h
  have hlist := congrArg String.toList h
  unfold formatInt at hlist
  split_ifs at hlist
  · simp at hlist
  · simp [Nat.toList_repr, hdigits] at hlist

theorem formatInt_injective : Function.Injective formatInt := by
  intro n m h
  obtain ⟨c, cs, hn, hc⟩ := toDigits_cons n.natAbs
  obtain ⟨d, ds, hm, hd⟩ := toDigits_cons m.natAbs
  have hback : ∀ k l : ℕ, Nat.toDigits 10 k = Nat.toDigits 10 l → k = l := by
    intro k l hkl
    have := congrArg (fun t => Nat.ofDigitChars 10 t 0) hkl
    simpa [Nat.ofDigitChars_ten_toDigits] using this
  have hlist := congrArg String.toList h
  unfold formatInt at hlist
  -- a numeral without sign does not start with one
  have hminus : ∀ e : Char, e.isDigit = true → e ≠ '-' := by
    rintro e he rfl
    exact absurd he (by decide)
  split_ifs at hlist with hneg hneg' hneg'
  · have := hback n.natAbs m.natAbs (by simpa using hlist)
    omega
  · simp [hn, hm] at hlist
    exact absurd hlist.1.symm (hminus d hd)
  · simp [hn, hm] at hlist
    exact absurd hlist.1 (hminus c hc)
  · have := hback n.natAbs m.natAbs (by simpa using hlist)
    omega

theorem not_mem_formatInt {c : Char} (hdigit : c.isDigit = false) (hminus : c ≠ '-') (n : ℤ) :
    c ∉ (formatInt n).toList := by
  have hnat : c ∉ Nat.toDigits 10 n.natAbs := by
    intro h
    have := Nat.isDigit_of_mem_toDigits (by decide) (by decide) h
    rw [hdigit] at this
    cases this
  unfold formatInt
  split_ifs
  · simpa [hnat] using hminus
  · simpa using hnat

/-! ### Quoted strings -/

/-- The last `width` hexadecimal digits of `n`. -/
def hexDigits : ℕ → ℕ → List Char
  | 0, _ => []
  | width + 1, n => hexDigits width (n / 16) ++ [Nat.digitChar (n % 16)]

/-- The letters for the control characters that have one. -/
def letter? (c : Char) : Option Char :=
  match c.toNat with
  | 7 => some 'a'
  | 8 => some 'b'
  | 9 => some 't'
  | 10 => some 'n'
  | 11 => some 'v'
  | 12 => some 'f'
  | 13 => some 'r'
  | _ => none

section Quote
variable (isPrint : Char → Bool)

/-- `appendEscapedRune`. -/
def escape (c : Char) : List Char :=
  if c = '"' ∨ c = '\\' then ['\\', c]
  else if isPrint c then [c]
  else
    match letter? c with
    | some l => ['\\', l]
    | none =>
      if c.toNat < 32 ∨ c.toNat = 127 then '\\' :: 'x' :: hexDigits 2 c.toNat
      else if c.toNat < 65536 then '\\' :: 'u' :: hexDigits 4 c.toNat
      else '\\' :: 'U' :: hexDigits 8 c.toNat

/-- `strconv.Quote`, which is the verb `%q` for a string. -/
def quote (s : String) : String :=
  String.ofList ('"' :: s.toList.flatMap (escape isPrint) ++ ['"'])

end Quote

/-- The value of a hexadecimal digit. -/
def hexValue (c : Char) : ℕ := if c.isDigit then c.toNat - 48 else c.toNat - 87

def hexNumber (l : List Char) : ℕ := l.foldl (fun n c => 16 * n + hexValue c) 0

/-- The character a letter after a backslash stands for. -/
def unletter? : Char → Option ℕ
  | 'a' => some 7
  | 'b' => some 8
  | 't' => some 9
  | 'n' => some 10
  | 'v' => some 11
  | 'f' => some 12
  | 'r' => some 13
  | _ => none

/-- Read one character of a quoted string, and the rest. -/
def unescape : List Char → Option (Char × List Char)
  | '"' :: _ => none
  | '\\' :: 'x' :: rest => some (Char.ofNat (hexNumber (rest.take 2)), rest.drop 2)
  | '\\' :: 'u' :: rest => some (Char.ofNat (hexNumber (rest.take 4)), rest.drop 4)
  | '\\' :: 'U' :: rest => some (Char.ofNat (hexNumber (rest.take 8)), rest.drop 8)
  | '\\' :: c :: rest => some (((unletter? c).map Char.ofNat).getD c, rest)
  | c :: rest => some (c, rest)
  | [] => none

theorem length_hexDigits : ∀ width n, (hexDigits width n).length = width
  | 0, _ => rfl
  | width + 1, n => by simp [hexDigits, length_hexDigits width]

theorem hexValue_digitChar {d : ℕ} (h : d < 16) : hexValue (Nat.digitChar d) = d := by
  have hall : ∀ d < 16, hexValue (Nat.digitChar d) = d := by decide
  exact hall d h

theorem hexNumber_hexDigits : ∀ width n, n < 16 ^ width → hexNumber (hexDigits width n) = n
  | 0, n, h => by simp at h; simp [h, hexDigits, hexNumber]
  | width + 1, n, h => by
    have hlt : n / 16 < 16 ^ width := by
      rw [Nat.pow_succ] at h
      exact Nat.div_lt_of_lt_mul (by omega)
    have ih := hexNumber_hexDigits width (n / 16) hlt
    unfold hexNumber at ih ⊢
    rw [hexDigits, List.foldl_append, ih, List.foldl_cons, List.foldl_nil,
      hexValue_digitChar (Nat.mod_lt _ (by decide))]
    omega

theorem hexDigits_inj {width m n : ℕ} (hm : m < 16 ^ width) (hn : n < 16 ^ width)
    (h : hexDigits width m = hexDigits width n) : m = n := by
  rw [← hexNumber_hexDigits width m hm, h, hexNumber_hexDigits width n hn]

theorem unescape_cons {c : Char} (hquote : c ≠ '"') (hslash : c ≠ '\\') (rest : List Char) :
    unescape (c :: rest) = some (c, rest) := by
  unfold unescape
  split <;> simp_all

theorem unescape_letter {c l : Char} (h : letter? c = some l) (rest : List Char) :
    unescape ('\\' :: l :: rest) = some (c, rest) := by
  have hc : Char.ofNat c.toNat = c := Char.ofNat_toNat c
  unfold letter? at h
  split at h
  all_goals first
    | (rename_i hn; cases h; rw [hn] at hc; rw [← hc]; rfl)
    | cases h

/-- The digits of a character fill their width. -/
theorem ofNat_hexNumber {c : Char} {width : ℕ} (h : c.toNat < 16 ^ width) (rest : List Char) :
    Char.ofNat (hexNumber ((hexDigits width c.toNat ++ rest).take width)) = c ∧
      (hexDigits width c.toNat ++ rest).drop width = rest := by
  have hlen := length_hexDigits width c.toNat
  rw [List.take_left' hlen, List.drop_left' hlen, hexNumber_hexDigits width _ h]
  exact ⟨Char.ofNat_toNat c, rfl⟩

theorem unescape_escape (isPrint : Char → Bool) (c : Char) (rest : List Char) :
    unescape (escape isPrint c ++ rest) = some (c, rest) := by
  unfold escape
  by_cases hspecial : c = '"' ∨ c = '\\'
  · rw [if_pos hspecial]
    rcases hspecial with rfl | rfl <;> rfl
  rw [if_neg hspecial]
  obtain ⟨hquote, hslash⟩ := not_or.mp hspecial
  by_cases hprint : isPrint c = true
  · rw [if_pos hprint]
    exact unescape_cons hquote hslash rest
  rw [if_neg hprint]
  rcases hletter : letter? c with _ | l
  · simp only
    by_cases hcontrol : c.toNat < 32 ∨ c.toNat = 127
    · rw [if_pos hcontrol]
      obtain ⟨hc, hrest⟩ := @ofNat_hexNumber c 2 (by omega) rest
      simp only [List.cons_append, unescape, hc, hrest]
    rw [if_neg hcontrol]
    by_cases hshort : c.toNat < 65536
    · rw [if_pos hshort]
      obtain ⟨hc, hrest⟩ := @ofNat_hexNumber c 4 (by omega) rest
      simp only [List.cons_append, unescape, hc, hrest]
    · rw [if_neg hshort]
      have hlt : c.toNat < 16 ^ 8 := c.val.toNat_lt
      obtain ⟨hc, hrest⟩ := ofNat_hexNumber hlt rest
      simp only [List.cons_append, unescape, hc, hrest]
  · exact unescape_letter hletter rest

/-- **A quoted string is its own end mark**, for any way of escaping whose escapes read back. -/
theorem flatMap_inj_of_unescape {esc : Char → List Char}
    (hesc : ∀ c rest, unescape (esc c ++ rest) = some (c, rest)) :
    ∀ {s t : List Char} {u v : List Char},
      s.flatMap esc ++ '"' :: u = t.flatMap esc ++ '"' :: v → s = t ∧ u = v
  | [], [], u, v, h => ⟨rfl, (List.cons.inj h).2⟩
  | [], d :: t, u, v, h => by
    have hd := hesc d (t.flatMap esc ++ '"' :: v)
    rw [← List.append_assoc, ← List.flatMap_cons, ← h] at hd
    cases hd
  | c :: s, [], u, v, h => by
    have hc := hesc c (s.flatMap esc ++ '"' :: u)
    rw [← List.append_assoc, ← List.flatMap_cons, h] at hc
    cases hc
  | c :: s, d :: t, u, v, h => by
    have hc := hesc c (s.flatMap esc ++ '"' :: u)
    have hd := hesc d (t.flatMap esc ++ '"' :: v)
    rw [← List.append_assoc, ← List.flatMap_cons] at hc hd
    rw [h, hd] at hc
    obtain ⟨hcd, hrest⟩ := Prod.mk.inj (Option.some.inj hc)
    obtain ⟨hst, huv⟩ := flatMap_inj_of_unescape hesc hrest.symm
    exact ⟨by rw [hcd, hst], huv⟩

theorem quote_append_inj {isPrint : Char → Bool} {s t u v : String}
    (h : quote isPrint s ++ u = quote isPrint t ++ v) : s = t ∧ u = v := by
  have hlist := congrArg String.toList h
  simp only [quote, String.toList_append, String.toList_ofList, List.cons_append,
    List.append_assoc, List.nil_append] at hlist
  obtain ⟨hst, huv⟩ :=
    flatMap_inj_of_unescape (unescape_escape isPrint) (List.cons.inj hlist).2
  exact ⟨String.toList_inj.mp hst, String.toList_inj.mp huv⟩

end OpenchamiOperator.Lib.Strconv
