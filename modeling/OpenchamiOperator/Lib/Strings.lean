import Mathlib.Data.List.Infix
import Mathlib.Data.List.TakeWhile
import Mathlib.Data.String.Basic

/-! # The Go package `strings`

The functions of Go's `strings` on which the operator relies, on Lean strings. A Go string is a
sequence of bytes; every string of a Kubernetes object is valid UTF-8, and on valid UTF-8 the
functions below give the same answer on bytes and on characters.

Each function comes with the lemma that says what it does in terms of `++`
(`hasPrefix_iff`, `trimSuffix_append`, …); the proofs elsewhere use only these. -/

namespace OpenchamiOperator.Lib.Strings

/-- `strings.HasPrefix`. -/
def hasPrefix (s p : String) : Bool := p.toList.isPrefixOf s.toList

/-- `strings.HasSuffix`. -/
def hasSuffix (s p : String) : Bool := p.toList.isSuffixOf s.toList

/-- `strings.Contains`. -/
def contains (s sub : String) : Bool := decide (sub.toList <:+: s.toList)

/-- `strings.TrimPrefix`. -/
def trimPrefix (s p : String) : String :=
  if hasPrefix s p then String.ofList (s.toList.drop p.toList.length) else s

/-- `strings.TrimSuffix`. -/
def trimSuffix (s p : String) : String :=
  if hasSuffix s p then String.ofList (s.toList.take (s.toList.length - p.toList.length)) else s

/-- `strings.Cut` at a one-character separator: the part before its first occurrence, and the part
after it if there is one. -/
def cut (c : Char) (s : String) : String × Option String :=
  (String.ofList (s.toList.takeWhile (· ≠ c)), (s.toList.dropWhile (· ≠ c)).tail?.map String.ofList)

/-- `strings.LastIndexByte`, as the parts before and after the last occurrence. -/
def cutLast (c : Char) (s : String) : Option (String × String) :=
  if c ∈ s.toList then
    let r := s.toList.reverse
    some (String.ofList (r.dropWhile (· ≠ c)).tail.reverse,
      String.ofList (r.takeWhile (· ≠ c)).reverse)
  else none

/-- `unicode.IsSpace`. -/
def isSpace (c : Char) : Bool :=
  c.toNat ∈ [9, 10, 11, 12, 13, 32, 0x85, 0xA0, 0x1680, 0x2028, 0x2029, 0x202F, 0x205F, 0x3000] ||
    (0x2000 ≤ c.toNat && c.toNat ≤ 0x200A)

/-- `strings.TrimSpace`. -/
def trimSpace (s : String) : String :=
  String.ofList ((s.toList.dropWhile isSpace).reverse.dropWhile isSpace).reverse

/-- `strings.TrimRight`. -/
def trimRight (s cutset : String) : String :=
  String.ofList (s.toList.reverse.dropWhile (· ∈ cutset.toList)).reverse

/-- `strings.Split` at a one-character separator. -/
def split (c : Char) (s : String) : List String :=
  (s.toList.splitOn c).map String.ofList

/-- The value of a nonempty string of decimal digits. -/
def decimal? (s : String) : Option ℕ :=
  if s ≠ "" ∧ s.toList.all Char.isDigit then
    some (s.toList.foldl (fun n c => 10 * n + (c.toNat - 48)) 0)
  else none

theorem hasPrefix_iff {s p : String} : hasPrefix s p = true ↔ ∃ t, s = p ++ t := by
  unfold hasPrefix
  rw [List.isPrefixOf_iff_prefix]
  constructor
  · rintro ⟨t, ht⟩
    refine ⟨String.ofList t, String.toList_inj.mp ?_⟩
    simp [← ht]
  · rintro ⟨t, rfl⟩
    exact ⟨t.toList, by simp⟩

theorem hasSuffix_iff {s p : String} : hasSuffix s p = true ↔ ∃ t, s = t ++ p := by
  unfold hasSuffix
  rw [List.isSuffixOf_iff_suffix]
  constructor
  · rintro ⟨t, ht⟩
    refine ⟨String.ofList t, String.toList_inj.mp ?_⟩
    simp [← ht]
  · rintro ⟨t, rfl⟩
    exact ⟨t.toList, by simp⟩

@[simp] theorem hasPrefix_append (p t : String) : hasPrefix (p ++ t) p = true :=
  hasPrefix_iff.mpr ⟨t, rfl⟩

@[simp] theorem hasSuffix_append (t p : String) : hasSuffix (t ++ p) p = true :=
  hasSuffix_iff.mpr ⟨t, rfl⟩

@[simp] theorem trimPrefix_append (p t : String) : trimPrefix (p ++ t) p = t := by
  unfold trimPrefix
  rw [if_pos (hasPrefix_append p t)]
  refine String.toList_inj.mp ?_
  simp

@[simp] theorem trimSuffix_append (t p : String) : trimSuffix (t ++ p) p = t := by
  unfold trimSuffix
  rw [if_pos (hasSuffix_append t p)]
  refine String.toList_inj.mp ?_
  simp

theorem trimSuffix_of_not {s p : String} (h : hasSuffix s p = false) : trimSuffix s p = s := by
  unfold trimSuffix
  rw [h]
  simp

/-- A suffix that is removed was there. -/
theorem trimSuffix_cases (s p : String) : trimSuffix s p = s ∨ s = trimSuffix s p ++ p := by
  cases h : hasSuffix s p with
  | false => exact Or.inl (trimSuffix_of_not h)
  | true =>
    obtain ⟨t, rfl⟩ := hasSuffix_iff.mp h
    rw [trimSuffix_append]
    exact Or.inr rfl

/-- A front that neither starts nor ends with a blank stays. -/
theorem exists_trimSpace_append {p : String}
    (hfront : p.toList.dropWhile isSpace = p.toList)
    (hback : p.toList.reverse.dropWhile isSpace = p.toList.reverse) (hne : p.toList ≠ [])
    (t : String) : ∃ t', trimSpace (p ++ t) = p ++ t' := by
  have hstays : (p ++ t).toList.dropWhile isSpace = p.toList ++ t.toList := by
    rw [String.toList_append, List.dropWhile_append, hfront, if_neg (by simpa using hne)]
  have hend : (t.toList.reverse ++ p.toList.reverse).dropWhile isSpace =
      t.toList.reverse.dropWhile isSpace ++ p.toList.reverse := by
    rw [List.dropWhile_append]
    split_ifs with hempty
    · rw [hback, List.isEmpty_iff.mp hempty, List.nil_append]
    · rfl
  refine ⟨String.ofList (t.toList.reverse.dropWhile isSpace).reverse, ?_⟩
  unfold trimSpace
  rw [hstays, List.reverse_append, hend, List.reverse_append, List.reverse_reverse]
  apply String.toList_injective
  simp

theorem trimSpace_eq_self {c d : Char} {front back : List Char} {s : String}
    (hfront : s.toList = c :: front) (hc : isSpace c = false)
    (hback : s.toList = back ++ [d]) (hd : isSpace d = false) : trimSpace s = s := by
  have hstays : s.toList.dropWhile isSpace = s.toList := by
    rw [hfront, List.dropWhile_cons_of_neg (by simp [hc])]
  apply String.toList_injective
  rw [trimSpace, hstays, hback, List.reverse_append, List.reverse_singleton, List.singleton_append,
    List.dropWhile_cons_of_neg (by simp [hd])]
  simp

theorem trimRight_eq_self {d : Char} {back : List Char} {s cutset : String}
    (hback : s.toList = back ++ [d]) (hd : d ∉ cutset.toList) : trimRight s cutset = s := by
  apply String.toList_injective
  rw [trimRight, hback, List.reverse_append, List.reverse_singleton, List.singleton_append,
    List.dropWhile_cons_of_neg (by simpa using hd)]
  simp

/-- Of two endings of one string, one is an ending of the other. -/
theorem suffix_or_suffix {a b s t : String} (h : a ++ s = b ++ t) :
    hasSuffix s t = true ∨ hasSuffix t s = true := by
  have hlist : a.toList ++ s.toList = b.toList ++ t.toList := by
    simpa using congrArg String.toList h
  have hs : s.toList <:+ a.toList ++ s.toList := ⟨_, rfl⟩
  have ht : t.toList <:+ a.toList ++ s.toList := ⟨_, hlist.symm⟩
  unfold hasSuffix
  rw [List.isSuffixOf_iff_suffix, List.isSuffixOf_iff_suffix]
  exact (List.suffix_or_suffix_of_suffix hs ht).symm

/-- A text does not end with `t` when its own end and `t` do not end alike. -/
theorem not_hasSuffix_append {a s t : String} (hs : hasSuffix s t = false)
    (ht : hasSuffix t s = false) : hasSuffix (a ++ s) t = false := by
  by_contra h
  rw [Bool.not_eq_false, hasSuffix_iff] at h
  obtain ⟨b, hb⟩ := h
  rcases suffix_or_suffix hb with h | h
  · simp [hs] at h
  · simp [ht] at h

/-- Texts around a name, from a list in which none is the end of another: the whole tells the name and
the text after it. -/
theorem affix_inj {pre : String} {ends : List String}
    (hends : ∀ s ∈ ends, ∀ t ∈ ends, hasSuffix s t = true → s = t) {c d s t : String} (hs : s ∈ ends)
    (ht : t ∈ ends) (h : pre ++ c ++ s = pre ++ d ++ t) : c = d ∧ s = t := by
  have hst : s = t := by
    rcases suffix_or_suffix h with hsuffix | hsuffix
    · exact hends s hs t ht hsuffix
    · exact (hends t ht s hs hsuffix).symm
  subst hst
  exact ⟨(String.append_right_inj _).mp ((String.append_left_inj _).mp h), rfl⟩

theorem cut_append {c : Char} {a : String} (h : c ∉ a.toList) (b : String) :
    cut c (a ++ (String.singleton c ++ b)) = (a, some b) := by
  have hall : ∀ x ∈ a.toList, decide (x ≠ c) = true := by
    intro x hx
    have : x ≠ c := fun hxc => h (hxc ▸ hx)
    simpa using this
  unfold cut
  simp only [String.toList_append, String.toList_singleton]
  rw [List.takeWhile_append_of_pos hall, List.dropWhile_append_of_pos hall]
  simp

theorem cut_of_not_mem {c : Char} {s : String} (h : c ∉ s.toList) : cut c s = (s, none) := by
  have hall : ∀ x ∈ s.toList, decide (x ≠ c) = true := by
    intro x hx
    have : x ≠ c := fun hxc => h (hxc ▸ hx)
    simpa using this
  unfold cut
  rw [List.takeWhile_eq_self_iff.mpr hall, List.dropWhile_eq_nil_iff.mpr hall]
  simp

theorem cutLast_of_not_mem {c : Char} {s : String} (h : c ∉ s.toList) : cutLast c s = none := by
  unfold cutLast
  rw [if_neg h]

theorem cutLast_append {c : Char} (a : String) {b : String} (h : c ∉ b.toList) :
    cutLast c (a ++ (String.singleton c ++ b)) = some (a, b) := by
  have hlist : (a ++ (String.singleton c ++ b)).toList.reverse =
      b.toList.reverse ++ c :: a.toList.reverse := by simp
  have hkeep : ∀ x ∈ b.toList.reverse, decide (x ≠ c) = true := by
    intro x hx
    rw [decide_eq_true_eq]
    rintro rfl
    exact h (List.mem_reverse.mp hx)
  unfold cutLast
  rw [if_pos (by simp)]
  simp only [hlist, List.dropWhile_append_of_pos hkeep, List.takeWhile_append_of_pos hkeep,
    Option.some.injEq, Prod.mk.injEq]
  simp

theorem cut_cases (c : Char) (s : String) : c ∉ s.toList ∨
    ∃ a b, s = a ++ (String.singleton c ++ b) ∧ c ∉ a.toList := by
  by_cases h : c ∈ s.toList
  · obtain ⟨l, r, hs, hl⟩ := List.eq_append_cons_of_mem h
    refine Or.inr ⟨String.ofList l, String.ofList r, String.toList_inj.mp ?_, by simpa using hl⟩
    simp [hs]
  · exact Or.inl h

/-- What a cut that found a separator says of the string. -/
theorem cut_eq_some {c : Char} {s a b : String} (h : cut c s = (a, some b)) :
    s = a ++ (String.singleton c ++ b) ∧ c ∉ a.toList := by
  rcases cut_cases c s with hno | ⟨a', b', rfl, hno⟩
  · rw [cut_of_not_mem hno] at h
    cases h
  · rw [cut_append hno] at h
    cases h
    exact ⟨rfl, hno⟩

theorem cut_eq_none {c : Char} {s a : String} (h : cut c s = (a, none)) :
    a = s ∧ c ∉ s.toList := by
  rcases cut_cases c s with hno | ⟨a', b', rfl, hno⟩
  · rw [cut_of_not_mem hno] at h
    cases h
    exact ⟨rfl, hno⟩
  · rw [cut_append hno] at h
    cases h

theorem cutLast_cases (c : Char) (s : String) : c ∉ s.toList ∨
    ∃ a b, s = a ++ (String.singleton c ++ b) ∧ c ∉ b.toList := by
  by_cases h : c ∈ s.toList
  · obtain ⟨l, r, hs, hl⟩ := List.eq_append_cons_of_mem (List.mem_reverse.mpr h)
    have hlist : s.toList = r.reverse ++ c :: l.reverse := by
      rw [← List.reverse_reverse s.toList, hs]
      simp
    refine Or.inr ⟨String.ofList r.reverse, String.ofList l.reverse, String.toList_inj.mp ?_, ?_⟩
    · simp [hlist]
    · simpa using hl
  · exact Or.inl h

theorem cutLast_eq_some {c : Char} {s a b : String} (h : cutLast c s = some (a, b)) :
    s = a ++ (String.singleton c ++ b) ∧ c ∉ b.toList := by
  rcases cutLast_cases c s with hno | ⟨a', b', rfl, hno⟩
  · rw [cutLast_of_not_mem hno] at h
    cases h
  · rw [cutLast_append a' hno] at h
    cases h
    exact ⟨rfl, hno⟩

theorem cutLast_eq_none {c : Char} {s : String} (h : cutLast c s = none) : c ∉ s.toList := by
  rcases cutLast_cases c s with hno | ⟨a, b, rfl, hno⟩
  · exact hno
  · rw [cutLast_append a hno] at h
    cases h

end OpenchamiOperator.Lib.Strings
