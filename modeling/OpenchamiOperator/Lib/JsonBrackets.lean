import OpenchamiOperator.Lib.JsonDecode

/-! # Brackets and quotes in a document

A text is followed through its strings and brackets only. If a reader takes a quote that opens a
string for one that closes it, it never gets back in step.

* `Text.balanced`: an accepted value brings the reader back to where it was.
* `eq_nil_of_suffix`: no object ends with another object. -/

namespace OpenchamiOperator.Lib.JsonDecode

/-! ### The reader -/

/-- Where a reader stands that looks at quotes, backslashes and brackets only. -/
inductive Mode where
  | outside
  | inString
  | escape
  | fail
  deriving DecidableEq

def advance : Mode × ℤ → Char → Mode × ℤ
  | (.outside, k), c =>
    if c = '"' then (.inString, k)
    else if c = '\\' then (.fail, k)
    else if c = '{' ∨ c = '[' then (.outside, k + 1)
    else if c = '}' ∨ c = ']' then (.outside, k - 1)
    else (.outside, k)
  | (.inString, k), c =>
    if c = '"' then (.outside, k) else if c = '\\' then (.escape, k) else (.inString, k)
  | (.escape, k), c => if isEscape c || c = 'u' then (.inString, k) else (.fail, k)
  | (.fail, k), _ => (.fail, k)

/-- The reader's run over a text. -/
def run (q : Mode × ℤ) (s : List Char) : Mode × ℤ := s.foldl advance q

theorem run_append (q : Mode × ℤ) (s t : List Char) : run q (s ++ t) = run (run q s) t :=
  List.foldl_append

theorem run_fail (k : ℤ) (s : List Char) : run (.fail, k) s = (.fail, k) := by
  induction s with
  | nil => rfl
  | cons c s ih => exact ih

/-- A text that brings the reader back to where it was, never below, and out of step if the reader
was in a string. -/
structure Balanced (t : List Char) : Prop where
  keeps : ∀ k, run (.outside, k) t = (.outside, k)
  floor : ∀ k x y, t = x ++ y → k ≤ (run (.outside, k) x).2
  flips : ∀ k, (run (.inString, k) t).1 = .inString ∨ (run (.inString, k) t).1 = .fail

theorem balanced_nil : Balanced [] := by
  refine ⟨fun k => rfl, ?_, fun k => .inl rfl⟩
  intro k x y h
  rw [(List.append_eq_nil_iff.mp h.symm).1]
  exact Int.le_refl k

theorem Balanced.append {s t : List Char} (hs : Balanced s) (ht : Balanced t) :
    Balanced (s ++ t) := by
  refine ⟨?_, ?_, ?_⟩
  · intro k
    rw [run_append, hs.keeps, ht.keeps]
  · intro k x y h
    rcases List.append_eq_append_iff.mp h with ⟨u, rfl, hu⟩ | ⟨u, hu, -⟩
    · rw [run_append, hs.keeps]
      exact ht.floor k u y hu
    · exact hs.floor k x u hu
  · intro k
    rw [run_append]
    rcases hq : run (.inString, k) s with ⟨q, j⟩
    rcases hs.flips k with h | h
    · rw [hq] at h
      obtain rfl : q = .inString := h
      exact ht.flips j
    · rw [hq] at h
      obtain rfl : q = .fail := h
      rw [run_fail]
      exact .inr rfl

/-- A character that no string and no bracket is made of. -/
def Neutral (c : Char) : Prop :=
  c ≠ '"' ∧ c ≠ '\\' ∧ c ≠ '{' ∧ c ≠ '[' ∧ c ≠ '}' ∧ c ≠ ']'

instance (c : Char) : Decidable (Neutral c) := by unfold Neutral; infer_instance

theorem balanced_singleton {c : Char} (h : Neutral c) : Balanced [c] := by
  obtain ⟨hquote, hslash, hopen, hopen', hclose, hclose'⟩ := h
  have hstep : ∀ k, run (.outside, k) [c] = (.outside, k) := by
    intro k
    simp [run, advance, hquote, hslash, hopen, hopen', hclose, hclose']
  refine ⟨hstep, ?_, fun k => .inl (by simp [run, advance, hquote, hslash])⟩
  intro k x y heq
  rcases List.append_eq_singleton_iff.mp heq.symm with ⟨rfl, -⟩ | ⟨rfl, -⟩
  · exact Int.le_refl k
  · exact Int.le_of_eq (by rw [hstep])

theorem balanced_neutral {s : List Char} (h : ∀ c ∈ s, Neutral c) : Balanced s := by
  induction s with
  | nil => exact balanced_nil
  | cons c s ih =>
    exact (balanced_singleton (h c List.mem_cons_self)).append
      (ih fun d hd => h d (List.mem_cons_of_mem _ hd))

/-- The text of a string, where the digits of an escape are characters like others. -/
inductive Loose : List Char → Prop
  | nil : Loose []
  | plain {c : Char} {s : List Char} (hquote : c ≠ '"') (hslash : c ≠ '\\') (h : Loose s) :
      Loose (c :: s)
  | escape {e : Char} {s : List Char} (he : (isEscape e || e = 'u') = true) (h : Loose s) :
      Loose ('\\' :: e :: s)

theorem Content.loose {s : List Char} (h : Content s) : Loose s := by
  have hhex : ∀ {c : Char}, isHex c = true → c ≠ '"' ∧ c ≠ '\\' := by
    intro c hc
    exact ⟨by rintro rfl; exact absurd hc (by decide), by rintro rfl; exact absurd hc (by decide)⟩
  induction h with
  | nil => exact .nil
  | plain hquote hslash _ _ ih => exact .plain hquote hslash ih
  | escape he _ ih => exact .escape (by simp [he]) ih
  | unicode hall _ ih =>
    simp only [Bool.and_eq_true] at hall
    obtain ⟨⟨⟨h₁, h₂⟩, h₃⟩, h₄⟩ := hall
    exact .escape (by simp) (.plain (hhex h₁).1 (hhex h₁).2 (.plain (hhex h₂).1 (hhex h₂).2
      (.plain (hhex h₃).1 (hhex h₃).2 (.plain (hhex h₄).1 (hhex h₄).2 ih))))

/-- In step, the reader stays in the string, also where the text is cut off. -/
theorem Loose.run_inString {s : List Char} (h : Loose s) (k : ℤ) :
    run (.inString, k) s = (.inString, k) ∧ ∀ x y, s = x ++ y → (run (.inString, k) x).2 = k := by
  induction h with
  | nil =>
    refine ⟨rfl, fun x y hxy => ?_⟩
    rw [(List.append_eq_nil_iff.mp hxy.symm).1]
    rfl
  | @plain c s hquote hslash _ ih =>
    have hstep : advance (.inString, k) c = (.inString, k) := by simp [advance, hquote, hslash]
    refine ⟨?_, ?_⟩
    · rw [run, List.foldl_cons, hstep]
      exact ih.1
    · rintro (_ | ⟨d, x⟩) y hxy
      · rfl
      · obtain ⟨rfl, hrest⟩ := List.cons.inj hxy
        rw [run, List.foldl_cons, hstep]
        exact ih.2 x y hrest
  | @escape e s he _ ih =>
    have hslash : advance (.inString, k) '\\' = (.escape, k) := by simp [advance]
    have hstep : advance (.escape, k) e = (.inString, k) := by simp only [advance, he, if_true]
    refine ⟨?_, ?_⟩
    · rw [run, List.foldl_cons, hslash, List.foldl_cons, hstep]
      exact ih.1
    · rintro (_ | ⟨d, _ | ⟨d', x⟩⟩) y hxy
      · rfl
      · obtain ⟨rfl, -⟩ := List.cons.inj hxy
        rw [run, List.foldl_cons, hslash]
        rfl
      · obtain ⟨rfl, hmore⟩ := List.cons.inj hxy
        obtain ⟨rfl, hrest⟩ := List.cons.inj hmore
        rw [run, List.foldl_cons, hslash, List.foldl_cons, hstep]
        exact ih.2 x y hrest

/-- Out of step, the reader takes it for what is between strings. -/
theorem Loose.run_outside {s : List Char} (h : Loose s) (k : ℤ) :
    (run (.outside, k) s).1 = .outside ∨ (run (.outside, k) s).1 = .fail := by
  induction h generalizing k with
  | nil => exact .inl rfl
  | @plain c s hquote hslash _ ih =>
    obtain ⟨j, hstep⟩ : ∃ j, advance (.outside, k) c = (.outside, j) := by
      unfold advance
      simp only [if_neg hquote, if_neg hslash]
      split
      · exact ⟨_, rfl⟩
      · split <;> exact ⟨_, rfl⟩
    rw [run, List.foldl_cons, hstep]
    exact ih j
  | escape _ _ _ =>
    rw [run, List.foldl_cons]
    exact .inr (congrArg Prod.fst (run_fail k _))

theorem balanced_quoted {raw : List Char} (h : Content raw) : Balanced ('"' :: (raw ++ ['"'])) := by
  have hin := h.loose.run_inString
  have hopen : ∀ k, advance (.outside, k) '"' = (.inString, k) := fun k => by simp [advance]
  have hclose : ∀ k, advance (.inString, k) '"' = (.outside, k) := fun k => by simp [advance]
  have hkeeps : ∀ k, run (.outside, k) ('"' :: (raw ++ ['"'])) = (.outside, k) := by
    intro k
    show run (advance (.outside, k) '"') (raw ++ ['"']) = _
    rw [hopen, run_append, (hin k).1]
    exact hclose k
  refine ⟨hkeeps, ?_, ?_⟩
  · rintro k (_ | ⟨c, x⟩) y hxy
    · exact Int.le_refl k
    · obtain ⟨rfl, hrest⟩ := List.cons.inj hxy
      show k ≤ (run (advance (.outside, k) '"') x).2
      rw [hopen]
      rcases List.append_eq_append_iff.mp hrest with ⟨u, rfl, hu⟩ | ⟨u, hu, -⟩
      · rcases List.append_eq_singleton_iff.mp hu.symm with ⟨rfl, -⟩ | ⟨rfl, -⟩
        · exact Int.le_of_eq (by rw [List.append_nil, (hin k).1])
        · rw [run_append, (hin k).1]
          show k ≤ (advance (.inString, k) '"').2
          exact Int.le_of_eq (by rw [hclose])
      · exact Int.le_of_eq (by rw [(hin k).2 x u hu])
  · intro k
    show (run (advance (.inString, k) '"') (raw ++ ['"'])).1 = _ ∨
      (run (advance (.inString, k) '"') (raw ++ ['"'])).1 = _
    rw [hclose, run_append]
    rcases hq : run (.outside, k) raw with ⟨q, j⟩
    rcases h.loose.run_outside k with hmode | hmode
    · rw [hq] at hmode
      obtain rfl : q = .outside := hmode
      exact .inl (congrArg Prod.fst (hopen j))
    · rw [hq] at hmode
      obtain rfl : q = .fail := hmode
      exact .inr rfl

theorem Balanced.bracket {t : List Char} (h : Balanced t) {o c : Char} (ho : o = '{' ∨ o = '[')
    (hc : c = '}' ∨ c = ']') :
    Balanced (o :: (t ++ [c])) ∧
      ∀ k x y, o :: (t ++ [c]) = x ++ y → x ≠ [] → y ≠ [] → k + 1 ≤ (run (.outside, k) x).2 := by
  have hopen : ∀ k, advance (.outside, k) o = (.outside, k + 1) := by
    rcases ho with rfl | rfl <;> simp [advance]
  have hclose : ∀ k, advance (.outside, k) c = (.outside, k - 1) := by
    rcases hc with rfl | rfl <;> simp [advance]
  have hopen' : ∀ k, advance (.inString, k) o = (.inString, k) := by
    rcases ho with rfl | rfl <;> simp [advance]
  have hclose' : ∀ k, advance (.inString, k) c = (.inString, k) := by
    rcases hc with rfl | rfl <;> simp [advance]
  have hkeeps : ∀ k, run (.outside, k) (o :: (t ++ [c])) = (.outside, k) := by
    intro k
    show run (advance (.outside, k) o) (t ++ [c]) = _
    rw [hopen, run_append, h.keeps]
    show advance (.outside, k + 1) c = _
    rw [hclose, Int.add_sub_cancel]
  have hinside : ∀ k x y, o :: (t ++ [c]) = x ++ y → x ≠ [] → y ≠ [] →
      k + 1 ≤ (run (.outside, k) x).2 := by
    rintro k (_ | ⟨d, x⟩) y hxy hx hy
    · exact absurd rfl hx
    · obtain ⟨rfl, hrest⟩ := List.cons.inj hxy
      show k + 1 ≤ (run (advance (.outside, k) o) x).2
      rw [hopen]
      rcases List.append_eq_append_iff.mp hrest with ⟨u, rfl, hu⟩ | ⟨u, hu, -⟩
      · rcases List.append_eq_singleton_iff.mp hu.symm with ⟨rfl, -⟩ | ⟨-, rfl⟩
        · exact Int.le_of_eq (by rw [List.append_nil, h.keeps])
        · exact absurd rfl hy
      · exact h.floor (k + 1) x u hu
  refine ⟨⟨hkeeps, ?_, ?_⟩, hinside⟩
  · intro k x y hxy
    by_cases hx : x = []
    · rw [hx]
      exact Int.le_refl k
    · by_cases hy : y = []
      · rw [hy, List.append_nil] at hxy
        exact Int.le_of_eq (by rw [← hxy, hkeeps])
      · have := hinside k x y hxy hx hy
        omega
  · intro k
    show (run (advance (.inString, k) o) (t ++ [c])).1 = _ ∨
      (run (advance (.inString, k) o) (t ++ [c])).1 = _
    rw [hopen', run_append]
    rcases hq : run (.inString, k) t with ⟨q, j⟩
    rcases h.flips k with hmode | hmode
    · rw [hq] at hmode
      obtain rfl : q = .inString := hmode
      exact .inl (congrArg Prod.fst (hclose' j))
    · rw [hq] at hmode
      obtain rfl : q = .fail := hmode
      exact .inr rfl

theorem neutral_of_isDigit {c : Char} (h : c.isDigit = true) : Neutral c := by
  refine ⟨?_, ?_, ?_, ?_, ?_, ?_⟩ <;> rintro rfl <;> exact absurd h (by decide)

theorem Blank.balanced {a : List Char} (h : Blank a) : Balanced a := by
  refine balanced_neutral fun c hc => ?_
  have hspace := h c hc
  refine ⟨?_, ?_, ?_, ?_, ?_, ?_⟩ <;> rintro rfl <;> exact absurd hspace (by decide)

theorem Digits.balanced {s : List Char} (h : Digits s) : Balanced s :=
  balanced_neutral fun c hc => neutral_of_isDigit (h.2 c hc)

theorem Number.balanced {t : List Char} (h : Number t) : Balanced t := by
  have hcons : ∀ {c : Char} {s : List Char}, Neutral c → Balanced s → Balanced (c :: s) :=
    fun hc hs => (balanced_singleton hc).append hs
  have hletter : ∀ {c : Char}, c = 'e' ∨ c = 'E' → Neutral c := by
    rintro c (rfl | rfl) <;> decide
  have hsign : ∀ {c : Char}, c = '+' ∨ c = '-' → Neutral c := by
    rintro c (rfl | rfl) <;> decide
  have hparts : ∀ {i f e : List Char}, Integer i → Fraction f → Exponent e →
      Balanced (i ++ (f ++ e)) := by
    intro i f e hi hf he
    refine Balanced.append ?_ (Balanced.append ?_ ?_)
    · cases hi with
      | zero => exact balanced_singleton (by decide)
      | digits _ h => exact h.balanced
    · cases hf with
      | nil => exact balanced_nil
      | point h => exact hcons (by decide) h.balanced
    · cases he with
      | nil => exact balanced_nil
      | plain hc h => exact hcons (hletter hc) h.balanced
      | signed hc hd h => exact hcons (hletter hc) (hcons (hsign hd) h.balanced)
  cases h with
  | plain hi hf he => exact hparts hi hf he
  | minus hi hf he => exact hcons (by decide) (hparts hi hf he)

theorem balanced_member {key a b t : List Char} (hkey : Content key) (ha : Blank a) (hb : Blank b)
    (ht : Balanced t) : Balanced (('"' :: (key ++ ['"'])) ++ (a ++ ([':'] ++ (b ++ t)))) :=
  (balanced_quoted hkey).append (ha.balanced.append
    ((balanced_singleton (by decide)).append (hb.balanced.append ht)))

mutual

/-- **A value is balanced**, and an object is so between its braces. -/
theorem Text.balanced {d : ℕ} {v : Value} {s r : List Char} :
    Text d v s r → ∃ t, s = t ++ r ∧ t ≠ [] ∧ Balanced t ∧
      (∀ ms, v = .object ms → ∃ u, t = '{' :: (u ++ ['}']) ∧ Balanced u)
  | .string h => ⟨_, by simp, by simp, balanced_quoted h, by simp⟩
  | .null => ⟨['n', 'u', 'l', 'l'], rfl, by simp, balanced_neutral (by simp [Neutral]), by simp⟩
  | .trueWord => ⟨['t', 'r', 'u', 'e'], rfl, by simp, balanced_neutral (by simp [Neutral]), by simp⟩
  | .falseWord => ⟨['f', 'a', 'l', 's', 'e'], rfl, by simp, balanced_neutral (by simp [Neutral]), by simp⟩
  | .number h => ⟨_, rfl, by cases h with | plain hi | minus hi => cases hi <;> simp, h.balanced,
      by simp⟩
  | .emptyObject ha => ⟨_, by simp, by simp, (ha.balanced.bracket (.inl rfl) (.inl rfl)).1,
      fun _ _ => ⟨_, rfl, ha.balanced⟩⟩
  | .object ha h => by
    obtain ⟨t, rfl, ht⟩ := h.balanced
    exact ⟨_, by simp, by simp, ((ha.balanced.append ht).bracket (.inl rfl) (.inl rfl)).1,
      fun _ _ => ⟨_, rfl, ha.balanced.append ht⟩⟩
  | .emptyArray ha => ⟨_, by simp, by simp, (ha.balanced.bracket (.inr rfl) (.inr rfl)).1, by simp⟩
  | .array ha h => by
    obtain ⟨t, rfl, ht⟩ := h.balanced
    exact ⟨_, by simp, by simp, ((ha.balanced.append ht).bracket (.inr rfl) (.inr rfl)).1, by simp⟩

theorem Members.balanced {d : ℕ} {ms : List (List Char × Value)} {s r : List Char} :
    Members d ms s r → ∃ t, s = t ++ '}' :: r ∧ Balanced t
  | .last hkey ha hb h hc => by
    obtain ⟨t, rfl, -, ht, -⟩ := h.balanced
    refine ⟨_, ?_, balanced_member hkey ha hb (ht.append hc.balanced)⟩
    simp
  | .cons hkey ha hb h hc he hmore => by
    obtain ⟨t, rfl, -, ht, -⟩ := h.balanced
    obtain ⟨u, rfl, hu⟩ := hmore.balanced
    have hcomma : Balanced [','] := balanced_singleton (by decide)
    refine ⟨_, ?_, balanced_member hkey ha hb
      (ht.append (hc.balanced.append (hcomma.append (he.balanced.append hu))))⟩
    simp

theorem Elements.balanced {d : ℕ} {s r : List Char} :
    Elements d s r → ∃ t, s = t ++ ']' :: r ∧ Balanced t
  | .last h hc => by
    obtain ⟨t, rfl, -, ht, -⟩ := h.balanced
    exact ⟨_, by simp, ht.append hc.balanced⟩
  | .cons h hc he hmore => by
    obtain ⟨t, rfl, -, ht, -⟩ := h.balanced
    obtain ⟨u, rfl, hu⟩ := hmore.balanced
    have hcomma : Balanced [','] := balanced_singleton (by decide)
    refine ⟨_, ?_, ht.append (hc.balanced.append (hcomma.append (he.balanced.append hu)))⟩
    simp

end

/-- **No object ends with another object.** A text between braces that is balanced has no proper
suffix of the same form. -/
theorem eq_nil_of_suffix {u u' x : List Char} (hu : Balanced u) (hu' : Balanced u')
    (h : '{' :: (u ++ ['}']) = x ++ '{' :: (u' ++ ['}'])) : x = [] := by
  by_contra hx
  obtain ⟨hwhole, hinside⟩ := hu.bracket (.inl rfl) (.inl rfl)
  have hpart := (hu'.bracket (.inl rfl) (.inl rfl)).1
  have hdeep := hinside 0 x _ h hx (by simp)
  have hend := hwhole.keeps 0
  rw [h, run_append] at hend
  rcases hq : run (.outside, 0) x with ⟨q, k⟩
  rw [hq] at hdeep hend
  cases q with
  | outside =>
    rw [hpart.keeps] at hend
    obtain rfl : k = 0 := (Prod.mk.inj hend).2
    exact absurd hdeep (by decide)
  | inString =>
    rcases hpart.flips k with hmode | hmode
    · rw [hend] at hmode
      cases hmode
    · rw [hend] at hmode
      cases hmode
  | escape =>
    have hfail : run (.escape, k) ('{' :: (u' ++ ['}'])) = (.fail, k) := by
      show run (advance (.escape, k) '{') (u' ++ ['}']) = _
      rw [show advance (.escape, k) '{' = (.fail, k) by simp [advance, isEscape], run_fail]
    rw [hfail] at hend
    cases hend
  | fail =>
    rw [run_fail] at hend
    cases hend

end OpenchamiOperator.Lib.JsonDecode
