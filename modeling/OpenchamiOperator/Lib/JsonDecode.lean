import Mathlib.Data.List.TakeWhile
import Mathlib.Data.Nat.Notation
import Mathlib.Tactic.Common

/-! # Reading a document with `json.Unmarshal`

The texts that `encoding/json` accepts, and what it stores in a string field of a structure. A byte
is the character with its number, so that every byte string is a list of characters.

* `Text`: the grammar, as a relation between a text, the value in front of it and what is left.
* `parse_sound`, `parse_complete`: the reader accepts exactly what the grammar derives.
* `parse_of_text`, `text_of_parse`: the same for whole texts. -/

namespace OpenchamiOperator.Lib.JsonDecode

/-! ### The reader -/

/-- What is kept of a value: the text of a string between its quotes, and the members of an
object. -/
inductive Value where
  | string (raw : List Char)
  | null
  | bool
  | number
  | array
  | object (members : List (List Char × Value))

def isSpace (c : Char) : Bool := c = ' ' || c = '\t' || c = '\r' || c = '\n'

def skipSpace (s : List Char) : List Char := s.dropWhile isSpace

/-- The rest of a text that goes on with `c`. -/
def expect (c : Char) : List Char → Option (List Char)
  | d :: s => if d = c then some s else none
  | [] => none

def isHex (c : Char) : Bool :=
  c.isDigit || ('a' ≤ c && c ≤ 'f') || ('A' ≤ c && c ≤ 'F')

/-- The characters after a backslash that stand for one character. -/
def isEscape (c : Char) : Bool := c ∈ ['b', 'f', 'n', 'r', 't', '\\', '/', '"']

/-- The text of a string up to its closing quote, and the rest. -/
def scanString : List Char → Option (List Char × List Char)
  | '"' :: s => some ([], s)
  | '\\' :: 'u' :: h₁ :: h₂ :: h₃ :: h₄ :: s =>
    if isHex h₁ && isHex h₂ && isHex h₃ && isHex h₄ then
      (scanString s).map fun p => ('\\' :: 'u' :: h₁ :: h₂ :: h₃ :: h₄ :: p.1, p.2)
    else none
  | '\\' :: e :: s =>
    if isEscape e then (scanString s).map fun p => ('\\' :: e :: p.1, p.2) else none
  | c :: s =>
    if c ≠ '\\' && 32 ≤ c.toNat then (scanString s).map fun p => (c :: p.1, p.2) else none
  | [] => none

/-- The digits in front of a text, at least one, and the rest. -/
def scanDigits (s : List Char) : Option (List Char) :=
  if (s.takeWhile Char.isDigit).isEmpty then none else some (s.dropWhile Char.isDigit)

def scanInteger : List Char → Option (List Char)
  | '0' :: s => some s
  | s => scanDigits s

def scanFraction : List Char → Option (List Char)
  | '.' :: s => scanDigits s
  | s => some s

def scanExponent : List Char → Option (List Char)
  | c :: s =>
    if c = 'e' ∨ c = 'E' then
      match s with
      | '+' :: s | '-' :: s => scanDigits s
      | s => scanDigits s
    else some (c :: s)
  | [] => some []

def scanNumber (s : List Char) : Option (List Char) := do
  let s ← scanInteger (match s with | '-' :: s => s | s => s)
  let s ← scanFraction s
  scanExponent s

/-- A literal or a number. -/
def scanWord : List Char → Option (Value × List Char)
  | 'n' :: 'u' :: 'l' :: 'l' :: s => some (.null, s)
  | 't' :: 'r' :: 'u' :: 'e' :: s => some (.bool, s)
  | 'f' :: 'a' :: 'l' :: 's' :: 'e' :: s => some (.bool, s)
  | s => (scanNumber s).map fun r => (.number, r)

mutual

/-- The value in front of a text, and the rest. The first number bounds the steps, of which there
are at most two for a character, and the second one the depth of the brackets. -/
def parseValue : ℕ → ℕ → List Char → Option (Value × List Char)
  | 0, _, _ => none
  | n + 1, d, s =>
    match s, d with
    | '"' :: s, _ => (scanString s).map fun p => (.string p.1, p.2)
    | '{' :: _, 0 => none
    | '{' :: s, d + 1 =>
      match expect '}' (skipSpace s) with
      | some r => some (.object [], r)
      | none => (parseMembers n d (skipSpace s)).map fun p => (.object p.1, p.2)
    | '[' :: _, 0 => none
    | '[' :: s, d + 1 =>
      match expect ']' (skipSpace s) with
      | some r => some (.array, r)
      | none => (parseElements n d (skipSpace s)).map fun r => (.array, r)
    | s, _ => scanWord s

/-- The members of an object, from the first key to the closing brace. -/
def parseMembers : ℕ → ℕ → List Char → Option (List (List Char × Value) × List Char)
  | 0, _, _ => none
  | n + 1, d, s => do
    let s ← expect '"' s
    let (key, s) ← scanString s
    let s ← expect ':' (skipSpace s)
    let (v, s) ← parseValue n d (skipSpace s)
    match expect ',' (skipSpace s) with
    | some s =>
      let (members, s) ← parseMembers n d (skipSpace s)
      return ((key, v) :: members, s)
    | none =>
      let s ← expect '}' (skipSpace s)
      return ([(key, v)], s)

/-- The elements of an array, from the first one to the closing bracket. -/
def parseElements : ℕ → ℕ → List Char → Option (List Char)
  | 0, _, _ => none
  | n + 1, d, s => do
    let (_, s) ← parseValue n d s
    match expect ',' (skipSpace s) with
    | some s => parseElements n d (skipSpace s)
    | none => expect ']' (skipSpace s)

end

/-- `maxNestingDepth`. -/
def maxNestingDepth : ℕ := 10000

/-- The value of a text that has nothing else but white space. -/
def parse (s : List Char) : Option Value :=
  match parseValue (2 * s.length) maxNestingDepth (skipSpace s) with
  | some (v, rest) => if skipSpace rest = [] then some v else none
  | none => none

/-! ### The grammar -/

def Blank (s : List Char) : Prop := ∀ c ∈ s, isSpace c = true

/-- The text of a string between its quotes. -/
inductive Content : List Char → Prop
  | nil : Content []
  | plain {c : Char} {s : List Char} (hquote : c ≠ '"') (hslash : c ≠ '\\') (hlow : 32 ≤ c.toNat)
      (h : Content s) : Content (c :: s)
  | escape {e : Char} {s : List Char} (he : isEscape e = true) (h : Content s) :
      Content ('\\' :: e :: s)
  | unicode {h₁ h₂ h₃ h₄ : Char} {s : List Char}
      (hhex : (isHex h₁ && isHex h₂ && isHex h₃ && isHex h₄) = true) (h : Content s) :
      Content ('\\' :: 'u' :: h₁ :: h₂ :: h₃ :: h₄ :: s)

def Digits (s : List Char) : Prop := s ≠ [] ∧ ∀ c ∈ s, c.isDigit = true

inductive Integer : List Char → Prop
  | zero : Integer ['0']
  | digits {c : Char} {s : List Char} (hc : c ≠ '0') (h : Digits (c :: s)) : Integer (c :: s)

inductive Fraction : List Char → Prop
  | nil : Fraction []
  | point {s : List Char} (h : Digits s) : Fraction ('.' :: s)

inductive Exponent : List Char → Prop
  | nil : Exponent []
  | plain {c : Char} {s : List Char} (hc : c = 'e' ∨ c = 'E') (h : Digits s) : Exponent (c :: s)
  | signed {c d : Char} {s : List Char} (hc : c = 'e' ∨ c = 'E') (hd : d = '+' ∨ d = '-')
      (h : Digits s) : Exponent (c :: d :: s)

inductive Number : List Char → Prop
  | plain {i f e : List Char} (hi : Integer i) (hf : Fraction f) (he : Exponent e) :
      Number (i ++ (f ++ e))
  | minus {i f e : List Char} (hi : Integer i) (hf : Fraction f) (he : Exponent e) :
      Number ('-' :: (i ++ (f ++ e)))

mutual

/-- The text starts with the value, nested at most as deep as the number says, and the second text
is left. -/
inductive Text : ℕ → Value → List Char → List Char → Prop
  | string {d : ℕ} {raw r : List Char} (h : Content raw) :
      Text d (.string raw) ('"' :: (raw ++ '"' :: r)) r
  | null {d : ℕ} {r : List Char} : Text d .null ('n' :: 'u' :: 'l' :: 'l' :: r) r
  | trueWord {d : ℕ} {r : List Char} : Text d .bool ('t' :: 'r' :: 'u' :: 'e' :: r) r
  | falseWord {d : ℕ} {r : List Char} :
      Text d .bool ('f' :: 'a' :: 'l' :: 's' :: 'e' :: r) r
  | number {d : ℕ} {t r : List Char} (h : Number t) : Text d .number (t ++ r) r
  | emptyObject {d : ℕ} {a r : List Char} (ha : Blank a) :
      Text (d + 1) (.object []) ('{' :: (a ++ '}' :: r)) r
  | object {d : ℕ} {a s r : List Char} {members : List (List Char × Value)} (ha : Blank a)
      (h : Members d members s r) : Text (d + 1) (.object members) ('{' :: (a ++ s)) r
  | emptyArray {d : ℕ} {a r : List Char} (ha : Blank a) :
      Text (d + 1) .array ('[' :: (a ++ ']' :: r)) r
  | array {d : ℕ} {a s r : List Char} (ha : Blank a) (h : Elements d s r) :
      Text (d + 1) .array ('[' :: (a ++ s)) r

/-- The same for members, up to the closing brace. -/
inductive Members : ℕ → List (List Char × Value) → List Char → List Char → Prop
  | last {d : ℕ} {key a b c s r : List Char} {v : Value} (hkey : Content key) (ha : Blank a)
      (hb : Blank b) (h : Text d v s (c ++ '}' :: r)) (hc : Blank c) :
      Members d [(key, v)] ('"' :: (key ++ '"' :: (a ++ ':' :: (b ++ s)))) r
  | cons {d : ℕ} {key a b c e s t r : List Char} {v : Value} {members : List (List Char × Value)}
      (hkey : Content key) (ha : Blank a) (hb : Blank b) (h : Text d v s (c ++ ',' :: (e ++ t)))
      (hc : Blank c) (he : Blank e) (hmore : Members d members t r) :
      Members d ((key, v) :: members) ('"' :: (key ++ '"' :: (a ++ ':' :: (b ++ s)))) r

/-- The same for elements, up to the closing bracket. -/
inductive Elements : ℕ → List Char → List Char → Prop
  | last {d : ℕ} {c s r : List Char} {v : Value} (h : Text d v s (c ++ ']' :: r)) (hc : Blank c) :
      Elements d s r
  | cons {d : ℕ} {c e s t r : List Char} {v : Value} (h : Text d v s (c ++ ',' :: (e ++ t)))
      (hc : Blank c) (he : Blank e) (hmore : Elements d t r) : Elements d s r

end

/-! ### What the reader accepts -/

theorem skipSpace_eq (s : List Char) : ∃ a, Blank a ∧ s = a ++ skipSpace s :=
  ⟨s.takeWhile isSpace, fun _ hc => List.mem_takeWhile_imp hc, List.takeWhile_append_dropWhile.symm⟩

theorem expect_eq {c : Char} {s r : List Char} (h : expect c s = some r) : s = c :: r := by
  unfold expect at h
  split at h
  · split at h
    · next heq => rw [heq, Option.some.inj h]
    · cases h
  · cases h

theorem scanString_sound {s raw r : List Char} (h : scanString s = some (raw, r)) :
    Content raw ∧ s = raw ++ '"' :: r := by
  fun_induction scanString s generalizing raw with
  | case1 s =>
    cases h
    exact ⟨.nil, rfl⟩
  | case2 h₁ h₂ h₃ h₄ s hhex ih =>
    obtain ⟨⟨raw', r'⟩, hs, heq⟩ := Option.map_eq_some_iff.mp h
    cases heq
    obtain ⟨hraw, rfl⟩ := ih hs
    exact ⟨.unicode hhex hraw, rfl⟩
  | case3 => cases h
  | case4 e s hu he ih =>
    obtain ⟨⟨raw', r'⟩, hs, heq⟩ := Option.map_eq_some_iff.mp h
    cases heq
    obtain ⟨hraw, rfl⟩ := ih hs
    exact ⟨.escape he hraw, rfl⟩
  | case5 => cases h
  | case6 c s hquote hu hslash hplain ih =>
    obtain ⟨⟨raw', r'⟩, hs, heq⟩ := Option.map_eq_some_iff.mp h
    cases heq
    obtain ⟨hraw, rfl⟩ := ih hs
    obtain ⟨hslash', hlow⟩ := Bool.and_eq_true_iff.mp hplain
    exact ⟨.plain (by simpa using hquote) (by simpa using hslash') (by simpa using hlow) hraw, rfl⟩
  | case7 => cases h
  | case8 => cases h

theorem scanDigits_sound {s r : List Char} (h : scanDigits s = some r) :
    ∃ t, Digits t ∧ s = t ++ r := by
  unfold scanDigits at h
  split at h
  · cases h
  · next hne =>
    cases h
    refine ⟨s.takeWhile Char.isDigit, ⟨by simpa using hne, ?_⟩, ?_⟩
    · exact fun c hc => List.mem_takeWhile_imp hc
    · exact List.takeWhile_append_dropWhile.symm

theorem scanInteger_sound {s r : List Char} (h : scanInteger s = some r) :
    ∃ t, Integer t ∧ s = t ++ r := by
  unfold scanInteger at h
  split at h
  · cases h
    exact ⟨['0'], .zero, rfl⟩
  · next hzero =>
    obtain ⟨t, ht, rfl⟩ := scanDigits_sound h
    obtain ⟨c, t, rfl⟩ := List.exists_cons_of_ne_nil ht.1
    exact ⟨c :: t, .digits (fun hc => hzero _ (by rw [hc]; rfl)) ht, rfl⟩

theorem scanFraction_sound {s r : List Char} (h : scanFraction s = some r) :
    ∃ t, Fraction t ∧ s = t ++ r := by
  unfold scanFraction at h
  split at h
  · obtain ⟨t, ht, rfl⟩ := scanDigits_sound h
    exact ⟨'.' :: t, .point ht, rfl⟩
  · cases h
    exact ⟨[], .nil, rfl⟩

theorem scanExponent_sound {s r : List Char} (h : scanExponent s = some r) :
    ∃ t, Exponent t ∧ s = t ++ r := by
  unfold scanExponent at h
  split at h
  · next c s =>
    split at h
    · next hc =>
      split at h
      · obtain ⟨t, ht, rfl⟩ := scanDigits_sound h
        exact ⟨c :: '+' :: t, .signed hc (.inl rfl) ht, rfl⟩
      · obtain ⟨t, ht, rfl⟩ := scanDigits_sound h
        exact ⟨c :: '-' :: t, .signed hc (.inr rfl) ht, rfl⟩
      · obtain ⟨t, ht, rfl⟩ := scanDigits_sound h
        exact ⟨c :: t, .plain hc ht, rfl⟩
    · cases h
      exact ⟨[], .nil, rfl⟩
  · cases h
    exact ⟨[], .nil, rfl⟩

theorem scanNumber_sound {s r : List Char} (h : scanNumber s = some r) :
    ∃ t, Number t ∧ s = t ++ r := by
  have hparts : ∀ s', (scanInteger s').bind (fun s => (scanFraction s).bind scanExponent) = some r →
      ∃ i f e, Integer i ∧ Fraction f ∧ Exponent e ∧ s' = (i ++ (f ++ e)) ++ r := by
    intro s' hs'
    obtain ⟨s₁, hinteger, hs'⟩ := Option.bind_eq_some_iff.mp hs'
    obtain ⟨s₂, hfraction, hexponent⟩ := Option.bind_eq_some_iff.mp hs'
    obtain ⟨i, hi, rfl⟩ := scanInteger_sound hinteger
    obtain ⟨f, hf, rfl⟩ := scanFraction_sound hfraction
    obtain ⟨e, he, rfl⟩ := scanExponent_sound hexponent
    exact ⟨i, f, e, hi, hf, he, by simp⟩
  unfold scanNumber at h
  split at h
  · obtain ⟨i, f, e, hi, hf, he, rfl⟩ := hparts _ h
    exact ⟨_, .minus hi hf he, rfl⟩
  · obtain ⟨i, f, e, hi, hf, he, rfl⟩ := hparts _ h
    exact ⟨_, .plain hi hf he, rfl⟩

theorem scanWord_sound {d : ℕ} {s r : List Char} {v : Value} (h : scanWord s = some (v, r)) :
    Text d v s r := by
  unfold scanWord at h
  split at h
  · cases h; exact .null
  · cases h; exact .trueWord
  · cases h; exact .falseWord
  · obtain ⟨r', hr, heq⟩ := Option.map_eq_some_iff.mp h
    cases heq
    obtain ⟨t, ht, rfl⟩ := scanNumber_sound hr
    exact .number ht

theorem parse_sound (n : ℕ) :
    (∀ {d s v r}, parseValue n d s = some (v, r) → Text d v s r) ∧
    (∀ {d s ms r}, parseMembers n d s = some (ms, r) → Members d ms s r) ∧
    (∀ {d s r}, parseElements n d s = some r → Elements d s r) := by
  induction n with
  | zero => exact ⟨by simp [parseValue], by simp [parseMembers], by simp [parseElements]⟩
  | succ n ih =>
    obtain ⟨ihvalue, ihmembers, ihelements⟩ := ih
    refine ⟨?_, ?_, ?_⟩
    · intro d s v r h
      unfold parseValue at h
      split at h
      · obtain ⟨⟨raw, r'⟩, hs, heq⟩ := Option.map_eq_some_iff.mp h
        cases heq
        obtain ⟨hraw, rfl⟩ := scanString_sound hs
        exact .string hraw
      · cases h
      · next s d =>
        obtain ⟨a, ha, hs⟩ := skipSpace_eq s
        rw [hs]
        split at h
        · next r' hr =>
          cases h
          rw [expect_eq hr]
          exact .emptyObject ha
        · obtain ⟨⟨ms, r'⟩, hms, heq⟩ := Option.map_eq_some_iff.mp h
          cases heq
          exact .object ha (ihmembers hms)
      · cases h
      · next s d =>
        obtain ⟨a, ha, hs⟩ := skipSpace_eq s
        rw [hs]
        split at h
        · next r' hr =>
          cases h
          rw [expect_eq hr]
          exact .emptyArray ha
        · obtain ⟨r', hr, heq⟩ := Option.map_eq_some_iff.mp h
          cases heq
          exact .array ha (ihelements hr)
      · exact scanWord_sound h
    · intro d s ms r h
      unfold parseMembers at h
      obtain ⟨s₁, h₁, h⟩ := Option.bind_eq_some_iff.mp h
      obtain ⟨⟨key, s₂⟩, h₂, h⟩ := Option.bind_eq_some_iff.mp h
      obtain ⟨s₃, h₃, h⟩ := Option.bind_eq_some_iff.mp h
      obtain ⟨⟨v, s₄⟩, h₄, h⟩ := Option.bind_eq_some_iff.mp h
      obtain ⟨hkey, hs₁⟩ := scanString_sound h₂
      obtain ⟨a, ha, hs₂⟩ := skipSpace_eq s₂
      obtain ⟨b, hb, hs₃⟩ := skipSpace_eq s₃
      obtain ⟨c, hc, hs₄⟩ := skipSpace_eq s₄
      have hvalue := ihvalue h₄
      rw [expect_eq h₁, hs₁, hs₂, expect_eq h₃, hs₃]
      rw [hs₄] at hvalue
      dsimp only at h
      split at h
      · next s₅ h₅ =>
        obtain ⟨⟨members, s₆⟩, h₆, h⟩ := Option.bind_eq_some_iff.mp h
        cases h
        obtain ⟨e, he, hs₅⟩ := skipSpace_eq s₅
        rw [expect_eq h₅, hs₅] at hvalue
        exact .cons hkey ha hb hvalue hc he (ihmembers h₆)
      · obtain ⟨s₅, h₅, h⟩ := Option.bind_eq_some_iff.mp h
        cases h
        rw [expect_eq h₅] at hvalue
        exact .last hkey ha hb hvalue hc
    · intro d s r h
      unfold parseElements at h
      obtain ⟨⟨v, s₁⟩, h₁, h⟩ := Option.bind_eq_some_iff.mp h
      obtain ⟨c, hc, hs₁⟩ := skipSpace_eq s₁
      have hvalue := ihvalue h₁
      rw [hs₁] at hvalue
      dsimp only at h
      split at h
      · next s₂ h₂ =>
        obtain ⟨e, he, hs₂⟩ := skipSpace_eq s₂
        rw [expect_eq h₂, hs₂] at hvalue
        exact .cons hvalue hc he (ihelements h)
      · rw [expect_eq h] at hvalue
        exact .last hvalue hc

/-! ### What the grammar derives -/

theorem skipSpace_append {a s : List Char} (ha : Blank a)
    (hs : ∀ c, s.head? = some c → isSpace c = false) : skipSpace (a ++ s) = s := by
  unfold skipSpace
  rw [List.dropWhile_append_of_pos ha]
  rcases s with _ | ⟨c, s⟩
  · rfl
  · exact List.dropWhile_cons_of_neg (by simp [hs c rfl])

theorem skipSpace_append_cons {a s : List Char} {c : Char} (ha : Blank a)
    (hc : isSpace c = false) : skipSpace (a ++ c :: s) = c :: s :=
  skipSpace_append ha fun d hd => by rwa [← Option.some.inj hd]

theorem expect_self (c : Char) (s : List Char) : expect c (c :: s) = some s := by simp [expect]

theorem expect_of_ne {c d : Char} (h : d ≠ c) (s : List Char) : expect c (d :: s) = none := by
  simp [expect, h]

theorem scanString_complete {raw : List Char} (h : Content raw) (r : List Char) :
    scanString (raw ++ '"' :: r) = some (raw, r) := by
  induction h with
  | nil => simp [scanString]
  | plain _ hslash hlow _ ih => simp [scanString, hslash, hlow, ih]
  | @escape e s he _ ih =>
    have hu : e ≠ 'u' := by
      rintro rfl
      exact absurd he (by decide)
    simp [scanString, hu, he, ih]
  | unicode hhex _ ih =>
    simp only [List.cons_append, scanString, hhex, if_true, ih, Option.map_some]

/-- What can come after a value. -/
def Follow (r : List Char) : Prop :=
  ∀ c, r.head? = some c → isSpace c = true ∨ c = ',' ∨ c = '}' ∨ c = ']'

theorem follow_append_cons {a s : List Char} {c : Char} (ha : Blank a)
    (hc : c = ',' ∨ c = '}' ∨ c = ']') : Follow (a ++ c :: s) := by
  intro d hd
  rcases a with _ | ⟨b, a⟩
  · exact .inr (by rwa [← Option.some.inj hd])
  · exact .inl (by rw [← Option.some.inj hd]; exact ha b List.mem_cons_self)

/-- The text does not go on with a character of the kind. -/
def Stops (p : Char → Bool) (s : List Char) : Prop := ∀ c, s.head? = some c → p c = false

theorem Follow.stops {r : List Char} (h : Follow r) {p : Char → Bool}
    (hp : (p ' ' || p '\t' || p '\r' || p '\n' || p ',' || p '}' || p ']') = false) : Stops p r := by
  intro c hc
  simp only [Bool.or_eq_false_iff] at hp
  obtain ⟨⟨⟨⟨⟨⟨hblank, htab⟩, hreturn⟩, hline⟩, hcomma⟩, hbrace⟩, hbracket⟩ := hp
  rcases h c hc with hspace | rfl | rfl | rfl
  · simp only [isSpace, Bool.or_eq_true, decide_eq_true_eq] at hspace
    rcases hspace with ((rfl | rfl) | rfl) | rfl <;> assumption
  · exact hcomma
  · exact hbrace
  · exact hbracket

theorem scanDigits_complete {t r : List Char} (h : Digits t) (hr : Stops Char.isDigit r) :
    scanDigits (t ++ r) = some r := by
  have hrest : r.dropWhile Char.isDigit = r := by
    rcases r with _ | ⟨c, r⟩
    · rfl
    · exact List.dropWhile_cons_of_neg (by simp [hr c rfl])
  unfold scanDigits
  rw [List.takeWhile_append_of_pos h.2, List.dropWhile_append_of_pos h.2, hrest, if_neg]
  simpa using fun ht => absurd ht h.1

theorem Digits.head {t : List Char} (h : Digits t) :
    ∃ c s, t = c :: s ∧ c.isDigit = true := by
  obtain ⟨c, s, rfl⟩ := List.exists_cons_of_ne_nil h.1
  exact ⟨c, s, rfl, h.2 c List.mem_cons_self⟩

theorem stops_cons {p : Char → Bool} {c : Char} (h : p c = false) (s : List Char) :
    Stops p (c :: s) := fun d hd => by rwa [← Option.some.inj hd]

theorem Exponent.stops {e r : List Char} (h : Exponent e) {p : Char → Bool}
    (hp : (p 'e' || p 'E') = false) (hr : Stops p r) : Stops p (e ++ r) := by
  obtain ⟨he, hE⟩ := Bool.or_eq_false_iff.mp hp
  cases h with
  | nil => exact hr
  | plain hc _ | signed hc _ _ =>
    rcases hc with rfl | rfl
    · exact stops_cons he _
    · exact stops_cons hE _

theorem scanExponent_complete {e r : List Char} (h : Exponent e) (hr : Follow r) :
    scanExponent (e ++ r) = some r := by
  have hdigit : Stops Char.isDigit r := hr.stops (by decide)
  cases h with
  | nil =>
    rcases r with _ | ⟨c, r⟩
    · rfl
    · have hc : (c = 'e' || c = 'E') = false :=
        (hr.stops (p := fun c => c = 'e' || c = 'E') (by decide)) c rfl
      have hne : ¬ (c = 'e' ∨ c = 'E') := by simpa using hc
      simp [scanExponent, hne]
  | @plain c s hc hs =>
    obtain ⟨d, t, rfl, hd⟩ := hs.head
    have hplus : d ≠ '+' := by rintro rfl; exact absurd hd (by decide)
    have hminus : d ≠ '-' := by rintro rfl; exact absurd hd (by decide)
    have hscan := scanDigits_complete hs hdigit
    simp only [List.cons_append] at hscan ⊢
    simp [scanExponent, hc, hplus, hminus, hscan]
  | signed hc hd hs =>
    have hscan := scanDigits_complete hs hdigit
    rcases hd with rfl | rfl
    · simp [scanExponent, hc, hscan]
    · simp [scanExponent, hc, hscan]

theorem scanFraction_complete {f s : List Char} (h : Fraction f)
    (hs : Stops (fun c => c.isDigit || c = '.') s) : scanFraction (f ++ s) = some s := by
  cases h with
  | nil =>
    rcases s with _ | ⟨c, s⟩
    · rfl
    · have hpoint : c ≠ '.' := by
        have := hs c rfl
        simp only [Bool.or_eq_false_iff, decide_eq_false_iff_not] at this
        exact this.2
      simp [scanFraction, hpoint]
  | point hf =>
    exact scanDigits_complete hf fun c hc => (Bool.or_eq_false_iff.mp (hs c hc)).1

theorem scanNumber_complete {t r : List Char} (h : Number t) (hr : Follow r) :
    scanNumber (t ++ r) = some r := by
  -- what follows the integer stops its digits
  have hparts : ∀ {i f e : List Char}, Integer i → Fraction f → Exponent e →
      (scanInteger (i ++ (f ++ (e ++ r)))).bind
        (fun s => (scanFraction s).bind scanExponent) = some r := by
    intro i f e hi hf he
    have hpoint : Stops (fun c => c.isDigit || c = '.') (e ++ r) :=
      he.stops (by decide) (hr.stops (by decide))
    have hdigit : Stops Char.isDigit (f ++ (e ++ r)) := by
      cases hf with
      | nil => exact fun c hc => (Bool.or_eq_false_iff.mp (hpoint c hc)).1
      | point _ => exact stops_cons (by decide) _
    have hinteger : scanInteger (i ++ (f ++ (e ++ r))) = some (f ++ (e ++ r)) := by
      cases hi with
      | zero => rfl
      | digits hc hs =>
        have hscan := scanDigits_complete hs hdigit
        simp only [List.cons_append] at hscan ⊢
        simp [scanInteger, hc, hscan]
    rw [hinteger, Option.bind_some, scanFraction_complete hf hpoint, Option.bind_some,
      scanExponent_complete he hr]
  cases h with
  | @plain i f e hi hf he =>
    have hminus : ∀ s, i ++ (f ++ (e ++ r)) ≠ '-' :: s := by
      intro s heq
      cases hi with
      | zero => cases heq
      | digits _ hs =>
        have := hs.2 _ List.mem_cons_self
        rw [(List.cons.inj heq).1] at this
        exact absurd this (by decide)
    have hwhole := hparts hi hf he
    unfold scanNumber
    simp only [List.append_assoc]
    exact hwhole
  | minus hi hf he =>
    have hwhole := hparts hi hf he
    unfold scanNumber
    simp only [List.cons_append, List.append_assoc]
    exact hwhole

theorem Number.head {t : List Char} (h : Number t) :
    ∃ c s, t = c :: s ∧ (c.isDigit = true ∨ c = '-') := by
  cases h with
  | plain hi _ _ =>
    cases hi with
    | zero => exact ⟨'0', _, rfl, .inl (by decide)⟩
    | digits _ hs => exact ⟨_, _, rfl, .inl (hs.2 _ List.mem_cons_self)⟩
  | minus _ _ _ => exact ⟨'-', _, rfl, .inr rfl⟩

/-- A character that starts a number is none of those that start something else. -/
theorem number_head_ne {c d : Char} (h : c.isDigit = true ∨ c = '-')
    (hd : (d.isDigit || d = '-') = false) : c ≠ d := by
  rintro rfl
  rcases h with h | rfl
  · simp [h] at hd
  · simp at hd

theorem scanWord_complete {t r : List Char} (h : Number t) (hr : Follow r) :
    scanWord (t ++ r) = some (.number, r) := by
  have hscan := scanNumber_complete h hr
  obtain ⟨c, s, rfl, hc⟩ := h.head
  have hn : c ≠ 'n' := number_head_ne hc (by decide)
  have ht : c ≠ 't' := number_head_ne hc (by decide)
  have hf : c ≠ 'f' := number_head_ne hc (by decide)
  simp only [List.cons_append] at hscan ⊢
  simp [scanWord, hn, ht, hf, hscan]

/-- A value starts with a character that neither is blank nor closes a bracket. -/
theorem Text.head {d : ℕ} {v : Value} {s r : List Char} (h : Text d v s r) :
    ∃ c t, s = c :: t ∧ isSpace c = false ∧ c ≠ ']' := by
  cases h with
  | number h =>
    obtain ⟨c, t, rfl, hc⟩ := h.head
    have hspace : isSpace c = false := by
      have hne := fun d hd => @number_head_ne c d hc hd
      simp [isSpace, hne ' ' (by decide), hne '\t' (by decide), hne '\r' (by decide),
        hne '\n' (by decide)]
    exact ⟨c, t ++ r, rfl, hspace, number_head_ne hc (by decide)⟩
  | string | null | trueWord | falseWord | emptyObject | object | emptyArray | array =>
    exact ⟨_, _, rfl, by decide, by decide⟩

theorem Members.head {d : ℕ} {ms : List (List Char × Value)} {s r : List Char}
    (h : Members d ms s r) : ∃ t, s = '"' :: t := by
  cases h with
  | last | cons => exact ⟨_, rfl⟩

theorem Elements.head {d : ℕ} {s r : List Char} (h : Elements d s r) :
    ∃ c t, s = c :: t ∧ isSpace c = false ∧ c ≠ ']' := by
  cases h with
  | last h _ | cons h _ _ _ => exact h.head

theorem skipSpace_text {d : ℕ} {v : Value} {a s r : List Char} (ha : Blank a)
    (h : Text d v s r) : skipSpace (a ++ s) = s := by
  obtain ⟨c, t, rfl, hc, -⟩ := h.head
  exact skipSpace_append_cons ha hc

mutual

theorem Text.length_lt {d : ℕ} {v : Value} {s r : List Char} : Text d v s r → r.length < s.length
  | .string _ => by simp; omega
  | .null => by simp; omega
  | .trueWord => by simp; omega
  | .falseWord => by simp; omega
  | .number h => by
    obtain ⟨c, t, rfl, -⟩ := h.head
    simp only [List.length_append, List.length_cons]
    omega
  | .emptyObject _ => by simp; omega
  | .object _ h => by
    have := h.length_lt
    simp
    omega
  | .emptyArray _ => by simp; omega
  | .array _ h => by
    have := h.length_lt
    simp
    omega

theorem Members.length_lt {d : ℕ} {ms : List (List Char × Value)} {s r : List Char} :
    Members d ms s r → r.length < s.length
  | .last _ _ _ h _ => by
    have := h.length_lt
    simp at this ⊢
    omega
  | .cons _ _ _ h _ _ hmore => by
    have := h.length_lt
    have := hmore.length_lt
    simp at *
    omega

theorem Elements.length_lt {d : ℕ} {s r : List Char} : Elements d s r → r.length < s.length
  | .last h _ => by
    have := h.length_lt
    simp at this
    omega
  | .cons h _ _ hmore => by
    have := h.length_lt
    have := hmore.length_lt
    simp at *
    omega

end

theorem parse_complete (n : ℕ) :
    (∀ {d v s r}, Text d v s r → 2 * s.length ≤ n → Follow r → parseValue n d s = some (v, r)) ∧
    (∀ {d ms s r}, Members d ms s r → 2 * s.length ≤ n → parseMembers n d s = some (ms, r)) ∧
    (∀ {d s r}, Elements d s r → 2 * s.length < n → parseElements n d s = some r) := by
  induction n with
  | zero =>
    refine ⟨?_, ?_, ?_⟩
    · intro d v s r h hn
      obtain ⟨c, t, rfl, -⟩ := h.head
      simp at hn
    · intro d ms s r h hn
      cases h <;> simp at hn
    · intro d s r h hn
      omega
  | succ n ih =>
    obtain ⟨ihvalue, ihmembers, ihelements⟩ := ih
    refine ⟨?_, ?_, ?_⟩
    · intro d v s r h hn hr
      cases h with
      | string h => simp [parseValue, scanString_complete h]
      | null => simp [parseValue, scanWord]
      | trueWord => simp [parseValue, scanWord]
      | falseWord => simp [parseValue, scanWord]
      | number h =>
        have hscan := scanWord_complete h hr
        obtain ⟨c, t, rfl, hc⟩ := h.head
        have hquote : c ≠ '"' := number_head_ne hc (by decide)
        have hbrace : c ≠ '{' := number_head_ne hc (by decide)
        have hbracket : c ≠ '[' := number_head_ne hc (by decide)
        simp only [List.cons_append] at hscan ⊢
        simp [parseValue, hquote, hbrace, hbracket, hscan]
      | emptyObject ha =>
        simp [parseValue, skipSpace_append_cons ha, expect_self, isSpace]
      | @object _ a s _ _ ha h =>
        have hlen : 2 * s.length ≤ n := by
          simp only [List.length_cons, List.length_append] at hn
          omega
        have hmembers := ihmembers h hlen
        obtain ⟨t, rfl⟩ := h.head
        have hskip : skipSpace (a ++ '"' :: t) = '"' :: t := skipSpace_append_cons ha (by decide)
        simp [parseValue, hskip, expect_of_ne, hmembers]
      | emptyArray ha =>
        simp [parseValue, skipSpace_append_cons ha, expect_self, isSpace]
      | @array _ a s _ ha h =>
        have hlen : 2 * s.length < n := by
          simp only [List.length_cons, List.length_append] at hn
          omega
        have helements := ihelements h hlen
        obtain ⟨c, t, rfl, hc, hbracket⟩ := h.head
        have hskip : skipSpace (a ++ c :: t) = c :: t := skipSpace_append_cons ha hc
        simp [parseValue, hskip, expect_of_ne hbracket, helements]
    · intro d ms s r h hn
      have hspace : ∀ {x s : List Char} {c : Char}, c = ':' ∨ c = ',' ∨ c = '}' → Blank x →
          skipSpace (x ++ c :: s) = c :: s := by
        intro x s c hc hx
        exact skipSpace_append_cons hx (by rcases hc with rfl | rfl | rfl <;> decide)
      cases h with
      | @last _ key a b c s _ v hkey ha hb h hc =>
        have hlen : 2 * s.length ≤ n := by
          simp only [List.length_cons, List.length_append] at hn
          omega
        have hvalue := ihvalue h hlen (follow_append_cons hc (.inr (.inl rfl)))
        simp [parseMembers, expect_self, scanString_complete hkey, hspace (.inl rfl) ha,
          skipSpace_text hb h, hvalue, hspace (.inr (.inr rfl)) hc, expect_of_ne]
      | @cons _ key a b c e s t _ v members hkey ha hb h hc he hmore =>
        have hlen : 2 * s.length ≤ n := by
          simp only [List.length_cons, List.length_append] at hn
          omega
        have hvalue := ihvalue h hlen (follow_append_cons hc (.inl rfl))
        have hrest : 2 * t.length ≤ n := by
          have := h.length_lt
          simp only [List.length_append, List.length_cons] at this
          omega
        have hvalue := ihvalue h hlen (follow_append_cons hc (.inl rfl))
        have hmembers := ihmembers hmore hrest
        obtain ⟨t, rfl⟩ := hmore.head
        have hskip : skipSpace (e ++ '"' :: t) = '"' :: t := skipSpace_append_cons he (by decide)
        simp [parseMembers, expect_self, scanString_complete hkey, hspace (.inl rfl) ha,
          skipSpace_text hb h, hvalue, hspace (.inr (.inl rfl)) hc, hskip, hmembers]
    · intro d s r h hn
      have hspace : ∀ {x s : List Char} {c : Char}, c = ',' ∨ c = ']' → Blank x →
          skipSpace (x ++ c :: s) = c :: s := by
        intro x s c hc hx
        exact skipSpace_append_cons hx (by rcases hc with rfl | rfl <;> decide)
      cases h with
      | last h hc =>
        have hvalue := ihvalue h (by omega) (follow_append_cons hc (.inr (.inr rfl)))
        simp [parseElements, hvalue, hspace (.inr rfl) hc, expect_of_ne, expect_self]
      | @cons _ c e _ t _ v h hc he hmore =>
        have hrest : 2 * t.length < n := by
          have := h.length_lt
          simp only [List.length_append, List.length_cons] at this
          omega
        have hvalue := ihvalue h (by omega) (follow_append_cons hc (.inl rfl))
        have helements := ihelements hmore hrest
        obtain ⟨b, t, rfl, hb, -⟩ := hmore.head
        have hskip : skipSpace (e ++ b :: t) = b :: t := skipSpace_append_cons he hb
        simp [parseElements, hvalue, hspace (.inl rfl) hc, expect_self, hskip, helements]

/-! ### Whole texts -/

mutual

theorem Text.mono {d d' : ℕ} {v : Value} {s r : List Char} (hd : d ≤ d') :
    Text d v s r → Text d' v s r
  | .string h => .string h
  | .null => .null
  | .trueWord => .trueWord
  | .falseWord => .falseWord
  | .number h => .number h
  | .emptyObject ha => by
    obtain ⟨d', rfl⟩ := Nat.exists_eq_add_of_lt hd
    exact .emptyObject ha
  | .object ha h => by
    obtain ⟨e, rfl⟩ : ∃ e, d' = e + 1 := ⟨d' - 1, by omega⟩
    exact .object ha (h.mono (by omega))
  | .emptyArray ha => by
    obtain ⟨d', rfl⟩ := Nat.exists_eq_add_of_lt hd
    exact .emptyArray ha
  | .array ha h => by
    obtain ⟨e, rfl⟩ : ∃ e, d' = e + 1 := ⟨d' - 1, by omega⟩
    exact .array ha (h.mono (by omega))

theorem Members.mono {d d' : ℕ} {ms : List (List Char × Value)} {s r : List Char} (hd : d ≤ d') :
    Members d ms s r → Members d' ms s r
  | .last hkey ha hb h hc => .last hkey ha hb (h.mono hd) hc
  | .cons hkey ha hb h hc he hmore => .cons hkey ha hb (h.mono hd) hc he (hmore.mono hd)

theorem Elements.mono {d d' : ℕ} {s r : List Char} (hd : d ≤ d') :
    Elements d s r → Elements d' s r
  | .last h hc => .last (h.mono hd) hc
  | .cons h hc he hmore => .cons (h.mono hd) hc he (hmore.mono hd)

end

theorem Blank.follow {r : List Char} (h : Blank r) : Follow r := by
  intro c hc
  exact .inl (h c (List.mem_of_mem_head? hc))

theorem skipSpace_blank {r : List Char} (h : Blank r) : skipSpace r = [] :=
  List.dropWhile_eq_nil_iff.mpr h

theorem Text.unique {d d' : ℕ} {v v' : Value} {s r : List Char} (h : Text d v s r)
    (h' : Text d' v' s r) (hr : Follow r) : v = v' := by
  have hparse := (parse_complete _).1 (h.mono (Nat.le_max_left d d')) le_rfl hr
  have hparse' := (parse_complete _).1 (h'.mono (Nat.le_max_right d d')) le_rfl hr
  rw [hparse] at hparse'
  exact (Prod.mk.inj (Option.some.inj hparse')).1

theorem parse_of_text {v : Value} {s r : List Char} (h : Text maxNestingDepth v s r)
    (hr : Blank r) : parse s = some v := by
  have hskip : skipSpace s = s := skipSpace_text (fun c hc => absurd hc List.not_mem_nil) h
  unfold parse
  rw [hskip, (parse_complete _).1 h le_rfl hr.follow]
  simp [skipSpace_blank hr]

theorem text_of_parse {v : Value} {s : List Char} (h : parse s = some v) :
    ∃ r, Text maxNestingDepth v (skipSpace s) r ∧ Blank r := by
  unfold parse at h
  split at h
  · next v' r hv =>
    split at h
    · next hr =>
      cases h
      exact ⟨r, (parse_sound _).1 hv, fun c hc => List.dropWhile_eq_nil_iff.mp hr c hc⟩
    · cases h
  · cases h

end OpenchamiOperator.Lib.JsonDecode
