import Mathlib.Data.List.Induction
import OpenchamiOperator.Lib.JsonDecode

/-! # String fields of a structure in `encoding/json`

What `json.Unmarshal` stores in a structure that has one string field: names are compared up to
case, the last string wins, a null is passed over, and a value of another kind is an error.

* `decodeField_eq_some_iff`: which members leave a given text in the field. -/

namespace OpenchamiOperator.Lib.JsonDecode

/-! ### Bytes and runes -/

/-- `utf8.RuneError`. -/
def runeError : ℕ := 0xFFFD

/-- The range of the second byte of a sequence, by its first. -/
def secondByte (b : ℕ) : ℕ × ℕ :=
  if b = 0xE0 then (0xA0, 0xBF)
  else if b = 0xED then (0x80, 0x9F)
  else if b = 0xF0 then (0x90, 0xBF)
  else if b = 0xF4 then (0x80, 0x8F)
  else (0x80, 0xBF)

def isContinuation (b : ℕ) : Bool := 0x80 ≤ b && b ≤ 0xBF

/-- `utf8.DecodeRune`: the rune in front, and how many bytes it takes. -/
def decodeRune (s : List Char) : ℕ × ℕ :=
  match s.map Char.toNat with
  | [] => (runeError, 0)
  | b₀ :: rest =>
    if b₀ < 0x80 then (b₀, 1)
    else
      match rest with
      | [] => (runeError, 1)
      | b₁ :: rest =>
        if b₀ < 0xC2 || 0xF4 < b₀ || b₁ < (secondByte b₀).1 || (secondByte b₀).2 < b₁ then
          (runeError, 1)
        else if b₀ ≤ 0xDF then ((b₀ - 0xC0) * 0x40 + (b₁ - 0x80), 2)
        else
          match rest with
          | [] => (runeError, 1)
          | b₂ :: rest =>
            if !isContinuation b₂ then (runeError, 1)
            else if b₀ ≤ 0xEF then
              (((b₀ - 0xE0) * 0x40 + (b₁ - 0x80)) * 0x40 + (b₂ - 0x80), 3)
            else
              match rest with
              | [] => (runeError, 1)
              | b₃ :: _ =>
                if !isContinuation b₃ then (runeError, 1)
                else
                  ((((b₀ - 0xF0) * 0x40 + (b₁ - 0x80)) * 0x40 + (b₂ - 0x80)) * 0x40 +
                    (b₃ - 0x80), 4)

/-- `utf8.EncodeRune`. -/
def encodeRune (r : ℕ) : List Char :=
  let r := if 0x10FFFF < r ∨ (0xD800 ≤ r ∧ r ≤ 0xDFFF) then runeError else r
  List.map Char.ofNat <|
    if r < 0x80 then [r]
    else if r < 0x800 then [0xC0 + r / 0x40, 0x80 + r % 0x40]
    else if r < 0x10000 then [0xE0 + r / 0x1000, 0x80 + r / 0x40 % 0x40, 0x80 + r % 0x40]
    else
      [0xF0 + r / 0x40000, 0x80 + r / 0x1000 % 0x40, 0x80 + r / 0x40 % 0x40, 0x80 + r % 0x40]

/-! ### Strings -/

def hexValue (c : Char) : ℕ :=
  if c.isDigit then c.toNat - 48 else if 'a' ≤ c then c.toNat - 87 else c.toNat - 55

/-- `getu4`, for four hexadecimal digits. -/
def getu4 (h₁ h₂ h₃ h₄ : Char) : ℕ :=
  ((hexValue h₁ * 16 + hexValue h₂) * 16 + hexValue h₃) * 16 + hexValue h₄

/-- The character that a backslash and a letter stand for. -/
def unletter : Char → Char
  | 'b' => Char.ofNat 8
  | 'f' => Char.ofNat 12
  | 'n' => '\n'
  | 'r' => '\r'
  | 't' => '\t'
  | c => c

/-- `unquoteBytes`, for the text of a string between its quotes. A surrogate that has no partner and
a byte that is no UTF-8 become the replacement character. The number bounds the length. -/
def unquoteBytes : ℕ → List Char → List Char
  | n + 1, '\\' :: 'u' :: h₁ :: h₂ :: h₃ :: h₄ :: s =>
    let r := getu4 h₁ h₂ h₃ h₄
    if 0xD800 ≤ r ∧ r ≤ 0xDFFF then
      match s with
      | '\\' :: 'u' :: g₁ :: g₂ :: g₃ :: g₄ :: s' =>
        let r' := getu4 g₁ g₂ g₃ g₄
        if r < 0xDC00 ∧ 0xDC00 ≤ r' ∧ r' ≤ 0xDFFF then
          encodeRune (0x10000 + (r - 0xD800) * 0x400 + (r' - 0xDC00)) ++ unquoteBytes n s'
        else encodeRune runeError ++ unquoteBytes n s
      | _ => encodeRune runeError ++ unquoteBytes n s
    else encodeRune r ++ unquoteBytes n s
  | n + 1, '\\' :: e :: s => unletter e :: unquoteBytes n s
  | n + 1, c :: s =>
    if c.toNat < 0x80 then c :: unquoteBytes n s
    else
      let (r, size) := decodeRune (c :: s)
      encodeRune r ++ unquoteBytes n ((c :: s).drop size)
  | _, _ => []

def unquote (raw : List Char) : List Char := unquoteBytes raw.length raw

/-! ### Names -/

/-- `foldRune` for names in ASCII: the runes outside it that fold to a letter are the long s and the
Kelvin sign. -/
def foldRune (r : ℕ) : ℕ := if r = 0x17F then 0x53 else if r = 0x212A then 0x4B else r

/-- `appendFoldedName`. The number bounds the length. -/
def foldName : ℕ → List Char → List Char
  | n + 1, c :: s =>
    if c.toNat < 0x80 then c.toUpper :: foldName n s
    else
      let (r, size) := decodeRune (c :: s)
      encodeRune (foldRune r) ++ foldName n ((c :: s).drop size)
  | _, _ => []

/-- A key, as it stands between its quotes, names the field. -/
def namesField (name : String) (key : List Char) : Bool :=
  foldName (unquote key).length (unquote key) = foldName name.length name.toList

/-! ### Fields -/

/-- What a member does to the field. -/
def storeMember (name : String) (field : Option (List Char)) (m : List Char × Value) :
    Option (List Char) :=
  if namesField name m.1 then
    match m.2 with
    | .string raw => field.map fun _ => unquote raw
    | .null => field
    | _ => none
  else field

/-- The field after all members, starting from the empty string; an error leaves none. -/
def decodeField (name : String) (members : List (List Char × Value)) : Option (List Char) :=
  members.foldl (storeMember name) (some [])

/-- `json.Unmarshal` into a structure with one string field. -/
def unmarshalField (name : String) (data : List Char) : Option (List Char) :=
  match parse data with
  | some (.object members) => decodeField name members
  | some .null => some []
  | _ => none

/-- The value of the last member with exactly this name. -/
def member? (name : String) (members : List (List Char × Value)) : Option Value :=
  (members.filter fun m => unquote m.1 = name.toList).getLast?.map Prod.snd

def Value.isStringOrNull : Value → Bool
  | .string _ | .null => true
  | _ => false

/-- Every member that names the field can be stored in it. -/
def Storable (name : String) (members : List (List Char × Value)) : Prop :=
  ∀ m ∈ members, namesField name m.1 = true → m.2.isStringOrNull = true

/-- The last string among the members that name the field is `text`. -/
def LastString (name : String) (members : List (List Char × Value)) (text : List Char) : Prop :=
  ∃ pre key raw post, members = pre ++ (key, .string raw) :: post ∧
    namesField name key = true ∧ unquote raw = text ∧
    ∀ m ∈ post, namesField name m.1 = true → m.2 = .null

section Decode
variable {name : String} {members : List (List Char × Value)}

theorem decodeField_append_singleton (m : List Char × Value) :
    decodeField name (members ++ [m]) = storeMember name (decodeField name members) m := by
  simp [decodeField]

theorem storable_append_singleton {m : List Char × Value} : Storable name (members ++ [m]) ↔
    Storable name members ∧ (namesField name m.1 = true → m.2.isStringOrNull = true) := by
  simp [Storable, or_imp, forall_and]

theorem decodeField_isSome_iff : (decodeField name members).isSome = true ↔
    Storable name members := by
  induction members using List.reverseRecOn with
  | nil => simp [decodeField, Storable]
  | append_singleton members m ih =>
    rw [decodeField_append_singleton, storable_append_singleton, ← ih]
    unfold storeMember
    by_cases hname : namesField name m.1 = true
    · rw [if_pos hname]
      rcases m with ⟨key, v⟩
      cases v <;> simp [Value.isStringOrNull, hname]
    · simp [hname]

theorem lastString_append_singleton {text : List Char} {m : List Char × Value} :
    LastString name (members ++ [m]) text ↔
      (namesField name m.1 = true ∧ ∃ raw, m.2 = .string raw ∧ unquote raw = text) ∨
      ((namesField name m.1 = true → m.2 = .null) ∧ LastString name members text) := by
  constructor
  · rintro ⟨pre, key, raw, post, heq, hkey, hraw, hpost⟩
    rcases post.eq_nil_or_concat with rfl | ⟨post, m', rfl⟩
    · obtain ⟨-, hlast⟩ := List.append_inj' heq rfl
      obtain rfl : m = (key, .string raw) := by simpa using hlast
      exact .inl ⟨hkey, raw, rfl, hraw⟩
    · have hassoc : members ++ [m] = (pre ++ (key, .string raw) :: post) ++ [m'] := by
        simpa using heq
      obtain ⟨hmembers, hlast⟩ := List.append_inj' hassoc rfl
      obtain rfl : m = m' := by simpa using hlast
      exact .inr ⟨hpost m (by simp), pre, key, raw, post, hmembers, hkey, hraw,
        fun m hin => hpost m (by simp [hin])⟩
  · rintro (⟨hname, raw, hm, hraw⟩ | ⟨hm, pre, key, raw, post, rfl, hkey, hraw, hpost⟩)
    · exact ⟨members, m.1, raw, [], by rw [← hm], hname, hraw, by simp⟩
    · refine ⟨pre, key, raw, post ++ [m], by simp, hkey, hraw, ?_⟩
      intro m' hin hname
      rcases List.mem_append.mp hin with hin | hin
      · exact hpost m' hin hname
      · obtain rfl := List.mem_singleton.mp hin
        exact hm hname

/-- **What is left in the field.** -/
theorem decodeField_eq_some_iff {text : List Char} (htext : text ≠ []) :
    decodeField name members = some text ↔
      Storable name members ∧ LastString name members text := by
  induction members using List.reverseRecOn with
  | nil =>
    constructor
    · intro h
      exact absurd (Option.some.inj h).symm htext
    · rintro ⟨-, pre, key, raw, post, heq, -⟩
      simp at heq
  | append_singleton members m ih =>
    rw [decodeField_append_singleton, storable_append_singleton, lastString_append_singleton]
    unfold storeMember
    by_cases hname : namesField name m.1 = true
    · rw [if_pos hname]
      rcases m with ⟨key, v⟩
      cases v with
      | null => simpa [Value.isStringOrNull] using ih
      | string raw =>
        rw [← decodeField_isSome_iff]
        rcases decodeField name members with _ | field <;> simp [Value.isStringOrNull, hname]
      | bool | number | array | object => simp [Value.isStringOrNull, hname]
    · simpa [hname] using ih

end Decode

end OpenchamiOperator.Lib.JsonDecode
