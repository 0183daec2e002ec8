import OpenchamiOperator.Lib.Json
import OpenchamiOperator.Lib.Strconv

/-! # The text of a document

`json.Marshal` without its reflection: a document in one line, its strings with the characters
escaped that are special in JSON or in HTML.

* `text_injective`: a document can be told from its text. -/

namespace OpenchamiOperator.Lib

open Strconv

/-! ### Strings -/

/-- One character of a string, as `appendString` writes it with `escapeHTML`. -/
def jsonEscape (c : Char) : List Char :=
  if c = '"' ∨ c = '\\' then ['\\', c]
  else
    match c.toNat with
    | 8 => ['\\', 'b']
    | 9 => ['\\', 't']
    | 10 => ['\\', 'n']
    | 12 => ['\\', 'f']
    | 13 => ['\\', 'r']
    | n =>
      if n < 32 ∨ c = '<' ∨ c = '>' ∨ c = '&' ∨ n = 0x2028 ∨ n = 0x2029 then
        '\\' :: 'u' :: hexDigits 4 n
      else [c]

/-- A string with its quotes. -/
def jsonString (s : String) : List Char := '"' :: (s.toList.flatMap jsonEscape ++ ['"'])

theorem unescape_jsonEscape (c : Char) (rest : List Char) :
    unescape (jsonEscape c ++ rest) = some (c, rest) := by
  unfold jsonEscape
  by_cases hspecial : c = '"' ∨ c = '\\'
  · rw [if_pos hspecial]
    rcases hspecial with rfl | rfl <;> rfl
  rw [if_neg hspecial]
  obtain ⟨hquote, hslash⟩ := not_or.mp hspecial
  have hletter : ∀ {n : ℕ} {l : Char}, c.toNat = n → letter? (Char.ofNat n) = some l →
      unescape (['\\', l] ++ rest) = some (c, rest) := by
    intro n l hn hl
    rw [← hn, Char.ofNat_toNat] at hl
    exact unescape_letter hl rest
  split
  · exact hletter ‹_› (by decide)
  · exact hletter ‹_› (by decide)
  · exact hletter ‹_› (by decide)
  · exact hletter ‹_› (by decide)
  · exact hletter ‹_› (by decide)
  · split
    next hlong =>
      have hlt : c.toNat < 16 ^ 4 := by
        rcases hlong with h | rfl | rfl | rfl | h | h
        · omega
        · decide
        · decide
        · decide
        · omega
        · omega
      obtain ⟨hc, hrest⟩ := ofNat_hexNumber hlt rest
      simp only [List.cons_append, unescape, hc, hrest]
    · exact unescape_cons hquote hslash rest

theorem jsonString_inj {s t : String} {u v : List Char}
    (h : jsonString s ++ u = jsonString t ++ v) : s = t ∧ u = v := by
  simp only [jsonString, List.cons_append, List.append_assoc, List.nil_append, List.cons.injEq,
    true_and] at h
  obtain ⟨hst, huv⟩ := flatMap_inj_of_unescape unescape_jsonEscape h
  exact ⟨String.toList_inj.mp hst, huv⟩

/-! ### Documents -/

mutual

/-- The characters of a document. -/
def Json.chars : Json → List Char
  | .bool b => if b then ['t', 'r', 'u', 'e'] else ['f', 'a', 'l', 's', 'e']
  | .num n => (formatInt n).toList
  | .str s => jsonString s
  | .arr [] => ['[', ']']
  | .arr (j :: l) => '[' :: (j.chars ++ (itemsChars l ++ [']']))
  | .obj [] => ['{', '}']
  | .obj (m :: l) => '{' :: (memberChars m ++ (membersChars l ++ ['}']))

/-- The further items of a list, each after a comma. -/
def itemsChars : List Json → List Char
  | [] => []
  | j :: l => ',' :: (j.chars ++ itemsChars l)

/-- One member of an object. -/
def memberChars : String × Json → List Char
  | (k, j) => jsonString k ++ ':' :: j.chars

/-- The further members of an object, each after a comma. -/
def membersChars : List (String × Json) → List Char
  | [] => []
  | m :: l => ',' :: (memberChars m ++ membersChars l)

end

/-- `json.Marshal`. -/
def Json.text (j : Json) : String := String.ofList j.chars

/-! ### Reading a document back -/

/-- What may follow a document: nothing that could belong to a number. -/
def Follow (u : List Char) : Prop := ∀ c ∈ u.head?, c.isDigit = false ∧ c ≠ '-'

theorem follow_cons {c : Char} (u : List Char) (hdigit : c.isDigit = false) (hminus : c ≠ '-') :
    Follow (c :: u) := by
  intro d hd
  cases hd
  exact ⟨hdigit, hminus⟩

/-- A number ends where no further digit follows. -/
theorem formatInt_append_inj {m n : ℤ} {u v : List Char} (hu : Follow u) (hv : Follow v)
    (h : (formatInt m).toList ++ u = (formatInt n).toList ++ v) : m = n ∧ u = v := by
  have htake : ∀ (k : ℤ) {w : List Char}, Follow w →
      ((formatInt k).toList ++ w).takeWhile (fun c => c.isDigit || c = '-') =
        (formatInt k).toList := by
    intro k w hw
    have hall : ∀ c ∈ (formatInt k).toList, (c.isDigit || decide (c = '-')) = true := by
      intro c hc
      by_contra hno
      simp only [Bool.or_eq_true, decide_eq_true_eq, not_or, Bool.not_eq_true] at hno
      exact not_mem_formatInt hno.1 hno.2 k hc
    rw [List.takeWhile_append_of_pos hall]
    cases w with
    | nil => simp
    | cons c w =>
      obtain ⟨hdigit, hminus⟩ := hw c rfl
      rw [List.takeWhile_cons_of_neg (by simp [hdigit, hminus]), List.append_nil]
  have hmn : (formatInt m).toList = (formatInt n).toList := by rw [← htake m hu, h, htake n hv]
  rw [hmn] at h
  exact ⟨formatInt_injective (String.toList_inj.mp hmn), List.append_cancel_left h⟩

/-- Which kind of document starts with a character. -/
def lead (c : Char) : ℕ :=
  if c = '"' then 0
  else if c = '[' then 1
  else if c = '{' then 2
  else if c = 't' ∨ c = 'f' then 3
  else if c.isDigit ∨ c = '-' then 4
  else 5

def Json.tag : Json → ℕ
  | .str _ => 0
  | .arr _ => 1
  | .obj _ => 2
  | .bool _ => 3
  | .num _ => 4

theorem lead_formatInt (n : ℤ) : ∃ c l, (formatInt n).toList = c :: l ∧ lead c = 4 := by
  rcases h : (formatInt n).toList with _ | ⟨c, l⟩
  · exact absurd (String.toList_inj.mp (h.trans String.toList_empty.symm)) (formatInt_ne_empty n)
  · refine ⟨c, l, rfl, ?_⟩
    have hc : c ∈ (formatInt n).toList := by simp [h]
    have hnumeral : c.isDigit = true ∨ c = '-' := by
      by_contra hno
      simp only [not_or, Bool.not_eq_true] at hno
      exact not_mem_formatInt hno.1 hno.2 n hc
    have hother : ∀ d ∈ ['"', '[', '{', 't', 'f'], c ≠ d := by
      rintro d hd rfl
      simp only [List.mem_cons, List.not_mem_nil, or_false] at hd
      rcases hd with rfl | rfl | rfl | rfl | rfl <;> revert hnumeral <;> decide
    unfold lead
    rw [if_neg (hother '"' (by simp)), if_neg (hother '[' (by simp)), if_neg (hother '{' (by simp)),
      if_neg (not_or.mpr ⟨hother 't' (by simp), hother 'f' (by simp)⟩), if_pos hnumeral]

theorem lead_chars (j : Json) : ∃ c l, j.chars = c :: l ∧ lead c = j.tag := by
  cases j with
  | bool b => cases b <;> exact ⟨_, _, rfl, rfl⟩
  | num n => exact lead_formatInt n
  | str s => exact ⟨_, _, rfl, rfl⟩
  | arr l => cases l <;> exact ⟨_, _, rfl, rfl⟩
  | obj l => cases l <;> exact ⟨_, _, rfl, rfl⟩

/-- The first character tells the kind. -/
theorem tag_eq {a b : Json} {u v : List Char} (h : a.chars ++ u = b.chars ++ v) :
    a.tag = b.tag := by
  obtain ⟨c, l, ha, hc⟩ := lead_chars a
  obtain ⟨d, m, hb, hd⟩ := lead_chars b
  rw [ha, hb] at h
  rw [← hc, ← hd, (List.cons.inj h).1]

/-- A document does not start like the end of a list. -/
theorem chars_ne_cons {j : Json} {c : Char} {u v : List Char} (hc : lead c = 5) :
    j.chars ++ u ≠ c :: v := by
  obtain ⟨d, l, hj, hd⟩ := lead_chars j
  rw [hj]
  intro h
  have htag : j.tag = 5 := by rw [← hd, ← hc, (List.cons.inj h).1]
  cases j <;> simp [Json.tag] at htag

theorem memberChars_ne_cons {x : String × Json} {c : Char} {u v : List Char} (hc : c ≠ '"') :
    memberChars x ++ u ≠ c :: v := by
  obtain ⟨s, j⟩ := x
  intro h
  simp only [memberChars, jsonString, List.cons_append, List.cons.injEq] at h
  exact hc h.1.symm

theorem follow_items (l : List Json) (u : List Char) : Follow (itemsChars l ++ ']' :: u) := by
  cases l <;> exact follow_cons _ (by decide) (by decide)

theorem follow_members (l : List (String × Json)) (u : List Char) :
    Follow (membersChars l ++ '}' :: u) := by
  cases l <;> exact follow_cons _ (by decide) (by decide)

mutual

/-- A document ends where it says it does. By induction on the first of two documents; its lists are
compared item by item. -/
theorem chars_inj : ∀ (a b : Json) {u v : List Char}, Follow u → Follow v →
    a.chars ++ u = b.chars ++ v → a = b ∧ u = v
  | .bool x, b, u, v, _, _, h => by
    have htag := tag_eq h
    cases b with
    | bool y =>
      cases x <;> cases y <;> simp [Json.chars] at h
      · exact ⟨rfl, h⟩
      · exact ⟨rfl, h⟩
    | num _ | str _ | arr _ | obj _ => simp [Json.tag] at htag
  | .num m, b, u, v, hu, hv, h => by
    have htag := tag_eq h
    cases b with
    | num n =>
      obtain ⟨hmn, huv⟩ := formatInt_append_inj hu hv h
      exact ⟨by rw [hmn], huv⟩
    | bool _ | str _ | arr _ | obj _ => simp [Json.tag] at htag
  | .str s, b, u, v, _, _, h => by
    have htag := tag_eq h
    cases b with
    | str t =>
      obtain ⟨hst, huv⟩ := jsonString_inj h
      exact ⟨by rw [hst], huv⟩
    | bool _ | num _ | arr _ | obj _ => simp [Json.tag] at htag
  | .arr [], b, u, v, _, _, h => by
    have htag := tag_eq h
    cases b with
    | arr m =>
      cases m with
      | nil => exact ⟨rfl, by simpa [Json.chars] using h⟩
      | cons k m =>
        simp only [Json.chars, List.cons_append, List.nil_append, List.append_assoc,
          List.cons.injEq, true_and] at h
        exact absurd h.symm (chars_ne_cons rfl)
    | bool _ | num _ | str _ | obj _ => simp [Json.tag] at htag
  | .arr (j :: l), b, u, v, _, _, h => by
    have htag := tag_eq h
    cases b with
    | arr m =>
      cases m with
      | nil =>
        simp only [Json.chars, List.cons_append, List.nil_append, List.append_assoc,
          List.cons.injEq, true_and] at h
        exact absurd h (chars_ne_cons rfl)
      | cons k m =>
        simp only [Json.chars, List.cons_append, List.nil_append, List.append_assoc,
          List.cons.injEq, true_and] at h
        obtain ⟨hjk, hrest⟩ := chars_inj j k (follow_items l u) (follow_items m v) h
        obtain ⟨hlm, huv⟩ := itemsChars_inj l m hrest
        exact ⟨by rw [hjk, hlm], huv⟩
    | bool _ | num _ | str _ | obj _ => simp [Json.tag] at htag
  | .obj [], b, u, v, _, _, h => by
    have htag := tag_eq h
    cases b with
    | obj m =>
      cases m with
      | nil => exact ⟨rfl, by simpa [Json.chars] using h⟩
      | cons y m =>
        simp only [Json.chars, List.cons_append, List.nil_append, List.append_assoc,
          List.cons.injEq, true_and] at h
        exact absurd h.symm (memberChars_ne_cons (by decide))
    | bool _ | num _ | str _ | arr _ => simp [Json.tag] at htag
  | .obj (x :: l), b, u, v, _, _, h => by
    have htag := tag_eq h
    cases b with
    | obj m =>
      cases m with
      | nil =>
        simp only [Json.chars, List.cons_append, List.nil_append, List.append_assoc,
          List.cons.injEq, true_and] at h
        exact absurd h (memberChars_ne_cons (by decide))
      | cons y m =>
        simp only [Json.chars, List.cons_append, List.nil_append, List.append_assoc,
          List.cons.injEq, true_and] at h
        obtain ⟨hxy, hrest⟩ := memberChars_inj x y (follow_members l u) (follow_members m v) h
        obtain ⟨hlm, huv⟩ := membersChars_inj l m hrest
        exact ⟨by rw [hxy, hlm], huv⟩
    | bool _ | num _ | str _ | arr _ => simp [Json.tag] at htag

theorem itemsChars_inj : ∀ (l m : List Json) {u v : List Char},
    itemsChars l ++ ']' :: u = itemsChars m ++ ']' :: v → l = m ∧ u = v
  | [], m, u, v, h => by
    cases m with
    | nil => exact ⟨rfl, (List.cons.inj h).2⟩
    | cons k m => simp [itemsChars] at h
  | j :: l, m, u, v, h => by
    cases m with
    | nil => simp [itemsChars] at h
    | cons k m =>
      simp only [itemsChars, List.cons_append, List.append_assoc, List.cons.injEq, true_and] at h
      obtain ⟨hjk, hrest⟩ := chars_inj j k (follow_items l u) (follow_items m v) h
      obtain ⟨hlm, huv⟩ := itemsChars_inj l m hrest
      exact ⟨by rw [hjk, hlm], huv⟩

theorem memberChars_inj : ∀ (x y : String × Json) {u v : List Char}, Follow u → Follow v →
    memberChars x ++ u = memberChars y ++ v → x = y ∧ u = v
  | (s, j), (t, k), u, v, hu, hv, h => by
    simp only [memberChars, List.append_assoc, List.cons_append] at h
    obtain ⟨hst, hrest⟩ := jsonString_inj h
    obtain ⟨hjk, huv⟩ := chars_inj j k hu hv (List.cons.inj hrest).2
    exact ⟨by rw [hst, hjk], huv⟩

theorem membersChars_inj : ∀ (l m : List (String × Json)) {u v : List Char},
    membersChars l ++ '}' :: u = membersChars m ++ '}' :: v → l = m ∧ u = v
  | [], m, u, v, h => by
    cases m with
    | nil => exact ⟨rfl, (List.cons.inj h).2⟩
    | cons k m => simp [membersChars] at h
  | x :: l, m, u, v, h => by
    cases m with
    | nil => simp [membersChars] at h
    | cons y m =>
      simp only [membersChars, List.cons_append, List.append_assoc, List.cons.injEq,
        true_and] at h
      obtain ⟨hxy, hrest⟩ := memberChars_inj x y (follow_members l u) (follow_members m v) h
      obtain ⟨hlm, huv⟩ := membersChars_inj l m hrest
      exact ⟨by rw [hxy, hlm], huv⟩

end

/-- **A document can be told from its text.** -/
theorem text_injective : Function.Injective Json.text := by
  intro a b h
  have hchars : a.chars ++ [] = b.chars ++ [] := by
    rw [List.append_nil, List.append_nil]
    exact String.ofList_injective h
  exact (chars_inj a b (fun c hc => by cases hc) (fun c hc => by cases hc) hchars).1

example : (Json.obj [("a", .str "x<y\n"), ("b", .arr [.num (-1), .bool true])]).text =
    "\x7b\"a\":\"x\\u003cy\\n\",\"b\":[-1,true]\x7d" := by
  decide

end OpenchamiOperator.Lib
