import OpenchamiOperator.Lib.Strings

/-! # The tokens of an SQL text

A lexer for the lexical rules of standard SQL, one character at a time: words, numerals,
operators, quoted names, both kinds of comment, and string literals between single quotes, where a
doubled quote stands for a quote and nothing else is special.

* `scan_append`: the lexer can be run over a text in parts.
* `Lexes.literal`: an escaped value between quotes is one literal with that value, whatever
  characters the value has.
* `Lexes.newline`, `Lexes.semicolon`: texts that end outside a literal can be put together. -/

namespace OpenchamiOperator.Lib.Sql

inductive Token where
  | word (text : String)
  | number (text : String)
  | literal (value : String)
  | name (text : String)
  | op (text : String)
  /-- A literal, a quoted name or a comment that the text ends in. -/
  | unterminated
  deriving Repr, DecidableEq

/-- A token without the value of a literal. -/
def Token.shape : Token → Token
  | literal _ => literal ""
  | t => t

/-- Where the lexer stands, with the characters of the token it is in. -/
inductive Lexer where
  | start
  | word (acc : List Char)
  | number (acc : List Char)
  | literal (acc : List Char)
  /-- After a quote in a literal, which ends the literal unless another one follows. -/
  | literalQuote (acc : List Char)
  | name (acc : List Char)
  | nameQuote (acc : List Char)
  /-- After a character that may be the first of two. -/
  | op (c : Char)
  | lineComment
  | blockComment
  | blockCommentStar
  deriving Repr, DecidableEq

def isWordStart (c : Char) : Bool := c.isAlpha || c = '_' || 128 ≤ c.toNat

def isWordChar (c : Char) : Bool := isWordStart c || c.isDigit

def isBlank (c : Char) : Bool := c = ' ' || c = '\n' || c = '\t' || c = '\r'

/-- The first character of a token, or one between tokens. -/
def enter (c : Char) : Lexer × List Token :=
  if isBlank c then (.start, [])
  else if c.isDigit then (.number [c], [])
  else if isWordStart c then (.word [c], [])
  else
    match c with
    | '\'' => (.literal [], [])
    | '"' => (.name [], [])
    | '-' | '/' | '<' | '>' | '|' | '!' => (.op c, [])
    | c => (.start, [.op (String.ofList [c])])

/-- The tokens that are complete if the text ends here. -/
def Lexer.finish : Lexer → List Token
  | start | lineComment => []
  | word acc => [.word (String.ofList acc)]
  | number acc => [.number (String.ofList acc)]
  | literalQuote acc => [.literal (String.ofList acc)]
  | nameQuote acc => [.name (String.ofList acc)]
  | op c => [.op (String.ofList [c])]
  | literal _ | name _ | blockComment | blockCommentStar => [.unterminated]

/-- End the token the lexer is in, and enter the next one with `c`. -/
def Lexer.next (q : Lexer) (c : Char) : Lexer × List Token :=
  ((enter c).1, q.finish ++ (enter c).2)

def Lexer.step (q : Lexer) (c : Char) : Lexer × List Token :=
  match q with
  | start => enter c
  | word acc => if isWordChar c then (.word (acc ++ [c]), []) else q.next c
  | number acc => if c.isDigit then (.number (acc ++ [c]), []) else q.next c
  | literal acc => if c = '\'' then (.literalQuote acc, []) else (.literal (acc ++ [c]), [])
  | literalQuote acc => if c = '\'' then (.literal (acc ++ [c]), []) else q.next c
  | name acc => if c = '"' then (.nameQuote acc, []) else (.name (acc ++ [c]), [])
  | nameQuote acc => if c = '"' then (.name (acc ++ [c]), []) else q.next c
  | op d =>
    match d, c with
    | '-', '-' => (.lineComment, [])
    | '/', '*' => (.blockComment, [])
    | '<', '>' | '<', '=' | '>', '=' | '|', '|' | '!', '=' =>
      (.start, [.op (String.ofList [d, c])])
    | _, _ => q.next c
  | lineComment => if c = '\n' then (.start, []) else (.lineComment, [])
  | blockComment => if c = '*' then (.blockCommentStar, []) else (.blockComment, [])
  | blockCommentStar =>
    if c = '/' then (.start, [])
    else if c = '*' then (.blockCommentStar, []) else (.blockComment, [])

def Lexer.scan : Lexer → List Char → Lexer × List Token
  | q, [] => (q, [])
  | q, c :: s =>
    let (q', ts) := q.step c
    let (q'', ts') := q'.scan s
    (q'', ts ++ ts')

/-- The tokens of a text. -/
def lex (s : String) : List Token :=
  let (q, ts) := Lexer.start.scan s.toList
  ts ++ q.finish

namespace Lexer

theorem scan_cons (q : Lexer) (c : Char) (s : List Char) :
    q.scan (c :: s) = (((q.step c).1.scan s).1, (q.step c).2 ++ ((q.step c).1.scan s).2) := rfl

theorem scan_append (q : Lexer) (s t : List Char) :
    q.scan (s ++ t) = (((q.scan s).1.scan t).1, (q.scan s).2 ++ ((q.scan s).1.scan t).2) := by
  induction s generalizing q with
  | nil => simp [scan]
  | cons c s ih => rw [List.cons_append, scan_cons, ih, scan_cons, List.append_assoc]

/-- The lexer is outside literals, quoted names and comments, so that a blank ends its token. -/
def outside : Lexer → Bool
  | start | word _ | number _ | literalQuote _ | nameQuote _ | op _ => true
  | literal _ | name _ | lineComment | blockComment | blockCommentStar => false

/-- A character that continues no token. -/
def Separates (c : Char) : Prop :=
  isWordChar c = false ∧ c ≠ '\'' ∧ c ≠ '"' ∧ c ≠ '-' ∧ c ≠ '*' ∧ c ≠ '>' ∧ c ≠ '=' ∧ c ≠ '|'

instance (c : Char) : Decidable (Separates c) := by unfold Separates; infer_instance

theorem step_separates {q : Lexer} (hq : q.outside = true) {c : Char} (hc : Separates c) :
    q.step c = q.next c := by
  obtain ⟨hword, hquote, hdouble, hminus, hstar, hgreater, heq, hbar⟩ := hc
  have hdigit : c.isDigit = false := (Bool.or_eq_false_iff.mp hword).2
  cases q with
  | start => simp [step, next, finish]
  | word acc => simp [step, hword]
  | number acc => simp [step, hdigit]
  | literalQuote acc => simp [step, hquote]
  | nameQuote acc => simp [step, hdouble]
  | op d =>
    unfold step
    split <;> simp_all
  | literal | name | lineComment | blockComment | blockCommentStar => cases hq

end Lexer

open Lexer

/-! ### Texts put together -/

/-- A text that has the tokens `ts`, and ends outside literals and comments. -/
structure Lexes (s : List Char) (ts : List Token) : Prop where
  outside : (start.scan s).1.outside = true
  tokens : (start.scan s).2 ++ (start.scan s).1.finish = ts

namespace Lexes

variable {s t : List Char} {ts us : List Token}

theorem nil : Lexes [] [] := ⟨rfl, rfl⟩

theorem lex_eq {s : String} (h : Lexes s.toList ts) : lex s = ts := h.tokens

/-- After a character that ends every token, the lexer starts again. -/
theorem separated (h : Lexes s ts) {c : Char} (hc : Separates c) (ht : Lexes (c :: t) us) :
    Lexes (s ++ c :: t) (ts ++ us) := by
  have hstep := step_separates h.outside hc
  have hscan : start.scan (s ++ c :: t) =
      ((start.scan (c :: t)).1, ts ++ (start.scan (c :: t)).2) := by
    rw [scan_append, scan_cons, hstep, scan_cons start, ← h.tokens]
    simp only [next, step, List.append_assoc]
  exact ⟨by rw [hscan]; exact ht.outside, by rw [hscan, List.append_assoc, ht.tokens]⟩

theorem newline (h : Lexes s ts) (ht : Lexes t us) : Lexes (s ++ '\n' :: t) (ts ++ us) := by
  have hblank : start.scan ('\n' :: t) = start.scan t := by
    rw [scan_cons]
    rfl
  exact h.separated (by decide) ⟨by rw [hblank]; exact ht.outside, by rw [hblank, ht.tokens]⟩

theorem semicolon (h : Lexes s ts) : Lexes (s ++ [';']) (ts ++ [.op ";"]) :=
  h.separated (by decide) ⟨by decide, by decide⟩

end Lexes

/-! ### Literals -/

/-- A value as it stands between the quotes of a literal. -/
def escape (v : List Char) : List Char := v.flatMap fun c => if c = '\'' then ['\'', '\''] else [c]

theorem escape_cons (c : Char) (v : List Char) :
    escape (c :: v) = (if c = '\'' then ['\'', '\''] else [c]) ++ escape v := rfl

theorem escape_of_not_mem {v : List Char} (h : '\'' ∉ v) : escape v = v := by
  induction v with
  | nil => rfl
  | cons c v ih =>
    have hc : c ≠ '\'' := fun heq => h (heq ▸ List.mem_cons_self)
    have hv : '\'' ∉ v := fun hmem => h (List.mem_cons_of_mem _ hmem)
    rw [escape_cons, if_neg hc, ih hv, List.singleton_append]

/-- Inside a literal an escaped value adds itself, and does not leave the literal. -/
theorem scan_escape (acc v : List Char) :
    (literal acc).scan (escape v) = (.literal (acc ++ v), []) := by
  induction v generalizing acc with
  | nil => simp [escape, scan]
  | cons c v ih =>
    rw [escape_cons]
    by_cases hc : c = '\''
    · subst hc
      simp [scan_cons, step, ih]
    · rw [if_neg hc, List.singleton_append, scan_cons]
      simp [step, hc, ih]

theorem Lexes.literal {pre acc post : List Char} {ts us : List Token}
    (hpre : start.scan pre = (.literal acc, ts)) (v : List Char)
    (hpost : Lexes post us) (hquote : post.head? ≠ some '\'') :
    Lexes (pre ++ (escape v ++ '\'' :: post)) (ts ++ .literal (String.ofList (acc ++ v)) :: us) := by
  have hclose : start.scan (pre ++ (escape v ++ '\'' :: post)) =
      (((literalQuote (acc ++ v)).scan post).1, ts ++ ((literalQuote (acc ++ v)).scan post).2) := by
    rw [scan_append, hpre, scan_append, scan_escape, scan_cons]
    simp [step]
  rcases post with _ | ⟨c, post⟩
  · have hus : us = [] := by rw [← hpost.tokens]; rfl
    subst hus
    exact ⟨by rw [hclose]; rfl, by rw [hclose]; simp [scan, finish]⟩
  · have hc : c ≠ '\'' := fun heq => hquote (by rw [heq]; rfl)
    have hnext : (literalQuote (acc ++ v)).scan (c :: post) =
        ((start.scan (c :: post)).1,
          .literal (String.ofList (acc ++ v)) :: (start.scan (c :: post)).2) := by
      rw [scan_cons, scan_cons start]
      simp [step, hc, next, finish]
    refine ⟨?_, ?_⟩
    · rw [hclose, hnext]
      exact hpost.outside
    · rw [hclose, hnext, List.append_assoc, List.cons_append, hpost.tokens]

/-- The text of a literal. -/
def quoted (v : String) : String := "'" ++ String.ofList (escape v.toList) ++ "'"

/-! ### Numerals -/

theorem scan_number {ds : List Char} (h : ds.all Char.isDigit = true) (acc : List Char) :
    (number acc).scan ds = (.number (acc ++ ds), []) := by
  induction ds generalizing acc with
  | nil => simp [scan]
  | cons d ds ih =>
    obtain ⟨hd, hds⟩ := Bool.and_eq_true_iff.mp (List.all_cons ▸ h)
    rw [scan_cons]
    simp [step, hd, ih hds]

theorem enter_digit {d : Char} (h : d.isDigit = true) : enter d = (.number [d], []) := by
  have hblank : isBlank d = false := by
    simp only [isBlank, Bool.or_eq_false_iff, decide_eq_false_iff_not]
    refine ⟨⟨⟨?_, ?_⟩, ?_⟩, ?_⟩ <;> rintro rfl <;> revert h <;> decide
  simp [enter, hblank, h]

theorem Lexes.number {pre ds : List Char} {ts : List Token}
    (hpre : start.scan pre = (.start, ts)) (hne : ds ≠ []) (h : ds.all Char.isDigit = true) :
    Lexes (pre ++ ds) (ts ++ [.number (String.ofList ds)]) := by
  obtain ⟨d, ds, rfl⟩ := List.exists_cons_of_ne_nil hne
  obtain ⟨hd, hds⟩ := Bool.and_eq_true_iff.mp (List.all_cons ▸ h)
  have hscan : start.scan (pre ++ d :: ds) = (.number (d :: ds), ts) := by
    rw [scan_append, hpre, scan_cons]
    simp [step, enter_digit hd, scan_number hds]
  exact ⟨by rw [hscan]; rfl, by rw [hscan]; rfl⟩

end OpenchamiOperator.Lib.Sql
