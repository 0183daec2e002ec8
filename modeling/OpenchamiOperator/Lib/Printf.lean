import OpenchamiOperator.Lib.Strconv

/-! # The function `fmt.Sprintf` for strings

What `doPrintf` writes when every operand is a string: flags, width, precision, explicit argument
indexes and verbs, and the complaints it writes into the text where a directive is wrong.

* `directive_answers`: what a directive can take from the format, and what it can write for it.
* `sprintf_eq_iff`: the text after the one `%s` of a format comes out as it is if and only if it has
  no percent sign. -/

namespace OpenchamiOperator.Lib.Printf

open Strconv

/-! ### Operands -/

/-- The flags and numbers of a directive (`fmt.fmt`), where it stands in the operands, and the
complaints written for it so far. -/
structure Directive where
  sharp : Bool := false
  zero : Bool := false
  plus : Bool := false
  minus : Bool := false
  space : Bool := false
  sharpV : Bool := false
  wid : Option ℕ := none
  prec : Option ℕ := none
  argNum : ℕ
  goodArgNum : Bool := true
  afterIndex : Bool := false
  reordered : Bool
  complaints : List Char := []

section Operands
variable (isPrint : Char → Bool) (p : Directive)

/-- `writePadding` writes zeros only to the left. -/
def padChar : Char := if p.zero && !p.minus then '0' else ' '

/-- `padString`. -/
def pad (s : List Char) : List Char :=
  let padding := List.replicate (p.wid.getD 0 - s.length) (padChar p)
  if p.minus then s ++ padding else padding ++ s

/-- `truncateString`, which counts characters. -/
def truncate (s : List Char) : List Char := s.take (p.prec.getD s.length)

def fmtS (s : List Char) : List Char := pad p (truncate p s)

/-- `strconv.IsPrint` for the characters of ASCII, the table `isPrint` for the others. -/
def printable (c : Char) : Bool :=
  if c.toNat < 128 then 32 ≤ c.toNat && c.toNat < 127 else isPrint c

/-- `strconv.QuoteToASCII` escapes all other characters. -/
def printableASCII (c : Char) : Bool := c.toNat < 128 && printable isPrint c

/-- `strconv.CanBackquote`. -/
def canBackquote (s : List Char) : Bool :=
  s.all fun c =>
    !(c.toNat = 0xfeff || (c.toNat < 32 && c ≠ '\t') || c.toNat = 96 || c.toNat = 127)

def fmtQ (s : List Char) : List Char :=
  let s := truncate p s
  if p.sharp && canBackquote s then pad p (Char.ofNat 96 :: s ++ [Char.ofNat 96])
  else
    let print := if p.plus then printableASCII isPrint else printable isPrint
    pad p ('"' :: s.flatMap (escape print) ++ ['"'])

/-- A digit of `ldigits` or `udigits`. -/
def hexDigit (upper : Bool) (d : ℕ) : Char :=
  if upper then (Nat.digitChar d).toUpper else Nat.digitChar d

/-- `fmtSbx`: two digits for every byte, as many bytes as the precision allows. -/
def fmtSx (upper : Bool) (s : List Char) : List Char :=
  let bytes := (String.ofList s).toUTF8.toList
  let bytes := bytes.take (p.prec.getD bytes.length)
  let lead := if p.sharp then ['0', if upper then 'X' else 'x'] else []
  let digits := bytes.map fun b => [hexDigit upper (b.toNat / 16), hexDigit upper (b.toNat % 16)]
  pad p <|
    -- a blank before every byte but the first
    if p.space then (digits.flatMap fun d => ' ' :: (lead ++ d)).tail
    else if bytes = [] then [] else lead ++ digits.flatten

/-- The operand in a plain or a Go-syntax verb `v`. -/
def fmtV (s : List Char) : List Char := if p.sharpV then fmtQ isPrint p s else fmtS p s

def badVerb (verb : Char) (s : List Char) : List Char :=
  "%!".toList ++ verb :: "(string=".toList ++ fmtV isPrint p s ++ [')']

/-- `printArg` for a string. -/
def printArg (verb : Char) (s : List Char) : List Char :=
  match verb with
  | 'T' => fmtS p "string".toList
  | 's' => fmtS p s
  | 'x' => fmtSx p false s
  | 'X' => fmtSx p true s
  | 'q' => fmtQ isPrint p s
  | 'v' => fmtV isPrint { p with sharpV := p.sharp, sharp := false, plus := false } s
  | 'w' => badVerb isPrint { p with sharpV := p.sharp, sharp := false, plus := false } 'w' s
  | verb => badVerb isPrint p verb s

end Operands

/-! ### Directives -/

/-- `parsenum`: the number at the front of a text. One that is too large ends the format. -/
def parsenum (num : Option ℕ) : List Char → Option ℕ × List Char
  | [] => (num, [])
  | c :: s =>
    if c.isDigit then
      if 1000000 < num.getD 0 then (none, [])
      else parsenum (some (10 * num.getD 0 + (c.toNat - 48))) s
    else (num, c :: s)

/-- `parseArgNumber`, after the opening bracket: the number, if one stands between the brackets,
and the text after the bracket that was read last. -/
def parseArgNumber (s : List Char) : Option ℕ × List Char :=
  if 2 ≤ s.length ∧ ']' ∈ s then
    let inside := s.takeWhile (· ≠ ']')
    let rest := s.drop (inside.length + 1)
    match parsenum none inside with
    | (some n, []) => (some n, rest)
    | _ => (none, rest)
  else (none, s)

section Directives
variable (isPrint : Char → Bool) (args : List String)

/-- `argNumber`. -/
def argNumber (p : Directive) : List Char → Directive × List Char
  | '[' :: s =>
    let p := { p with reordered := true }
    match parseArgNumber s with
    | (some n, rest) =>
      if 1 ≤ n ∧ n ≤ args.length then ({ p with argNum := n - 1, afterIndex := true }, rest)
      else ({ p with goodArgNum := false, afterIndex := true }, rest)
    | (none, rest) => ({ p with goodArgNum := false, afterIndex := false }, rest)
  | s => ({ p with afterIndex := false }, s)

def flags (p : Directive) : List Char → Directive × List Char
  | '#' :: s => flags { p with sharp := true } s
  | '0' :: s => flags { p with zero := true } s
  | '+' :: s => flags { p with plus := true } s
  | '-' :: s => flags { p with minus := true } s
  | ' ' :: s => flags { p with space := true } s
  | s => (p, s)

/-- `intFromArg`: a string is no number, but it is used up. -/
def skipArg (argNum : ℕ) : ℕ := if argNum < args.length then argNum + 1 else argNum

def width (p : Directive) : List Char → Directive × List Char
  | '*' :: s =>
    ({ p with argNum := skipArg args p.argNum, afterIndex := false
              complaints := p.complaints ++ "%!(BADWIDTH)".toList }, s)
  | s =>
    let (wid, rest) := parsenum none s
    ({ p with wid, goodArgNum := p.goodArgNum && !(p.afterIndex && wid.isSome) }, rest)

def precision (p : Directive) : List Char → Directive × List Char
  | '.' :: s =>
    let p := { p with goodArgNum := p.goodArgNum && !p.afterIndex }
    match argNumber args p s with
    | (p, '*' :: s) =>
      ({ p with argNum := skipArg args p.argNum, afterIndex := false
                complaints := p.complaints ++ "%!(BADPREC)".toList }, s)
    | (p, s) =>
      let (prec, rest) := parsenum none s
      ({ p with prec := some (prec.getD 0) }, rest)
  | s => (p, s)

/-- The argument index right before the verb. -/
def lastIndex (p : Directive) (s : List Char) : Directive × List Char :=
  if p.afterIndex then (p, s) else argNumber args p s

/-- What carries over from one directive to the next. -/
structure State where
  argNum : ℕ := 0
  reordered : Bool := false

/-- What the verb writes, and what it leaves behind. -/
def finish (p : Directive) : List Char → State × List Char × List Char
  | [] => (⟨p.argNum, p.reordered⟩, p.complaints ++ "%!(NOVERB)".toList, [])
  | verb :: rest =>
    if verb = '%' then (⟨p.argNum, p.reordered⟩, p.complaints ++ ['%'], rest)
    else if !p.goodArgNum then
      (⟨p.argNum, p.reordered⟩,
        p.complaints ++ ("%!".toList ++ verb :: "(BADINDEX)".toList), rest)
    else
      match args[p.argNum]? with
      | none =>
        (⟨p.argNum, p.reordered⟩,
          p.complaints ++ ("%!".toList ++ verb :: "(MISSING)".toList), rest)
      | some arg =>
        (⟨p.argNum + 1, p.reordered⟩, p.complaints ++ printArg isPrint p verb arg.toList, rest)

/-- One directive, from the character after its percent sign on. -/
def directive (st : State) (s : List Char) : State × List Char × List Char :=
  let (p, s) := flags { argNum := st.argNum, reordered := st.reordered } s
  let (p, s) := argNumber args p s
  let (p, s) := width args p s
  let (p, s) := precision args p s
  let (p, s) := lastIndex args p s
  finish isPrint args p s

/-- The loop of `doPrintf`. The number bounds the length of the format. -/
def doPrintf : ℕ → State → List Char → State × List Char
  | n + 1, st, c :: s =>
    if c = '%' then
      let (st, out, rest) := directive isPrint args st s
      let (st, more) := doPrintf n st rest
      (st, out ++ more)
    else
      let (st, more) := doPrintf n st s
      (st, c :: more)
  | _, st, _ => (st, [])

/-- The operands that no directive asked for. -/
def extra (st : State) : List Char :=
  if !st.reordered && st.argNum < args.length then
    "%!(EXTRA ".toList ++
      List.intercalate ", ".toList
        ((args.drop st.argNum).map fun arg => "string=".toList ++ arg.toList) ++ [')']
  else []

/-- `fmt.Sprintf`. -/
def sprintf (format : String) : String :=
  let (st, out) := doPrintf isPrint args format.length {} format.toList
  String.ofList (out ++ extra args st)

end Directives

/-! ### Formats with one verb -/

section Plain
variable {isPrint : Char → Bool} {args : List String} {st : State}

theorem doPrintf_plain_append {a : List Char} (ha : '%' ∉ a) (s : List Char) {n : ℕ}
    (hn : a.length ≤ n) :
    doPrintf isPrint args n st (a ++ s) =
      ((doPrintf isPrint args (n - a.length) st s).1,
        a ++ (doPrintf isPrint args (n - a.length) st s).2) := by
  induction a generalizing n with
  | nil => rfl
  | cons c a ih =>
    obtain ⟨n, rfl⟩ : ∃ k, n = k + 1 := ⟨n - 1, by simp at hn; omega⟩
    have hc : c ≠ '%' := fun h => ha (h ▸ List.mem_cons_self)
    have hlen : a.length ≤ n := by simpa using hn
    rw [List.cons_append, doPrintf, if_neg hc, ih (fun h => ha (List.mem_cons_of_mem _ h)) hlen,
      List.length_cons, Nat.add_sub_add_right]
    rfl

theorem doPrintf_plain {a : List Char} (ha : '%' ∉ a) {n : ℕ} (hn : a.length ≤ n) :
    doPrintf isPrint args n st a = (st, a) := by
  have hnil : ∀ k, doPrintf isPrint args k st [] = (st, []) := by
    rintro (_ | k) <;> rfl
  rw [← List.append_nil a, doPrintf_plain_append ha [] hn, hnil, List.append_nil]

theorem directive_s {arg : String} (harg : args[st.argNum]? = some arg) (rest : List Char) :
    directive isPrint args st ('s' :: rest) =
      (⟨st.argNum + 1, st.reordered⟩, arg.toList, rest) := by
  simp [directive, flags, argNumber, width, parsenum, precision, lastIndex, finish, harg, printArg,
    fmtS, truncate, pad]

end Plain

/-! ### Texts that stand for themselves

Where a text is its own output, the output cannot run ahead of the text or fall behind it. The
operands are kept out of the way by a marker that each of them has before its first percent sign,
and the text has not. -/

section Guarded
variable {m o x y : List Char}

/-- Where an element of two lists put together stands. -/
theorem append_eq_append_cons {α : Type} {x y a b : List α} {c : α} (h : x ++ y = a ++ c :: b) :
    (∃ b', x = a ++ c :: b' ∧ b = b' ++ y) ∨ ∃ a', a = x ++ a' ∧ y = a' ++ c :: b := by
  rcases List.append_eq_append_iff.mp h with ⟨l, ha, hy⟩ | ⟨l, hx, hb⟩
  · exact .inr ⟨l, ha, hy⟩
  · rcases l with _ | ⟨d, l⟩
    · exact .inr ⟨[], by simpa using hx.symm, by simpa using hb.symm⟩
    · obtain ⟨rfl, rfl⟩ := List.cons.inj hb
      exact .inl ⟨l, hx, rfl⟩

/-- The marker stands before every percent sign. -/
def Guarded (m o : List Char) : Prop := ∀ a b, o = a ++ '%' :: b → m <:+: a

theorem guarded_of_not_mem (h : '%' ∉ o) : Guarded m o := by
  rintro a b rfl
  simp at h

theorem Guarded.append_left (h : Guarded m y) (hx : '%' ∉ x) : Guarded m (x ++ y) := by
  intro a b heq
  rcases append_eq_append_cons heq with ⟨b', rfl, -⟩ | ⟨a', rfl, hy⟩
  · simp at hx
  · exact (h a' b hy).trans (List.suffix_append x a').isInfix

theorem Guarded.append_right (h : Guarded m x) (hy : '%' ∉ y) : Guarded m (x ++ y) := by
  intro a b heq
  rcases append_eq_append_cons heq with ⟨b', hx, -⟩ | ⟨a', -, rfl⟩
  · exact h a b' hx
  · simp at hy

theorem guarded_of_marker {pre : List Char} (hpre : '%' ∉ pre ++ m) (post : List Char) :
    Guarded m (pre ++ m ++ post) := by
  intro a b heq
  rcases append_eq_append_cons heq with ⟨b', hx, -⟩ | ⟨a', rfl, -⟩
  · simp [hx] at hpre
  · exact ⟨pre, a', rfl⟩

theorem Guarded.take (h : Guarded m o) (n : ℕ) : Guarded m (o.take n) := by
  intro a b heq
  refine h a (b ++ o.drop n) ?_
  rw [← List.cons_append, ← List.append_assoc, ← heq, List.take_append_drop]

/-- Escaping keeps a marker of characters that need none. -/
theorem Guarded.flatMap (h : Guarded m o) {esc : Char → List Char}
    (hesc : ∀ c, '%' ∈ esc c → c = '%' ∧ esc c = ['%']) (hm : m.flatMap esc = m) :
    Guarded m (o.flatMap esc) := by
  -- a percent sign in the output comes from one in the text
  have hsplit : ∀ (o a b : List Char), o.flatMap esc = a ++ '%' :: b →
      ∃ x y, o = x ++ '%' :: y ∧ a = x.flatMap esc := by
    intro o
    induction o with
    | nil => intro a b heq; simp at heq
    | cons c o ih =>
      intro a b heq
      rw [List.flatMap_cons] at heq
      rcases append_eq_append_cons heq with ⟨b', hc, -⟩ | ⟨a', rfl, ho⟩
      · obtain ⟨rfl, hself⟩ := hesc c (by rw [hc]; simp)
        have ha : a = [] := by
          rcases a with _ | ⟨d, a⟩
          · rfl
          · rw [hself] at hc
            simp at hc
        exact ⟨[], o, rfl, by simp [ha]⟩
      · obtain ⟨x, y, rfl, rfl⟩ := ih a' b ho
        exact ⟨c :: x, y, rfl, by simp⟩
  intro a b heq
  obtain ⟨x, y, rfl, rfl⟩ := hsplit o a b heq
  obtain ⟨u, v, rfl⟩ := h x y rfl
  exact ⟨u.flatMap esc, v.flatMap esc, by simp [hm]⟩

end Guarded

section Printed
variable {m o : List Char} {isPrint : Char → Bool} {p : Directive}

/-- The characters a marker can have, which no verb escapes. -/
def Marker (m : List Char) : Prop :=
  ∀ c ∈ m, c ≠ '%' ∧ c ≠ '"' ∧ c ≠ '\\' ∧ 32 ≤ c.toNat ∧ c.toNat < 127

theorem percent_not_mem_hexDigits : ∀ width n, '%' ∉ hexDigits width n
  | 0, _ => by simp [hexDigits]
  | width + 1, n => by
    have hdigit : ∀ d < 16, Nat.digitChar d ≠ '%' := by decide
    have := hdigit (n % 16) (Nat.mod_lt _ (by decide))
    simp [hexDigits, percent_not_mem_hexDigits width, this.symm]

theorem percent_mem_escape {print : Char → Bool}
    (hprint : ∀ c, 32 ≤ c.toNat → c.toNat < 127 → print c = true) {c : Char}
    (h : '%' ∈ escape print c) : c = '%' ∧ escape print c = ['%'] := by
  by_cases hc : c = '%'
  · subst hc
    exact ⟨rfl, by simp [escape, hprint '%' (by decide) (by decide)]⟩
  · exfalso
    unfold escape at h
    split at h
    · simp [Ne.symm hc] at h
    split at h
    · simp [Ne.symm hc] at h
    split at h
    next l hl =>
      have : l ≠ '%' := by
        rintro rfl
        unfold letter? at hl
        split at hl <;> cases hl
      simp [this.symm] at h
    next =>
      split at h
      · simp [percent_not_mem_hexDigits] at h
      split at h
      · simp [percent_not_mem_hexDigits] at h
      · simp [percent_not_mem_hexDigits] at h

theorem Marker.flatMap_escape (hm : Marker m) {print : Char → Bool}
    (hprint : ∀ c, 32 ≤ c.toNat → c.toNat < 127 → print c = true) :
    m.flatMap (escape print) = m := by
  induction m with
  | nil => rfl
  | cons c m ih =>
    obtain ⟨-, hquote, hslash, hlow, hhigh⟩ := hm c List.mem_cons_self
    have hc : escape print c = [c] := by simp [escape, hquote, hslash, hprint c hlow hhigh]
    rw [List.flatMap_cons, hc, ih fun d hd => hm d (List.mem_cons_of_mem _ hd)]
    rfl

theorem Guarded.pad (h : Guarded m o) : Guarded m (pad p o) := by
  have hpad : ∀ k, '%' ∉ List.replicate k (padChar p) := by
    intro k hmem
    have := (List.mem_replicate.mp hmem).2
    unfold padChar at this
    split at this <;> cases this
  unfold Printf.pad
  simp only
  split
  · exact h.append_right (hpad _)
  · exact h.append_left (hpad _)

theorem Guarded.fmtS (h : Guarded m o) : Guarded m (fmtS p o) := (h.take _).pad

theorem Guarded.fmtQ (hm : Marker m) (h : Guarded m o) : Guarded m (fmtQ isPrint p o) := by
  unfold Printf.fmtQ
  simp only
  split
  · exact ((h.take _).append_left (x := [Char.ofNat 96]) (by decide)).append_right
      (y := [Char.ofNat 96]) (by decide) |>.pad
  · have hprint : ∀ c, 32 ≤ c.toNat → c.toNat < 127 →
        (if p.plus then printableASCII isPrint else printable isPrint) c = true := by
      intro c hlow hhigh
      have hASCII : c.toNat < 128 := by omega
      split <;> simp [printableASCII, printable, hASCII, hlow, hhigh]
    have hbody := (h.take (p.prec.getD o.length)).flatMap
      (fun c => percent_mem_escape hprint) (hm.flatMap_escape hprint)
    exact ((hbody.append_left (x := ['"']) (by decide)).append_right (y := ['"']) (by decide)).pad

theorem percent_not_mem_hexDigit (upper : Bool) (b : UInt8) :
    '%' ∉ [hexDigit upper (b.toNat / 16), hexDigit upper (b.toNat % 16)] := by
  have hdigit : ∀ upper, ∀ d < 16, hexDigit upper d ≠ '%' := by decide
  have hlow := hdigit upper (b.toNat % 16) (Nat.mod_lt _ (by decide))
  have hhigh := hdigit upper (b.toNat / 16) (by have := b.toNat_lt; omega)
  simp [hlow.symm, hhigh.symm]

theorem guarded_fmtSx (upper : Bool) : Guarded m (fmtSx p upper o) := by
  refine Guarded.pad (guarded_of_not_mem ?_)
  have hlead : '%' ∉ (if p.sharp then ['0', if upper then 'X' else 'x'] else []) := by
    cases upper <;> cases p.sharp <;> decide
  have hdigits : ∀ bytes : List UInt8, ∀ ds ∈ bytes.map
      (fun b => [hexDigit upper (b.toNat / 16), hexDigit upper (b.toNat % 16)]), '%' ∉ ds := by
    intro bytes ds hds
    obtain ⟨b, -, rfl⟩ := List.mem_map.mp hds
    exact percent_not_mem_hexDigit upper b
  split
  · intro hmem
    obtain ⟨ds, hds, hin⟩ := List.mem_flatMap.mp (List.mem_of_mem_tail hmem)
    rcases List.mem_cons.mp hin with h | h
    · cases h
    rcases List.mem_append.mp h with h | h
    · exact hlead h
    · exact hdigits _ ds hds h
  split
  · simp
  · intro hmem
    rcases List.mem_append.mp hmem with h | h
    · exact hlead h
    · obtain ⟨ds, hds, hin⟩ := List.mem_flatten.mp h
      exact hdigits _ ds hds hin

theorem Guarded.fmtV (hm : Marker m) (h : Guarded m o) : Guarded m (fmtV isPrint p o) := by
  unfold Printf.fmtV
  split
  · exact h.fmtQ hm
  · exact h.fmtS

/-! ### The outputs of directives -/

/-- Every percent sign is that of a complaint, or comes after the marker. -/
def Complains (m o : List Char) : Prop :=
  ∀ a b, o = a ++ '%' :: b → b.head? = some '!' ∨ m <:+: a

theorem Guarded.complains (h : Guarded m o) : Complains m o := fun a b heq => .inr (h a b heq)

theorem Complains.append {o' : List Char} (h : Complains m o) (h' : Complains m o') :
    Complains m (o ++ o') := by
  intro a b heq
  rcases append_eq_append_cons heq with ⟨b', ho, rfl⟩ | ⟨a', rfl, ho⟩
  · refine (h a b' ho).imp_left fun hb => ?_
    rw [List.head?_append, hb]
    rfl
  · exact (h' a' b ho).imp_right fun hm => hm.trans (List.suffix_append o a').isInfix

theorem complains_bang (h : '%' ∉ o) : Complains m ("%!".toList ++ o) := by
  intro a b (heq : '%' :: '!' :: o = a ++ '%' :: b)
  rcases a with _ | ⟨c, a⟩
  · obtain ⟨-, rfl⟩ := List.cons.inj heq
    exact .inl rfl
  · have hmem : '%' ∈ '!' :: o := by
      rw [(List.cons.inj heq).2]
      simp
    rcases List.mem_cons.mp hmem with h' | h'
    · cases h'
    · exact absurd h' h

theorem complains_badVerb (hm : Marker m) (h : Guarded m o) {verb : Char} (hverb : verb ≠ '%') :
    Complains m (badVerb isPrint p verb o) := by
  have hhead : Complains m ("%!".toList ++ verb :: "(string=".toList) :=
    complains_bang (by simp [hverb.symm])
  have htail : Guarded m (fmtV isPrint p o ++ [')']) := (h.fmtV hm).append_right (by simp)
  have := hhead.append htail.complains
  simpa [badVerb] using this

theorem complains_printArg (hm : Marker m) (h : Guarded m o) {verb : Char} (hverb : verb ≠ '%') :
    Complains m (printArg isPrint p verb o) := by
  unfold printArg
  split
  · exact (guarded_of_not_mem (by decide)).fmtS.complains
  · exact h.fmtS.complains
  · exact (guarded_fmtSx _).complains
  · exact (guarded_fmtSx _).complains
  · exact (h.fmtQ hm).complains
  · exact (h.fmtV hm).complains
  · exact complains_badVerb hm h (by decide)
  · exact complains_badVerb hm h hverb

end Printed

section Stages
variable {m : List Char} {isPrint : Char → Bool} {args : List String} {p : Directive}

/-- No operand is left, or the operands were asked for out of order: nothing is extra. -/
def Used (args : List String) (argNum : ℕ) (reordered : Bool) : Prop :=
  reordered = true ∨ args.length ≤ argNum

/-- What every stage in reading a directive keeps. -/
structure Keeps (m : List Char) (args : List String) (p : Directive) (s : List Char)
    (r : Directive × List Char) : Prop where
  suffix : r.2 <:+ s
  complains : Complains m p.complaints → Complains m r.1.complaints
  used : Used args p.argNum p.reordered → Used args r.1.argNum r.1.reordered

theorem Keeps.trans {s : List Char} {r t : Directive × List Char} (h : Keeps m args p s r)
    (h' : Keeps m args r.1 r.2 t) : Keeps m args p s t :=
  ⟨h'.suffix.trans h.suffix, fun hp => h'.complains (h.complains hp), fun hp => h'.used (h.used hp)⟩

theorem suffix_parsenum (num : Option ℕ) (s : List Char) : (parsenum num s).2 <:+ s := by
  fun_induction parsenum num s with
  | case1 num => exact List.suffix_rfl
  | case2 num c s hdigit hlarge => exact List.nil_suffix
  | case3 num c s hdigit hlarge ih => exact ih.trans (List.suffix_cons c s)
  | case4 num c s hdigit => exact List.suffix_rfl

theorem suffix_parseArgNumber (s : List Char) : (parseArgNumber s).2 <:+ s := by
  unfold parseArgNumber
  split
  · simp only
    split <;> exact List.drop_suffix _ _
  · exact List.suffix_rfl

theorem keeps_flags (s : List Char) : Keeps m args p s (flags p s) := by
  fun_induction flags p s with
  | case6 => exact ⟨List.suffix_rfl, id, id⟩
  | _ p s ih => exact ⟨ih.suffix.trans (List.suffix_cons _ s), ih.complains, ih.used⟩

theorem keeps_argNumber (s : List Char) : Keeps m args p s (argNumber args p s) := by
  unfold argNumber
  split
  next s =>
    have hsuffix := (suffix_parseArgNumber s).trans (List.suffix_cons '[' s)
    rcases hparse : parseArgNumber s with ⟨_ | n, rest⟩
    all_goals
      rw [hparse] at hsuffix
      simp only
    · exact ⟨hsuffix, id, fun _ => .inl rfl⟩
    · split
      · exact ⟨hsuffix, id, fun _ => .inl rfl⟩
      · exact ⟨hsuffix, id, fun _ => .inl rfl⟩
  next => exact ⟨List.suffix_rfl, id, id⟩

theorem Used.skipArg {argNum : ℕ} {reordered : Bool} (h : Used args argNum reordered) :
    Used args (skipArg args argNum) reordered := by
  refine h.imp_right fun hle => ?_
  unfold Printf.skipArg
  split <;> omega

theorem keeps_width (s : List Char) : Keeps m args p s (width args p s) := by
  unfold width
  split
  next s =>
    exact ⟨List.suffix_cons '*' s, fun h => h.append (complains_bang (by decide)),
      fun h => h.skipArg⟩
  next => exact ⟨suffix_parsenum none _, id, id⟩

theorem keeps_precision (s : List Char) : Keeps m args p s (precision args p s) := by
  unfold precision
  split
  next s =>
    have hindex : Keeps m args { p with goodArgNum := p.goodArgNum && !p.afterIndex } s
      (argNumber args { p with goodArgNum := p.goodArgNum && !p.afterIndex } s) :=
        keeps_argNumber s
    simp only
    split
    next q t heq =>
      rw [heq] at hindex
      exact ⟨(List.suffix_cons '*' t).trans (hindex.suffix.trans (List.suffix_cons '.' s)),
        fun h => (hindex.complains h).append (complains_bang (by decide)),
        fun h => (hindex.used h).skipArg⟩
    next q t _ heq =>
      rw [heq] at hindex
      exact ⟨(suffix_parsenum none t).trans (hindex.suffix.trans (List.suffix_cons '.' s)),
        hindex.complains, hindex.used⟩
  next => exact ⟨List.suffix_rfl, id, id⟩

theorem keeps_lastIndex (s : List Char) : Keeps m args p s (lastIndex args p s) := by
  unfold lastIndex
  split
  · exact ⟨List.suffix_rfl, id, id⟩
  · exact keeps_argNumber s

/-- What the last stage writes and leaves. -/
theorem finish_cases (hm : Marker m) (hargs : ∀ arg ∈ args, Guarded m arg.toList)
    (hp : Complains m p.complaints) (s : List Char) :
    (s = [] ∨ ∃ verb, s = verb :: (finish isPrint args p s).2.2) ∧
    (Complains m (finish isPrint args p s).2.1 ∨
      (finish isPrint args p s).2.1 = p.complaints ++ ['%']) ∧
    (Used args p.argNum p.reordered →
      Used args (finish isPrint args p s).1.argNum (finish isPrint args p s).1.reordered) := by
  rcases s with _ | ⟨verb, rest⟩
  · exact ⟨.inl rfl, .inl (hp.append (complains_bang (by decide))), id⟩
  unfold finish
  by_cases hpercent : verb = '%'
  · simp only [if_pos hpercent]
    exact ⟨.inr ⟨verb, rfl⟩, .inr trivial, id⟩
  have hcomplaint : ∀ text : List Char, '%' ∉ text →
      Complains m (p.complaints ++ ("%!".toList ++ verb :: text)) := by
    intro text htext
    exact hp.append (complains_bang (by simp [Ne.symm hpercent, htext]))
  simp only [if_neg hpercent]
  split
  · exact ⟨.inr ⟨verb, rfl⟩, .inl (hcomplaint _ (by decide)), id⟩
  rcases harg : args[p.argNum]? with _ | arg
  · exact ⟨.inr ⟨verb, rfl⟩, .inl (hcomplaint _ (by decide)), id⟩
  · have hmem : arg ∈ args := List.mem_of_getElem? harg
    exact ⟨.inr ⟨verb, rfl⟩,
      .inl (hp.append (complains_printArg hm (hargs arg hmem) hpercent)),
      fun hused => hused.imp_right fun hle => Nat.le_succ_of_le hle⟩

theorem directive_bang (st : State) (s : List Char) :
    (directive isPrint args st ('!' :: s)).2 =
      (match args[st.argNum]? with
        | none => "%!!(MISSING)".toList
        | some arg =>
          badVerb isPrint { argNum := st.argNum, reordered := st.reordered } '!' arg.toList, s) := by
  rcases harg : args[st.argNum]? with _ | arg
  all_goals
    simp [directive, flags, argNumber, width, parsenum, precision, lastIndex, finish, harg, printArg]

/-- What can be said of the output `out` of the directive that is `src` after its percent sign. -/
structure Answers (m src out : List Char) : Prop where
  nonempty : src ≠ []
  percent : ∀ a b, out = a ++ '%' :: b → b = [] ∨ b.head? = some '!' ∨ m <:+: a
  bang : src.head? = some '!' → src = ['!'] ∧ 2 < out.length ∧
    ∀ a b, out = a ++ '%' :: b → a = [] ∨ m <:+: a

theorem answers_bang (hm : Marker m) (hargs : ∀ arg ∈ args, Guarded m arg.toList) (st : State)
    (s : List Char) :
    2 < (directive isPrint args st ('!' :: s)).2.1.length ∧
      ∀ a b, (directive isPrint args st ('!' :: s)).2.1 = a ++ '%' :: b → a = [] ∨ m <:+: a := by
  -- the percent sign in front is followed by a guarded text
  have hguarded : ∀ text : List Char, Guarded m text →
      ∀ a b, '%' :: text = a ++ '%' :: b → a = [] ∨ m <:+: a := by
    rintro text htext (_ | ⟨c, a⟩) b heq
    · exact .inl rfl
    · exact .inr ((htext a b (List.cons.inj heq).2).trans (List.suffix_cons c a).isInfix)
  rw [directive_bang]
  rcases harg : args[st.argNum]? with _ | arg
  · have hlen : 2 < "%!!(MISSING)".toList.length := by decide
    exact ⟨hlen, hguarded "!!(MISSING)".toList (guarded_of_not_mem (by decide))⟩
  · have hin := hargs arg (List.mem_of_getElem? harg)
    have htext : Guarded m ("!!(string=".toList ++
        (fmtV isPrint { argNum := st.argNum, reordered := st.reordered } arg.toList ++ [')'])) :=
      ((hin.fmtV hm).append_right (by simp)).append_left (by decide)
    exact ⟨by simp [badVerb], fun a b heq => hguarded _ htext a b (by simpa [badVerb] using heq)⟩

/-- **One directive**, of a text that goes on after its percent sign. -/
theorem directive_answers (hm : Marker m) (hargs : ∀ arg ∈ args, Guarded m arg.toList) (st : State)
    {s : List Char} (hs : s ≠ []) :
    ∃ src, s = src ++ (directive isPrint args st s).2.2 ∧
      Answers m src (directive isPrint args st s).2.1 ∧
      (Used args st.argNum st.reordered → Used args (directive isPrint args st s).1.argNum
        (directive isPrint args st s).1.reordered) := by
  obtain ⟨r, hr, hkeeps⟩ : ∃ r : Directive × List Char,
      directive isPrint args st s = finish isPrint args r.1 r.2 ∧
        Keeps m args { argNum := st.argNum, reordered := st.reordered } s r :=
    ⟨_, rfl, (keeps_flags s).trans <| (keeps_argNumber _).trans <| (keeps_width _).trans <|
      (keeps_precision _).trans (keeps_lastIndex _)⟩
  have hnone : Complains m [] := (guarded_of_not_mem (by simp)).complains
  obtain ⟨hrest, hout, hused⟩ := finish_cases hm hargs (hkeeps.complains hnone) r.2
  rw [← hr] at hrest hout hused
  obtain ⟨pre, hpre⟩ := hkeeps.suffix
  -- the directive takes at least one character
  obtain ⟨src, hsrc, hne⟩ : ∃ src, s = src ++ (directive isPrint args st s).2.2 ∧ src ≠ [] := by
    rcases hrest with hnil | ⟨verb, hverb⟩
    · refine ⟨s, ?_, hs⟩
      rw [hr, hnil]
      simp [finish]
    · rw [hverb] at hpre
      exact ⟨pre ++ [verb], by simpa using hpre.symm, by simp⟩
  refine ⟨src, hsrc, ⟨hne, ?_, ?_⟩, fun h => hused (hkeeps.used h)⟩
  · intro a b heq
    rcases hout with hcomplains | hpercent
    · exact .inr (hcomplains a b heq)
    · rw [hpercent] at heq
      rcases append_eq_append_cons heq with ⟨b', hin, rfl⟩ | ⟨a', rfl, hlast⟩
      · refine .inr ((hkeeps.complains hnone a b' hin).imp_left fun hb => ?_)
        rw [List.head?_append, hb]
        rfl
      · rcases a' with _ | ⟨c, a'⟩
        · exact .inl (List.cons.inj hlast).2.symm
        · simp at hlast
  · intro hbang
    obtain ⟨c, src, rfl⟩ := List.exists_cons_of_ne_nil hne
    obtain rfl : c = '!' := by simpa using hbang
    rw [List.cons_append] at hsrc
    obtain ⟨hlen, hguarded⟩ := answers_bang hm hargs st (src ++ (directive isPrint args st s).2.2)
    have hleft : (directive isPrint args st ('!' :: (src ++ (directive isPrint args st s).2.2))).2.2 =
        src ++ (directive isPrint args st s).2.2 := congrArg Prod.snd (directive_bang st _)
    rw [← hsrc] at hlen hguarded hleft
    refine ⟨?_, hlen, hguarded⟩
    have : src = [] := by simpa using congrArg List.length hleft
    rw [this]

end Stages

section Pieces
variable {m : List Char} {isPrint : Char → Bool} {args : List String}

/-- A part of a format, and what is written for it. -/
structure Piece where
  src : List Char
  out : List Char

inductive Piece.Good (m : List Char) : Piece → Prop
  | plain {c : Char} (hc : c ≠ '%') : Good m ⟨[c], [c]⟩
  | directive {src out : List Char} (h : Answers m src out) : Good m ⟨'%' :: src, out⟩

/-- The loop goes through a format piece by piece. -/
theorem doPrintf_pieces (hm : Marker m) (hargs : ∀ arg ∈ args, Guarded m arg.toList) {n : ℕ}
    {st : State} {s : List Char} (hn : s.length ≤ n) (hlast : s.getLast? ≠ some '%') :
    ∃ ps : List Piece, s = ps.flatMap Piece.src ∧
      (doPrintf isPrint args n st s).2 = ps.flatMap Piece.out ∧ (∀ p ∈ ps, p.Good m) ∧
      (Used args st.argNum st.reordered → Used args (doPrintf isPrint args n st s).1.argNum
        (doPrintf isPrint args n st s).1.reordered) := by
  induction n generalizing st s with
  | zero =>
    obtain rfl : s = [] := List.length_eq_zero_iff.mp (by omega)
    exact ⟨[], rfl, rfl, by simp, id⟩
  | succ n ih =>
    rcases s with _ | ⟨c, s⟩
    · exact ⟨[], rfl, rfl, by simp, id⟩
    have hlen : s.length ≤ n := by simpa using hn
    have hlater : ∀ t, t <:+ s → t.getLast? ≠ some '%' := by
      rintro t ⟨u, rfl⟩ ht
      refine hlast ?_
      rw [← List.cons_append, List.getLast?_append, ht]
      rfl
    by_cases hc : c = '%'
    · subst hc
      have hs : s ≠ [] := by
        rintro rfl
        exact hlast rfl
      obtain ⟨src, hsrc, hanswers, hused⟩ := @directive_answers m isPrint args hm hargs st s hs
      have hsuffix : (directive isPrint args st s).2.2 <:+ s := ⟨src, hsrc.symm⟩
      obtain ⟨ps, hps, hout, hgood, hmore⟩ :=
        @ih (directive isPrint args st s).1 _ (hsuffix.length_le.trans hlen) (hlater _ hsuffix)
      refine ⟨⟨'%' :: src, (directive isPrint args st s).2.1⟩ :: ps, ?_, ?_, ?_, ?_⟩
      · rw [List.flatMap_cons, ← hps, List.cons_append, ← hsrc]
      · rw [doPrintf, if_pos rfl, List.flatMap_cons, ← hout]
      · exact List.forall_mem_cons.mpr ⟨.directive hanswers, hgood⟩
      · rw [doPrintf, if_pos rfl]
        exact fun h => hmore (hused h)
    · obtain ⟨ps, hps, hout, hgood, hmore⟩ := @ih st s hlen (hlater s List.suffix_rfl)
      refine ⟨⟨[c], [c]⟩ :: ps, ?_, ?_, ?_, ?_⟩
      · rw [List.flatMap_cons, ← hps, List.singleton_append]
      · rw [doPrintf, if_neg hc, List.flatMap_cons, ← hout, List.singleton_append]
      · exact List.forall_mem_cons.mpr ⟨.plain hc, hgood⟩
      · rw [doPrintf, if_neg hc]
        exact hmore

/-- Pieces whose output is their text, and then some `t` that either is nothing or has a percent
sign before which the marker has not occurred, are characters that stand for themselves.

The induction is on the last piece. If its output is shorter than what has to be matched, the
pieces before it are again followed by a text that starts with a percent sign. If not, its own
percent sign stands in its output, where there are only complaints. -/
theorem pieces_plain {ps : List Piece} (hgood : ∀ p ∈ ps, p.Good m) {t : List Char}
    (heq : ps.flatMap Piece.out = ps.flatMap Piece.src ++ t)
    (hfree : ¬ m <:+: ps.flatMap Piece.src)
    (ht : t = [] ∨ ∃ x y, t = x ++ '%' :: y ∧ ¬ m <:+: ps.flatMap Piece.src ++ x) :
    t = [] ∧ '%' ∉ ps.flatMap Piece.src := by
  induction ps using List.reverseRecOn generalizing t with
  | nil => exact ⟨by simpa using heq.symm, by simp⟩
  | append_singleton ps p ih =>
    have hps : ∀ q ∈ ps, q.Good m := fun q hq => hgood q (List.mem_append_left _ hq)
    have hp : p.Good m := hgood p (by simp)
    simp only [List.flatMap_append, List.flatMap_singleton] at heq hfree ht ⊢
    have hbefore : ¬ m <:+: ps.flatMap Piece.src :=
      fun h => hfree (h.trans (List.prefix_append _ _).isInfix)
    cases hp with
    | plain hc =>
      rename_i c
      rcases ht with rfl | ⟨x, y, rfl, hx⟩
      · have hcancel : ps.flatMap Piece.out = ps.flatMap Piece.src ++ [] := by
          simpa using heq
        obtain ⟨-, hnone⟩ := ih hps hcancel hbefore (.inl rfl)
        exact ⟨rfl, by simp [hnone, Ne.symm hc]⟩
      · exfalso
        rcases y.eq_nil_or_concat with rfl | ⟨y, d, rfl⟩
        · have hlast : ps.flatMap Piece.out ++ [c] = (ps.flatMap Piece.src ++ c :: x) ++ ['%'] := by
            simpa using heq
          exact hc (List.cons.inj (List.append_inj' hlast rfl).2).1
        · have hmoved : ps.flatMap Piece.out = ps.flatMap Piece.src ++ ((c :: x) ++ '%' :: y) := by
            have hd : ps.flatMap Piece.out ++ [c] =
                (ps.flatMap Piece.src ++ ((c :: x) ++ '%' :: y)) ++ [d] := by
              simpa using heq
            exact (List.append_inj' hd rfl).1
          have hnil := (ih hps hmoved hbefore
            (.inr ⟨c :: x, y, rfl, by simpa using hx⟩)).1
          cases hnil
    | directive h =>
      rename_i src out
      exfalso
      have hall : ps.flatMap Piece.out ++ out = ps.flatMap Piece.src ++ ('%' :: (src ++ t)) := by
        simpa using heq
      -- the case where the output reaches back to the percent sign of the directive
      have hreach : ∀ a, a <:+: ps.flatMap Piece.src → out = a ++ '%' :: (src ++ t) → False := by
        intro a ha hout
        have hmarker : ¬ m <:+: a := fun hin => hbefore (hin.trans ha)
        obtain ⟨c, src, rfl⟩ := List.exists_cons_of_ne_nil h.nonempty
        rcases h.percent a _ hout with hnil | hbang | hin
        · cases hnil
        · obtain ⟨hsrc, hlen, hguarded⟩ := h.bang (by simpa using hbang)
          rw [hsrc] at hout ht
          obtain rfl : a = [] := (hguarded a _ hout).resolve_right hmarker
          rcases ht with rfl | ⟨x, y, rfl, hx⟩
          · rw [hout] at hlen
            simp at hlen
          · have hsecond : out = ('%' :: '!' :: x) ++ '%' :: y := by simpa using hout
            rcases hguarded _ _ hsecond with hnil | hin
            · cases hnil
            · refine hx (hin.trans ?_)
              exact ⟨ps.flatMap Piece.src, [], by simp⟩
        · exact hmarker hin
      rcases List.append_eq_append_iff.mp hall with ⟨a, hsrc, hout⟩ | ⟨b, hps', hb⟩
      · exact hreach a (by rw [hsrc]; exact (List.suffix_append _ _).isInfix) hout
      · rcases b with _ | ⟨d, b⟩
        · exact hreach [] List.nil_infix (by simpa using hb.symm)
        · obtain ⟨rfl, -⟩ := List.cons.inj hb
          have hnil := (ih hps hps' hbefore (.inr ⟨[], b, rfl, by simpa using hbefore⟩)).1
          cases hnil

theorem extra_of_used {st : State} (h : Used args st.argNum st.reordered) : extra args st = [] := by
  unfold extra
  rcases h with h | h
  · simp [h]
  · simp [Nat.not_lt.mpr h]

/-- **When the verb is all that is replaced.** In a format that has its only operand after `a`, the
text `b` that follows stands for itself if and only if no percent sign is in it. -/
theorem sprintf_eq_iff (hm : Marker m) {arg : String} (harg : Guarded m arg.toList) {a b : String}
    (ha : '%' ∉ a.toList) (hlast : b.toList.getLast? ≠ some '%') (hfree : ¬ m <:+: b.toList) :
    sprintf isPrint [arg] (a ++ "%s" ++ b) = a ++ arg ++ b ↔ '%' ∉ b.toList := by
  have hformat : (a ++ "%s" ++ b).toList = a.toList ++ '%' :: 's' :: b.toList := by simp
  have hlength : (a ++ "%s" ++ b).length - a.toList.length = b.toList.length + 1 + 1 := by
    rw [← String.length_toList, hformat]
    simp
  have hargs : ∀ arg' ∈ [arg], Guarded m arg'.toList := by simpa using harg
  obtain ⟨ps, hsrc, hout, hgood, hused⟩ := @doPrintf_pieces m isPrint [arg] hm hargs
    (b.toList.length + 1) ⟨1, false⟩ b.toList (by omega) hlast
  have hextra := extra_of_used (hused (.inr (by simp)))
  have hwhole : sprintf isPrint [arg] (a ++ "%s" ++ b) =
      a ++ arg ++ String.ofList
        (doPrintf isPrint [arg] (b.toList.length + 1) ⟨1, false⟩ b.toList).2 := by
    have hverb := @directive_s isPrint [arg] {} arg rfl b.toList
    have hstart : a.toList.length ≤ (a ++ "%s" ++ b).length := by
      rw [← String.length_toList, hformat]
      simp
    apply String.toList_inj.mp
    simp only [sprintf, hformat, doPrintf_plain_append ha _ hstart, hlength, doPrintf,
      if_true, hverb, hextra]
    simp
  rw [hwhole]
  constructor
  · intro h
    have hself : ps.flatMap Piece.out = ps.flatMap Piece.src ++ [] := by
      have := congrArg String.toList h
      rw [← hout, ← hsrc]
      simpa using this
    rw [hsrc] at hfree ⊢
    exact (pieces_plain hgood hself hfree (.inl rfl)).2
  · intro h
    rw [doPrintf_plain h (by omega), String.ofList_toList]

end Pieces

end OpenchamiOperator.Lib.Printf
