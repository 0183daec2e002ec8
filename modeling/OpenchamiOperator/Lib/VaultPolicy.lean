import OpenchamiOperator.Lib.Strings

/-! # Policies of Vault

A policy is a text in HCL: a list of blocks, each of them a path and the capabilities on it. A
trailing `*` in the path stands for any rest; every other character stands for itself.

* `foldl_step_plain`: reading plain characters inside a quoted text.
* `covers_glob`: what a path with a trailing `*` covers. -/

namespace OpenchamiOperator.Lib.VaultPolicy

open Strings

/-! ### Tokens -/

inductive Token where
  | word (s : List Char)
  | text (s : List Char)
  | symbol (c : Char)
deriving DecidableEq, Repr

/-- Where the reader is; what it has read of a word or a quoted text stands in reverse. -/
inductive Mode where
  | idle
  | word (read : List Char)
  | text (read : List Char)
deriving DecidableEq, Repr

/-- The reader: its mode, and the tokens so far in reverse. -/
abbrev Reader := Option (Mode × List Token)

/-- A character outside of words and quoted texts. -/
def idleStep (c : Char) (out : List Token) : Reader :=
  if c.isWhitespace then some (.idle, out)
  else if c = '"' then some (.text [], out)
  else if c ∈ ['=', '[', ']', ',', '\x7b', '\x7d'] then some (.idle, .symbol c :: out)
  else if c.isAlpha then some (.word [c], out)
  else none

/-- One character. Quoted texts with escapes or line breaks are not read. -/
def step : Reader → Char → Reader
  | none, _ => none
  | some (.idle, out), c => idleStep c out
  | some (.word read, out), c =>
    if c.isAlphanum || c = '_' || c = '-' then some (.word (c :: read), out)
    else idleStep c (.word read.reverse :: out)
  | some (.text read, out), c =>
    if c = '"' then some (.idle, .text read.reverse :: out)
    else if c = '\\' || c = '\n' then none
    else some (.text (c :: read), out)

def tokens (s : String) : Option (List Token) :=
  match s.toList.foldl step (some (.idle, [])) with
  | some (.idle, out) => some out.reverse
  | some (.word read, out) => some (Token.word read.reverse :: out).reverse
  | _ => none

/-- A character that stands for itself in a quoted text. -/
def plain (c : Char) : Bool := c ≠ '"' && c ≠ '\\' && c ≠ '\n'

theorem foldl_step_plain (out : List Token) : ∀ (cs read : List Char),
    (∀ c ∈ cs, plain c = true) →
      cs.foldl step (some (.text read, out)) = some (.text (cs.reverse ++ read), out)
  | [], read, _ => rfl
  | c :: cs, read, h => by
    have hc : plain c = true := h c (by simp)
    have hstep : step (some (.text read, out)) c = some (.text (c :: read), out) := by
      unfold plain at hc
      simp only [Bool.and_eq_true, decide_eq_true_eq] at hc
      simp [step, hc]
    have hrest := foldl_step_plain out cs (c :: read) fun d hd => h d (List.mem_cons_of_mem c hd)
    rw [List.foldl_cons, hstep, hrest, List.reverse_cons, List.append_assoc, List.singleton_append]

/-! ### Rules -/

structure Rule where
  path : String
  capabilities : List String
deriving DecidableEq, Repr

/-- Between two blocks, or in the list of capabilities of one. -/
inductive Place where
  | top
  | capabilities (path : String) (read : List String)

def rulesFrom : Place → List Token → Option (List Rule)
  | .top, [] => some []
  | .top, .word w :: .text p :: .symbol o :: .word k :: .symbol e :: .symbol l :: rest =>
    if w = "path".toList ∧ o = '\x7b' ∧ k = "capabilities".toList ∧ e = '=' ∧ l = '[' then
      rulesFrom (.capabilities (String.ofList p) []) rest
    else none
  | .capabilities p read, .text c :: .symbol ',' :: rest =>
    rulesFrom (.capabilities p (String.ofList c :: read)) rest
  | .capabilities p read, .text c :: .symbol ']' :: .symbol '\x7d' :: rest =>
    (rulesFrom .top rest).map (⟨p, (String.ofList c :: read).reverse⟩ :: ·)
  | _, _ => none

/-- The rules of a policy, if its text can be read. -/
def rules (policy : String) : Option (List Rule) := (tokens policy).bind (rulesFrom .top)

/-- The rule is for this path. -/
def Rule.covers (r : Rule) (path : String) : Bool :=
  if hasSuffix r.path "*" then hasPrefix path (trimSuffix r.path "*") else path = r.path

/-- A rule of the policy covers the path and has the capability. -/
def grants (policy capability path : String) : Bool :=
  ((rules policy).getD []).any fun r => r.covers path && decide (capability ∈ r.capabilities)

theorem covers_glob {dir path : String} {capabilities : List String} :
    Rule.covers ⟨dir ++ "*", capabilities⟩ path = hasPrefix path dir := by
  have hsuffix : hasSuffix (dir ++ "*") "*" = true := hasSuffix_iff.mpr ⟨dir, rfl⟩
  unfold Rule.covers
  rw [if_pos hsuffix, trimSuffix_append]

end OpenchamiOperator.Lib.VaultPolicy
