import Mathlib.Data.String.Basic

/-! # Names and labels of Kubernetes

The checks of `k8s.io/apimachinery/pkg/util/validation` that an API server makes before it stores an
object: labels and subdomains in the sense of RFC 1123, keys and values of labels. Each is a pattern
and a bound on the length; a text that fits a pattern is ASCII, so bytes are characters.

* `labelPattern_append`: what a text made of pieces needs of its pieces.
* `subdomain_of_pattern`, `qualifiedPattern_of_label`: one pattern covers the others. -/

namespace OpenchamiOperator.Lib.KubeNames

/-! ### The checks -/

/-- `[a-z0-9]`. -/
def isAlnum (c : Char) : Bool := c.isLower || c.isDigit

/-- `[a-z0-9-]`. -/
def isLabelChar (c : Char) : Bool := isAlnum c || c = '-'

/-- `dns1123LabelFmt`: label characters, with a letter or a digit at both ends. -/
def labelPattern (s : List Char) : Bool :=
  s.head?.any isAlnum && s.getLast?.any isAlnum && s.all isLabelChar

/-- `IsDNS1123Label`. -/
def isDNS1123Label (s : String) : Bool := s.toList.length ≤ 63 && labelPattern s.toList

/-- `IsDNS1123Subdomain`. -/
def isDNS1123Subdomain (s : String) : Bool :=
  s.toList.length ≤ 253 && (s.toList.splitOn '.').all labelPattern

/-- `[A-Za-z0-9_.-]`. -/
def isNameChar (c : Char) : Bool := c.isAlphanum || c = '-' || c = '_' || c = '.'

/-- `qualifiedNameFmt`. -/
def qualifiedPattern (s : List Char) : Bool :=
  s.head?.any Char.isAlphanum && s.getLast?.any Char.isAlphanum && s.all isNameChar

/-- The part of a key after its domain. -/
def isKeyName (s : List Char) : Bool := s.length ≤ 63 && qualifiedPattern s

/-- `IsQualifiedName`, the check of label keys. -/
def isQualifiedName (s : String) : Bool :=
  match s.toList.splitOn '/' with
  | [name] => isKeyName name
  | [domain, name] => isDNS1123Subdomain (String.ofList domain) && isKeyName name
  | _ => false

/-- `IsValidLabelValue`. -/
def isValidLabelValue (s : String) : Bool :=
  s.toList.length ≤ 63 && (s.toList.isEmpty || qualifiedPattern s.toList)

/-! ### Patterns -/

theorem labelPattern_iff {s : List Char} : labelPattern s = true ↔
    (∃ c ∈ s.head?, isAlnum c = true) ∧ (∃ c ∈ s.getLast?, isAlnum c = true) ∧
      ∀ c ∈ s, isLabelChar c = true := by
  unfold labelPattern
  rw [Bool.and_eq_true, Bool.and_eq_true, Option.any_eq_true, Option.any_eq_true, List.all_eq_true,
    and_assoc]
  rfl

/-- The first piece opens a label and the last one closes it. -/
theorem labelPattern_append {a b : List Char} (ha : ∃ c ∈ a.head?, isAlnum c = true)
    (hb : ∃ c ∈ b.getLast?, isAlnum c = true) (hchars : ∀ c ∈ a ++ b, isLabelChar c = true) :
    labelPattern (a ++ b) = true := by
  obtain ⟨c, hc, halnum⟩ := ha
  obtain ⟨d, hd, hdalnum⟩ := hb
  refine labelPattern_iff.mpr ⟨⟨c, ?_, halnum⟩, ⟨d, ?_, hdalnum⟩, hchars⟩
  · exact List.mem_head?_append_of_mem_head? hc
  · exact List.mem_getLast?_append_of_mem_getLast? hd

/-- A label within the bound is a subdomain with one part. -/
theorem subdomain_of_pattern {s : String} (hlength : s.toList.length ≤ 253)
    (h : labelPattern s.toList = true) : isDNS1123Subdomain s = true := by
  have hdot : '.' ∉ s.toList := by
    intro hmem
    have hchar := (labelPattern_iff.mp h).2.2 '.' hmem
    exact absurd hchar (by decide)
  unfold isDNS1123Subdomain
  rw [List.splitOn_eq_singleton hdot]
  simp [hlength, h]

theorem isAlphanum_of_isAlnum {c : Char} (h : isAlnum c = true) : c.isAlphanum = true := by
  unfold isAlnum at h
  unfold Char.isAlphanum Char.isAlpha
  rw [Bool.or_eq_true] at h
  rcases h with h | h
  · simp [h]
  · simp [h]

theorem qualifiedPattern_of_label {s : List Char} (h : labelPattern s = true) :
    qualifiedPattern s = true := by
  obtain ⟨⟨c, hc, halnum⟩, ⟨d, hd, hdalnum⟩, hchars⟩ := labelPattern_iff.mp h
  have hname : ∀ x ∈ s, isNameChar x = true := by
    intro x hx
    have hx := hchars x hx
    unfold isLabelChar at hx
    unfold isNameChar
    rw [Bool.or_eq_true] at hx
    rcases hx with hx | hx
    · simp [isAlphanum_of_isAlnum hx]
    · simp [hx]
  unfold qualifiedPattern
  rw [Bool.and_eq_true, Bool.and_eq_true, Option.any_eq_true, Option.any_eq_true, List.all_eq_true]
  exact ⟨⟨⟨c, hc, isAlphanum_of_isAlnum halnum⟩, ⟨d, hd, isAlphanum_of_isAlnum hdalnum⟩⟩, hname⟩

theorem labelValue_of_pattern {s : String} (hlength : s.toList.length ≤ 63)
    (h : labelPattern s.toList = true) : isValidLabelValue s = true := by
  simp [isValidLabelValue, hlength, qualifiedPattern_of_label h]

/-- A key with a domain. -/
theorem qualifiedName_of_pattern {domain name : String} (hslash : '/' ∉ domain.toList)
    (hdomain : isDNS1123Subdomain domain = true) (hlength : name.toList.length ≤ 63)
    (h : labelPattern name.toList = true) : isQualifiedName (domain ++ "/" ++ name) = true := by
  have hname : '/' ∉ name.toList := by
    intro hmem
    have hchar := (labelPattern_iff.mp h).2.2 '/' hmem
    exact absurd hchar (by decide)
  have hsplit : (domain ++ "/" ++ name).toList.splitOn '/' = [domain.toList, name.toList] := by
    rw [String.toList_append, String.toList_append, List.append_assoc]
    have hstep := List.splitOn_append_cons_self_of_not_mem hslash name.toList
    rw [List.splitOn_eq_singleton hname] at hstep
    exact hstep
  unfold isQualifiedName
  rw [hsplit]
  simp [isKeyName, hdomain, hlength, qualifiedPattern_of_label h]

end OpenchamiOperator.Lib.KubeNames
