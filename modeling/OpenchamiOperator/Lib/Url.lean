import OpenchamiOperator.Lib.Netip

/-! # The Go package `net/url`

`url.Parse` with the parts of its result the operator looks at. A string stands for its bytes, one
character for each, and a percent escape is decoded to the character with the value of its byte.

* `not_mem_host`: the host of a URL has none of the characters that separate the other parts.
* `parse_plain`, `hostname_plain`, `port_plain`: the parts of `http://name:port`. -/

namespace OpenchamiOperator.Lib.Url

open Strings

/-- `url.URL`. `user` says whether there is user information. -/
structure URL where
  scheme : String := ""
  user : Bool := false
  host : String := ""
  path : String := ""
  rawQuery : String := ""
  fragment : String := ""
deriving DecidableEq, Repr

/-! ### Characters -/

def isAlpha (c : Char) : Bool := ('a' ≤ c && c ≤ 'z') || ('A' ≤ c && c ≤ 'Z')

def isAlphanum (c : Char) : Bool := isAlpha c || c.isDigit

/-- `stringContainsCTLByte`. -/
def isCTL (c : Char) : Bool := c.toNat < 32 || c.toNat = 127

/-- The parts of a URL whose escapes are treated differently. -/
inductive Encoding where
  | path
  | userPassword
  | host
  | zone
  | fragment
deriving DecidableEq, Repr

/-- The characters that may stand in a host or a zone as they are; any other ASCII character is
refused there. -/
def hostChar (c : Char) : Bool :=
  isAlphanum c || 128 ≤ c.toNat || c ∈ "-_.~!$&'()*+,;=:[]<>\"".toList

/-- `unescape`. -/
def unescape (mode : Encoding) : List Char → Option (List Char)
  | [] => some []
  | '%' :: a :: b :: rest => do
    let hi ← Netip.hexDigit? a
    let lo ← Netip.hexDigit? b
    -- a host may only escape non-ASCII bytes and the percent sign, a zone also what a host may hold,
    -- and blanks
    let byte := Char.ofNat (16 * hi + lo)
    let allowed : Bool := match mode with
      | .host => 8 ≤ hi || 16 * hi + lo = 37
      | .zone => 16 * hi + lo = 37 || 16 * hi + lo = 32 || hostChar byte
      | _ => true
    if allowed then (unescape mode rest).map (byte :: ·) else none
  | '%' :: _ => none
  | c :: rest =>
    if (mode = .host ∨ mode = .zone) ∧ !hostChar c then none
    else (unescape mode rest).map (c :: ·)

/-! ### The parts -/

/-- `getScheme`: the scheme and the rest, the empty scheme when there is none, or an error. -/
def getScheme (s : String) : Option (String × String) :=
  match s.toList with
  | [] => some ("", s)
  | c :: _ =>
    let head := s.toList.takeWhile fun d => isAlphanum d || d ∈ ['+', '-', '.']
    match s.toList.drop head.length with
    | ':' :: rest =>
      if c = ':' then none
      else if isAlpha c then some (String.ofList head, String.ofList rest)
      else some ("", s)
    | _ => some ("", s)

/-- `validOptionalPort`: empty, or a colon and digits. -/
def validOptionalPort (s : String) : Bool :=
  match s.toList with
  | [] => true
  | ':' :: rest => rest.all Char.isDigit
  | _ => false

/-- The part in brackets of a host: an IPv6 address, perhaps with a zone after `%25`. -/
def unescapeLiteral (s : String) : Option String :=
  match cut '%' s with
  | (ip, some zone) =>
    if hasPrefix zone "25" then do
      let ip ← unescape .host ip.toList
      let zone ← unescape .zone ('%' :: zone.toList)
      pure (String.ofList (ip ++ zone))
    else (unescape .host s.toList).map String.ofList
  | (_, none) => (unescape .host s.toList).map String.ofList

/-- `parseHost`. -/
def parseHost (host : String) : Option String :=
  match cutLast '[' host with
  | some (before, literal) =>
    match cutLast ']' literal with
    | none => none
    | some (hostname, port) =>
      if before ≠ "" ∨ !validOptionalPort port then none
      else do
        let ip ← unescapeLiteral hostname
        match Netip.parseAddr ip with
        | some (.v6 _ _) => pure ("[" ++ ip ++ "]" ++ port)
        | _ => none
  | none =>
    match cut ':' host with
    | (_, some port) =>
      if port.toList.all Char.isDigit then (unescape .host host.toList).map String.ofList else none
    | (_, none) => (unescape .host host.toList).map String.ofList

/-- `validUserinfo`. -/
def validUserinfo (s : String) : Bool :=
  s.toList.all fun c => isAlphanum c || c ∈ "-._:~!$&'()*+,;=%@".toList

/-- `parseAuthority`: whether there is user information, and the host. -/
def parseAuthority (authority : String) : Option (Bool × String) :=
  match cutLast '@' authority with
  | none => (parseHost authority).map fun h => (false, h)
  | some (userinfo, host) => do
    let h ← parseHost host
    if validUserinfo userinfo then
      let _ ← unescape .userPassword userinfo.toList
      pure (true, h)
    else none

/-! ### `url.Parse` -/

/-- The path of a URL whose other parts are known. -/
def setPath (u : URL) (rest : String) : Option URL :=
  (unescape .path rest.toList).map fun p => { u with path := String.ofList p }

/-- `parse`, without the fragment. -/
def parseReference (s : String) : Option URL :=
  if s.toList.any isCTL then none
  else if s = "*" then some { path := "*" }
  else do
    let (scheme, rest) ← getScheme s
    let scheme := String.ofList (scheme.toList.map Char.toLower)
    let (rest, query) := cut '?' rest
    let u : URL := { scheme := scheme, rawQuery := query.getD "" }
    if !hasPrefix rest "/" ∧ scheme ≠ "" then
      -- an opaque part, in which nothing else is looked for
      some u
    else if !hasPrefix rest "/" ∧ contains (cut '/' rest).1 ":" then none
    else if hasPrefix rest "//" ∧ (scheme ≠ "" ∨ !hasPrefix rest "///") then
      let (authority, path) := cut '/' (trimPrefix rest "//")
      let (user, host) ← parseAuthority authority
      setPath { u with user := user, host := host } (path.elim "" ("/" ++ ·))
    else setPath u rest

/-- `url.Parse`. -/
def parse (s : String) : Option URL :=
  match cut '#' s with
  | (reference, none) => parseReference reference
  | (reference, some fragment) => do
    let u ← parseReference reference
    let f ← unescape .fragment fragment.toList
    pure { u with fragment := String.ofList f }

/-- `URL.Hostname`. -/
def URL.hostname (u : URL) : String :=
  let host := match cutLast ':' u.host with
    | some (h, port) => if port.toList.all Char.isDigit then h else u.host
    | none => u.host
  if hasPrefix host "[" ∧ hasSuffix host "]" then trimSuffix (trimPrefix host "[") "]" else host

/-- `URL.Port`. -/
def URL.port (u : URL) : String :=
  match cutLast ':' u.host with
  | some (_, port) => if port.toList.all Char.isDigit then port else ""
  | none => ""

example : parse "https://vault.example.org:8200/v1?x=1#top" = some
    { scheme := "https", host := "vault.example.org:8200", path := "/v1", rawQuery := "x=1",
      fragment := "top" } := by
  decide

example : (parse "http://[::1]:8200").map URL.hostname = some "::1" := by decide

/-! ### Hosts -/

/-- The ASCII characters that are refused in a host, also when they are escaped. -/
def hostRefused (c : Char) : Bool := c.toNat < 128 && !hostChar c && c ≠ '%' && c ≠ ' '

/-- The character of an escape has the code of its byte. -/
theorem toNat_ofNat_of_hexDigits {a b : Char} {hi lo : ℕ} (hhi : Netip.hexDigit? a = some hi)
    (hlo : Netip.hexDigit? b = some lo) : (Char.ofNat (16 * hi + lo)).toNat = 16 * hi + lo := by
  have h := Netip.hexDigit?_lt hhi
  have h' := Netip.hexDigit?_lt hlo
  have hvalid : (16 * hi + lo).isValidChar := Or.inl (by omega)
  rw [Char.ofNat, dif_pos hvalid]
  rfl

section Refused

variable {c : Char} (hc : hostRefused c = true)

include hc

/-- What is left of a host or a zone has none of the characters that are refused. -/
theorem not_mem_unescape {mode : Encoding} (hmode : mode = .host ∨ mode = .zone)
    {l r : List Char} (h : unescape mode l = some r) : c ∉ r := by
  unfold hostRefused at hc
  simp only [Bool.and_eq_true, decide_eq_true_eq, Bool.not_eq_true', ne_eq] at hc
  obtain ⟨⟨⟨hascii, hrefused⟩, hpercent⟩, hblank⟩ := hc
  induction l using unescape.induct mode generalizing r with
  | case1 =>
    cases h
    simp
  | case2 a b rest ih =>
    unfold unescape at h
    cases hhi : Netip.hexDigit? a with
    | none => simp [hhi] at h
    | some hi =>
      cases hlo : Netip.hexDigit? b with
      | none => simp [hhi, hlo] at h
      | some lo =>
        simp only [hhi, hlo, Option.bind_eq_bind, Option.bind_some, Option.ite_none_right_eq_some,
          Option.map_eq_some_iff] at h
        obtain ⟨hallowed, tail, htail, rfl⟩ := h
        have hcode := toNat_ofNat_of_hexDigits hhi hlo
        rw [List.mem_cons, not_or]
        refine ⟨fun hbyte => ?_, ih htail⟩
        rw [← hbyte] at hcode
        rcases hmode with rfl | rfl
        · simp only [Bool.or_eq_true, decide_eq_true_eq] at hallowed
          rcases hallowed with h8 | h37
          · omega
          · exact hpercent (Char.toNat_inj.mp (hcode.trans h37))
        · simp only [← hbyte, hrefused, Bool.or_eq_true, decide_eq_true_eq, Bool.false_eq_true,
            or_false] at hallowed
          rcases hallowed with h37 | h32
          · exact hpercent (Char.toNat_inj.mp (hcode.trans h37))
          · exact hblank (Char.toNat_inj.mp (hcode.trans h32))
  | case3 tail hshort =>
    rw [unescape] at h
    · cases h
    · exact hshort
  | case4 d rest hd hpercent' hrefused' =>
    rw [unescape, if_pos hrefused'] at h
    · cases h
    · exact hd
    · exact hpercent'
  | case5 d rest hd hpercent' hhost ih =>
    rw [unescape, if_neg hhost] at h
    · obtain ⟨tail, htail, rfl⟩ := Option.map_eq_some_iff.mp h
      rw [List.mem_cons, not_or]
      refine ⟨?_, ih htail⟩
      rintro rfl
      exact hhost ⟨hmode, by rw [hrefused]; rfl⟩
    · exact hd
    · exact hpercent'

theorem not_mem_unescapeLiteral {s ip : String} (h : unescapeLiteral s = some ip) :
    c ∉ ip.toList := by
  have hplain : (unescape .host s.toList).map String.ofList = some ip → c ∉ ip.toList := by
    intro h
    obtain ⟨r, hr, rfl⟩ := Option.map_eq_some_iff.mp h
    rw [String.toList_ofList]
    exact not_mem_unescape hc (Or.inl rfl) hr
  unfold unescapeLiteral at h
  split at h
  · rename_i before zone _
    split_ifs at h
    · cases hip : unescape .host before.toList with
      | none => simp [hip] at h
      | some r =>
        cases hzone : unescape .zone ('%' :: zone.toList) with
        | none => simp [hip, hzone] at h
        | some r' =>
          simp only [hip, hzone, Option.bind_eq_bind, Option.bind_some, Option.pure_def,
            Option.some.injEq] at h
          rw [← h, String.toList_ofList, List.mem_append, not_or]
          exact ⟨not_mem_unescape hc (Or.inl rfl) hip, not_mem_unescape hc (Or.inr rfl) hzone⟩
    · exact hplain h
  · exact hplain h

theorem not_mem_of_validOptionalPort {port : String} (h : validOptionalPort port = true) :
    c ∉ port.toList := by
  unfold validOptionalPort at h
  split at h
  · rename_i hnil
    simp [hnil]
  · rename_i rest hrest
    intro hmem
    rw [hrest] at hmem
    rcases List.mem_cons.mp hmem with rfl | hmem
    · exact absurd hc (by decide)
    · have hdigit := List.all_eq_true.mp h c hmem
      simp [hostRefused, hostChar, isAlphanum, hdigit] at hc
  · cases h

theorem not_mem_parseHost {s host : String} (h : parseHost s = some host) : c ∉ host.toList := by
  have hplain : (unescape .host s.toList).map String.ofList = some host → c ∉ host.toList := by
    intro h
    obtain ⟨r, hr, rfl⟩ := Option.map_eq_some_iff.mp h
    rw [String.toList_ofList]
    exact not_mem_unescape hc (Or.inl rfl) hr
  have hbracket : c ≠ '[' ∧ c ≠ ']' := by
    constructor
    · rintro rfl
      exact absurd hc (by decide)
    · rintro rfl
      exact absurd hc (by decide)
  unfold parseHost at h
  split at h
  · split at h
    · cases h
    · rename_i literal _ hostname port _
      split_ifs at h with hbad
      obtain ⟨ip, hip, hrest⟩ := Option.bind_eq_some_iff.mp h
      split at hrest
      · cases hrest
        have hport : validOptionalPort port = true := by
          simpa using (not_or.mp hbad).2
        simp only [String.toList_append, List.mem_append, not_or]
        exact ⟨⟨⟨by simpa using hbracket.1, not_mem_unescapeLiteral hc hip⟩,
          by simpa using hbracket.2⟩, not_mem_of_validOptionalPort hc hport⟩
      · cases hrest
  · split at h
    · split_ifs at h
      exact hplain h
    · exact hplain h

theorem not_mem_parseAuthority {s host : String} {user : Bool}
    (h : parseAuthority s = some (user, host)) : c ∉ host.toList := by
  unfold parseAuthority at h
  split at h
  · obtain ⟨x, hx, hpair⟩ := Option.map_eq_some_iff.mp h
    cases hpair
    exact not_mem_parseHost hc hx
  · obtain ⟨x, hx, hrest⟩ := Option.bind_eq_some_iff.mp h
    split_ifs at hrest
    obtain ⟨_, _, hpair⟩ := Option.bind_eq_some_iff.mp hrest
    cases hpair
    exact not_mem_parseHost hc hx

theorem not_mem_parseReference {s : String} {u : URL} (h : parseReference s = some u) :
    c ∉ u.host.toList := by
  unfold parseReference at h
  split_ifs at h
  · cases h
    simp
  · obtain ⟨⟨scheme, rest⟩, _, hrest⟩ := Option.bind_eq_some_iff.mp h
    simp only at hrest
    split_ifs at hrest
    · cases hrest
      simp
    · obtain ⟨⟨user, host⟩, hhost, hpath⟩ := Option.bind_eq_some_iff.mp hrest
      obtain ⟨p, _, rfl⟩ := Option.map_eq_some_iff.mp hpath
      exact not_mem_parseAuthority hc hhost
    · obtain ⟨p, _, rfl⟩ := Option.map_eq_some_iff.mp hrest
      simp

/-- **The host of a URL has none of the characters that separate the other parts.** -/
theorem not_mem_host {s : String} {u : URL} (h : parse s = some u) : c ∉ u.host.toList := by
  unfold parse at h
  split at h
  · exact not_mem_parseReference hc h
  · obtain ⟨v, hv, hrest⟩ := Option.bind_eq_some_iff.mp h
    obtain ⟨_, _, hfragment⟩ := Option.bind_eq_some_iff.mp hrest
    have hhost := not_mem_parseReference hc hv
    cases hfragment
    exact hhost

end Refused

theorem slash_not_mem_host {s : String} {u : URL} (h : parse s = some u) : '/' ∉ u.host.toList :=
  not_mem_host (by decide) h

/-! ### Plain URLs -/

/-- The characters of a host name. -/
def plainHost (c : Char) : Bool := isAlphanum c || c = '-' || c = '.'

/-- A host name has none of the characters that separate the parts of a URL. -/
theorem not_mem_of_plainHost {s : String} (h : ∀ c ∈ s.toList, plainHost c = true) {c : Char}
    (hc : plainHost c = false) : c ∉ s.toList := by
  intro hmem
  rw [h c hmem] at hc
  cases hc

theorem hostChar_of_plainHost {c : Char} (h : plainHost c = true) : hostChar c = true := by
  unfold plainHost at h
  unfold hostChar
  simp only [Bool.or_eq_true, decide_eq_true_eq] at h ⊢
  rcases h with (h | rfl) | rfl
  · exact Or.inl (Or.inl h)
  · exact Or.inr (by decide)
  · exact Or.inr (by decide)

theorem unescape_of_hostChar : ∀ {l : List Char}, (∀ c ∈ l, hostChar c = true) →
    unescape .host l = some l
  | [], _ => rfl
  | c :: l, h => by
    have hc := h c List.mem_cons_self
    have hpercent : c ≠ '%' := by
      rintro rfl
      revert hc
      decide
    have hrefused : ¬ ((Encoding.host = .host ∨ Encoding.host = .zone) ∧ (!hostChar c) = true) := by
      simp [hc]
    rw [unescape, if_neg hrefused, unescape_of_hostChar fun x hx => h x (List.mem_cons_of_mem _ hx)]
    · rfl
    · exact fun _ _ _ h _ => hpercent h
    · exact hpercent

theorem not_isCTL_of_plainHost {c : Char} (h : plainHost c = true) : ¬ isCTL c = true := by
  unfold plainHost isAlphanum isAlpha Char.isDigit at h
  unfold isCTL
  simp only [Bool.or_eq_true, Bool.and_eq_true, decide_eq_true_eq, Char.le_def,
    UInt32.le_iff_toNat_le, ge_iff_le] at h ⊢
  have hcode : c.val.toNat = c.toNat := rfl
  rw [hcode] at h
  have hrange : 45 ≤ c.toNat ∧ c.toNat ≤ 122 := by
    rcases h with ((((h : 97 ≤ c.toNat ∧ c.toNat ≤ 122) | (h : 65 ≤ c.toNat ∧ c.toNat ≤ 90)) |
      (h : 48 ≤ c.toNat ∧ c.toNat ≤ 57)) | rfl) | rfl
    · omega
    · omega
    · omega
    · decide
    · decide
  omega

/-- A scheme is found at the front. -/
theorem getScheme_append {scheme : String} (hscheme : scheme ∈ ["http", "https"]) (rest : String) :
    getScheme (scheme ++ ("://" ++ rest)) = some (scheme, "//" ++ rest) := by
  have hrest : String.ofList ('/' :: '/' :: rest.toList) = "//" ++ rest := by
    apply String.toList_injective
    simp
  simp only [List.mem_cons, List.not_mem_nil, or_false] at hscheme
  rcases hscheme with rfl | rfl
  · rw [← hrest]
    unfold getScheme
    simp only [String.toList_append]
    rfl
  · rw [← hrest]
    unfold getScheme
    simp only [String.toList_append]
    rfl

theorem parse_authority_path {scheme authority host : String} {user : Bool} {path : Option String}
    {p : List Char} (hscheme : scheme ∈ ["http", "https"])
    (hauthority : parseAuthority authority = some (user, host)) (hslash : '/' ∉ authority.toList)
    (hpath : unescape .path (path.elim "" ("/" ++ ·)).toList = some p)
    (hno : ∀ c ∈ (authority ++ path.elim "" ("/" ++ ·)).toList,
      c ≠ '#' ∧ c ≠ '?' ∧ isCTL c = false) :
    parse (scheme ++ ("://" ++ (authority ++ path.elim "" ("/" ++ ·)))) =
      some { scheme := scheme, user := user, host := host, path := String.ofList p } := by
  obtain ⟨hlower, hne, hhash, hctl⟩ : String.ofList (scheme.toList.map Char.toLower) = scheme ∧
      scheme ≠ "" ∧ '#' ∉ scheme.toList ∧ scheme.toList.any isCTL = false := by
    revert scheme
    decide
  have hcutSlash : cut '/' (authority ++ path.elim "" ("/" ++ ·)) = (authority, path) := by
    cases path with
    | none =>
      rw [Option.elim_none, String.append_empty]
      exact cut_of_not_mem hslash
    | some rest => exact cut_append hslash rest
  generalize htext : authority ++ path.elim "" ("/" ++ ·) = text at hno hcutSlash ⊢
  have hcutHash : cut '#' (scheme ++ ("://" ++ text)) = (scheme ++ ("://" ++ text), none) := by
    refine cut_of_not_mem ?_
    simp only [String.toList_append, List.mem_append, not_or]
    exact ⟨hhash, by decide, fun h => (hno _ h).1 rfl⟩
  have hcutQuery : cut '?' ("//" ++ text) = ("//" ++ text, none) := by
    refine cut_of_not_mem ?_
    simp only [String.toList_append, List.mem_append, not_or]
    exact ⟨by decide, fun h => (hno _ h).2.1 rfl⟩
  have hslashes : hasPrefix ("//" ++ text) "/" = true := by
    rw [hasPrefix_iff]
    exact ⟨"/" ++ text, by rw [← String.append_assoc]; rfl⟩
  have hstar : scheme ++ ("://" ++ text) ≠ "*" := by
    intro h
    have hcolon : ':' ∈ (scheme ++ ("://" ++ text)).toList := by simp
    rw [h] at hcolon
    exact absurd hcolon (by decide)
  have hctlText : text.toList.any isCTL = false := by
    rw [List.any_eq_false]
    intro c hc
    rw [(hno c hc).2.2]
    decide
  have hnoCTL : ¬ (scheme ++ ("://" ++ text)).toList.any isCTL = true := by
    rw [String.toList_append, String.toList_append, List.any_append, List.any_append, hctl, hctlText]
    decide
  have hreference : parseReference (scheme ++ ("://" ++ text)) =
      some { scheme := scheme, user := user, host := host, path := String.ofList p } := by
    unfold parseReference
    rw [if_neg hnoCTL, if_neg hstar, getScheme_append hscheme]
    simp [hlower, hcutQuery, hslashes, hcutSlash, hauthority, hne, setPath, hpath]
  unfold parse
  rw [hcutHash, ← hreference]

theorem parse_authority {scheme authority host : String} {user : Bool}
    (hscheme : scheme ∈ ["http", "https"]) (hslash : '/' ∉ authority.toList)
    (hno : ∀ c ∈ authority.toList, c ≠ '#' ∧ c ≠ '?' ∧ isCTL c = false)
    (hauthority : parseAuthority authority = some (user, host)) :
    parse (scheme ++ ("://" ++ authority)) =
      some { scheme := scheme, user := user, host := host } := by
  have h := @parse_authority_path scheme authority host user none [] hscheme hauthority hslash rfl
    (by simpa using hno)
  simpa using h

section Plain

variable {host port : String} (hhost : ∀ c ∈ host.toList, plainHost c = true)
  (hport : ∀ c ∈ port.toList, c.isDigit = true)

include hhost hport

theorem mem_authority {c : Char} (h : c ∈ (host ++ (":" ++ port)).toList) :
    plainHost c = true ∨ c = ':' := by
  simp only [String.toList_append, List.mem_append] at h
  rcases h with h | h | h
  · exact Or.inl (hhost c h)
  · exact Or.inr (List.mem_singleton.mp h)
  · have hdigit := hport c h
    exact Or.inl (by simp [plainHost, isAlphanum, hdigit])

theorem not_mem_authority {c : Char} (hplain : plainHost c = false) (hcolon : c ≠ ':') :
    c ∉ (host ++ (":" ++ port)).toList := by
  intro h
  rcases mem_authority hhost hport h with h | h
  · rw [hplain] at h
    cases h
  · exact hcolon h

theorem parseAuthority_plain :
    parseAuthority (host ++ (":" ++ port)) = some (false, host ++ (":" ++ port)) := by
  have hchars : ∀ c ∈ (host ++ (":" ++ port)).toList, hostChar c = true := by
    intro c hc
    rcases mem_authority hhost hport hc with h | rfl
    · exact hostChar_of_plainHost h
    · decide
  have hcut : cut ':' (host ++ (":" ++ port)) = (host, some port) :=
    cut_append (not_mem_of_plainHost hhost (by decide)) port
  have hdigits : port.toList.all Char.isDigit = true := List.all_eq_true.mpr hport
  have hparse : parseHost (host ++ (":" ++ port)) = some (host ++ (":" ++ port)) := by
    unfold parseHost
    rw [cutLast_of_not_mem (not_mem_authority hhost hport (by decide) (by decide))]
    simp only [hcut, hdigits, if_true]
    rw [unescape_of_hostChar hchars, Option.map_some, String.ofList_toList]
  unfold parseAuthority
  rw [cutLast_of_not_mem (not_mem_authority hhost hport (by decide) (by decide))]
  simp only [hparse, Option.map_some]

/-- **The URL of a host name and a port.** -/
theorem parse_plain {scheme : String} (hscheme : scheme ∈ ["http", "https"]) :
    parse (scheme ++ ("://" ++ (host ++ (":" ++ port)))) =
      some { scheme := scheme, host := host ++ (":" ++ port) } := by
  have hno : ∀ {c : Char}, plainHost c = false → c ≠ ':' → c ∉ (host ++ (":" ++ port)).toList :=
    not_mem_authority hhost hport
  have hctl : ∀ c ∈ (host ++ (":" ++ port)).toList, c ≠ '#' ∧ c ≠ '?' ∧ isCTL c = false := by
    intro c hc
    rcases mem_authority hhost hport hc with h | rfl
    · refine ⟨?_, ?_, by simpa using not_isCTL_of_plainHost h⟩
      · rintro rfl
        exact hno (by decide) (by decide) hc
      · rintro rfl
        exact hno (by decide) (by decide) hc
    · decide
  exact parse_authority hscheme (hno (by decide) (by decide)) hctl (parseAuthority_plain hhost hport)

theorem hostname_plain {u : URL} (hu : u.host = host ++ (":" ++ port)) : u.hostname = host := by
  have hbracket : hasPrefix host "[" = false := by
    rw [Bool.eq_false_iff, Ne, hasPrefix_iff]
    rintro ⟨rest, rfl⟩
    exact absurd (hhost '[' (by simp)) (by decide)
  have hcut : cutLast ':' u.host = some (host, port) := by
    rw [hu]
    exact cutLast_append host fun h => absurd (hport ':' h) (by decide)
  unfold URL.hostname
  simp [hcut, List.all_eq_true.mpr hport, hbracket]

omit hhost in
theorem port_plain {u : URL} (hu : u.host = host ++ (":" ++ port)) : u.port = port := by
  have hcut : cutLast ':' u.host = some (host, port) := by
    rw [hu]
    exact cutLast_append host fun h => absurd (hport ':' h) (by decide)
  unfold URL.port
  rw [hcut]
  exact if_pos (List.all_eq_true.mpr hport)

end Plain

end OpenchamiOperator.Lib.Url
