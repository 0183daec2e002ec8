import OpenchamiOperator.Lib.Url

/-! # Base URLs

A base URL is a scheme and a host, perhaps with a port, and nothing else.

* `exists_parts`: the text of a URL with a scheme and a host, part by part.
* `decodes_parseHost`: a host is its text, or shorter than its text when that has an escape.
* `parseHost_idem`: a host without a percent sign reads as itself.
* `isBase_base_iff`: when the scheme and the host of a URL are a base URL. A host with a zone is
  none: the zone loses its escape and does not read again.
* `parse_base_slashes`: slashes behind a base URL are its path. -/

namespace OpenchamiOperator.Lib.Url

open Strings

/-- The scheme and the host. -/
def URL.base (u : URL) : String := u.scheme ++ ("://" ++ u.host)

/-- `scheme://host` or `scheme://host:port`: the text of a URL that has a host name and, after a
colon, a port, and has no other part. -/
def isBase (s : String) : Bool :=
  (parse s).any fun u => u.scheme ≠ "" && u.hostname ≠ "" && !hasSuffix u.host ":" && !u.user &&
    u.path = "" && u.rawQuery = "" && u.fragment = "" && s = u.base

example : isBase "https://vault.example.org:8200" = true := by decide

example : isBase "https://vault.example.org/" = false := by decide

/-! ### Escapes -/

/-- What unescaping leaves: the same text, or less of it. -/
def Decodes (l r : List Char) : Prop :=
  ('%' ∉ l ∧ r = l) ∨ ('%' ∈ l ∧ r.length < l.length)

theorem Decodes.refl {l : List Char} (h : '%' ∉ l) : Decodes l l := Or.inl ⟨h, rfl⟩

theorem Decodes.length_le {l r : List Char} (h : Decodes l r) : r.length ≤ l.length := by
  rcases h with ⟨-, rfl⟩ | ⟨-, hlt⟩
  · exact le_rfl
  · exact hlt.le

theorem Decodes.append {l r l' r' : List Char} (h : Decodes l r) (h' : Decodes l' r') :
    Decodes (l ++ l') (r ++ r') := by
  have hle := h.length_le
  have hle' := h'.length_le
  have hshorter : '%' ∈ l ∨ '%' ∈ l' → (r ++ r').length < (l ++ l').length := by
    intro hmem
    rw [List.length_append, List.length_append]
    rcases hmem with hmem | hmem
    · have hlt : r.length < l.length := (h.resolve_left fun hno => hno.1 hmem).2
      omega
    · have hlt : r'.length < l'.length := (h'.resolve_left fun hno => hno.1 hmem).2
      omega
  by_cases hmem : '%' ∈ l ∨ '%' ∈ l'
  · exact Or.inr ⟨List.mem_append.mpr hmem, hshorter hmem⟩
  · obtain ⟨hno, hno'⟩ := not_or.mp hmem
    have hsame : r = l := (h.resolve_right fun hyes => hno hyes.1).2
    have hsame' : r' = l' := (h'.resolve_right fun hyes => hno' hyes.1).2
    refine Or.inl ⟨by simp [hno, hno'], ?_⟩
    rw [hsame, hsame']

/-- One step of unescaping: an escape, or a character that stays. -/
theorem unescape_cons_inv {mode : Encoding} {c : Char} {l r : List Char}
    (h : unescape mode (c :: l) = some r) :
    (c = '%' ∧ ∃ a b rest hi lo tail, l = a :: b :: rest ∧ Netip.hexDigit? a = some hi ∧
      Netip.hexDigit? b = some lo ∧ (mode = .host → 8 ≤ hi ∨ 16 * hi + lo = 37) ∧
      unescape mode rest = some tail ∧ r = Char.ofNat (16 * hi + lo) :: tail) ∨
    (c ≠ '%' ∧ (mode = .host → hostChar c = true) ∧ ∃ tail, unescape mode l = some tail ∧
      r = c :: tail) := by
  by_cases hpercent : c = '%'
  · subst hpercent
    refine Or.inl ⟨rfl, ?_⟩
    match l, h with
    | [], h => cases h
    | [_], h => cases h
    | a :: b :: rest, h =>
      unfold unescape at h
      cases hhi : Netip.hexDigit? a with
      | none => simp [hhi] at h
      | some hi =>
        cases hlo : Netip.hexDigit? b with
        | none => simp [hhi, hlo] at h
        | some lo =>
          simp only [hhi, hlo, Option.bind_eq_bind, Option.bind_some,
            Option.ite_none_right_eq_some, Option.map_eq_some_iff] at h
          obtain ⟨hallowed, tail, htail, rfl⟩ := h
          refine ⟨a, b, rest, hi, lo, tail, rfl, hhi, hlo, ?_, htail, rfl⟩
          rintro rfl
          simpa using hallowed
  · refine Or.inr ⟨hpercent, ?_⟩
    rw [unescape] at h
    · split_ifs at h with hrefused
      obtain ⟨tail, htail, rfl⟩ := Option.map_eq_some_iff.mp h
      refine ⟨?_, tail, htail, rfl⟩
      rintro rfl
      by_contra hchar
      exact hrefused ⟨Or.inl rfl, by simpa using hchar⟩
    · exact fun _ _ _ h _ => hpercent h
    · exact hpercent

/-- Induction over what is unescaped. -/
theorem unescape_rec {mode : Encoding} {P : List Char → List Char → Prop} (hnil : P [] [])
    (hescape : ∀ a b hi lo rest tail, Netip.hexDigit? a = some hi → Netip.hexDigit? b = some lo →
      (mode = .host → 8 ≤ hi ∨ 16 * hi + lo = 37) → P rest tail →
      P ('%' :: a :: b :: rest) (Char.ofNat (16 * hi + lo) :: tail))
    (hchar : ∀ c rest tail, c ≠ '%' → (mode = .host → hostChar c = true) →
      unescape mode rest = some tail → P rest tail → P (c :: rest) (c :: tail)) :
    ∀ {l r : List Char}, unescape mode l = some r → P l r := by
  suffices h : ∀ (n : ℕ) {l r : List Char}, l.length ≤ n → unescape mode l = some r → P l r from
    fun {_ _} hl => h _ le_rfl hl
  intro n
  induction n with
  | zero =>
    intro l r hlen hl
    rw [List.length_eq_zero_iff.mp (Nat.le_zero.mp hlen)] at hl ⊢
    cases hl
    exact hnil
  | succ n ih =>
    intro l r hlen hl
    cases l with
    | nil =>
      cases hl
      exact hnil
    | cons c l =>
      rw [List.length_cons] at hlen
      rcases unescape_cons_inv hl with
        ⟨rfl, a, b, rest, hi, lo, tail, rfl, hhi, hlo, hhost, htail, rfl⟩ |
        ⟨hpercent, hhost, tail, htail, rfl⟩
      · have hrest : rest.length ≤ n := by
          simp only [List.length_cons] at hlen
          omega
        exact hescape a b hi lo rest tail hhi hlo hhost (ih hrest htail)
      · exact hchar c l tail hpercent hhost htail (ih (by omega) htail)

theorem decodes_unescape {mode : Encoding} {l r : List Char} (h : unescape mode l = some r) :
    Decodes l r := by
  refine unescape_rec (Decodes.refl (by simp)) ?_ ?_ h
  · intro a b hi lo rest tail _ _ _ ih
    have hle := ih.length_le
    refine Or.inr ⟨by simp, ?_⟩
    simp only [List.length_cons]
    omega
  · intro c rest tail hc _ _ ih
    have hone : Decodes [c] [c] := Decodes.refl (by simpa using hc.symm)
    exact hone.append ih

/-- An escape in a host stands for a percent sign or for no ASCII character. -/
theorem escape_host {a b : Char} {hi lo : ℕ} (hhi : Netip.hexDigit? a = some hi)
    (hlo : Netip.hexDigit? b = some lo) (h : 8 ≤ hi ∨ 16 * hi + lo = 37) :
    Char.ofNat (16 * hi + lo) = '%' ∨ 128 ≤ (Char.ofNat (16 * hi + lo)).toNat := by
  have hcode := toNat_ofNat_of_hexDigits hhi hlo
  rcases h with h8 | h37
  · exact Or.inr (by omega)
  · exact Or.inl (by rw [h37])

/-- The characters of an unescaped host. -/
theorem hostChar_of_mem_unescape {l r : List Char} (h : unescape .host l = some r)
    (hpercent : '%' ∉ r) : ∀ c ∈ r, hostChar c = true := by
  have hall : ∀ c ∈ r, c ≠ '%' → hostChar c = true := by
    refine @unescape_rec .host (fun _ r => ∀ c ∈ r, c ≠ '%' → hostChar c = true) (by simp) ?_ ?_
      l r h
    · intro a b hi lo rest tail hhi hlo hhigh ih c hc hne
      rcases List.mem_cons.mp hc with rfl | hc
      · have h128 := (escape_host hhi hlo (hhigh rfl)).resolve_left hne
        simp [hostChar, h128]
      · exact ih c hc hne
    · intro d rest tail _ hchar _ ih c hc hne
      rcases List.mem_cons.mp hc with rfl | hc
      · exact hchar rfl
      · exact ih c hc hne
  exact fun c hc => hall c hc fun heq => hpercent (heq ▸ hc)

theorem ofNat_ne_of_escape {a b c : Char} {hi lo : ℕ} (hhi : Netip.hexDigit? a = some hi)
    (hlo : Netip.hexDigit? b = some lo) (h : 8 ≤ hi ∨ 16 * hi + lo = 37)
    (hc : c.toNat < 128 ∧ c ≠ '%') : Char.ofNat (16 * hi + lo) ≠ c := by
  rintro rfl
  rcases escape_host hhi hlo h with hpercent | h128
  · exact hc.2 hpercent
  · omega

theorem not_mem_unescape_host {c : Char} (hc : c.toNat < 128 ∧ c ≠ '%') {l r : List Char}
    (h : unescape .host l = some r) : c ∉ l → c ∉ r := by
  refine @unescape_rec .host (fun l r => c ∉ l → c ∉ r) (fun h => h) ?_ ?_ l r h
  · intro a b hi lo rest tail hhi hlo hhigh ih hno
    simp only [List.mem_cons, not_or] at hno ⊢
    exact ⟨(ofNat_ne_of_escape hhi hlo (hhigh rfl) hc).symm, ih hno.2.2.2⟩
  · intro d rest tail _ _ _ ih hno
    simp only [List.mem_cons, not_or] at hno ⊢
    exact ⟨hno.1, ih hno.2⟩

theorem ne_colon_of_hexDigit {a : Char} {d : ℕ} (h : Netip.hexDigit? a = some d) : a ≠ ':' := by
  rintro rfl
  revert h
  simp [show Netip.hexDigit? ':' = none by decide]

/-- The port of a host is unescaped by itself. -/
theorem unescape_dropWhile {l r : List Char} (h : unescape .host l = some r) :
    unescape .host (l.dropWhile (· ≠ ':')) = some (r.dropWhile (· ≠ ':')) := by
  refine @unescape_rec .host (fun l r => unescape .host (l.dropWhile (· ≠ ':')) =
    some (r.dropWhile (· ≠ ':'))) rfl ?_ ?_ l r h
  · intro a b hi lo rest tail hhi hlo hhigh ih
    have hbyte := ofNat_ne_of_escape hhi hlo (hhigh rfl) (c := ':') (by decide)
    simpa [ne_colon_of_hexDigit hhi, ne_colon_of_hexDigit hlo, hbyte] using ih
  · intro c rest tail hpercent hchar htail ih
    by_cases hcolon : c = ':'
    · subst hcolon
      have hstays : ¬ ((Encoding.host = .host ∨ Encoding.host = .zone) ∧
          (!hostChar ':') = true) := by decide
      simp only [ne_eq, decide_not, List.dropWhile_cons, decide_true, Bool.not_true,
        Bool.false_eq_true, if_false]
      rw [unescape, if_neg hstays, htail]
      · rfl
      · exact fun _ _ _ h _ => absurd h (by decide)
      · decide
    · simpa [hcolon] using ih

/-! ### Hosts as text -/

/-- An address in brackets is a host by itself, or has a zone, which keeps its percent sign. -/
theorem unescapeLiteral_cases {s ip : String} (h : unescapeLiteral s = some ip) :
    unescape .host s.toList = some ip.toList ∨ ('%' ∈ ip.toList ∧ Decodes s.toList ip.toList) := by
  have hplain : (unescape .host s.toList).map String.ofList = some ip →
      unescape .host s.toList = some ip.toList := by
    intro h
    obtain ⟨r, hr, rfl⟩ := Option.map_eq_some_iff.mp h
    rw [hr, String.toList_ofList]
  unfold unescapeLiteral at h
  split at h
  · rename_i before zone hcut
    split_ifs at h with hzone25
    · obtain ⟨r, hr, h⟩ := Option.bind_eq_some_iff.mp h
      obtain ⟨r', hr', h⟩ := Option.bind_eq_some_iff.mp h
      cases h
      obtain ⟨tail, rfl⟩ := hasPrefix_iff.mp hzone25
      have htext : s.toList = before.toList ++ '%' :: ("25" ++ tail).toList := by
        rw [(cut_eq_some hcut).1]
        simp
      -- the escape in front of the zone stands for a percent sign
      have hpercent : '%' ∈ r' := by
        rcases unescape_cons_inv hr' with
          ⟨-, a, b, rest, hi, lo, tail', hlist, hhi, hlo, -, -, rfl⟩ | ⟨hne, -⟩
        · have hzone : ("25" ++ tail).toList = '2' :: '5' :: tail.toList := by simp
          rw [hzone] at hlist
          cases hlist
          cases hhi
          cases hlo
          exact List.mem_cons_self
        · exact absurd rfl hne
      rw [String.toList_ofList, htext]
      exact Or.inr ⟨List.mem_append_right _ hpercent,
        (decodes_unescape hr).append (decodes_unescape hr')⟩
    · exact Or.inl (hplain h)
  · exact Or.inl (hplain h)

theorem decodes_unescapeLiteral {s ip : String} (h : unescapeLiteral s = some ip) :
    Decodes s.toList ip.toList := by
  rcases unescapeLiteral_cases h with h | ⟨-, h⟩
  · exact decodes_unescape h
  · exact h

/-- The two kinds of hosts: an address in brackets, and a name. -/
theorem parseHost_cases {s host : String} (h : parseHost s = some host) :
    (∃ literal ip port, s = "[" ++ (literal ++ ("]" ++ port)) ∧
      '[' ∉ (literal ++ ("]" ++ port)).toList ∧ ']' ∉ port.toList ∧
      validOptionalPort port = true ∧ unescapeLiteral literal = some ip ∧
      (∃ n z, Netip.parseAddr ip = some (.v6 n z)) ∧ host = "[" ++ ip ++ "]" ++ port) ∨
    ('[' ∉ s.toList ∧ (∀ port, (cut ':' s).2 = some port → port.toList.all Char.isDigit = true) ∧
      unescape .host s.toList = some host.toList) := by
  have hplain : (unescape .host s.toList).map String.ofList = some host →
      unescape .host s.toList = some host.toList := by
    intro h
    obtain ⟨r, hr, rfl⟩ := Option.map_eq_some_iff.mp h
    rw [hr, String.toList_ofList]
  unfold parseHost at h
  split at h
  · rename_i before literal hopen
    obtain ⟨rfl, hno⟩ := cutLast_eq_some hopen
    split at h
    · cases h
    · rename_i hostname port hclose
      obtain ⟨rfl, hno'⟩ := cutLast_eq_some hclose
      split_ifs at h with hbad
      obtain ⟨hbefore, hport⟩ := not_or.mp hbad
      obtain ⟨ip, hip, h⟩ := Option.bind_eq_some_iff.mp h
      split at h
      · rename_i n z haddr
        cases h
        refine Or.inl ⟨hostname, ip, port, ?_, hno, hno', by simpa using hport, hip,
          ⟨n, z, haddr⟩, rfl⟩
        rw [not_not.mp hbefore, String.empty_append]
        rfl
      · cases h
  · rename_i hopen
    refine Or.inr ⟨cutLast_eq_none hopen, ?_⟩
    split at h
    · rename_i name port hcut
      split_ifs at h with hdigits
      refine ⟨?_, hplain h⟩
      intro port' hport'
      rw [hcut] at hport'
      cases hport'
      exact hdigits
    · rename_i name hcut
      refine ⟨?_, hplain h⟩
      intro port' hport'
      rw [hcut] at hport'
      cases hport'

/-- A port is written as it is. -/
theorem percent_not_mem_of_validOptionalPort {port : String} (h : validOptionalPort port = true) :
    '%' ∉ port.toList := by
  unfold validOptionalPort at h
  split at h
  · rename_i hnil
    simp [hnil]
  · rename_i rest hrest
    rw [hrest, List.mem_cons, not_or]
    exact ⟨by decide, fun hmem => absurd (List.all_eq_true.mp h '%' hmem) (by decide)⟩
  · cases h

/-- **A host is its text, or shorter than its text.** -/
theorem decodes_parseHost {s host : String} (h : parseHost s = some host) :
    Decodes s.toList host.toList := by
  rcases parseHost_cases h with ⟨literal, ip, port, rfl, -, -, hport, hip, -, rfl⟩ | ⟨-, -, h⟩
  · have hclose : Decodes ("]" ++ port).toList ("]" ++ port).toList := by
      refine Decodes.refl ?_
      rw [String.toList_append, List.mem_append, not_or]
      exact ⟨by decide, percent_not_mem_of_validOptionalPort hport⟩
    have hopen : Decodes ("[").toList ("[").toList := Decodes.refl (by decide)
    have hall := hopen.append ((decodes_unescapeLiteral hip).append hclose)
    simpa only [String.toList_append, List.append_assoc] using hall
  · exact decodes_unescape h

theorem dropWhile_cut {c : Char} {a b : String} (h : c ∉ a.toList) :
    (a ++ (String.singleton c ++ b)).toList.dropWhile (· ≠ c) = c :: b.toList := by
  have hall : ∀ x ∈ a.toList, decide (x ≠ c) = true := by
    intro x hx
    rw [decide_eq_true_eq]
    rintro rfl
    exact h hx
  rw [String.toList_append, List.dropWhile_append_of_pos hall]
  simp

/-- **A host without a percent sign reads as itself.** -/
theorem parseHost_idem {s host : String} (h : parseHost s = some host)
    (hpercent : '%' ∉ host.toList) : parseHost host = some host := by
  rcases parseHost_cases h with
    ⟨literal, ip, port, -, hopen, hclose, hport, hip, ⟨n, z, haddr⟩, rfl⟩ | ⟨hopen, hdigits, hr⟩
  · have hnoPercent : '%' ∉ ip.toList := by
      intro hmem
      exact hpercent (by simp [hmem])
    have hplain : unescape .host literal.toList = some ip.toList :=
      (unescapeLiteral_cases hip).resolve_right fun hzone => hnoPercent hzone.1
    have hself : unescapeLiteral ip = some ip := by
      unfold unescapeLiteral
      rw [cut_of_not_mem hnoPercent]
      simp only [unescape_of_hostChar (hostChar_of_mem_unescape hplain hnoPercent),
        Option.map_some, String.ofList_toList]
    have hopen' : '[' ∉ (ip ++ ("]" ++ port)).toList := by
      simp only [String.toList_append, List.mem_append, not_or] at hopen ⊢
      exact ⟨not_mem_unescape_host (by decide) hplain hopen.1, hopen.2⟩
    have htext : "[" ++ ip ++ "]" ++ port =
        "" ++ (String.singleton '[' ++ (ip ++ ("]" ++ port))) := by
      rw [String.empty_append, String.append_assoc, String.append_assoc]
      rfl
    have hcut : cutLast '[' ("[" ++ ip ++ "]" ++ port) = some ("", ip ++ ("]" ++ port)) := by
      rw [htext]
      exact cutLast_append "" hopen'
    have hcut' : cutLast ']' (ip ++ ("]" ++ port)) = some (ip, port) := cutLast_append ip hclose
    unfold parseHost
    simp [hcut, hcut', hport, hself, haddr]
  · have hopen' := not_mem_unescape_host (by decide) hr hopen
    have hself := unescape_of_hostChar (hostChar_of_mem_unescape hr hpercent)
    have hport := unescape_dropWhile hr
    unfold parseHost
    rw [cutLast_of_not_mem hopen']
    simp only [hself, Option.map_some, String.ofList_toList]
    split
    · rename_i name port hcut
      obtain ⟨rfl, hname⟩ := cut_eq_some hcut
      rw [dropWhile_cut hname] at hport
      rcases cut_cases ':' s with hno | ⟨a, p, rfl, hno⟩
      · have hnil : s.toList.dropWhile (· ≠ ':') = [] := by
          rw [List.dropWhile_eq_nil_iff]
          intro x hx
          rw [decide_eq_true_eq]
          rintro rfl
          exact hno hx
        rw [hnil] at hport
        cases hport
      · have hp := hdigits p (by rw [cut_append hno])
        have hplain : '%' ∉ ':' :: p.toList := by
          rw [List.mem_cons, not_or]
          exact ⟨by decide, fun hmem => absurd (List.all_eq_true.mp hp '%' hmem) (by decide)⟩
        rw [dropWhile_cut hno] at hport
        have hsame := ((decodes_unescape hport).resolve_right fun h => hplain h.1).2
        rw [List.cons.inj hsame |>.2, if_pos hp]
    · rfl

theorem parseAuthority_false {s host : String} (h : parseAuthority s = some (false, host)) :
    parseHost s = some host := by
  unfold parseAuthority at h
  split at h
  · obtain ⟨x, hx, hpair⟩ := Option.map_eq_some_iff.mp h
    cases hpair
    exact hx
  · obtain ⟨x, hx, hrest⟩ := Option.bind_eq_some_iff.mp h
    split_ifs at hrest
    obtain ⟨_, _, hpair⟩ := Option.bind_eq_some_iff.mp hrest
    cases hpair

theorem exists_parseHost {s host : String} {user : Bool}
    (h : parseAuthority s = some (user, host)) : ∃ text, parseHost text = some host := by
  unfold parseAuthority at h
  split at h
  · obtain ⟨x, hx, hpair⟩ := Option.map_eq_some_iff.mp h
    cases hpair
    exact ⟨s, hx⟩
  · rename_i _ text _
    obtain ⟨x, hx, hrest⟩ := Option.bind_eq_some_iff.mp h
    split_ifs at hrest
    obtain ⟨_, _, hpair⟩ := Option.bind_eq_some_iff.mp hrest
    cases hpair
    exact ⟨text, hx⟩

/-! ### The parts of a URL -/

/-- The characters of a scheme. -/
def schemeChar (c : Char) : Bool := isAlphanum c || c ∈ ['+', '-', '.']

theorem getScheme_inv {s scheme rest : String} (h : getScheme s = some (scheme, rest))
    (hne : scheme ≠ "") :
    s = scheme ++ (":" ++ rest) ∧ ∀ c ∈ scheme.toList, schemeChar c = true := by
  unfold getScheme at h
  split at h
  · cases h
    exact absurd rfl hne
  · extract_lets head at h
    split at h
    · rename_i tail htail
      split_ifs at h
      · cases h
        have hsplit : head ++ ':' :: tail = s.toList := by
          rw [← htail]
          exact List.prefix_iff_eq_append.mp (List.takeWhile_prefix _)
        constructor
        · apply String.toList_injective
          simp [← hsplit]
        · intro c hc
          rw [String.toList_ofList] at hc
          exact List.mem_takeWhile_imp hc
      · cases h
        exact absurd rfl hne
    · cases h
      exact absurd rfl hne

/-- The text of a URL with a scheme and a host, each part with the separator in front of it. -/
structure Parts where
  scheme : String
  authority : String
  path : String
  query : String
  fragment : String

def Parts.text (p : Parts) : String :=
  p.scheme ++ ("://" ++ (p.authority ++ (p.path ++ (p.query ++ p.fragment))))

/-- The parts are those of the URL. -/
structure Parts.Reads (p : Parts) (u : URL) : Prop where
  schemeChars : ∀ c ∈ p.scheme.toList, schemeChar c = true
  scheme : u.scheme = String.ofList (p.scheme.toList.map Char.toLower)
  authority : parseAuthority p.authority = some (u.user, u.host)
  slash : '/' ∉ p.authority.toList
  start : p.path = "" ∨ ∃ rest, p.path = "/" ++ rest
  path : unescape .path p.path.toList = some u.path.toList
  query : (p.query = "" ∧ u.rawQuery = "") ∨ p.query = "?" ++ u.rawQuery
  fragment : (p.fragment = "" ∧ u.fragment = "") ∨
    ∃ text, p.fragment = "#" ++ text ∧ unescape .fragment text.toList = some u.fragment.toList

/-- The text that was cut, put together again. -/
theorem cut_eq {c : Char} {s a : String} {b : Option String} (h : cut c s = (a, b)) :
    s = a ++ b.elim "" (String.singleton c ++ ·) ∧ c ∉ a.toList := by
  cases b with
  | none =>
    obtain ⟨rfl, hno⟩ := cut_eq_none h
    exact ⟨by rw [Option.elim_none, String.append_empty], hno⟩
  | some b => exact cut_eq_some h

theorem exists_parts_reference {s : String} {u : URL} (h : parseReference s = some u)
    (hscheme : u.scheme ≠ "") (hhost : u.host ≠ "") :
    ∃ p : Parts, p.text = s ∧ p.Reads u ∧ p.fragment = "" := by
  unfold parseReference at h
  split_ifs at h
  · cases h
    exact absurd rfl hhost
  · obtain ⟨⟨scheme, rest⟩, hget, h⟩ := Option.bind_eq_some_iff.mp h
    simp only at h
    rcases hquery : cut '?' rest with ⟨reference, query⟩
    simp only [hquery] at h
    split_ifs at h with hopaque hcolon hslashes
    · cases h
      exact absurd rfl hhost
    · obtain ⟨⟨user, host⟩, hauthority, h⟩ := Option.bind_eq_some_iff.mp h
      obtain ⟨path, hpath, rfl⟩ := Option.map_eq_some_iff.mp h
      obtain ⟨tail, rfl⟩ := hasPrefix_iff.mp hslashes.1
      rw [trimPrefix_append] at hauthority hpath
      rcases hcut : cut '/' tail with ⟨authority, pathText⟩
      rw [hcut] at hauthority hpath
      have hne : scheme ≠ "" := by
        rintro rfl
        exact hscheme rfl
      obtain ⟨rfl, hchars⟩ := getScheme_inv hget hne
      obtain ⟨rfl, -⟩ := cut_eq hquery
      obtain ⟨rfl, hslash⟩ := cut_eq hcut
      refine ⟨⟨scheme, authority, pathText.elim "" ("/" ++ ·), query.elim "" ("?" ++ ·), ""⟩,
        ?_, ⟨hchars, rfl, hauthority, hslash, ?_, by simpa using hpath, ?_, Or.inl ⟨rfl, rfl⟩⟩, rfl⟩
      · apply String.toList_injective
        simp only [Parts.text, String.toList_append]
        simp
      · cases pathText with
        | none => exact Or.inl rfl
        | some rest => exact Or.inr ⟨rest, rfl⟩
      · cases query with
        | none => exact Or.inl ⟨rfl, rfl⟩
        | some query => exact Or.inr rfl
    · obtain ⟨path, hpath, rfl⟩ := Option.map_eq_some_iff.mp h
      exact absurd rfl hhost

/-- **The text of a URL with a scheme and a host, part by part.** -/
theorem exists_parts {s : String} {u : URL} (h : parse s = some u) (hscheme : u.scheme ≠ "")
    (hhost : u.host ≠ "") : ∃ p : Parts, p.text = s ∧ p.Reads u := by
  unfold parse at h
  split at h
  · rename_i reference hcut
    obtain ⟨rfl, -⟩ := cut_eq_none hcut
    obtain ⟨p, htext, hp, -⟩ := exists_parts_reference h hscheme hhost
    exact ⟨p, htext, hp⟩
  · rename_i reference fragment hcut
    obtain ⟨v, hv, h⟩ := Option.bind_eq_some_iff.mp h
    obtain ⟨f, hf, h⟩ := Option.bind_eq_some_iff.mp h
    cases h
    obtain ⟨rfl, -⟩ := cut_eq_some hcut
    obtain ⟨p, rfl, hp, hnone⟩ := exists_parts_reference hv hscheme hhost
    refine ⟨{ p with fragment := "#" ++ fragment }, ?_, ⟨hp.schemeChars, hp.scheme, hp.authority,
      hp.slash, hp.start, hp.path, hp.query, Or.inr ⟨fragment, rfl, by simpa using hf⟩⟩⟩
    apply String.toList_injective
    simp [Parts.text, hnone]

/-! ### Base URLs -/

/-- Only a letter becomes a lower-case letter. -/
theorem eq_of_toLower_eq {c d : Char} (hd : d.toNat < 97) (h : c.toLower = d) : c = d := by
  unfold Char.toLower at h
  split at h
  · rename_i hupper
    have h65 : 65 ≤ c.toNat := UInt32.le_iff_toNat_le.mp hupper.1
    have h90 : c.toNat ≤ 90 := UInt32.le_iff_toNat_le.mp hupper.2
    have hcode : d.toNat = c.toNat + 32 := by
      rw [← h]
      show (c.val + 32).toNat = c.toNat + 32
      rw [UInt32.toNat_add]
      show (c.toNat + 32) % 2 ^ 32 = c.toNat + 32
      omega
    omega
  · exact h

theorem hostRefused_of_isCTL {c : Char} (h : isCTL c = true) : hostRefused c = true := by
  have hall : ∀ n < 128, isCTL (Char.ofNat n) = true → hostRefused (Char.ofNat n) = true := by
    decide +kernel
  have hlt : c.toNat < 128 := by
    unfold isCTL at h
    simp only [Bool.or_eq_true, decide_eq_true_eq] at h
    omega
  have hc := hall c.toNat hlt
  rw [Char.ofNat_toNat] at hc
  exact hc h

theorem isBase_iff {s : String} : isBase s = true ↔ ∃ u, parse s = some u ∧ u.scheme ≠ "" ∧
    u.hostname ≠ "" ∧ hasSuffix u.host ":" = false ∧ u.user = false ∧ u.path = "" ∧
    u.rawQuery = "" ∧ u.fragment = "" ∧ s = u.base := by
  unfold isBase
  rw [Option.any_eq_true]
  simp only [Bool.and_eq_true, decide_eq_true_eq, Bool.not_eq_true', and_assoc]

theorem host_ne_of_hostname {u : URL} (h : u.hostname ≠ "") : u.host ≠ "" := by
  intro hempty
  apply h
  unfold URL.hostname
  rw [hempty]
  decide

theorem hostname_congr {u v : URL} (h : u.host = v.host) : u.hostname = v.hostname := by
  unfold URL.hostname
  rw [h]

/-- The scheme of a text can be told from what follows it. -/
theorem scheme_append_inj {a b s t : String} (ha : ':' ∉ a.toList) (hb : ':' ∉ b.toList)
    (h : a ++ ("://" ++ s) = b ++ ("://" ++ t)) : a = b ∧ s = t := by
  have hcut : ∀ {x y : String}, ':' ∉ x.toList →
      cut ':' (x ++ ("://" ++ y)) = (x, some ("//" ++ y)) := by
    intro x y hx
    have htext : x ++ ("://" ++ y) = x ++ (String.singleton ':' ++ ("//" ++ y)) := by
      apply String.toList_injective
      simp
    rw [htext]
    exact cut_append hx _
  have hpair := (hcut ha).symm.trans (h ▸ hcut hb)
  simp only [Prod.mk.injEq, Option.some.injEq] at hpair
  exact ⟨hpair.1, (String.append_right_inj _).mp hpair.2⟩

/-- The scheme of a URL has only the characters of a scheme. -/
theorem Parts.Reads.not_mem_scheme {p : Parts} {u : URL} (h : p.Reads u) {c : Char}
    (hlower : c.toNat < 97) (hc : schemeChar c = false) : c ∉ u.scheme.toList := by
  rw [h.scheme, String.toList_ofList]
  intro hmem
  obtain ⟨d, hd, htoLower⟩ := List.mem_map.mp hmem
  have hchar := h.schemeChars d hd
  rw [eq_of_toLower_eq hlower htoLower, hc] at hchar
  cases hchar

theorem colon_not_mem_scheme {scheme : String} (h : scheme ∈ ["http", "https"]) :
    ':' ∉ scheme.toList := by
  revert scheme
  decide

theorem scheme_ne_empty {scheme : String} (h : scheme ∈ ["http", "https"]) : scheme ≠ "" := by
  rintro rfl
  exact absurd h (by decide)

theorem scheme_parse {scheme t : String} {u : URL} (hscheme : scheme ∈ ["http", "https"])
    (h : parse (scheme ++ ("://" ++ t)) = some u) : u.scheme = scheme := by
  have hlowers : ∀ x ∈ ["http", "https"], String.ofList (x.toList.map Char.toLower) = x := by decide
  have hhashes : ∀ x ∈ ["http", "https"], '#' ∉ x.toList := by decide
  have hfront : ∀ {a : String}, '#' ∉ a.toList → '#' ∉ (scheme ++ ("://" ++ a)).toList := by
    intro a ha
    simp only [String.toList_append, List.mem_append, not_or]
    exact ⟨hhashes scheme hscheme, by decide, ha⟩
  have hreference : ∀ {t : String} {u : URL}, parseReference (scheme ++ ("://" ++ t)) = some u →
      u.scheme = scheme := by
    intro t u h
    unfold parseReference at h
    rw [getScheme_append hscheme] at h
    split_ifs at h with hctl hstar
    · have hcolon : ':' ∈ (scheme ++ ("://" ++ t)).toList := by simp
      rw [hstar] at hcolon
      exact absurd hcolon (by decide)
    · simp only [Option.bind_eq_bind, Option.bind_some] at h
      split_ifs at h
      · cases h
        exact hlowers scheme hscheme
      · obtain ⟨_, _, h⟩ := Option.bind_eq_some_iff.mp h
        obtain ⟨_, _, rfl⟩ := Option.map_eq_some_iff.mp h
        exact hlowers scheme hscheme
      · obtain ⟨_, _, rfl⟩ := Option.map_eq_some_iff.mp h
        exact hlowers scheme hscheme
  unfold parse at h
  split at h
  · rename_i reference hcut
    obtain ⟨rfl, -⟩ := cut_eq_none hcut
    exact hreference h
  · rename_i reference fragment hcut
    obtain ⟨v, hv, h⟩ := Option.bind_eq_some_iff.mp h
    obtain ⟨_, _, h⟩ := Option.bind_eq_some_iff.mp h
    cases h
    rcases cut_cases '#' t with hno | ⟨a, b, rfl, hno⟩
    · rw [cut_of_not_mem (hfront hno)] at hcut
      cases hcut
    · have htext : scheme ++ ("://" ++ (a ++ (String.singleton '#' ++ b))) =
          scheme ++ ("://" ++ a) ++ (String.singleton '#' ++ b) := by
        simp only [String.append_assoc]
      rw [htext, cut_append (hfront hno)] at hcut
      cases hcut
      have hv' : v.scheme = scheme := hreference hv
      exact hv'

section Base

variable {s : String} {u : URL} (hparse : parse s = some u)

include hparse

/-- **A URL that is its own base has no escape.** -/
theorem percent_not_mem_of_eq_base (hscheme : u.scheme ≠ "") (hhost : u.host ≠ "")
    (huser : u.user = false) (hbase : s = u.base) : '%' ∉ s.toList := by
  obtain ⟨p, htext, hp⟩ := exists_parts hparse hscheme hhost
  have hdecodes := decodes_parseHost (parseAuthority_false (huser ▸ hp.authority))
  have hschemeLen : u.scheme.toList.length = p.scheme.toList.length := by
    rw [hp.scheme, String.toList_ofList, List.length_map]
  have hlen := congrArg (fun x => x.toList.length) (htext.trans hbase)
  simp only [Parts.text, URL.base, String.toList_append, List.length_append] at hlen
  -- an escape would make the base shorter than the text
  have hplain : '%' ∉ u.host.toList := by
    rcases hdecodes with ⟨hno, hsame⟩ | ⟨-, hlt⟩
    · rwa [hsame]
    · omega
  rw [hbase, URL.base]
  simp only [String.toList_append, List.mem_append, not_or]
  exact ⟨hp.not_mem_scheme (by decide) (by decide), by decide, hplain⟩

variable (hscheme : u.scheme ∈ ["http", "https"]) (hhost : u.host ≠ "")

include hscheme hhost

/-- A host without a percent sign is an authority. -/
theorem parseAuthority_host (hpercent : '%' ∉ u.host.toList) :
    parseAuthority u.host = some (false, u.host) := by
  obtain ⟨p, -, hp⟩ := exists_parts hparse (scheme_ne_empty hscheme) hhost
  obtain ⟨text, htext⟩ := exists_parseHost hp.authority
  unfold parseAuthority
  rw [cutLast_of_not_mem (not_mem_host (by decide) hparse)]
  simp only [parseHost_idem htext hpercent, Option.map_some]

omit hscheme hhost in
theorem no_separator_host :
    ∀ c ∈ u.host.toList, c ≠ '#' ∧ c ≠ '?' ∧ isCTL c = false := by
  have hno : ∀ {d : Char}, hostRefused d = true → d ∉ u.host.toList := fun hd =>
    not_mem_host hd hparse
  intro c hc
  refine ⟨?_, ?_, ?_⟩
  · rintro rfl
    exact hno (by decide) hc
  · rintro rfl
    exact hno (by decide) hc
  · rw [Bool.eq_false_iff]
    exact fun hctl => hno (hostRefused_of_isCTL hctl) hc

theorem parse_base (hpercent : '%' ∉ u.host.toList) :
    parse u.base = some { scheme := u.scheme, host := u.host } :=
  parse_authority hscheme (slash_not_mem_host hparse) (no_separator_host hparse)
    (parseAuthority_host hparse hscheme hhost hpercent)

/-- **The base of a URL is a base URL** if there is a host name, no zone and no empty port. -/
theorem isBase_base_iff : isBase u.base = true ↔
    u.hostname ≠ "" ∧ '%' ∉ u.host.toList ∧ hasSuffix u.host ":" = false := by
  have hne := scheme_ne_empty hscheme
  rw [isBase_iff]
  constructor
  · rintro ⟨v, hv, hvscheme, hvname, hvport, hvuser, -, -, -, hvbase⟩
    obtain ⟨p, -, hp⟩ := exists_parts hparse hne hhost
    have hvhost := host_ne_of_hostname hvname
    obtain ⟨q, -, hq⟩ := exists_parts hv hvscheme hvhost
    have hpercent := percent_not_mem_of_eq_base hv hvscheme hvhost hvuser hvbase
    have hsame := (scheme_append_inj (hp.not_mem_scheme (by decide) (by decide))
      (hq.not_mem_scheme (by decide) (by decide)) hvbase).2
    refine ⟨by rwa [hostname_congr hsame], ?_, by rwa [hsame]⟩
    intro hmem
    exact hpercent (by simp [URL.base, hmem])
  · rintro ⟨hname, hpercent, hport⟩
    exact ⟨_, parse_base hparse hscheme hhost hpercent, hne, hname, hport, rfl, rfl, rfl, rfl, rfl⟩

end Base

theorem unescape_slashes (n : ℕ) :
    unescape .path (List.replicate n '/') = some (List.replicate n '/') := by
  induction n with
  | zero => rfl
  | succ n ih =>
    rw [List.replicate_succ, unescape, ih]
    · rfl
    · exact fun _ _ _ h _ => absurd h (by decide)
    · decide

/-- **Slashes behind a base URL are its path.** -/
theorem parse_base_slashes {s t scheme : String} {n : ℕ} (hbase : isBase s = true)
    (hscheme : scheme ∈ ["http", "https"])
    (htext : s ++ String.ofList (List.replicate n '/') = scheme ++ ("://" ++ t)) :
    ∃ u, parse (scheme ++ ("://" ++ t)) = some u ∧ u.scheme ≠ "" ∧ u.host ≠ "" := by
  obtain ⟨v, hv, hvscheme, hvname, -, hvuser, -, -, -, rfl⟩ := isBase_iff.mp hbase
  have hvhost := host_ne_of_hostname hvname
  obtain ⟨p, -, hp⟩ := exists_parts hv hvscheme hvhost
  have hpercent : '%' ∉ v.host.toList := by
    have hno := percent_not_mem_of_eq_base hv hvscheme hvhost hvuser rfl
    intro hmem
    exact hno (by simp [URL.base, hmem])
  have hsame : v.scheme = scheme ∧ v.host ++ String.ofList (List.replicate n '/') = t := by
    refine scheme_append_inj (hp.not_mem_scheme (by decide) (by decide))
      (colon_not_mem_scheme hscheme) ?_
    rw [← htext, URL.base]
    simp only [String.append_assoc]
  obtain ⟨rfl, rfl⟩ := hsame
  have hauthority := parseAuthority_host hv hscheme hvhost hpercent
  have hslash := slash_not_mem_host hv
  have hno := no_separator_host hv
  -- the first slash separates the path
  obtain ⟨path, hpath⟩ : ∃ path : Option String,
      String.ofList (List.replicate n '/') = path.elim "" ("/" ++ ·) := by
    cases n with
    | zero => exact ⟨none, rfl⟩
    | succ n =>
      refine ⟨some (String.ofList (List.replicate n '/')), ?_⟩
      apply String.toList_injective
      simp [List.replicate_succ]
  have hlist : (path.elim "" ("/" ++ ·)).toList = List.replicate n '/' := by
    rw [← hpath, String.toList_ofList]
  have hslashes : ∀ c ∈ (v.host ++ path.elim "" ("/" ++ ·)).toList,
      c ≠ '#' ∧ c ≠ '?' ∧ isCTL c = false := by
    intro c hc
    rw [String.toList_append, hlist, List.mem_append] at hc
    rcases hc with hc | hc
    · exact hno c hc
    · rw [List.eq_of_mem_replicate hc]
      decide
  have hunescape : unescape .path (path.elim "" ("/" ++ ·)).toList =
      some (List.replicate n '/') := by
    rw [hlist, unescape_slashes]
  rw [hpath]
  exact ⟨_, parse_authority_path hscheme hauthority hslash hunescape hslashes, hvscheme, hvhost⟩

end OpenchamiOperator.Lib.Url
