import OpenchamiOperator.Api.Webhook
import OpenchamiOperator.Lib.UrlBase
import OpenchamiOperator.Reconcilers.Services

/-! # The shape of the base issuer

Vault takes an issuer that is a scheme and a host, perhaps with a port. `VaultOIDCIssuerBase` makes
one of the issuer of the control plane or, without one, of the address of Vault. The webhook looks
at the parts of the issuer, and of the address only at its front.

* `eq_trimSuffix_iff`: which of the issuers that the webhook admits are kept as they are written.
* `isBase_address_iff`: which of the addresses that it admits give an issuer for Vault.
* `vaultOIDCIssuerBase_shape_iff`: both together. -/

namespace OpenchamiOperator.Vault

open Lib Strings Api Webhook Reconcilers

/-! ### Conditions -/

/-- An address with a host name, without a zone and without an empty port. -/
def usableAddress (addr : String) : Bool :=
  (Url.parse addr).any fun u =>
    u.hostname ≠ "" && '%' ∉ u.host.toList && !hasSuffix u.host ":"

/-- An issuer that is written with a scheme in lower case, without an escape, without the separators
of a query and a fragment and without an empty port. -/
def plainIssuer (issuer : String) : Bool :=
  (hasPrefix issuer "http://" || hasPrefix issuer "https://") && '?' ∉ issuer.toList &&
    '#' ∉ issuer.toList && '%' ∉ issuer.toList && !hasSuffix (trimSuffix issuer "/") ":"

/-- What the source of the base issuer has to look like. -/
def issuerSourcePlain (cp : ControlPlane) : Bool :=
  if trimSpace cp.spec.platform.vault.oidcIssuer = "" then usableAddress (vaultAddress cp)
  else plainIssuer (trimSpace cp.spec.platform.vault.oidcIssuer)

/-! ### The address -/

theorem exists_slashes (s : String) :
    ∃ n, s = trimSlashes s ++ String.ofList (List.replicate n '/') := by
  have hall : ∀ c ∈ (s.toList.reverse.takeWhile (· = '/')).reverse, c = '/' := by
    intro c hc
    simpa using List.mem_takeWhile_imp (List.mem_reverse.mp hc)
  refine ⟨(s.toList.reverse.takeWhile (· = '/')).reverse.length, ?_⟩
  rw [← List.eq_replicate_of_mem hall]
  apply String.toList_injective
  unfold trimSlashes
  rw [String.toList_append, String.toList_ofList, String.toList_ofList, ← List.reverse_append,
    List.takeWhile_append_dropWhile, List.reverse_reverse]

/-- What is left when no scheme and host are found, and the slashes that are gone. -/
theorem exists_slashes_fallback (s : String) :
    ∃ n, trimSlashes (trimSuffix s "/") ++ String.ofList (List.replicate n '/') = s := by
  obtain ⟨n, hn⟩ := exists_slashes (trimSuffix s "/")
  rcases trimSuffix_cases s "/" with hsame | hone
  · exact ⟨n, by rw [← hn, hsame]⟩
  · refine ⟨n + 1, ?_⟩
    have hsucc : String.ofList (List.replicate (n + 1) '/') =
        String.ofList (List.replicate n '/') ++ "/" := by
      apply String.toList_injective
      simp [List.replicate_succ']
    rw [hsucc, ← String.append_assoc, ← hn, ← hone]

/-- An address that the webhook admits starts with its scheme, also without its blanks. -/
theorem exists_scheme_vaultAddress {cp : ControlPlane}
    (h : isAllowedVaultAddress cp.spec.platform.vault.address = true) :
    ∃ scheme ∈ ["http", "https"], ∃ t, vaultAddress cp = scheme ++ ("://" ++ t) := by
  have hfront : ∀ scheme ∈ ["http", "https"],
      hasPrefix cp.spec.platform.vault.address (scheme ++ "://") = true →
      ∃ t, vaultAddress cp = scheme ++ ("://" ++ t) := by
    intro scheme hscheme hhead
    obtain ⟨t, ht⟩ := hasPrefix_iff.mp hhead
    have hblanks : ∀ x ∈ ["http", "https"],
        (x ++ "://").toList.dropWhile isSpace = (x ++ "://").toList ∧
        (x ++ "://").toList.reverse.dropWhile isSpace = (x ++ "://").toList.reverse ∧
        (x ++ "://").toList ≠ [] := by decide
    obtain ⟨hstart, hend, hne⟩ := hblanks scheme hscheme
    obtain ⟨t', ht'⟩ := exists_trimSpace_append hstart hend hne t
    refine ⟨t', ?_⟩
    rw [vaultAddress, ht, ht', String.append_assoc]
  unfold isAllowedVaultAddress at h
  rcases Bool.or_eq_true_iff.mp h with h | h
  · exact ⟨"https", by decide, hfront "https" (by decide) h⟩
  · exact ⟨"http", by decide, hfront "http" (by decide) (Bool.and_eq_true_iff.mp h).1⟩

/-- **The address of Vault as an issuer.** -/
theorem isBase_address_iff {cp : ControlPlane}
    (hallowed : isAllowedVaultAddress cp.spec.platform.vault.address = true)
    (hunset : trimSpace cp.spec.platform.vault.oidcIssuer = "") :
    Url.isBase (vaultOIDCIssuerBase cp) = true ↔ usableAddress (vaultAddress cp) = true := by
  obtain ⟨scheme, hscheme, t, haddress⟩ := exists_scheme_vaultAddress hallowed
  have hne := Url.scheme_ne_empty hscheme
  obtain ⟨n, hslashes⟩ := exists_slashes_fallback (vaultAddress cp)
  rw [haddress] at hslashes
  -- what is left of a text that is no URL with a host is none either
  have hfallback : (∀ u, Url.parse (scheme ++ ("://" ++ t)) = some u → u.host = "") →
      Url.isBase (trimSlashes (trimSuffix (scheme ++ ("://" ++ t)) "/")) ≠ true := by
    intro hnone hbase
    obtain ⟨u, hu, -, hhost⟩ := Url.parse_base_slashes hbase hscheme hslashes
    exact hhost (hnone u hu)
  unfold vaultOIDCIssuerBase usableAddress
  simp only [hunset, if_true, haddress]
  cases hparse : Url.parse (scheme ++ ("://" ++ t)) with
  | none =>
    have hno := hfallback (by simp [hparse])
    simp [hno]
  | some u =>
    have hu := Url.scheme_parse hscheme hparse
    by_cases hhost : u.host = ""
    · have hno := hfallback (by simp [hparse, hhost])
      have hname : u.hostname = "" := by
        by_contra h
        exact Url.host_ne_of_hostname h hhost
      simp [hhost, hno, hname]
    · simp only
      rw [if_neg (by simp [hu, hne, hhost])]
      have hiff := Url.isBase_base_iff hparse (hu ▸ hscheme) hhost
      rw [Url.URL.base, ← String.append_assoc] at hiff
      rw [hiff]
      simp [and_assoc]

/-! ### The issuer -/

theorem unescape_eq_nil {mode : Url.Encoding} {l : List Char}
    (h : Url.unescape mode l = some []) : l = [] := by
  cases l with
  | nil => rfl
  | cons c l =>
    rcases Url.unescape_cons_inv h with
      ⟨-, _, _, _, _, _, _, -, -, -, -, -, hcons⟩ | ⟨-, -, _, -, hcons⟩
    · cases hcons
    · cases hcons

/-- An issuer that the webhook admits: what follows the authority is a slash at most, and the
separators of an empty query and an empty fragment. -/
structure IssuerText (s : String) (u : Url.URL) (p : Url.Parts) : Prop where
  parse : Url.parse s = some u
  scheme : u.scheme ∈ ["http", "https"]
  hostname : u.hostname ≠ ""
  text : p.text = s
  reads : p.Reads u
  authority : Url.parseHost p.authority = some u.host
  path : p.path = "" ∨ p.path = "/"
  query : p.query = "" ∨ p.query = "?"
  fragment : p.fragment = "" ∨ p.fragment = "#"

theorem exists_issuerText {s : String} (h : isValidOIDCIssuer s = true) :
    ∃ u p, IssuerText s u p := by
  unfold isValidOIDCIssuer at h
  obtain ⟨u, hparse, h⟩ := (Option.any_eq_true _ _).mp h
  simp only [Bool.and_eq_true, Bool.or_eq_true, decide_eq_true_eq, Bool.not_eq_true'] at h
  obtain ⟨⟨⟨⟨⟨⟨hscheme, hname⟩, huser⟩, hpath⟩, hquery⟩, hfragment⟩, -⟩ := h
  have hscheme' : u.scheme ∈ ["http", "https"] := by simpa using hscheme
  obtain ⟨p, htext, hp⟩ := Url.exists_parts hparse (Url.scheme_ne_empty hscheme')
    (Url.host_ne_of_hostname hname)
  refine ⟨u, p, hparse, hscheme', hname, htext, hp,
    Url.parseAuthority_false (huser ▸ hp.authority), ?_, ?_, ?_⟩
  · rcases hp.start with hstart | ⟨rest, hstart⟩
    · exact Or.inl hstart
    · have hdecoded := hp.path
      have hlist : p.path.toList = '/' :: rest.toList := by simp [hstart]
      rw [hlist] at hdecoded
      rcases Url.unescape_cons_inv hdecoded with ⟨hslash, -⟩ | ⟨-, -, tail, htail, hcons⟩
      · exact absurd hslash (by decide)
      · have hnil : tail = [] := by
          rcases hpath with hpath | hpath
          · rw [hpath] at hcons
            cases hcons
          · rw [hpath] at hcons
            exact (List.cons.inj hcons).2.symm
        rw [hnil] at htail
        refine Or.inr ?_
        rw [hstart, String.toList_eq_nil_iff.mp (unescape_eq_nil htail)]
        rfl
  · rcases hp.query with ⟨hnone, -⟩ | hsome
    · exact Or.inl hnone
    · rw [hquery] at hsome
      exact Or.inr hsome
  · rcases hp.fragment with ⟨hnone, -⟩ | ⟨text, hsome, hdecoded⟩
    · exact Or.inl hnone
    · rw [hfragment] at hdecoded
      rw [String.toList_eq_nil_iff.mp (unescape_eq_nil hdecoded)] at hsome
      exact Or.inr hsome

/-- The text in front of a slash at its end. -/
theorem cut_fst_slash {a x : String} (ha : '/' ∉ a.toList) (hx : x = "" ∨ x = "/") :
    (cut '/' (a ++ x)).1 = a := by
  rcases hx with rfl | rfl
  · rw [String.append_empty, cut_of_not_mem ha]
  · exact congrArg Prod.fst (cut_append ha "")

section Issuer

variable {s : String} {u : Url.URL} {p : Url.Parts} (h : IssuerText s u p)

include h

/-- Without the separators of a query and a fragment, the issuer is a scheme, a host and a slash. -/
theorem IssuerText.eq_append (hquery : '?' ∉ s.toList) (hfragment : '#' ∉ s.toList) :
    s = p.scheme ++ ("://" ++ (p.authority ++ p.path)) := by
  have hq : p.query = "" := by
    refine h.query.resolve_right fun hq => hquery ?_
    rw [← h.text, Url.Parts.text, hq]
    simp
  have hf : p.fragment = "" := by
    refine h.fragment.resolve_right fun hf => hfragment ?_
    rw [← h.text, Url.Parts.text, hf]
    simp
  rw [← h.text, Url.Parts.text, hq, hf]
  simp

theorem IssuerText.colon_not_mem : ':' ∉ p.scheme.toList := by
  intro hmem
  exact absurd (h.reads.schemeChars ':' hmem) (by decide)

theorem IssuerText.not_mem_base {c : Char} (hlower : c.toNat < 97)
    (hscheme : Url.schemeChar c = false) (hmiddle : c ∉ ("://").toList)
    (hhost : c ∉ u.host.toList) : c ∉ u.base.toList := by
  rw [Url.URL.base]
  simp only [String.toList_append, List.mem_append, not_or]
  exact ⟨h.reads.not_mem_scheme hlower hscheme, hmiddle, hhost⟩

/-- **An issuer is kept as it is written**, but for a slash at its end, when its scheme is in lower
case and it has neither an escape nor the separators of a query and a fragment. -/
theorem IssuerText.eq_trimSuffix_iff : u.base = trimSuffix s "/" ↔
    (hasPrefix s "http://" = true ∨ hasPrefix s "https://" = true) ∧ '?' ∉ s.toList ∧
      '#' ∉ s.toList ∧ '%' ∉ s.toList := by
  have hslash := Url.slash_not_mem_host h.parse
  have hhost := Url.host_ne_of_hostname h.hostname
  constructor
  · intro hbase
    obtain ⟨x, hx, rfl⟩ : ∃ x, (x = "" ∨ x = "/") ∧ s = u.base ++ x := by
      rcases trimSuffix_cases s "/" with hsame | hone
      · exact ⟨"", Or.inl rfl, by rw [hbase, hsame, String.append_empty]⟩
      · exact ⟨"/", Or.inr rfl, by rw [hbase]; exact hone⟩
    have hno : ∀ {c : Char}, c.toNat < 97 → Url.schemeChar c = false → c ∉ ("://").toList →
        c ∉ u.host.toList → c ∉ (u.base ++ x).toList := by
      intro c hlower hscheme hmiddle hhost
      rw [String.toList_append, List.mem_append, not_or]
      refine ⟨h.not_mem_base hlower hscheme hmiddle hhost, ?_⟩
      rcases hx with rfl | rfl
      · simp
      · intro hmem
        rw [List.mem_singleton.mp hmem] at hmiddle
        exact hmiddle (by decide)
    have hquery := hno (show ('?').toNat < 97 by decide) (by decide) (by decide)
      (Url.not_mem_host (by decide) h.parse)
    have hfragment := hno (show ('#').toNat < 97 by decide) (by decide) (by decide)
      (Url.not_mem_host (by decide) h.parse)
    -- what stands in front of the first slash is the authority, and the host
    have hauthority : p.authority = u.host := by
      have hsame := h.eq_append hquery hfragment
      rw [Url.URL.base, String.append_assoc, String.append_assoc] at hsame
      have hrest := (Url.scheme_append_inj (h.reads.not_mem_scheme (by decide) (by decide))
        h.colon_not_mem hsame).2
      rw [← cut_fst_slash h.reads.slash h.path, ← hrest, cut_fst_slash hslash hx]
    have hpercent : '%' ∉ u.host.toList := by
      have hdecodes := Url.decodes_parseHost h.authority
      rw [hauthority] at hdecodes
      exact (hdecodes.resolve_right fun hlt => lt_irrefl _ hlt.2).1
    refine ⟨?_, hquery, hfragment, hno (by decide) (by decide) (by decide) hpercent⟩
    have hfront : hasPrefix (u.base ++ x) (u.scheme ++ "://") = true := by
      rw [Url.URL.base, ← String.append_assoc, String.append_assoc]
      exact hasPrefix_append _ _
    have hscheme := h.scheme
    simp only [List.mem_cons, List.not_mem_nil, or_false] at hscheme
    rcases hscheme with hs | hs
    · rw [hs] at hfront
      exact Or.inl hfront
    · rw [hs] at hfront
      exact Or.inr hfront
  · rintro ⟨hhead, hquery, hfragment, hpercent⟩
    have htext := h.eq_append hquery hfragment
    obtain ⟨scheme, hscheme, t, hfront⟩ :
        ∃ scheme ∈ ["http", "https"], ∃ t, s = scheme ++ ("://" ++ t) := by
      rcases hhead with hhead | hhead
      · obtain ⟨t, ht⟩ := hasPrefix_iff.mp hhead
        exact ⟨"http", by decide, t, by rw [ht, ← String.append_assoc]; rfl⟩
      · obtain ⟨t, ht⟩ := hasPrefix_iff.mp hhead
        exact ⟨"https", by decide, t, by rw [ht, ← String.append_assoc]; rfl⟩
    have hlower : u.scheme = p.scheme := by
      have hsame := (Url.scheme_append_inj (Url.colon_not_mem_scheme hscheme) h.colon_not_mem
        (hfront.symm.trans htext)).1
      rw [Url.scheme_parse hscheme (hfront ▸ h.parse), hsame]
    have hauthority : u.host = p.authority := by
      have hdecodes := Url.decodes_parseHost h.authority
      have hno : '%' ∉ p.authority.toList := by
        intro hmem
        rw [htext] at hpercent
        exact hpercent (by simp [hmem])
      exact String.toList_injective (hdecodes.resolve_right fun hyes => hno hyes.1).2
    have hs : s = u.base ++ p.path := by
      rw [Url.URL.base, hlower, hauthority, String.append_assoc, String.append_assoc]
      exact htext
    rcases h.path with hpath | hpath
    · rw [hs, hpath, String.append_empty, trimSuffix_of_not]
      rw [Bool.eq_false_iff]
      intro hsuffix
      obtain ⟨t, ht⟩ := hasSuffix_iff.mp hsuffix
      have hlast := congrArg (fun x => x.toList.getLast?) ht
      have hne : u.host.toList ≠ [] := by
        rwa [ne_eq, String.toList_eq_nil_iff]
      simp only [Url.URL.base, String.toList_append] at hlast
      rw [← List.append_assoc, List.getLast?_append_of_ne_nil _ hne] at hlast
      exact hslash (List.mem_of_getLast? (hlast.trans (by simp)))
    · rw [hs, hpath, trimSuffix_append]

end Issuer

/-- The issuer of the control plane is what the webhook looked at. -/
theorem vaultOIDCIssuerBase_of_issuer {cp : ControlPlane} {u : Url.URL} {p : Url.Parts}
    (hset : trimSpace cp.spec.platform.vault.oidcIssuer ≠ "")
    (h : IssuerText (trimSpace cp.spec.platform.vault.oidcIssuer) u p) :
    vaultOIDCIssuerBase cp = u.base := by
  have hscheme := Url.scheme_ne_empty h.scheme
  have hhost := Url.host_ne_of_hostname h.hostname
  unfold vaultOIDCIssuerBase
  simp only [hset, if_false, h.parse]
  rw [if_neg (by simp [hscheme, hhost]), Url.URL.base, String.append_assoc]

/-- An issuer that is kept as it is written ends with its port if its host does. -/
theorem hasSuffix_base {u : Url.URL} (hhost : u.host ≠ "") :
    hasSuffix u.base ":" = hasSuffix u.host ":" := by
  have hne : u.host.toList ≠ [] := by
    rwa [ne_eq, String.toList_eq_nil_iff]
  rw [Bool.eq_iff_iff, hasSuffix_iff, hasSuffix_iff]
  constructor
  · rintro ⟨t, ht⟩
    have hlast : u.host.toList.getLast? = some ':' := by
      have hlast := congrArg (fun x => x.toList.getLast?) ht
      simp only [Url.URL.base, String.toList_append] at hlast
      rw [← List.append_assoc, List.getLast?_append_of_ne_nil _ hne] at hlast
      exact hlast.trans (by simp)
    obtain ⟨l, hl⟩ := List.getLast?_eq_some_iff.mp hlast
    exact ⟨String.ofList l, String.toList_injective (by simp [hl])⟩
  · rintro ⟨t, ht⟩
    refine ⟨u.scheme ++ ("://" ++ t), ?_⟩
    rw [Url.URL.base, ht]
    simp only [String.append_assoc]

/-- The two rules of the webhook about the address of Vault and the issuer. -/
theorem vault_rules {s : ControlPlaneSpec}
    (h : ∀ e ∈ validateVault s,
      e.field ∉ ["spec.platform.vault.address", "spec.platform.vault.oidcIssuer"]) :
    isAllowedVaultAddress s.platform.vault.address = true ∧
      (trimSpace s.platform.vault.oidcIssuer ≠ "" →
        isValidOIDCIssuer (trimSpace s.platform.vault.oidcIssuer) = true) := by
  have hreported : ∀ {cond : Bool} {e : FieldError}, cond = true → e ∈ errIf cond e := by
    intro cond e hcond
    simp [errIf, hcond]
  unfold validateVault at h
  constructor
  · by_contra hno
    refine h _ (List.mem_append_left _ (List.mem_append_left _ (List.mem_append_left _
      (hreported ?_)))) (by simp)
    simpa using hno
  · intro hset
    by_contra hno
    refine h _ (List.mem_append_left _ (List.mem_append_left _ (List.mem_append_right _
      (hreported ?_)))) (by simp)
    simpa [hset] using hno

/-- **The shape of the base issuer.** For an address and an issuer that the webhook admits, the base
issuer is a scheme and a host, perhaps with a port, and is the issuer as it is written but for a
slash at its end, exactly when the text it is made of is a plain one. -/
theorem vaultOIDCIssuerBase_shape_iff (cp : ControlPlane)
    (hadmitted : ∀ e ∈ validateVault cp.spec,
      e.field ∉ ["spec.platform.vault.address", "spec.platform.vault.oidcIssuer"]) :
    (Url.isBase (vaultOIDCIssuerBase cp) = true ∧
      (trimSpace cp.spec.platform.vault.oidcIssuer ≠ "" → vaultOIDCIssuerBase cp =
        trimSuffix (trimSpace cp.spec.platform.vault.oidcIssuer) "/")) ↔
      issuerSourcePlain cp = true := by
  obtain ⟨haddress, hissuer⟩ := vault_rules hadmitted
  unfold issuerSourcePlain
  by_cases hset : trimSpace cp.spec.platform.vault.oidcIssuer = ""
  · rw [if_pos hset, isBase_address_iff haddress hset]
    simp [hset]
  · rw [if_neg hset]
    obtain ⟨u, p, h⟩ := exists_issuerText (hissuer hset)
    have hhost := Url.host_ne_of_hostname h.hostname
    rw [vaultOIDCIssuerBase_of_issuer hset h, Url.isBase_base_iff h.parse h.scheme hhost]
    have hkept := h.eq_trimSuffix_iff
    unfold plainIssuer
    simp only [Bool.and_eq_true, Bool.or_eq_true, decide_eq_true_eq, Bool.not_eq_true', and_assoc]
    constructor
    · rintro ⟨-, -, hport, hsame⟩
      obtain ⟨hfront, hquery, hfragment, hpercent⟩ := hkept.mp (hsame hset)
      refine ⟨hfront, hquery, hfragment, hpercent, ?_⟩
      rw [← hsame hset, hasSuffix_base hhost, hport]
    · rintro ⟨hfront, hquery, hfragment, hpercent, hport⟩
      have hsame := hkept.mpr ⟨hfront, hquery, hfragment, hpercent⟩
      refine ⟨h.hostname, ?_, ?_, fun _ => hsame⟩
      · intro hmem
        have hbase : '%' ∈ u.base.toList := by simp [Url.URL.base, hmem]
        rcases trimSuffix_cases (trimSpace cp.spec.platform.vault.oidcIssuer) "/" with hs | hs
        · rw [hsame, hs] at hbase
          exact hpercent hbase
        · rw [hs, ← hsame] at hpercent
          exact hpercent (by simp [hbase])
      · rw [← hasSuffix_base hhost, hsame, hport]

/-- A control plane that says where its Vault is. -/
def vaultAt (address issuer : String) : ControlPlane :=
  { spec := { platform := { vault := { address := address, oidcIssuer := issuer } } } }

theorem vaultOIDCIssuerBase_shape_example :
    vaultOIDCIssuerBase (vaultAt "http://vault.vault.svc:8200" "https://sso.example.org:8200/") =
      "https://sso.example.org:8200" ∧
    Url.isBase (vaultOIDCIssuerBase
      (vaultAt "http://vault.vault.svc:8200" "https://sso.example.org:8200/")) = true :=
  ⟨by decide +kernel, ((vaultOIDCIssuerBase_shape_iff (vaultAt "http://vault.vault.svc:8200"
    "https://sso.example.org:8200/") (by decide +kernel)).mpr (by decide +kernel)).1⟩

/-- An address that is no URL passes as an issuer with its path, and an issuer loses the separator
of an empty fragment and the case of its scheme. -/
theorem vaultOIDCIssuerBase_not_shaped :
    (∀ cp ∈ [vaultAt "https:///v1" "", vaultAt "https://vault example.org/v1" "",
        vaultAt "https://vault.example.org" "HTTPS://sso.example.org#"],
      ∀ e ∈ validateVault cp.spec,
        e.field ∉ ["spec.platform.vault.address", "spec.platform.vault.oidcIssuer"]) ∧
    vaultOIDCIssuerBase (vaultAt "https:///v1" "") = "https:///v1" ∧
    vaultOIDCIssuerBase (vaultAt "https://vault example.org/v1" "") =
      "https://vault example.org/v1" ∧
    vaultOIDCIssuerBase (vaultAt "https://vault.example.org" "HTTPS://sso.example.org#") =
      "https://sso.example.org" ∧
    Url.isBase "https:///v1" = false ∧ Url.isBase "https://vault example.org/v1" = false ∧
    trimSuffix (trimSpace "HTTPS://sso.example.org#") "/" ≠ "https://sso.example.org" := by
  decide +kernel

end OpenchamiOperator.Vault
