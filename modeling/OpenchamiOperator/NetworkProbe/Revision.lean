import OpenchamiOperator.Lib.NetipText
import OpenchamiOperator.NetworkProbe.Target

/-! # Revisions of probe targets

`Target.Revision` and the Node labels of `internal/networkprobe/target.go`. The revision is a hash of
a text made of the target's canonical fields.

* `message_inj`: targets with the same text ask for the same check.
* `eq_of_revision_eq`: the same for targets with the same revision, as far as their texts do not
  collide. -/

namespace OpenchamiOperator.NetworkProbe

open Lib Strconv

/-- The two networks that are probed. -/
inductive ProbeType where
  | provision
  | bmc
deriving DecidableEq, Repr

/-- `probeTypeProvision`, `probeTypeBMC`. -/
def ProbeType.name : ProbeType → String
  | .provision => "provision"
  | .bmc => "bmc"

/-! ### Labels -/

/-- `ReadyLabel`. -/
def readyLabel (cluster : String) (kind : ProbeType) : String :=
  "openchami.org/" ++ cluster ++ "-" ++ kind.name ++ "-network-ready"

/-- `RevisionLabel`. -/
def revisionLabel (cluster : String) (kind : ProbeType) : String :=
  "openchami.org/" ++ cluster ++ "-" ++ kind.name ++ "-probe-revision"

/-- What follows the name of the cluster in the four labels. -/
def labelEndings : List String :=
  ["-provision-network-ready", "-bmc-network-ready", "-provision-probe-revision",
    "-bmc-probe-revision"]

theorem readyLabel_eq (cluster : String) (kind : ProbeType) : ∃ s ∈ labelEndings,
    readyLabel cluster kind = "openchami.org/" ++ cluster ++ s ∧
      s = "-" ++ kind.name ++ "-network-ready" := by
  refine ⟨"-" ++ kind.name ++ "-network-ready", by cases kind <;> decide, ?_, rfl⟩
  unfold readyLabel
  rw [String.append_assoc, String.append_assoc, ← @String.append_assoc "-"]

theorem revisionLabel_eq (cluster : String) (kind : ProbeType) : ∃ s ∈ labelEndings,
    revisionLabel cluster kind = "openchami.org/" ++ cluster ++ s ∧
      s = "-" ++ kind.name ++ "-probe-revision" := by
  refine ⟨"-" ++ kind.name ++ "-probe-revision", by cases kind <;> decide, ?_, rfl⟩
  unfold revisionLabel
  rw [String.append_assoc, String.append_assoc, ← @String.append_assoc "-"]

/-- **A label tells the cluster and the ending**, since no ending is the end of another. -/
theorem label_inj {c d s t : String} (hs : s ∈ labelEndings) (ht : t ∈ labelEndings)
    (h : "openchami.org/" ++ c ++ s = "openchami.org/" ++ d ++ t) : c = d ∧ s = t :=
  Strings.affix_inj (by decide) hs ht h

theorem revisionLabel_inj {c d : String} {k l : ProbeType}
    (h : revisionLabel c k = revisionLabel d l) : c = d ∧ k = l := by
  obtain ⟨s, hs, hc, rfl⟩ := revisionLabel_eq c k
  obtain ⟨t, ht, hd, rfl⟩ := revisionLabel_eq d l
  obtain ⟨hcd, hst⟩ := label_inj hs ht (by rw [← hc, h, hd])
  refine ⟨hcd, ?_⟩
  cases k <;> cases l
  · rfl
  · exact absurd hst (by decide)
  · exact absurd hst (by decide)
  · rfl

theorem readyLabel_inj {c d : String} {k l : ProbeType} (h : readyLabel c k = readyLabel d l) :
    c = d ∧ k = l := by
  obtain ⟨s, hs, hc, rfl⟩ := readyLabel_eq c k
  obtain ⟨t, ht, hd, rfl⟩ := readyLabel_eq d l
  obtain ⟨hcd, hst⟩ := label_inj hs ht (by rw [← hc, h, hd])
  refine ⟨hcd, ?_⟩
  cases k <;> cases l
  · rfl
  · exact absurd hst (by decide)
  · exact absurd hst (by decide)
  · rfl

theorem readyLabel_ne_revisionLabel (c d : String) (k l : ProbeType) :
    readyLabel c k ≠ revisionLabel d l := by
  intro h
  obtain ⟨s, hs, hc, rfl⟩ := readyLabel_eq c k
  obtain ⟨t, ht, hd, rfl⟩ := revisionLabel_eq d l
  obtain ⟨-, hst⟩ := label_inj hs ht (by rw [← hc, h, hd])
  cases k <;> cases l <;> exact absurd hst (by decide)

/-! ### The revision -/

/-- `AlgorithmVersion`. -/
def algorithmVersion : String := "host-attachment-v1"

/-- `DefaultTimeout`, in nanoseconds. -/
def defaultTimeout : ℤ := 5000000000

/-- The subnet as `Revision` writes it. -/
def Target.canonicalSubnet (t : Target) : String :=
  match targetPrefix t.subnet with
  | .ok p => p.string
  | .error _ => t.subnet

/-- The timeout as `Revision` writes it. -/
def Target.canonicalTimeout (t : Target) : String :=
  match Duration.parse t.timeout with
  | some d => Duration.string d
  | none => if t.timeout ≠ "" then t.timeout else Duration.string defaultTimeout

/-- The timeout of the dial. -/
def Target.effectiveTimeout (t : Target) : Option ℤ :=
  if t.timeout = "" then some defaultTimeout else Duration.parse t.timeout

/-- What is hashed; `isPrint` is `strconv.IsPrint`. -/
def Target.message (isPrint : Char → Bool) (t : Target) : String :=
  quote isPrint algorithmVersion ++ ("|" ++ (quote isPrint t.canonicalSubnet ++ ("|" ++
    (quote isPrint t.host ++ ("|" ++ (formatInt t.port ++ ("|" ++
      (quote isPrint t.canonicalTimeout ++ ""))))))))

/-- `fmt.Sprintf("%x", b)` for sixteen bytes. -/
def hexString (b : BitVec 128) : String := String.ofList (hexDigits 32 b.toNat)

/-- `Target.Revision`; `digest` is the first half of the SHA-256 sum. -/
def Target.revision (isPrint : Char → Bool) (digest : String → BitVec 128) (t : Target) : String :=
  hexString (digest (t.message isPrint))

theorem hexString_injective : Function.Injective hexString := by
  intro b c h
  have hlt : ∀ d : BitVec 128, d.toNat < 16 ^ 32 := fun d => lt_of_lt_of_le d.isLt (by norm_num)
  exact BitVec.eq_of_toNat_eq (hexDigits_inj (hlt b) (hlt c) (String.ofList_injective h))

theorem hexString_ne_empty (b : BitVec 128) : hexString b ≠ "" := by
  intro h
  have hlen : (hexDigits 32 b.toNat).length = 0 := by
    rw [show hexDigits 32 b.toNat = [] from String.ofList_injective h]
    rfl
  rw [length_hexDigits] at hlen
  omega

/-! ### What a revision tells -/

theorem zone_mask (bits : ℕ) (a : Netip.Addr) : (a.mask bits).zone = a.zone := by
  cases a <;> rfl

theorem parsePrefix_addr {s : String} {p : Netip.Prefix} (h : Netip.parsePrefix s = some p) :
    p.addr.InRange ∧ p.addr.zone = "" := by
  unfold Netip.parsePrefix at h
  split at h
  · cases h
  · split at h
    · rename_i haddr _
      split_ifs at h with _ hzone
      cases h
      exact ⟨Netip.parseAddr_inRange haddr, hzone.1⟩
    · cases h

/-- The text of an accepted network is accepted as the same network. -/
theorem targetPrefix_string {subnet : String} {p : Netip.Prefix} (h : targetPrefix subnet = .ok p) :
    targetPrefix p.string = .ok p := by
  obtain ⟨hmasked, hbits, hglobal, hloop, hmapped⟩ := targetPrefix_ok h
  have haddr : p.addr.InRange ∧ p.addr.zone = "" := by
    unfold targetPrefix at h
    rcases hparsed : Netip.parsePrefix subnet with _ | parsed
    · rw [hparsed] at h
      cases h
    · rw [hparsed] at h
      simp only at h
      split_ifs at h
      cases h
      obtain ⟨hrange, hzone⟩ := parsePrefix_addr hparsed
      exact ⟨hrange.mask parsed.bits, (zone_mask parsed.bits parsed.addr).trans hzone⟩
  have hread := Netip.parsePrefix_string haddr.1 haddr.2 hmapped
  unfold targetPrefix
  rw [hread]
  simp only
  rw [hmasked, if_neg]
  simp [hglobal, hloop, hmapped]
  omega

theorem targetPrefix_canonicalSubnet (t : Target) :
    targetPrefix t.canonicalSubnet = targetPrefix t.subnet := by
  unfold Target.canonicalSubnet
  rcases h : targetPrefix t.subnet with e | p
  · exact h
  · exact targetPrefix_string h

theorem parse_canonicalTimeout (t : Target) :
    Duration.parse t.canonicalTimeout = t.effectiveTimeout := by
  have hstring : ∀ {s : String} {d : ℤ}, Duration.parse s = some d →
      Duration.parse (Duration.string d) = some d := fun h =>
    Duration.parse_string (Duration.parse_range h).1 (Duration.parse_range h).2
  unfold Target.canonicalTimeout Target.effectiveTimeout
  by_cases hempty : t.timeout = ""
  · rw [hempty]
    decide
  · rcases h : Duration.parse t.timeout with _ | d
    · simp only [ne_eq, hempty, not_false_eq_true, if_true, if_false]
      exact h
    · simp only [hempty, if_false]
      exact hstring h

/-- The targets ask for the same network, address and timeout. -/
structure SameCheck (t u : Target) : Prop where
  subnet : targetPrefix t.subnet = targetPrefix u.subnet
  host : t.host = u.host
  port : t.port = u.port
  timeout : t.effectiveTimeout = u.effectiveTimeout

/-- **Targets with the same text ask for the same check.** -/
theorem message_inj {isPrint : Char → Bool} {t u : Target}
    (h : t.message isPrint = u.message isPrint) : SameCheck t u := by
  have hbar : ∀ n : ℤ, '|' ∉ (formatInt n).toList := not_mem_formatInt (by decide) (by decide)
  -- the quoted fields one after another
  have hfields := (String.append_right_inj _).mp (quote_append_inj h).2
  obtain ⟨hsubnet, hfields⟩ := quote_append_inj hfields
  obtain ⟨hhost, hfields⟩ := quote_append_inj ((String.append_right_inj _).mp hfields)
  -- the port goes as far as the next bar
  have hport := congrArg (Strings.cut '|') ((String.append_right_inj _).mp hfields)
  have hcut := fun n => @Strings.cut_append '|' (formatInt n) (hbar n)
  rw [show "|" = String.singleton '|' from rfl, hcut, hcut] at hport
  obtain ⟨hport, hrest⟩ := Prod.mk.inj hport
  have htimeout := (quote_append_inj (Option.some.inj hrest)).1
  refine ⟨?_, hhost, formatInt_injective hport, ?_⟩
  · rw [← targetPrefix_canonicalSubnet t, hsubnet, targetPrefix_canonicalSubnet]
  · rw [← parse_canonicalTimeout t, htimeout, parse_canonicalTimeout]

/-- **Targets with the same revision ask for the same check**, if their texts do not collide. -/
theorem eq_of_revision_eq {isPrint : Char → Bool} {digest : String → BitVec 128} {S : Set String}
    (hdigest : Set.InjOn digest S) {t u : Target} (ht : t.message isPrint ∈ S)
    (hu : u.message isPrint ∈ S) (h : t.revision isPrint digest = u.revision isPrint digest) :
    SameCheck t u :=
  message_inj (hdigest ht hu (hexString_injective h))

/-! ### Valid targets -/

/-- A valid target has a timeout, and a positive one. -/
theorem effectiveTimeout_pos {t : Target} (h : t.validate = none) :
    ∃ d, t.effectiveTimeout = some d ∧ 0 < d := by
  obtain ⟨-, -, -, -, htimeout⟩ := validate_sound h
  unfold Target.effectiveTimeout
  rcases htimeout with hempty | ⟨d, hparse, hpos, -⟩
  · exact ⟨defaultTimeout, if_pos hempty, by decide⟩
  · by_cases hempty : t.timeout = ""
    · exact ⟨defaultTimeout, if_pos hempty, by decide⟩
    · exact ⟨d, (if_neg hempty).trans hparse, hpos⟩

/-- Whether a target is valid depends on the check it asks for. -/
theorem validate_of_sameCheck {t u : Target} (hsame : SameCheck t u) (h : t.validate = none) :
    u.validate = none := by
  obtain ⟨d, heffective, hpos⟩ := effectiveTimeout_pos h
  have htimeout : ¬ (u.timeout ≠ "" ∧ (Duration.parse u.timeout).all (· ≤ 0) = true) := by
    rintro ⟨hset, hall⟩
    have hparse : Duration.parse u.timeout = some d := by
      rw [← heffective, hsame.timeout, Target.effectiveTimeout, if_neg hset]
    rw [hparse] at hall
    have hle : d ≤ 0 := by simpa using hall
    omega
  unfold Target.validate at h ⊢
  rw [hsame.subnet, hsame.host, hsame.port] at h
  split at h
  · cases h
  · split_ifs at h with hpair hport
    · rw [if_neg hpair, if_neg hport, if_neg htimeout]

/-- The text of a valid target is determined by the check it asks for. -/
theorem message_of_sameCheck {isPrint : Char → Bool} {t u : Target} (hsame : SameCheck t u)
    (ht : t.validate = none) (hu : u.validate = none) : t.message isPrint = u.message isPrint := by
  have hsubnet : t.canonicalSubnet = u.canonicalSubnet := by
    obtain ⟨⟨p, hp, -⟩, -⟩ := validate_sound ht
    unfold Target.canonicalSubnet
    rw [← hsame.subnet, hp]
  have hcanonical : ∀ {v : Target}, v.validate = none →
      ∃ d, v.effectiveTimeout = some d ∧ v.canonicalTimeout = Duration.string d := by
    intro v hv
    obtain ⟨d, heffective, -⟩ := effectiveTimeout_pos hv
    refine ⟨d, heffective, ?_⟩
    unfold Target.effectiveTimeout at heffective
    unfold Target.canonicalTimeout
    split_ifs at heffective with hempty
    · have hnone : Duration.parse "" = none := by decide
      rw [hempty, hnone, ← Option.some.inj heffective]
      rfl
    · rw [heffective]
  have htimeout : t.canonicalTimeout = u.canonicalTimeout := by
    obtain ⟨d, hd, hstring⟩ := hcanonical ht
    obtain ⟨e, he, hstring'⟩ := hcanonical hu
    have hde : d = e := Option.some.inj (hd.symm.trans (hsame.timeout.trans he))
    rw [hstring, hstring', hde]
  unfold Target.message
  rw [hsubnet, hsame.host, hsame.port, htimeout]

/-- **A revision identifies the check**: when one of two targets is valid, their revisions are equal
exactly when both are valid and have the same masked prefix, host, port and timeout. -/
theorem revision_eq_iff (isPrint : Char → Bool) (digest : String → BitVec 128) (t u : Target)
    (hdigest : Set.InjOn digest {t.message isPrint, u.message isPrint})
    (hvalid : t.validate = none ∨ u.validate = none) :
    t.revision isPrint digest = u.revision isPrint digest ↔
      t.validate = none ∧ u.validate = none ∧
        (∃ p, targetPrefix t.subnet = .ok p ∧ targetPrefix u.subnet = .ok p) ∧
        t.host = u.host ∧ t.port = u.port ∧ t.effectiveTimeout = u.effectiveTimeout := by
  constructor
  · intro h
    have hsame : SameCheck t u := eq_of_revision_eq hdigest (by simp) (by simp) h
    have hboth : t.validate = none ∧ u.validate = none := by
      rcases hvalid with ht | hu
      · exact ⟨ht, validate_of_sameCheck hsame ht⟩
      · have hsymm : SameCheck u t :=
          ⟨hsame.subnet.symm, hsame.host.symm, hsame.port.symm, hsame.timeout.symm⟩
        exact ⟨validate_of_sameCheck hsymm hu, hu⟩
    obtain ⟨⟨p, hp, -⟩, -⟩ := validate_sound hboth.1
    exact ⟨hboth.1, hboth.2, ⟨p, hp, hsame.subnet ▸ hp⟩, hsame.host, hsame.port, hsame.timeout⟩
  · rintro ⟨ht, hu, ⟨p, hp, hp'⟩, hhost, hport, htimeout⟩
    have hsame : SameCheck t u := ⟨hp.trans hp'.symm, hhost, hport, htimeout⟩
    unfold Target.revision
    rw [message_of_sameCheck hsame ht hu]

/-- Two spellings of one target. -/
def hostSpelling : Target := { subnet := "10.0.0.7/24" }

@[inherit_doc hostSpelling]
def networkSpelling : Target := { subnet := "10.0.0.0/24", timeout := "5000ms" }

/-- The printable characters of ASCII. -/
def asciiPrint (c : Char) : Bool := 32 ≤ c.toNat && c.toNat < 127

/-- The hash of the text of both spellings. -/
def spellingDigest (_ : String) : BitVec 128 := 0x6dd30e858b5c66edb7a3a7e27e3041c1

theorem revision_eq_spellings :
    hostSpelling.revision asciiPrint spellingDigest =
      networkSpelling.revision asciiPrint spellingDigest := by
  have hmessage : hostSpelling.message asciiPrint = networkSpelling.message asciiPrint := by
    decide +kernel
  have hdigest : Set.InjOn spellingDigest
      {hostSpelling.message asciiPrint, networkSpelling.message asciiPrint} := by
    rw [← hmessage, Set.pair_eq_singleton]
    exact Set.injOn_singleton _ _
  have hvalid : hostSpelling.validate = none := by decide
  have hvalid' : networkSpelling.validate = none := by decide +kernel
  have hsubnet : targetPrefix hostSpelling.subnet = targetPrefix networkSpelling.subnet := by
    decide +kernel
  have htimeout : hostSpelling.effectiveTimeout = networkSpelling.effectiveTimeout := by
    decide +kernel
  obtain ⟨⟨p, hp, -⟩, -⟩ := validate_sound hvalid
  exact (revision_eq_iff asciiPrint spellingDigest hostSpelling networkSpelling hdigest
    (Or.inl hvalid)).mpr ⟨hvalid, hvalid', ⟨p, hp, hsubnet ▸ hp⟩, rfl, rfl, htimeout⟩

end OpenchamiOperator.NetworkProbe
