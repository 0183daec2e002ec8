import OpenchamiOperator.Lib.Duration
import OpenchamiOperator.Lib.Netip

/-! # Targets of the network probe

`Prefix` and `Target.Validate` of `internal/networkprobe/target.go`, with the texts of their errors
as far as they do not come from the Go library. -/

namespace OpenchamiOperator.NetworkProbe

open Lib Strings

structure Target where
  subnet : String := ""
  host : String := ""
  timeout : String := ""
  port : ℤ := 0
deriving DecidableEq

/-- `Prefix`. -/
def targetPrefix (subnet : String) : Except String Netip.Prefix :=
  match Netip.parsePrefix subnet with
  | none => .error ("invalid subnet \"" ++ subnet ++ "\"")
  | some parsed =>
    let p := parsed.masked
    if p.bits = 0 ∨ !p.addr.isGlobalUnicast ∨ p.addr.isLoopback ∨ p.addr.is4In6 then
      .error ("subnet \"" ++ subnet ++ "\" must be a non-default unicast network")
    else .ok p

/-- `Target.Validate`: the text of the error, if there is one. -/
def Target.validate (t : Target) : Option String :=
  match targetPrefix t.subnet with
  | .error e => some e
  | .ok _ =>
    if ¬ (t.host = "" ↔ t.port = 0) ∨ (t.host ≠ "" ∧ trimSpace t.host ≠ t.host) then
      some "validateHost and validatePort must be supplied together"
    else if t.port < 0 ∨ 65535 < t.port then
      some "validatePort must be between 1 and 65535 when supplied"
    else if t.timeout ≠ "" ∧ (Duration.parse t.timeout).all (· ≤ 0) then
      some "validateTimeout must be a positive duration"
    else none

theorem targetPrefix_ok {subnet : String} {p : Netip.Prefix} (h : targetPrefix subnet = .ok p) :
    p.masked = p ∧ 0 < p.bits ∧ p.addr.isGlobalUnicast = true ∧ p.addr.isLoopback = false ∧
      p.addr.is4In6 = false := by
  unfold targetPrefix at h
  rcases hparsed : Netip.parsePrefix subnet with _ | parsed
  · rw [hparsed] at h
    cases h
  · rw [hparsed] at h
    simp only at h
    split_ifs at h with hbad
    cases h
    push Not at hbad
    obtain ⟨hbits, hglobal, hloop, hmapped⟩ := hbad
    exact ⟨Netip.masked_masked parsed, Nat.pos_of_ne_zero hbits, by simpa using hglobal,
      by simpa using hloop, by simpa using hmapped⟩

/-- An accepted target names a unicast network by its masked prefix, gives host and port together,
and a timeout that is positive and fits 64 bits. -/
theorem validate_sound {t : Target} (h : t.validate = none) :
    (∃ p, targetPrefix t.subnet = .ok p ∧ p.masked = p ∧ 0 < p.bits ∧ p.bits ≤ p.addr.bitLen ∧
      p.addr.isGlobalUnicast = true) ∧
    (t.host = "" ↔ t.port = 0) ∧ 0 ≤ t.port ∧ t.port ≤ 65535 ∧
    (t.timeout = "" ∨ ∃ d, Duration.parse t.timeout = some d ∧ 0 < d ∧ d < Duration.limit) := by
  unfold Target.validate at h
  rcases hnet : targetPrefix t.subnet with e | p
  · rw [hnet] at h
    cases h
  · rw [hnet] at h
    simp only at h
    split_ifs at h with hpair hport htimeout
    push Not at hport
    obtain ⟨hmasked, hbits, hglobal, -, -⟩ := targetPrefix_ok hnet
    refine ⟨⟨p, rfl, hmasked, hbits, p.bits_le, hglobal⟩, ?_, hport.1, hport.2, ?_⟩
    · exact not_not.mp fun hne => hpair (Or.inl hne)
    · by_cases hempty : t.timeout = ""
      · exact Or.inl hempty
      · rcases hd : Duration.parse t.timeout with _ | d
        · exact absurd ⟨hempty, by rw [hd]; rfl⟩ htimeout
        · refine Or.inr ⟨d, rfl, ?_, (Duration.parse_range hd).2⟩
          by_contra hneg
          exact htimeout ⟨hempty, by simpa [hd] using hneg⟩

end OpenchamiOperator.NetworkProbe
