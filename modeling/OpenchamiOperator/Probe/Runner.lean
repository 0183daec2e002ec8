import OpenchamiOperator.Lib.Patches
import OpenchamiOperator.NetworkProbe.Revision

/-! # The probe binary

`cmd/probe/main.go`: a process reads its targets from the environment and, on every tick, checks
them and patches the labels of its node. The two checks and the patch are hooks of the runner there
as here. -/

namespace OpenchamiOperator.Probe

open Lib Strconv NetworkProbe

/-! ### Configuration -/

/-- `targetConfig`; the zero prefix of an unusable target is `none`. -/
structure TargetConfig where
  subnet : Option Netip.Prefix := none
  revision : String := ""
  host : String := ""
  port : ℤ := 0
  timeout : ℤ := 0
  valid : Bool := false
  parseErr : String := ""
deriving DecidableEq

/-- `probeRunner`, without its hooks. -/
structure ProbeRunner where
  clusterName : String
  nodeName : String
  interval : ℤ
  provision : Option TargetConfig
  bmc : Option TargetConfig
deriving DecidableEq

def ProbeRunner.target (r : ProbeRunner) : ProbeType → Option TargetConfig
  | .provision => r.provision
  | .bmc => r.bmc

section Revision
variable (isPrint : Char → Bool) (digest : String → BitVec 128)

/-- The port of a target: nothing is zero, and zero must not be written. -/
def parsePort (port : String) : Option ℤ :=
  if port = "" then some 0
  else
    match atoi port with
    | none => none
    | some p => if p = 0 then none else some p

/-- `parseTarget`. -/
def parseTarget (subnet host port timeout : String) : Option TargetConfig :=
  if subnet = "" then none
  else
    match parsePort port with
    | none =>
      some { timeout := defaultTimeout
             parseErr := "validatePort must be between 1 and 65535 when supplied" }
    | some p =>
      let cfg : Target := { subnet := subnet, host := host, port := p, timeout := timeout }
      match cfg.validate with
      | some err =>
        some { timeout := defaultTimeout, revision := cfg.revision isPrint digest, parseErr := err }
      | none =>
        some { subnet := (targetPrefix subnet).toOption
               revision := cfg.revision isPrint digest
               host := host
               port := p
               timeout := if timeout ≠ "" then (Duration.parse timeout).getD 0 else defaultTimeout
               valid := true }

/-- A target whose revision is not the one the operator computed is not used. -/
def checkRevision (expected : String) (t : TargetConfig) : TargetConfig :=
  if expected ≠ t.revision then
    { t with
      valid := false
      parseErr := "probe revision does not match this binary and target configuration" }
  else t

/-- `os.Getenv`. -/
def getenv (env : GoMap String) (name : String) : String := env.getD name ""

/-- The part of the names of a target's variables. -/
def envTarget : ProbeType → String
  | .provision => "PROBE_PROVISION"
  | .bmc => "PROBE_BMC"

/-- The target of one kind, read from the environment. -/
def targetFromEnv (env : GoMap String) (kind : ProbeType) : Option TargetConfig :=
  (parseTarget isPrint digest (getenv env (envTarget kind ++ "_SUBNET"))
    (getenv env (envTarget kind ++ "_HOST")) (getenv env (envTarget kind ++ "_PORT"))
    (getenv env (envTarget kind ++ "_TIMEOUT"))).map
      (checkRevision (getenv env (envTarget kind ++ "_REVISION")))

/-- The largest number of seconds in a duration. -/
def maxSeconds : ℤ := 9223372036

/-- The interval in seconds. -/
def intervalFromEnv (v : String) : Except String ℤ :=
  if v = "" then .ok 300
  else
    match atoi v with
    | none => .error ("parsing PROBE_INTERVAL_SECONDS=" ++ quote isPrint v)
    | some n =>
      if n ≤ 0 ∨ maxSeconds < n then
        .error "PROBE_INTERVAL_SECONDS must be a positive duration in seconds"
      else .ok n

/-- `runnerFromEnv`. -/
def runnerFromEnv (env : GoMap String) : Except String ProbeRunner :=
  if getenv env "PROBE_CLUSTER_NAME" = "" then .error "PROBE_CLUSTER_NAME required"
  else if getenv env "NODE_NAME" = "" then .error "NODE_NAME required"
  else
    match intervalFromEnv isPrint (getenv env "PROBE_INTERVAL_SECONDS") with
    | .error e => .error e
    | .ok seconds =>
      let provision := targetFromEnv isPrint digest env .provision
      let bmc := targetFromEnv isPrint digest env .bmc
      if provision.isNone ∧ bmc.isNone then
        .error ("no probe targets configured (set PROBE_PROVISION_SUBNET and/or " ++
          "PROBE_BMC_SUBNET)")
      else
        .ok { clusterName := getenv env "PROBE_CLUSTER_NAME"
              nodeName := getenv env "NODE_NAME"
              interval := seconds * 1000000000
              provision := provision
              bmc := bmc }

end Revision

/-! ### A tick -/

/-- The hooks of a tick; an error is its text. -/
structure Checks where
  attachmentCheck : Option Netip.Prefix → Option String
  dialCheck : String → ℤ → Option String

/-- `net.JoinHostPort`. -/
def joinHostPort (host port : String) : String :=
  if ':' ∈ host.toList then "[" ++ host ++ "]:" ++ port else host ++ ":" ++ port

/-- `checkTarget`. -/
def checkTarget (checks : Checks) (t : TargetConfig) : Bool :=
  if !t.valid then false
  else if (checks.attachmentCheck t.subnet).isSome then false
  else if t.host = "" then true
  else if (checks.dialCheck (joinHostPort t.host (formatInt t.port)) t.timeout).isSome then false
  else true

/-- `boolStr`. -/
def boolStr (b : Bool) : String := if b then "true" else "false"

/-- The labels of one target, written over `labels`. -/
def report (cluster : String) (checks : Checks) (kind : ProbeType) (target : Option TargetConfig)
    (labels : GoMap String) : GoMap String :=
  match target with
  | none => labels
  | some t =>
    let passed := checkTarget checks t
    (labels.insert (readyLabel cluster kind) (boolStr passed)).insert (revisionLabel cluster kind)
      (if passed then t.revision else "")

/-- `runOnce`: the labels to patch, if any. -/
def runOnce (r : ProbeRunner) (checks : Checks) : Option (GoMap String) :=
  let labels := report r.clusterName checks .bmc r.bmc
    (report r.clusterName checks .provision r.provision .empty)
  if labels.len = 0 then none else some labels

/-! ### What a tick writes -/

theorem checkTarget_iff {checks : Checks} {t : TargetConfig} : checkTarget checks t = true ↔
    t.valid = true ∧ checks.attachmentCheck t.subnet = none ∧
      (t.host = "" ∨
        checks.dialCheck (joinHostPort t.host (formatInt t.port)) t.timeout = none) := by
  unfold checkTarget
  by_cases hvalid : t.valid = true
  · rcases hattach : checks.attachmentCheck t.subnet with _ | e
    · by_cases hhost : t.host = ""
      · simp [hvalid, hhost]
      · rcases hdial : checks.dialCheck (joinHostPort t.host (formatInt t.port)) t.timeout with _ | e
        · simp [hvalid, hhost]
        · simp [hvalid, hhost]
    · simp [hvalid]
  · simp [hvalid]

theorem get?_report {cluster : String} {checks : Checks} {kind : ProbeType}
    {target : Option TargetConfig} {labels : GoMap String} {c : String} {k : ProbeType} {v : String}
    (h : (report cluster checks kind target labels).get? (revisionLabel c k) = some v) :
    labels.get? (revisionLabel c k) = some v ∨ k = kind ∧ ∃ t, target = some t ∧
      v = if checkTarget checks t then t.revision else "" := by
  rcases target with _ | t
  · exact Or.inl h
  · unfold report at h
    rw [GoMap.get?_insert] at h
    by_cases hkey : revisionLabel cluster kind = revisionLabel c k
    · rw [if_pos hkey] at h
      exact Or.inr ⟨(revisionLabel_inj hkey).2.symm, t, rfl, (Option.some.inj h).symm⟩
    · rw [if_neg hkey, GoMap.get?_insert, if_neg (readyLabel_ne_revisionLabel _ _ _ _)] at h
      exact Or.inl h

/-- **A revision that a tick writes is that of its target of the kind, if the checks passed.** -/
theorem get?_runOnce {r : ProbeRunner} {checks : Checks} {labels : GoMap String} {c : String}
    {kind : ProbeType} {v : String} (hrun : runOnce r checks = some labels)
    (h : labels.get? (revisionLabel c kind) = some v) : ∃ t, r.target kind = some t ∧
      v = if checkTarget checks t then t.revision else "" := by
  unfold runOnce at hrun
  simp only at hrun
  split_ifs at hrun
  cases hrun
  rcases get?_report h with h | ⟨rfl, t, ht, hv⟩
  · rcases get?_report h with h | ⟨rfl, t, ht, hv⟩
    · cases h
    · exact ⟨t, ht, hv⟩
  · exact ⟨t, ht, hv⟩

section Revision
variable {isPrint : Char → Bool} {digest : String → BitVec 128}

/-- The configuration a process takes from its environment, if it can read the port. -/
def environTarget (env : GoMap String) (kind : ProbeType) : Option Target :=
  (parsePort (getenv env (envTarget kind ++ "_PORT"))).map fun p =>
    { subnet := getenv env (envTarget kind ++ "_SUBNET")
      host := getenv env (envTarget kind ++ "_HOST")
      port := p
      timeout := getenv env (envTarget kind ++ "_TIMEOUT") }

/-- The configured target is the one that is checked. -/
structure Configured (cfg : Target) (revision : String) (t : TargetConfig) : Prop where
  valid : cfg.validate = none
  revision : t.revision = revision
  subnet : (targetPrefix cfg.subnet).toOption = t.subnet
  host : cfg.host = t.host
  port : cfg.port = t.port
  timeout : cfg.effectiveTimeout = some t.timeout

theorem effectiveTimeout_of_validate {cfg : Target} (h : cfg.validate = none) :
    cfg.effectiveTimeout = some
      (if cfg.timeout ≠ "" then (Duration.parse cfg.timeout).getD 0 else defaultTimeout) := by
  obtain ⟨-, -, -, -, htimeout⟩ := validate_sound h
  unfold Target.effectiveTimeout
  by_cases hempty : cfg.timeout = ""
  · simp [hempty]
  · rcases htimeout with hempty' | ⟨d, hd, -⟩
    · exact absurd hempty' hempty
    · simp [hempty, hd]

/-- **A valid target is the one in the environment**, with the revision computed from it. -/
theorem targetFromEnv_valid {env : GoMap String} {kind : ProbeType} {t : TargetConfig}
    (h : targetFromEnv isPrint digest env kind = some t) (hvalid : t.valid = true) :
    ∃ cfg, environTarget env kind = some cfg ∧ Configured cfg (cfg.revision isPrint digest) t := by
  obtain ⟨t', ht', rfl⟩ := Option.map_eq_some_iff.mp h
  -- the check of the revision leaves a target valid only by leaving it alone
  have hsame : checkRevision (getenv env (envTarget kind ++ "_REVISION")) t' = t' := by
    unfold checkRevision at hvalid ⊢
    split_ifs at hvalid ⊢
    rfl
  rw [hsame] at hvalid ⊢
  unfold parseTarget at ht'
  by_cases hempty : getenv env (envTarget kind ++ "_SUBNET") = ""
  · rw [if_pos hempty] at ht'
    cases ht'
  rw [if_neg hempty] at ht'
  rcases hport : parsePort (getenv env (envTarget kind ++ "_PORT")) with _ | p
  · rw [hport] at ht'
    cases ht'
    cases hvalid
  · rw [hport] at ht'
    simp only at ht'
    refine ⟨⟨getenv env (envTarget kind ++ "_SUBNET"), getenv env (envTarget kind ++ "_HOST"),
      getenv env (envTarget kind ++ "_TIMEOUT"), p⟩, ?_, ?_⟩
    · rw [environTarget, hport]
      rfl
    · split at ht'
      · cases ht'
        cases hvalid
      · rename_i hcfg
        cases ht'
        exact ⟨hcfg, rfl, rfl, rfl, rfl, effectiveTimeout_of_validate hcfg⟩

theorem target_runnerFromEnv {env : GoMap String} {r : ProbeRunner}
    (h : runnerFromEnv isPrint digest env = .ok r) (kind : ProbeType) :
    r.target kind = targetFromEnv isPrint digest env kind := by
  unfold runnerFromEnv at h
  split_ifs at h
  rcases hinterval : intervalFromEnv isPrint (getenv env "PROBE_INTERVAL_SECONDS") with e | n
  · rw [hinterval] at h
    cases h
  · rw [hinterval] at h
    simp only at h
    split_ifs at h
    cases h
    cases kind <;> rfl

end Revision

end OpenchamiOperator.Probe
