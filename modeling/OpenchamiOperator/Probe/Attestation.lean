import OpenchamiOperator.Probe.Runner
import OpenchamiOperator.Reconcilers.NetworkProbe

/-! # What a probe label attests

Several generations of probe processes patch the labels of one node, in any order, beside older
binaries that only write the ready label. A workload is placed on the node by two labels, the ready
label and the revision.

* `attested`: when both are as the selector asks, the last writer of the revision ran the check that
  the specification asks for now, and passed it.
* `selected_of_checks`: a process of the current specification that passes makes the node
  selected.
* `target_survives`: what such a process reads from its environment is the target it was given. -/

namespace OpenchamiOperator.Probe

open Lib Api NetworkProbe Reconcilers

/-- The environment of a process; `resolve` is what the kubelet makes of a variable. -/
def environ (resolve : EnvVar → String) (vars : List EnvVar) : GoMap String :=
  vars.foldl (fun env v => env.insert v.name (resolve v)) .empty

/-- What changes the labels of a node: a tick of a process started for the specification `cp`, whose
patch may fail, or a patch by something else. The events are in the order in which the patches reach
the API server. -/
inductive NodeEvent where
  | tick (cp : ControlPlane) (resolve : EnvVar → String) (checks : Checks) (applied : Bool)
  | other (patch : GoMap String)

section Revision
variable (isPrint : Char → Bool) (digest : String → BitVec 128)

/-- The environment of a process started for `cp`. -/
def processEnv (cp : ControlPlane) (resolve : EnvVar → String) : GoMap String :=
  environ resolve (probeEnv isPrint digest cp)

/-- The labels an event sets. A process that cannot start sets none. -/
def NodeEvent.patch : NodeEvent → GoMap String
  | .tick cp resolve checks applied =>
    match runnerFromEnv isPrint digest (processEnv isPrint digest cp resolve) with
    | .ok r => if applied then (runOnce r checks).getD .empty else .empty
    | .error _ => .empty
  | .other patch => patch

/-- The labels of a node after a history. -/
def labelsAfter (start : GoMap String) (history : List NodeEvent) : GoMap String :=
  start.after (NodeEvent.patch isPrint digest) history

/-- The texts that were hashed: that of the current target, and those of the processes. -/
def hashed (cp : ControlPlane) (kind : ProbeType) (history : List NodeEvent) : Set String :=
  {m | m = (probeTargetConfig cp kind).message isPrint ∨
    ∃ old resolve checks applied cfg, NodeEvent.tick old resolve checks applied ∈ history ∧
      environTarget (processEnv isPrint digest old resolve) kind = some cfg ∧
      m = cfg.message isPrint}

/-- The tick ran the check that `cp` asks for, and passed it. -/
def Attests (cp : ControlPlane) (kind : ProbeType) : NodeEvent → Prop
  | .tick old resolve checks applied =>
    ∃ cfg p timeout, environTarget (processEnv isPrint digest old resolve) kind = some cfg ∧
      applied = true ∧ cfg.validate = none ∧ SameCheck cfg (probeTargetConfig cp kind) ∧
      targetPrefix cfg.subnet = .ok p ∧ cfg.effectiveTimeout = some timeout ∧
      checks.attachmentCheck (some p) = none ∧
      (cfg.host = "" ∨
        checks.dialCheck (joinHostPort cfg.host (Strconv.formatInt cfg.port)) timeout = none)
  | .other _ => False

end Revision

variable {isPrint : Char → Bool} {digest : String → BitVec 128}

theorem satisfies_selector_iff {cp : ControlPlane} (henabled : cp.spec.networkProbe.enabled = true)
    {kind : ProbeType} {labels : GoMap String} :
    labels.Satisfies (effectiveNodeSelector isPrint digest cp kind) ↔
      labels.get? (readyLabel cp.spec.clusterName kind) = some "true" ∧
        labels.get? (revisionLabel cp.spec.clusterName kind) =
          some ((probeTargetConfig cp kind).revision isPrint digest) := by
  have hselector : ∀ k v, (effectiveNodeSelector isPrint digest cp kind).get? k = some v ↔
      (readyLabel cp.spec.clusterName kind = k ∧ "true" = v) ∨
        (readyLabel cp.spec.clusterName kind ≠ k ∧ revisionLabel cp.spec.clusterName kind = k ∧
          (probeTargetConfig cp kind).revision isPrint digest = v) := by
    intro k v
    unfold effectiveNodeSelector
    rw [if_pos henabled, GoMap.get?_ofList]
    simp only [GoMap.find]
    by_cases hready : readyLabel cp.spec.clusterName kind = k
    · simp [hready]
    · by_cases hrevision : revisionLabel cp.spec.clusterName kind = k
      · simp [hready, hrevision]
      · simp [hready, hrevision]
  constructor
  · intro h
    refine ⟨h _ _ ((hselector _ _).mpr (Or.inl ⟨rfl, rfl⟩)), ?_⟩
    exact h _ _ ((hselector _ _).mpr (Or.inr ⟨readyLabel_ne_revisionLabel _ _ _ _, rfl, rfl⟩))
  · rintro ⟨hready, hrevision⟩ k v hk
    rcases (hselector k v).mp hk with ⟨rfl, rfl⟩ | ⟨-, rfl, rfl⟩
    · exact hready
    · exact hrevision

/-! ### Processes of the current specification -/

/-- Values are passed as they are written, on the node `node`. -/
def verbatim (node : String) (v : EnvVar) : String :=
  match v.source with
  | .value value => value
  | .fieldRef _ => node
  | .secretKeyRef _ _ _ => ""

theorem getenv_environ {vars : List EnvVar} {resolve : EnvVar → String} {v : EnvVar} (hv : v ∈ vars)
    (hnames : (vars.map EnvVar.name).Nodup) : getenv (environ resolve vars) v.name = resolve v := by
  -- by induction from the right: the last variable is the last one written
  induction vars using List.reverseRecOn with
  | nil => cases hv
  | append_singleton vars u ih =>
    have hfold : environ resolve (vars ++ [u]) =
        (environ resolve vars).insert u.name (resolve u) := by
      simp [environ]
    rw [List.map_append, List.nodup_append] at hnames
    unfold getenv GoMap.getD at ih ⊢
    rw [hfold, GoMap.get?_insert]
    rcases List.mem_append.mp hv with hv | hv
    · have hne : u.name ≠ v.name := fun h => hnames.2.2 v.name (List.mem_map_of_mem hv) u.name
        (by simp) h.symm
      rw [if_neg hne]
      exact ih hv hnames.1
    · rw [List.mem_singleton.mp hv, if_pos rfl]
      rfl

theorem names_probeEnv (cp : ControlPlane) :
    ((probeEnv isPrint digest cp).map EnvVar.name).Nodup := by
  have hnames : (probeEnv isPrint digest cp).map EnvVar.name =
      ["PROBE_CLUSTER_NAME", "PROBE_INTERVAL_SECONDS", "NODE_NAME", "PROBE_PROVISION_SUBNET",
        "PROBE_PROVISION_HOST", "PROBE_PROVISION_PORT", "PROBE_PROVISION_TIMEOUT",
        "PROBE_PROVISION_REVISION", "PROBE_BMC_SUBNET", "PROBE_BMC_HOST", "PROBE_BMC_PORT",
        "PROBE_BMC_TIMEOUT", "PROBE_BMC_REVISION"] := rfl
  rw [hnames]
  decide

theorem getenv_processEnv {cp : ControlPlane} {resolve : EnvVar → String} {v : EnvVar}
    (hv : v ∈ probeEnv isPrint digest cp) :
    getenv (processEnv isPrint digest cp resolve) v.name = resolve v :=
  getenv_environ hv (names_probeEnv cp)

theorem mem_probeEnv {cp : ControlPlane} {kind : ProbeType} {v : EnvVar}
    (hv : v ∈ targetEnvVars isPrint digest kind (probeNetwork cp kind)) :
    v ∈ probeEnv isPrint digest cp := by
  unfold probeEnv
  cases kind
  · exact List.mem_append_left _ (List.mem_append_right _ hv)
  · exact List.mem_append_right _ hv

theorem getenv_target {cp : ControlPlane} {node : String} {kind : ProbeType} {field value : String}
    (hv : ⟨"PROBE_" ++ envName kind ++ field, .value value⟩ ∈
      targetEnvVars isPrint digest kind (probeNetwork cp kind)) :
    getenv (processEnv isPrint digest cp (verbatim node)) (envTarget kind ++ field) = value := by
  have hname : envTarget kind ++ field = "PROBE_" ++ envName kind ++ field := by
    have hpart : envTarget kind = "PROBE_" ++ envName kind := by cases kind <;> decide
    rw [hpart]
  have hget := @getenv_processEnv isPrint digest cp (verbatim node) _ (mem_probeEnv hv)
  rw [hname]
  exact hget

theorem targetPrefix_empty (p : Netip.Prefix) : targetPrefix "" ≠ .ok p := by
  intro h
  have hnone : (targetPrefix "").toOption = none := by decide
  rw [h] at hnone
  cases hnone

/-- A port that can be read at all is read as it was written. -/
theorem parsePort_formatInt (n : ℤ) : parsePort (if n ≠ 0 then Strconv.formatInt n else "") =
    if -(Strconv.maxInt + 1) ≤ n ∧ n ≤ Strconv.maxInt then some n else none := by
  by_cases hzero : n = 0
  · simp [hzero, parsePort, Strconv.maxInt]
  · rw [if_pos hzero]
    unfold parsePort
    rw [if_neg (Strconv.formatInt_ne_empty n), Strconv.atoi_formatInt]
    split_ifs <;> simp [hzero]

/-- What a process of `cp` reads are the fields of the target. -/
theorem targetFromEnv_processEnv (cp : ControlPlane) (node : String) (kind : ProbeType) :
    targetFromEnv isPrint digest (processEnv isPrint digest cp (verbatim node)) kind =
      (parseTarget isPrint digest (probeTargetConfig cp kind).subnet
        (probeTargetConfig cp kind).host
        (if (probeTargetConfig cp kind).port ≠ 0 then
          Strconv.formatInt (probeTargetConfig cp kind).port else "")
        (probeTargetConfig cp kind).timeout).map
          (checkRevision ((probeTargetConfig cp kind).revision isPrint digest)) := by
  have hvars : targetEnvVars isPrint digest kind (probeNetwork cp kind) =
      [⟨"PROBE_" ++ envName kind ++ "_SUBNET", .value (probeTargetConfig cp kind).subnet⟩,
        ⟨"PROBE_" ++ envName kind ++ "_HOST", .value (probeTargetConfig cp kind).host⟩,
        ⟨"PROBE_" ++ envName kind ++ "_PORT", .value (if (probeTargetConfig cp kind).port ≠ 0 then
          Strconv.formatInt (probeTargetConfig cp kind).port else "")⟩,
        ⟨"PROBE_" ++ envName kind ++ "_TIMEOUT", .value (probeTargetConfig cp kind).timeout⟩,
        ⟨"PROBE_" ++ envName kind ++ "_REVISION",
          .value ((probeTargetConfig cp kind).revision isPrint digest)⟩] := by
    unfold probeTargetConfig
    rcases probeNetwork cp kind with _ | t <;> rfl
  have hget := fun field value => @getenv_target isPrint digest cp node kind field value
  rw [hvars] at hget
  unfold targetFromEnv
  rw [hget "_SUBNET" (probeTargetConfig cp kind).subnet (by simp),
    hget "_HOST" (probeTargetConfig cp kind).host (by simp),
    hget "_PORT" (if (probeTargetConfig cp kind).port ≠ 0 then
      Strconv.formatInt (probeTargetConfig cp kind).port else "") (by simp),
    hget "_TIMEOUT" (probeTargetConfig cp kind).timeout (by simp),
    hget "_REVISION" ((probeTargetConfig cp kind).revision isPrint digest) (by simp)]

/-- A process of `cp` reads back the target of `cp`, and finds the revision it expects. -/
theorem targetFromEnv_verbatim {cp : ControlPlane} {node : String} {kind : ProbeType}
    (hvalid : (probeTargetConfig cp kind).validate = none) :
    ∃ t, targetFromEnv isPrint digest (processEnv isPrint digest cp (verbatim node)) kind = some t ∧
      t.valid = true ∧
      Configured (probeTargetConfig cp kind)
        ((probeTargetConfig cp kind).revision isPrint digest) t := by
  obtain ⟨⟨p, hp, -⟩, -, hlo, hhi, -⟩ := validate_sound hvalid
  have hne : (probeTargetConfig cp kind).subnet ≠ "" := by
    intro h
    rw [h] at hp
    exact targetPrefix_empty p hp
  rw [targetFromEnv_processEnv]
  generalize probeTargetConfig cp kind = cfg at *
  have hrange : -(Strconv.maxInt + 1) ≤ cfg.port ∧ cfg.port ≤ Strconv.maxInt := by
    unfold Strconv.maxInt
    omega
  unfold parseTarget
  rw [if_neg hne, parsePort_formatInt, if_pos hrange]
  simp only [hvalid, Option.map_some]
  refine ⟨_, rfl, ?_, ?_⟩
  · simp [checkRevision]
  · simp only [checkRevision, ne_eq, not_true_eq_false, if_false]
    exact ⟨hvalid, rfl, rfl, rfl, rfl, effectiveTimeout_of_validate hvalid⟩

/-- What is read for a target that is not valid is not valid either. -/
theorem targetFromEnv_invalid {cp : ControlPlane} {node : String} {kind : ProbeType}
    (hne : (probeTargetConfig cp kind).subnet ≠ "")
    (hinvalid : (probeTargetConfig cp kind).validate ≠ none) :
    ∃ t, targetFromEnv isPrint digest (processEnv isPrint digest cp (verbatim node)) kind = some t ∧
      t.valid = false := by
  rw [targetFromEnv_processEnv]
  generalize probeTargetConfig cp kind = cfg at *
  have hchecked : ∀ (expected : String) (t : TargetConfig), t.valid = false →
      (checkRevision expected t).valid = false := by
    intro expected t h
    unfold checkRevision
    split_ifs
    · rfl
    · exact h
  unfold parseTarget
  rw [if_neg hne, parsePort_formatInt]
  by_cases hrange : -(Strconv.maxInt + 1) ≤ cfg.port ∧ cfg.port ≤ Strconv.maxInt
  · obtain ⟨err, herr⟩ := Option.ne_none_iff_exists'.mp hinvalid
    rw [if_pos hrange]
    simp only [herr, Option.map_some]
    exact ⟨_, rfl, hchecked _ _ rfl⟩
  · rw [if_neg hrange]
    exact ⟨_, rfl, hchecked _ _ rfl⟩

/-- A target that is not valid is reported as not ready, whatever the node looks like. -/
theorem get?_report_invalid {kind : ProbeType} {t : TargetConfig} (hinvalid : t.valid = false)
    (cluster : String) (checks : Checks) (labels : GoMap String) :
    (report cluster checks kind (some t) labels).get? (readyLabel cluster kind) =
      some "false" := by
  have hfails : checkTarget checks t = false := by
    rw [Bool.eq_false_iff]
    intro hcheck
    rw [(checkTarget_iff.mp hcheck).1] at hinvalid
    cases hinvalid
  unfold report
  simp only [GoMap.get?_insert, hfails]
  rw [if_neg (readyLabel_ne_revisionLabel _ _ _ _).symm]
  simp [boolStr]

/-- **The configuration survives the environment.** A target without a subnet is none; any other is
read as a target that is valid exactly when the configured one is. A valid one has the network, the
host, the port and the timeout of the configuration and the revision of the selector, and one that
is not valid is reported as not ready. -/
theorem target_survives (cp : ControlPlane) (node : String) (kind : ProbeType) :
    match probeNetwork cp kind with
    | none =>
      targetFromEnv isPrint digest (processEnv isPrint digest cp (verbatim node)) kind = none
    | some t =>
      if t.subnet = "" then
        targetFromEnv isPrint digest (processEnv isPrint digest cp (verbatim node)) kind = none
      else ∃ target,
        targetFromEnv isPrint digest (processEnv isPrint digest cp (verbatim node)) kind =
          some target ∧
        (target.valid = true ↔ (probeConfig (some t)).validate = none) ∧
        (target.valid = true →
          (∃ p, targetPrefix t.subnet = .ok p ∧ target.subnet = some p) ∧
          target.host = t.validateHost ∧ target.port = t.validatePort ∧
          (if t.validateTimeout = "" then some defaultTimeout
            else Duration.parse t.validateTimeout) = some target.timeout ∧
          (cp.spec.networkProbe.enabled = true →
            (effectiveNodeSelector isPrint digest cp kind).get?
              (revisionLabel cp.spec.clusterName kind) = some target.revision)) ∧
        (target.valid = false → ∀ cluster checks labels,
          (report cluster checks kind (some target) labels).get? (readyLabel cluster kind) =
            some "false") := by
  have hempty : (probeTargetConfig cp kind).subnet = "" →
      targetFromEnv isPrint digest (processEnv isPrint digest cp (verbatim node)) kind = none := by
    intro h
    rw [targetFromEnv_processEnv, h]
    rfl
  rcases hnet : probeNetwork cp kind with _ | t
  · refine hempty ?_
    rw [probeTargetConfig, hnet]
    rfl
  · have hcfg : probeTargetConfig cp kind = probeConfig (some t) := by rw [probeTargetConfig, hnet]
    simp only
    by_cases hsubnet : t.subnet = ""
    · rw [if_pos hsubnet]
      refine hempty ?_
      rw [hcfg]
      exact hsubnet
    · rw [if_neg hsubnet]
      by_cases hvalid : (probeConfig (some t)).validate = none
      · obtain ⟨target, hread, htarget, hconf⟩ :=
          @targetFromEnv_verbatim isPrint digest cp node kind (hcfg ▸ hvalid)
        refine ⟨target, hread, iff_of_true htarget hvalid, fun _ => ?_, get?_report_invalid⟩
        obtain ⟨⟨p, hp, -⟩, -⟩ := validate_sound hvalid
        rw [hcfg] at hconf
        have hnetwork : target.subnet = some p := by
          rw [← hconf.subnet, hp]
          rfl
        have hselector : cp.spec.networkProbe.enabled = true →
            (effectiveNodeSelector isPrint digest cp kind).get?
              (revisionLabel cp.spec.clusterName kind) = some target.revision := by
          intro henabled
          have hself := GoMap.satisfies_refl (effectiveNodeSelector isPrint digest cp kind)
          rw [((satisfies_selector_iff henabled).mp hself).2, hcfg, hconf.revision]
        exact ⟨⟨p, hp, hnetwork⟩, hconf.host.symm, hconf.port.symm, hconf.timeout, hselector⟩
      · obtain ⟨target, hread, htarget⟩ :=
          @targetFromEnv_invalid isPrint digest cp node kind (hcfg ▸ hsubnet) (hcfg ▸ hvalid)
        have hnot : ¬ target.valid = true := by rw [htarget]; decide
        exact ⟨target, hread, iff_of_false hnot hvalid, fun h => absurd h hnot, get?_report_invalid⟩

theorem get?_report_self {cluster : String} {checks : Checks} {kind : ProbeType} {t : TargetConfig}
    (hcheck : checkTarget checks t = true) (labels : GoMap String) :
    (report cluster checks kind (some t) labels).get? (readyLabel cluster kind) = some "true" ∧
      (report cluster checks kind (some t) labels).get? (revisionLabel cluster kind) =
        some t.revision := by
  unfold report
  simp only [GoMap.get?_insert, hcheck]
  constructor
  · rw [if_neg (readyLabel_ne_revisionLabel _ _ _ _).symm]
    simp [boolStr]
  · simp

/-- The labels of one kind do not touch those of the other. -/
theorem get?_report_other {cluster : String} {checks : Checks} {kind other : ProbeType}
    (hne : other ≠ kind) (target : Option TargetConfig) (labels : GoMap String) :
    (report cluster checks other target labels).get? (readyLabel cluster kind) =
        labels.get? (readyLabel cluster kind) ∧
      (report cluster checks other target labels).get? (revisionLabel cluster kind) =
        labels.get? (revisionLabel cluster kind) := by
  rcases target with _ | t
  · exact ⟨rfl, rfl⟩
  · unfold report
    simp only [GoMap.get?_insert]
    constructor
    · rw [if_neg (readyLabel_ne_revisionLabel _ _ _ _).symm,
        if_neg fun h => hne (readyLabel_inj h).2]
    · rw [if_neg fun h => hne (revisionLabel_inj h).2,
        if_neg (readyLabel_ne_revisionLabel _ _ _ _)]

theorem get?_runOnce_self {r : ProbeRunner} {checks : Checks} {kind : ProbeType} {t : TargetConfig}
    (ht : r.target kind = some t) (hcheck : checkTarget checks t = true) :
    ∃ labels, runOnce r checks = some labels ∧
      labels.get? (readyLabel r.clusterName kind) = some "true" ∧
      labels.get? (revisionLabel r.clusterName kind) = some t.revision := by
  have hlabels : (report r.clusterName checks .bmc r.bmc (report r.clusterName checks .provision
        r.provision .empty)).get? (readyLabel r.clusterName kind) = some "true" ∧
      (report r.clusterName checks .bmc r.bmc (report r.clusterName checks .provision
        r.provision .empty)).get? (revisionLabel r.clusterName kind) = some t.revision := by
    cases kind with
    | provision =>
      have ht' : r.provision = some t := ht
      obtain ⟨hready, hrevision⟩ := @get?_report_other r.clusterName checks .provision .bmc
        (by decide) r.bmc (report r.clusterName checks .provision r.provision .empty)
      rw [hready, hrevision, ht']
      exact get?_report_self hcheck .empty
    | bmc =>
      have ht' : r.bmc = some t := ht
      rw [ht']
      exact get?_report_self hcheck _
  have hnonempty : (report r.clusterName checks .bmc r.bmc (report r.clusterName checks .provision
      r.provision .empty)).len ≠ 0 := by
    intro hlen
    have hget := hlabels.1
    unfold GoMap.get? at hget
    rw [List.length_eq_zero_iff.mp hlen] at hget
    cases hget
  refine ⟨_, ?_, hlabels⟩
  unfold runOnce
  rw [if_neg hnonempty]

theorem clusterName_runnerFromEnv {cp : ControlPlane} {node : String}
    (hcluster : cp.spec.clusterName ≠ "") (hnode : node ≠ "")
    (hlo : 0 ≤ cp.spec.networkProbe.intervalSeconds)
    (hhi : cp.spec.networkProbe.intervalSeconds ≤ maxSeconds) {kind : ProbeType} {t : TargetConfig}
    (ht : targetFromEnv isPrint digest (processEnv isPrint digest cp (verbatim node)) kind = some t) :
    ∃ r, runnerFromEnv isPrint digest (processEnv isPrint digest cp (verbatim node)) = .ok r ∧
      r.clusterName = cp.spec.clusterName := by
  have hget := fun v => @getenv_processEnv isPrint digest cp (verbatim node) v
  have hname := hget ⟨"PROBE_CLUSTER_NAME", .value cp.spec.clusterName⟩ (by simp [probeEnv])
  have hnodeName := hget ⟨"NODE_NAME", .fieldRef "spec.nodeName"⟩ (by simp [probeEnv])
  have hseconds := hget ⟨"PROBE_INTERVAL_SECONDS", .value (Strconv.formatInt
    (if cp.spec.networkProbe.intervalSeconds = 0 then 300
      else cp.spec.networkProbe.intervalSeconds))⟩ (by simp [probeEnv])
  simp only [verbatim] at hname hnodeName hseconds
  obtain ⟨n, hn⟩ : ∃ n, n = if cp.spec.networkProbe.intervalSeconds = 0 then 300
      else cp.spec.networkProbe.intervalSeconds := ⟨_, rfl⟩
  rw [← hn] at hseconds
  have hpos : 0 < n ∧ n ≤ maxSeconds := by
    rw [hn]
    unfold maxSeconds at hhi ⊢
    split_ifs <;> omega
  have hread : Strconv.atoi (Strconv.formatInt n) = some n := by
    rw [Strconv.atoi_formatInt, if_pos]
    unfold maxSeconds at hpos
    unfold Strconv.maxInt
    omega
  have hinterval : intervalFromEnv isPrint (Strconv.formatInt n) = .ok n := by
    have hne : Strconv.formatInt n ≠ "" := by
      intro h
      rw [h] at hread
      cases hread
    unfold intervalFromEnv
    rw [if_neg hne, hread]
    simp only
    rw [if_neg (by omega)]
  unfold runnerFromEnv
  rw [hname, hnodeName, hseconds, if_neg hcluster, if_neg hnode, hinterval]
  simp only
  rw [if_neg]
  · exact ⟨_, rfl, rfl⟩
  · rintro ⟨hprovision, hbmc⟩
    cases kind with
    | provision => rw [ht] at hprovision; cases hprovision
    | bmc => rw [ht] at hbmc; cases hbmc

/-- **A process of the current specification whose checks pass makes its node selected**, whatever
the labels were before. -/
theorem selected_of_checks {cp : ControlPlane} (henabled : cp.spec.networkProbe.enabled = true)
    (hcluster : cp.spec.clusterName ≠ "") (hlo : 0 ≤ cp.spec.networkProbe.intervalSeconds)
    (hhi : cp.spec.networkProbe.intervalSeconds ≤ maxSeconds) {node : String} (hnode : node ≠ "")
    {kind : ProbeType} (hvalid : (probeTargetConfig cp kind).validate = none) {checks : Checks}
    (hattach : ∀ p, checks.attachmentCheck p = none)
    (hdial : ∀ address timeout, checks.dialCheck address timeout = none) (start : GoMap String)
    (history : List NodeEvent) :
    (labelsAfter isPrint digest start
      (history ++ [.tick cp (verbatim node) checks true])).Satisfies
        (effectiveNodeSelector isPrint digest cp kind) := by
  obtain ⟨t, ht, htvalid, hconf⟩ := @targetFromEnv_verbatim isPrint digest cp node kind hvalid
  obtain ⟨r, hr, hname⟩ := clusterName_runnerFromEnv hcluster hnode hlo hhi ht
  have htarget : r.target kind = some t := by rw [target_runnerFromEnv hr, ht]
  have hcheck : checkTarget checks t = true :=
    checkTarget_iff.mpr ⟨htvalid, hattach _, Or.inr (hdial _ _)⟩
  obtain ⟨labels, hrun, hready, hrevision⟩ := get?_runOnce_self htarget hcheck
  have hpatch : (NodeEvent.tick cp (verbatim node) checks true).patch isPrint digest = labels := by
    simp only [NodeEvent.patch, hr, hrun, if_true, Option.getD_some]
  have hafter : labelsAfter isPrint digest start
      (history ++ [.tick cp (verbatim node) checks true]) =
        (labelsAfter isPrint digest start history).merge labels := by
    unfold labelsAfter GoMap.after
    rw [List.foldl_append, ← hpatch, List.foldl_cons, List.foldl_nil]
  rw [hname] at hready hrevision
  rw [satisfies_selector_iff henabled, hafter, GoMap.get?_merge, GoMap.get?_merge, hready, hrevision,
    hconf.revision]
  exact ⟨rfl, rfl⟩

/-! ### Histories -/

/-- A tick that writes the revision of a target was applied, and its own target of the kind has that
revision and passed. -/
theorem patch_tick {old : ControlPlane} {resolve : EnvVar → String} {checks : Checks}
    {applied : Bool} {cluster : String} {kind : ProbeType} {target : Target}
    (h : ((NodeEvent.tick old resolve checks applied).patch isPrint digest).get?
      (revisionLabel cluster kind) = some (target.revision isPrint digest)) :
    ∃ t, targetFromEnv isPrint digest (processEnv isPrint digest old resolve) kind = some t ∧
      applied = true ∧ checkTarget checks t = true ∧
      t.revision = target.revision isPrint digest := by
  simp only [NodeEvent.patch] at h
  rcases hrunner : runnerFromEnv isPrint digest (processEnv isPrint digest old resolve) with e | r
  · rw [hrunner] at h
    cases h
  · rw [hrunner] at h
    simp only at h
    by_cases happlied : applied = true
    · rw [if_pos happlied] at h
      rcases hrun : runOnce r checks with _ | labels
      · rw [hrun] at h
        cases h
      · rw [hrun] at h
        obtain ⟨t, ht, hv⟩ := get?_runOnce hrun h
        have hnonempty : target.revision isPrint digest ≠ "" := hexString_ne_empty _
        by_cases hcheck : checkTarget checks t = true
        · rw [if_pos hcheck] at hv
          exact ⟨t, by rw [← target_runnerFromEnv hrunner, ht], happlied, hcheck, hv.symm⟩
        · rw [if_neg hcheck] at hv
          exact absurd hv hnonempty
    · rw [if_neg happlied] at h
      cases h

/-- **A node is selected only on the word of a process that ran the check the specification asks
for.** Whatever processes of whatever specifications patched the labels in whatever order, the last
writer of the revision label had a valid target with the network, address and timeout of the current
one, and its attachment and dial checks passed. Nothing else writes the revision label, and the
hashes of the targets do not collide. -/
theorem attested {cp : ControlPlane} (henabled : cp.spec.networkProbe.enabled = true)
    {kind : ProbeType} {start : GoMap String} {history : List NodeEvent}
    (hstart : start.get? (revisionLabel cp.spec.clusterName kind) = none)
    (hother : ∀ patch, NodeEvent.other patch ∈ history →
      patch.get? (revisionLabel cp.spec.clusterName kind) = none)
    (hdigest : Set.InjOn digest (hashed isPrint digest cp kind history))
    (hselected : (labelsAfter isPrint digest start history).Satisfies
      (effectiveNodeSelector isPrint digest cp kind)) :
    ∃ e, GoMap.lastWriter (NodeEvent.patch isPrint digest)
        (revisionLabel cp.spec.clusterName kind) history = some e ∧
      Attests isPrint digest cp kind e := by
  obtain ⟨-, hrevision⟩ := (satisfies_selector_iff henabled).mp hselected
  unfold labelsAfter at hrevision
  rw [GoMap.get?_after] at hrevision
  rcases hlast : GoMap.lastWriter (NodeEvent.patch isPrint digest)
      (revisionLabel cp.spec.clusterName kind) history with _ | e
  · -- nobody wrote it, and it was not there
    rw [hlast] at hrevision
    rw [hstart] at hrevision
    cases hrevision
  · rw [hlast] at hrevision
    have hmem := GoMap.mem_of_lastWriter _ hlast
    refine ⟨e, rfl, ?_⟩
    rcases e with ⟨old, resolve, checks, applied⟩ | patch
    · obtain ⟨t, ht, happlied, hcheck, hrev⟩ := patch_tick hrevision
      obtain ⟨hvalid, hattach, hdial⟩ := checkTarget_iff.mp hcheck
      obtain ⟨cfg, hcfg, hconf⟩ := targetFromEnv_valid ht hvalid
      have hsame : SameCheck cfg (probeTargetConfig cp kind) :=
        eq_of_revision_eq hdigest
          (Or.inr ⟨old, resolve, checks, applied, cfg, hmem, hcfg, rfl⟩) (Or.inl rfl)
          (hconf.revision.symm.trans hrev)
      obtain ⟨⟨p, hp, -⟩, -⟩ := validate_sound hconf.valid
      have hsubnet : t.subnet = some p := by
        rw [← hconf.subnet, hp]
        rfl
      refine ⟨cfg, p, t.timeout, hcfg, happlied, hconf.valid, hsame, hp, hconf.timeout, ?_, ?_⟩
      · rw [← hsubnet]
        exact hattach
      · rw [hconf.host, hconf.port]
        exact hdial
    · simp only [NodeEvent.patch] at hrevision
      rw [hother patch hmem] at hrevision
      cases hrevision

/-- A control plane that probes one network. -/
def probedPlane (subnet : String) : ControlPlane :=
  { spec := { clusterName := "hpc1"
              networkProbe := { enabled := true, provisionNetwork := some { subnet := subnet } } } }

/-- Some values of the hash, as far as they are needed. -/
def sampleDigest (s : String) : BitVec 128 :=
  if s = "\"host-attachment-v1\"|\"10.0.0.0/24\"|\"\"|0|\"5s\"" then
    0x6dd30e858b5c66edb7a3a7e27e3041c1
  else if s = "\"host-attachment-v1\"|\"10.0.1.0/24\"|\"\"|0|\"5s\"" then
    0xb81c4d3ae455714abc023aee75a2caad
  else 0

def samplePrint (c : Char) : Bool := 32 ≤ c.toNat && c.toNat < 127

def passing : Checks := ⟨fun _ => none, fun _ _ => none⟩

/-- A process of an earlier specification, an old binary, and a process of the current one. -/
def moved : List NodeEvent :=
  [.tick (probedPlane "10.0.1.0/24") (verbatim "node-1") passing true,
    .other (GoMap.ofList [(readyLabel "hpc1" .provision, "true")]),
    .tick (probedPlane "10.0.0.0/24") (verbatim "node-1") passing true]

theorem attested_moved : ∃ e, GoMap.lastWriter (NodeEvent.patch samplePrint sampleDigest)
      (revisionLabel "hpc1" .provision) moved = some e ∧
    Attests samplePrint sampleDigest (probedPlane "10.0.0.0/24") .provision e := by
  have htexts : ∀ m ∈ hashed samplePrint sampleDigest (probedPlane "10.0.0.0/24") .provision moved,
      m = "\"host-attachment-v1\"|\"10.0.0.0/24\"|\"\"|0|\"5s\"" ∨
        m = "\"host-attachment-v1\"|\"10.0.1.0/24\"|\"\"|0|\"5s\"" := by
    have hread : ∀ subnet ∈ ["10.0.1.0/24", "10.0.0.0/24"], environTarget
        (processEnv samplePrint sampleDigest (probedPlane subnet) (verbatim "node-1")) .provision =
          some { subnet := subnet } := by decide +kernel
    rintro m (rfl | ⟨old, resolve, checks, applied, cfg, hmem, hcfg, rfl⟩)
    · exact Or.inl (by decide)
    · simp only [moved, List.mem_cons, List.not_mem_nil, or_false, reduceCtorEq, false_or] at hmem
      rcases hmem with h | h
      · obtain ⟨rfl, rfl, rfl, rfl⟩ := NodeEvent.tick.inj h
        rw [hread _ (by simp)] at hcfg
        cases hcfg
        exact Or.inr (by decide)
      · obtain ⟨rfl, rfl, rfl, rfl⟩ := NodeEvent.tick.inj h
        rw [hread _ (by simp)] at hcfg
        cases hcfg
        exact Or.inl (by decide)
  refine @attested samplePrint sampleDigest (probedPlane "10.0.0.0/24") rfl .provision .empty moved
    rfl ?_ ?_ ?_
  · intro patch hmem
    simp only [moved, List.mem_cons, List.not_mem_nil, or_false, reduceCtorEq, false_or] at hmem
    cases hmem
    decide
  · intro m hm m' hm' h
    rcases htexts m hm with rfl | rfl
    · rcases htexts m' hm' with rfl | rfl
      · rfl
      · exact absurd h (by decide)
    · rcases htexts m' hm' with rfl | rfl
      · exact absurd h (by decide)
      · rfl
  · exact selected_of_checks rfl (by decide) (by decide) (by decide) (by decide) (by decide)
      (fun _ => rfl) (fun _ _ => rfl) .empty
      [.tick (probedPlane "10.0.1.0/24") (verbatim "node-1") passing true,
        .other (GoMap.ofList [(readyLabel "hpc1" .provision, "true")])]

end OpenchamiOperator.Probe
