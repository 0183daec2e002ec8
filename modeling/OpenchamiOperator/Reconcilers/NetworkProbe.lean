import OpenchamiOperator.NetworkProbe.Revision
import OpenchamiOperator.Reconcilers.Helpers

/-! # The configuration of the network probe

What `internal/reconcilers/networkprobe.go` and `helpers.go` derive from the specification for the
probe: the environment of its pods, and the node selector of the workloads that depend on it. Both
carry the revision of the target. -/

namespace OpenchamiOperator.Reconcilers

open Lib Api NetworkProbe

section Revision
variable (isPrint : Char → Bool) (digest : String → BitVec 128)

/-- `probeConfig`. -/
def probeConfig : Option NetworkProbeTarget → Target
  | none => {}
  | some t =>
    { subnet := t.subnet, host := t.validateHost, port := t.validatePort,
      timeout := t.validateTimeout }

/-- The network of the specification for a kind of probe. -/
def probeNetwork (cp : ControlPlane) : ProbeType → Option NetworkProbeTarget
  | .provision => cp.spec.networkProbe.provisionNetwork
  | .bmc => cp.spec.networkProbe.bmcNetwork

/-- `probeTargetConfig`. -/
def probeTargetConfig (cp : ControlPlane) (kind : ProbeType) : Target :=
  probeConfig (probeNetwork cp kind)

/-- `EffectiveNodeSelector`. -/
def effectiveNodeSelector (cp : ControlPlane) (kind : ProbeType) : GoMap String :=
  if cp.spec.networkProbe.enabled then
    GoMap.ofList
      [(readyLabel cp.spec.clusterName kind, "true"),
        (revisionLabel cp.spec.clusterName kind,
          (probeTargetConfig cp kind).revision isPrint digest)]
  else
    match kind with
    | .provision => cp.spec.services.coreDHCP.nodeSelector
    | .bmc => cp.spec.services.magellan.nodeSelector

/-- The part of the names of a target's variables. -/
def envName : ProbeType → String
  | .provision => "PROVISION"
  | .bmc => "BMC"

/-- `targetEnvVars`. -/
def targetEnvVars (kind : ProbeType) (t : Option NetworkProbeTarget) : List EnvVar :=
  let port := match t with
    | none => ""
    | some t => if t.validatePort ≠ 0 then Strconv.formatInt t.validatePort else ""
  [⟨"PROBE_" ++ envName kind ++ "_SUBNET", .value ((t.map (·.subnet)).getD "")⟩,
    ⟨"PROBE_" ++ envName kind ++ "_HOST", .value ((t.map (·.validateHost)).getD "")⟩,
    ⟨"PROBE_" ++ envName kind ++ "_PORT", .value port⟩,
    ⟨"PROBE_" ++ envName kind ++ "_TIMEOUT", .value ((t.map (·.validateTimeout)).getD "")⟩,
    ⟨"PROBE_" ++ envName kind ++ "_REVISION", .value ((probeConfig t).revision isPrint digest)⟩]

/-- The environment of the container in `buildDaemonSet`. -/
def probeEnv (cp : ControlPlane) : List EnvVar :=
  let intervalSeconds :=
    if cp.spec.networkProbe.intervalSeconds = 0 then 300 else cp.spec.networkProbe.intervalSeconds
  [⟨"PROBE_CLUSTER_NAME", .value cp.spec.clusterName⟩,
    ⟨"PROBE_INTERVAL_SECONDS", .value (Strconv.formatInt intervalSeconds)⟩,
    ⟨"NODE_NAME", .fieldRef "spec.nodeName"⟩] ++
  targetEnvVars isPrint digest .provision cp.spec.networkProbe.provisionNetwork ++
  targetEnvVars isPrint digest .bmc cp.spec.networkProbe.bmcNetwork

end Revision

end OpenchamiOperator.Reconcilers
