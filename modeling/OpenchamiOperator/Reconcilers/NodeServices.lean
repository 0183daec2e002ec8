import OpenchamiOperator.Lib.GoNet
import OpenchamiOperator.Reconcilers.NetworkProbe
import OpenchamiOperator.Reconcilers.Observed

/-! # The services on the nodes

The sub-reconcilers of the network probe, CoreDHCP and Magellan (`networkprobe.go`, `coredhcp.go`,
`coredhcp_config.go`, `magellan.go` of `internal/reconcilers`). -/

namespace OpenchamiOperator.Reconcilers

open Lib Strings Api Controller NetworkProbe

/-! ### The network probe -/

/-- `NetworkProbeReconciler.buildDaemonSet`. -/
def buildProbeDaemonSet (cp : ControlPlane) : KubeObject :=
  objectIn cp "DaemonSet" ("openchami-" ++ cp.spec.clusterName ++ "-network-probe")

/-- The nodes that carry the labels of a successful probe of the current target, in order. -/
def eligibleNodes (obs : Observed) (cp : ControlPlane) (kind : ProbeType) : List String :=
  let target := probeTargetConfig cp kind
  ((obs.nodes.filter fun node =>
    node.2.getD (readyLabel cp.spec.clusterName kind) "" = "true" &&
    node.2.getD (revisionLabel cp.spec.clusterName kind) "" =
      target.revision obs.isPrint obs.probeDigest &&
    target.validate.isNone).map Prod.fst).insertionSort (· ≤ ·)

/-- `probeReady`. -/
def probeReady (obs : Observed) (cp : ControlPlane) : Bool :=
  let ok := fun kind => (probeNetwork cp kind).isNone || eligibleNodes obs cp kind ≠ []
  ok .provision && ok .bmc &&
    ((probeNetwork cp .provision).isSome || (probeNetwork cp .bmc).isSome) &&
    0 ≤ cp.spec.networkProbe.intervalSeconds

/-- `missing`. -/
def missingNodes (obs : Observed) (cp : ControlPlane) : String :=
  let none_ := fun kind => (probeNetwork cp kind).isSome && eligibleNodes obs cp kind = []
  if none_ .provision && none_ .bmc then "no nodes pass provision probe; no nodes pass BMC probe"
  else if none_ .provision then "no nodes pass provision probe"
  else if none_ .bmc then "no nodes pass BMC probe"
  else "no eligible nodes"

def probeCondition (status : ConditionStatus) (reason message : String) : Act :=
  .write (.condition .networkProbeReady status reason message)

/-- The end of a call, once a pod of the probe runs. -/
def reportProbe (obs : Observed) (cp : ControlPlane) : Program :=
  let provision := eligibleNodes obs cp .provision
  let bmc := eligibleNodes obs cp .bmc
  let status := Act.write (.networkProbe (some ⟨provision, bmc, probeReady obs cp⟩))
  if probeReady obs cp then
    { acts := [status, probeCondition .true Reason.ready ("provisionNodes=" ++
        toString provision.length ++ " bmcNodes=" ++ toString bmc.length)] }
  else
    { acts := [status, probeCondition .false Reason.noEligibleNodes (missingNodes obs cp),
        .event (conditionEvent .warning "NoEligibleNodes"
          ("network-probe DaemonSet running but no nodes meet probe requirements: " ++
            missingNodes obs cp))]
      requeueAfter := 30 }

/-- `NetworkProbeReconciler.Reconcile`. -/
def reconcileNetworkProbe (obs : Observed) (cp : ControlPlane) : Program :=
  let ds := buildProbeDaemonSet cp
  let apply := [applying "applying network-probe DaemonSet" ds,
    reading "reading network-probe DaemonSet status"]
  if !cp.spec.networkProbe.enabled then
    { acts := [.write (.networkProbe none),
        probeCondition .true Reason.ready "probe disabled, manual nodeSelectors in use"] }
  else if ((obs.daemonSets ds.name).map DaemonSetView.numberReady).getD 0 = 0 then
    { acts := apply ++ [.write (.networkProbe (some {})),
        probeCondition .false Reason.provisioning
          "waiting for network-probe DaemonSet pods to become ready"]
      requeueAfter := 30 }
  else
    { reportProbe obs cp with
      acts := apply ++ [reading "listing nodes for probe status"] ++ (reportProbe obs cp).acts }

/-- `NetworkProbeReconciler.Describe`. -/
def describeNetworkProbe (cp : ControlPlane) : List KubeObject :=
  if cp.spec.networkProbe.enabled then [buildProbeDaemonSet cp] else []

/-! ### CoreDHCP -/

/-- The values in a generated configuration. -/
structure DHCPValues where
  leaseTime : String
  serverID : String
  router : String
  netmask : String
  rangeStart : String
  rangeEnd : String
  rangeLease : String

/-- `firstUsableIPv4`: only the last byte is incremented. -/
def firstUsableIPv4 (ipnet : GoNet.IPNet) : Option (List (BitVec 8)) :=
  match GoNet.to4 ipnet.ip with
  | none => none
  | some ip =>
    let (ones, bits) := GoNet.maskSize ipnet.mask
    if bits ≠ 32 ∨ 31 ≤ ones then none
    else some (ip.modify 3 (· + 1#8))

/-- `IP.String`, of four bytes. -/
def ipString (ip : List (BitVec 8)) : String := (Netip.Addr.v4 (GoNet.value ip)).string

/-- The values of the plugins. -/
def coreDHCPValues (isPrint : Char → Bool) (cp : ControlPlane) : Except String DHCPValues :=
  let dhcp := cp.spec.services.coreDHCP
  match dhcp.leaseRanges with
  | [] => .error "coredhcp: at least one leaseRange required"
  | r :: _ =>
    let subnet := Strconv.quote isPrint r.subnet
    match Netip.parseCIDR r.subnet with
    | none => .error ("coredhcp: invalid subnet " ++ subnet ++ ": invalid CIDR address: " ++ r.subnet)
    | some (addr, bits) =>
      let ipnet := GoNet.ipNetOf addr bits
      match GoNet.to4 ipnet.mask, firstUsableIPv4 ipnet with
      | none, _ => .error ("coredhcp: only IPv4 subnets are supported, got " ++ subnet)
      | some _, none => .error ("coredhcp: subnet " ++ subnet ++ " has no usable host addresses")
      | some netmask, some gateway => .ok
          { leaseTime := if dhcp.knownLeaseDuration = "" then "1h" else dhcp.knownLeaseDuration
            serverID := ipString gateway
            router := ipString gateway
            netmask := ipString netmask
            rangeStart := r.start
            rangeEnd := r.end
            rangeLease :=
              if dhcp.unknownLeaseDuration = "" then "5m" else dhcp.unknownLeaseDuration }

/-- The text of the configuration. -/
def DHCPValues.text (v : DHCPValues) (cp : ControlPlane) : String :=
  let more := cp.spec.services.coreDHCP.leaseRanges.tail
  "# Generated by openchami-operator. Do not edit by hand.\n" ++
    "# Cluster: " ++ cp.spec.clusterName ++ "\n" ++
    (if more = [] then "" else
      "# WARNING: " ++ toString more.length ++
        " additional leaseRanges ignored — coredhcp's server4\n" ++
        "# block supports a single plugin chain. Track upstream multi-subnet\n" ++
        "# support before adding more here.\n") ++
    "server4:\n  listen:\n    - \"0.0.0.0:67\"\n  plugins:\n" ++
    "    - lease_time: " ++ v.leaseTime ++ "\n" ++
    "    - server_id: " ++ v.serverID ++ "\n" ++
    "    - dns: 1.1.1.1 8.8.8.8\n" ++
    "    - router: " ++ v.router ++ "\n" ++
    "    - netmask: " ++ v.netmask ++ "\n" ++
    "    - range: /tmp/coredhcp-leases.txt " ++ v.rangeStart ++ " " ++ v.rangeEnd ++ " " ++
      v.rangeLease ++ "\n"

/-- `renderCoreDHCPConfig`. -/
def renderCoreDHCPConfig (isPrint : Char → Bool) (cp : ControlPlane) : Except String String :=
  (coreDHCPValues isPrint cp).map fun v => v.text cp

/-- `EffectiveKey`. -/
def CoreDHCPConfigMapRef.effectiveKey (ref : CoreDHCPConfigMapRef) : String :=
  if ref.key = "" then "config.yml" else ref.key

/-- `coreDHCPConfigSourceRef`. -/
def coreDHCPConfigSourceRef (cp : ControlPlane) (ref : CoreDHCPConfigMapRef) : String :=
  cp.metadata.namespace ++ "/" ++ ref.name ++ ":" ++ CoreDHCPConfigMapRef.effectiveKey ref

/-- `resolveConfig`: the configuration and where it comes from, or the reason and the message of the
condition. -/
def resolveConfig (obs : Observed) (cp : ControlPlane) :
    Except (String × String) (String × String) :=
  match cp.spec.services.coreDHCP.configMapRef with
  | none =>
    match renderCoreDHCPConfig obs.isPrint cp with
    | .ok rendered => .ok (rendered, "generated")
    | .error e => .error (Reason.invalidConfig, "cannot generate coredhcp config: " ++ e ++
        "; set spec.services.coreDHCP.leaseRanges or configMapRef")
  | some ref =>
    let source := coreDHCPConfigSourceRef cp ref
    let key := CoreDHCPConfigMapRef.effectiveKey ref
    match obs.configMaps ref.name with
    | none => .error (Reason.configMapNotFound,
        "coredhcp configMapRef " ++ source ++ " not found")
    | some data =>
      if data.getD key "" = "" then
        .error (Reason.configMapNotFound, "coredhcp configMapRef " ++ source ++ " has no data key " ++
          Strconv.quote obs.isPrint key ++ " (or it is empty)")
      else .ok (data.getD key "", source)

/-- `probeGateReady`. -/
def probeGateReady (cp : ControlPlane) (kind : ProbeType) : Bool :=
  if !cp.spec.networkProbe.enabled then true
  else
    (findStatusCondition cp.status.conditions .networkProbeReady).any (fun c =>
      c.status = .true && c.observedGeneration = cp.metadata.generation) &&
    0 ≤ cp.spec.networkProbe.intervalSeconds && (probeTargetConfig cp kind).validate.isNone

/-- `CoreDHCPReconciler.buildConfigMap` and `buildDaemonSet`. -/
def buildCoreDHCPConfigMap (cp : ControlPlane) : KubeObject := objectIn cp "ConfigMap" "coredhcp-config"

def buildCoreDHCPDaemonSet (cp : ControlPlane) : KubeObject := objectIn cp "DaemonSet" "coredhcp"

def dhcpCondition (status : ConditionStatus) (reason message : String) : Act :=
  .write (.condition .dhcpReady status reason message)

/-- `restrictExistingSelection`. -/
def restrictExistingSelection (obs : Observed) (cp : ControlPlane) : List Act :=
  reading "reading existing coredhcp selector" ::
    if obs.coreDHCPExists then
      [.request (.patch (buildCoreDHCPDaemonSet cp)) "restricting existing coredhcp selector"]
    else []

/-- `fullyReady`. -/
def fullyReady (ds : DaemonSetView) : Bool :=
  ds.generation ≤ ds.observedGeneration && 0 < ds.desiredNumberScheduled &&
    ds.numberReady = ds.desiredNumberScheduled &&
    ds.updatedNumberScheduled = ds.desiredNumberScheduled &&
    ds.numberAvailable = ds.desiredNumberScheduled && ds.numberMisscheduled = 0

/-- The end of a call, after the DaemonSet is applied. -/
def reportDHCP (current : Option DaemonSetView) : Program :=
  let ds := current.getD {}
  if current.any fullyReady then
    { acts := [dhcpCondition .true Reason.ready ("coredhcp DaemonSet ready (numberReady=" ++
        Strconv.formatInt ds.numberReady ++ ")")] }
  else
    { acts := [dhcpCondition .false Reason.provisioning
        ("waiting for coredhcp DaemonSet: desired=" ++ Strconv.formatInt ds.desiredNumberScheduled ++
          " ready=" ++ Strconv.formatInt ds.numberReady ++
          " updated=" ++ Strconv.formatInt ds.updatedNumberScheduled ++
          " available=" ++ Strconv.formatInt ds.numberAvailable ++
          " misscheduled=" ++ Strconv.formatInt ds.numberMisscheduled ++
          " observedGeneration=" ++ Strconv.formatInt ds.observedGeneration ++
          " generation=" ++ Strconv.formatInt ds.generation)]
      requeueAfter := 30 }

/-- The read of a user's ConfigMap. -/
def readConfigMapRef (cp : ControlPlane) : List Act :=
  match cp.spec.services.coreDHCP.configMapRef with
  | none => []
  | some ref => [reading ("reading coredhcp configMapRef " ++ coreDHCPConfigSourceRef cp ref)]

/-- `CoreDHCPReconciler.Reconcile`. -/
def reconcileCoreDHCP (obs : Observed) (cp : ControlPlane) : Program :=
  let restrict := restrictExistingSelection obs cp
  if !cp.spec.services.coreDHCP.enabled then {}
  else if !probeGateReady cp .provision then
    { acts := restrict ++ [dhcpCondition .false Reason.waitingForProbe
        "waiting for NetworkProbeReady before scheduling coredhcp"]
      requeueAfter := 30 }
  else
    match resolveConfig obs cp with
    | .error (reason, message) =>
      { acts := restrict ++ readConfigMapRef cp ++ [dhcpCondition .false reason message,
          .event (conditionEvent .warning reason message)]
        requeueAfter := 30 }
    | .ok _ =>
      let report := reportDHCP (obs.daemonSets "coredhcp")
      { report with
        acts := restrict ++ readConfigMapRef cp ++
          [applying "applying coredhcp ConfigMap" (buildCoreDHCPConfigMap cp),
           applying "applying coredhcp DaemonSet" (buildCoreDHCPDaemonSet cp),
           reading "reading coredhcp DaemonSet status"] ++ report.acts }

/-- `CoreDHCPReconciler.Describe`. -/
def describeCoreDHCP (isPrint : Char → Bool) (cp : ControlPlane) : Except String (List KubeObject) :=
  let objects := [buildCoreDHCPConfigMap cp, buildCoreDHCPDaemonSet cp]
  if !cp.spec.services.coreDHCP.enabled then .ok []
  else if cp.spec.services.coreDHCP.configMapRef.isSome then .ok objects
  else (renderCoreDHCPConfig isPrint cp).map fun _ => objects

/-! ### Magellan -/

/-- A request of `suspendExistingCronJob`, whose error is reported. -/
def magellanRequest (eff : Effect) (context : String) : Act :=
  .request eff context [.condition .magellanReady .false Reason.error (errorText context)]

/-- The CronJob carries the labels of this operator and this cluster. -/
def ownsCronJob (cp : ControlPlane) (labels : GoMap String) : Bool :=
  labels.getD "openchami.org/managed-by" "" = "operator" &&
    labels.getD "app.kubernetes.io/instance" "" = "openchami-" ++ cp.spec.clusterName &&
    labels.getD "app.kubernetes.io/name" "" = "magellan"

/-- `suspendExistingCronJob`. -/
def suspendExistingCronJob (obs : Observed) (cp : ControlPlane) : List Act :=
  magellanRequest .none "reading existing magellan CronJob" ::
    match obs.cronJobLabels "magellan" with
    | none => []
    | some labels =>
      if ownsCronJob cp labels then
        [magellanRequest (.patch (objectIn cp "CronJob" "magellan"))
          "suspending existing magellan CronJob"]
      else
        let message := "refusing to suspend magellan CronJob " ++ controlPlaneNamespace cp ++
          "/magellan without matching operator and cluster labels"
        [.stop ⟨message, .failed⟩ [.condition .magellanReady .false Reason.error message]]

/-- `MagellanReconciler.Reconcile`. -/
def reconcileMagellan (obs : Observed) (cp : ControlPlane) : Program where
  acts := suspendExistingCronJob obs cp ++
    [.write (if cp.spec.services.magellan.enabled then
        .condition .magellanReady .false Reason.notConfigured
          ("magellan discovery is not implemented: command pipeline, BMC credentials, and SMD " ++
            "authentication are not wired; scheduling suspended")
      else .condition .magellanReady .true Reason.ready
        "magellan disabled; existing schedules suspended")]
  requeueAfter := 30

end OpenchamiOperator.Reconcilers
