import OpenchamiOperator.Controller.SwitchedOff

/-! # What a status remembers

Two full passes over the same specification, with the same answers to their reads, from two statuses.

* `reports_condition`, `reports_entry`: which slots a call writes.
* `lastWrite_congr`: what it writes does not depend on the status the pass began with, because the
  slots that a later call reads have been written by an earlier one. The query service is the
  exception: it reads the name of the log bucket, which no pass takes back.
* `status_forgets_iff`: two passes show the same exactly when their statuses agreed on what a pass
  leaves alone. -/

namespace OpenchamiOperator.Controller

open Lib Api Reconcilers

/-! ### What is left alone -/

/-- A full pass leaves the condition as it finds it. -/
def leavesCondition (cp : ControlPlane) : ConditionType → Bool
  | .dhcpReady => !cp.spec.services.coreDHCP.enabled
  | .ready | .logQueryReady | .other _ => true
  | _ => false

/-- The entry of the collector is written. -/
def collectorReported (cp : ControlPlane) : Bool :=
  cp.spec.logging.enabled && cp.spec.logging.image.isSome

/-- The name of the log bucket is written. -/
def logBucketReported (op : Operator) (obs : Observed) (cp : ControlPlane) : Bool :=
  cp.spec.logging.enabled && op.s3Client &&
    (obs.secrets (secretName cp "log-credentials")).isSome

/-- The query service is on. -/
def queryOn (cp : ControlPlane) : Bool :=
  cp.spec.logging.enabled && cp.spec.logging.queryEnabled && cp.spec.logging.queryImage.isSome

/-- The entry of the query service, when it is written. -/
def queryStatus (obs : Observed) (cp : ControlPlane) : ServiceStatus :=
  let available := (obs.deployments "logq-query").getD 0
  { ready := decide (1 ≤ available)
    endpoint := "http://logq-query." ++ controlPlaneNamespace cp ++ ".svc.cluster.local:" ++
      Strconv.formatInt (queryPort cp)
    message := if decide (1 ≤ available) then "logq-query deployment available"
      else "availableReplicas=" ++ Strconv.formatInt available }

/-- A full pass leaves the entry of a service other than the query service as it finds it. -/
def leavesService (cp : ControlPlane) (name : String) : Bool :=
  if name = "funicular-collector" then !collectorReported cp
  else [Service.smd, .tokensmith, .bootService, .metadataService].all fun svc =>
    svc.name ≠ name || !serviceDeployedInCluster cp svc

/-! ### Which slots a call writes -/

def Act.slot? : Act → Option Slot
  | .write x => x.slot?
  | _ => none

/-- The program writes the slot, unless it stops before. -/
def Program.reports (p : Program) (s : Slot) : Bool := p.acts.any fun a => a.slot? = some s

theorem lastWrite_isSome (p : Program) (s : Slot) : (lastWrite s p.writes).isSome = p.reports s := by
  unfold lastWrite Program.reports Program.writes
  rw [List.isSome_find?, List.any_reverse, List.any_filterMap]
  congr 1
  funext a
  cases a with
  | write x => rfl
  | _ => rfl

section Reports

variable {t : ConditionType} {st : ConditionStatus} {reason message name context : String}
  {entry : ServiceStatus} {eff : Effect} {writes : List StatusWrite} {events : List Event}

@[simp] theorem slot?_condition :
    (Act.write (.condition t st reason message)).slot? = some (.condition t) := rfl
@[simp] theorem slot?_service : (Act.write (.service name entry)).slot? = some (.service name) := rfl
@[simp] theorem slot?_request : (Act.request eff context writes events).slot? = none := rfl

end Reports

section Reports

variable {op : Operator} {obs : Observed} {cp : ControlPlane}

theorem reports_database (hstop : (reconcileDatabase obs cp).Clear) :
    (reconcileDatabase obs cp).reports (.condition .databaseReady) = true := by
  have hfollow : ∀ current, ((followCluster obs cp current).acts.any fun a =>
      a.slot? = some (.condition .databaseReady)) = true := by
    intro current
    unfold followCluster
    split_ifs <;> simp [databaseWaiting]
  unfold Program.reports
  revert hstop
  unfold reconcileDatabase
  simp only
  split
  · simp [databaseWaiting]
  · split
    · intro hstop
      have hnot := hstop (.stop ⟨"reading cnpg cluster status", .notFound⟩) (by simp)
      cases hnot
    · simp [hfollow]

/-- Every condition with a writer is written by each of its calls that does not stop, apart from that
of CoreDHCP when it is disabled. -/
theorem reports_condition {t : ConditionType} {sub : Sub} (hw : conditionWriter t = some sub)
    (hstop : (program op obs cp sub).Clear) :
    (program op obs cp sub).reports (.condition t) = !leavesCondition cp t := by
  cases t with
  | reconcileActive | servicesReady | ready | logQueryReady | other => cases hw
  | namespaceReady =>
    obtain rfl := Option.some.inj hw
    simp [program, leavesCondition, Program.reports, reconcileNamespace]
  | vaultConfigured =>
    obtain rfl := Option.some.inj hw
    simp only [program, leavesCondition, Program.reports]
    unfold reconcileVault
    split_ifs <;> simp [configureVault]
  | bucketReady =>
    obtain rfl := Option.some.inj hw
    simp only [program, leavesCondition, Program.reports]
    unfold reconcileBucket
    simp only
    split_ifs <;> simp
  | databaseReady =>
    obtain rfl := Option.some.inj hw
    exact reports_database hstop
  | serviceIdentityReady =>
    obtain rfl := Option.some.inj hw
    simp only [program, leavesCondition, Program.reports]
    unfold reconcileServiceIdentity
    simp only
    split_ifs <;> simp
  | networkProbeReady =>
    obtain rfl := Option.some.inj hw
    simp only [program, leavesCondition, Program.reports]
    unfold reconcileNetworkProbe reportProbe
    simp only
    split_ifs <;> simp [probeCondition]
  | dhcpReady =>
    obtain rfl := Option.some.inj hw
    simp only [program, leavesCondition, Program.reports]
    unfold reconcileCoreDHCP reportDHCP
    simp only
    by_cases hen : cp.spec.services.coreDHCP.enabled = true
    · simp only [hen, Bool.not_true, Bool.false_eq_true, if_false]
      split_ifs
      · simp [dhcpCondition]
      · split <;> simp [dhcpCondition]
      · split <;> simp [dhcpCondition]
    · simp [hen]
  | magellanReady =>
    obtain rfl := Option.some.inj hw
    simp only [program, leavesCondition, Program.reports, reconcileMagellan]
    split_ifs <;> simp
  | certificatesValid =>
    obtain rfl := Option.some.inj hw
    simp only [program, leavesCondition, Program.reports]
    unfold reconcileCertificates reportCertificate
    simp only
    split
    · simp [certificatesCondition]
    · split
      · simp [certificatesCondition]
      · split_ifs <;> simp [certificatesCondition]
  | gatewayReady =>
    obtain rfl := Option.some.inj hw
    simp only [program, leavesCondition, Program.reports]
    unfold reconcileGateway reportGateway
    split_ifs <;> simp [gatewayDeferred]
  | networkPoliciesReady =>
    obtain rfl := Option.some.inj hw
    simp only [program, leavesCondition, Program.reports] at hstop ⊢
    unfold reconcileNetworkPolicies at hstop ⊢
    split at hstop
    · simp [Program.Clear, Act.isStop] at hstop
    · simp
  | topologyPublished =>
    obtain rfl := Option.some.inj hw
    simp [program, leavesCondition, Program.reports, reconcileTopology]
  | logBucketReady =>
    obtain rfl := Option.some.inj hw
    simp only [program, leavesCondition, Program.reports]
    unfold reconcileLogBucket
    simp only
    split_ifs <;> simp [logBucketCondition]
  | logCollectorReady =>
    obtain rfl := Option.some.inj hw
    simp only [program, leavesCondition, Program.reports]
    unfold reconcileFunicular
    simp only
    split_ifs <;> simp [collectorCondition]
  | logCompactorReady =>
    obtain rfl := Option.some.inj hw
    simp only [program, leavesCondition, Program.reports]
    unfold reconcileLogqCompactor
    split_ifs <;> simp [compactorCondition]

theorem reports_deployService {svc : Service} {after : List Act}
    (hstop : (deployService obs cp svc after).Clear) :
    (deployService obs cp svc after).reports (.service svc.name) = true := by
  revert hstop
  unfold Program.reports deployService
  simp only
  split
  · intro hstop
    have hnot := hstop (.stop ⟨"reading " ++ svc.name ++ " Deployment status", .notFound⟩) (by simp)
    cases hnot
  · split_ifs <;> simp

theorem reports_service {svc : Service}
    (hstop : (program op obs cp (serviceSub svc)).Clear) :
    (program op obs cp (serviceSub svc)).reports (.service svc.name) =
      serviceDeployedInCluster cp svc := by
  by_cases hon : serviceDeployedInCluster cp svc = true
  · rw [hon]
    cases svc with
    | smd => simp [program, serviceSub, reconcileSMD, hon, Program.reports, Service.name]
    | tokensmith =>
      unfold program serviceSub reconcileTokensmith at hstop ⊢
      simp only [hon, Bool.not_true, Bool.false_eq_true, if_false] at hstop ⊢
      split_ifs at hstop ⊢ with hissuer
      · simp [Program.Clear, Act.isStop] at hstop
      · have hrest := reports_deployService (List.forall_mem_cons.mp hstop).2
        unfold Program.reports at hrest ⊢
        rw [List.any_cons, hrest, Bool.or_true]
    | bootService =>
      simp only [program, serviceSub, reconcileBootService, reconcileConsumer, hon, Bool.not_true,
        Bool.false_eq_true, if_false] at hstop ⊢
      exact reports_deployService hstop
    | metadataService =>
      simp only [program, serviceSub, reconcileMetadataService, reconcileConsumer, hon,
        Bool.not_true, Bool.false_eq_true, if_false] at hstop ⊢
      exact reports_deployService hstop
  · unfold Program.reports
    rw [acts_of_off (by simpa using hon)]
    simpa using hon

theorem reports_collector :
    (reconcileFunicular obs cp).reports (.service "funicular-collector") = collectorReported cp := by
  unfold Program.reports reconcileFunicular collectorReported
  by_cases hen : cp.spec.logging.enabled = true
  · rcases cp.spec.logging.image with _ | image
    · simp [hen, collectorCondition]
    · simp only [hen, Bool.not_true, Bool.false_eq_true, if_false, Option.isNone_some,
        Option.isSome_some, Bool.and_true]
      split_ifs <;> simp
  · simp [hen, collectorCondition]

/-- The entry of the query service is written when it is on and a log bucket is known. -/
theorem lastWrite_query : lastWrite (.service "logq-query") (program op obs cp .logqQuery).writes =
    if queryOn cp && cp.status.logBucket ≠ "" then some (.service "logq-query" (queryStatus obs cp))
    else none := by
  unfold program reconcileLogqQuery queryOn queryStatus
  by_cases hlog : cp.spec.logging.enabled = true
  · by_cases hquery : cp.spec.logging.queryEnabled = true
    · rcases cp.spec.logging.queryImage with _ | image
      · simp [hlog, hquery, lastWrite, Program.writes]
      · by_cases hbucket : cp.status.logBucket = ""
        · simp [hlog, hquery, hbucket, lastWrite, Program.writes]
        · simp only [hlog, hquery, hbucket, ne_eq]
          rfl
    · simp [hlog, hquery, lastWrite, Program.writes]
  · simp [hlog, lastWrite, Program.writes]

theorem lastWrite_logBucket : lastWrite .logBucket (program op obs cp .logBucket).writes =
    if logBucketReported op obs cp then some (.field .logBucket (logBucketName cp)) else none := by
  unfold program reconcileLogBucket logBucketReported logBucketCondition
  by_cases hen : cp.spec.logging.enabled = true
  · by_cases hs3 : op.s3Client = true
    · rcases obs.secrets (secretName cp "log-credentials") with _ | secret
      · simp only [hen, hs3]
        rfl
      · simp only [hen, hs3]
        rfl
    · simp [hen, hs3, lastWrite, Program.writes, StatusWrite.slot?]
  · simp [hen, lastWrite, Program.writes, StatusWrite.slot?]

theorem leavesService_service (svc : Service) :
    leavesService cp svc.name = !serviceDeployedInCluster cp svc := by
  cases svc <;> simp [leavesService, Service.name]

/-- Every entry with a writer is written by each of its calls that does not stop, unless it is left. -/
theorem reports_entry {name : String} {sub : Sub} (hw : serviceWriter name = some sub)
    (hne : sub ≠ .logqQuery) (hstop : (program op obs cp sub).Clear) :
    (program op obs cp sub).reports (.service name) = !leavesService cp name := by
  have hservice : ∀ svc, sub = serviceSub svc → name = svc.name →
      (program op obs cp sub).reports (.service name) = !leavesService cp name := by
    rintro svc rfl rfl
    rw [reports_service hstop, leavesService_service, Bool.not_not]
  unfold serviceWriter at hw
  split_ifs at hw with h₁ h₂ h₃ h₄ h₅ h₆
  · exact hservice .smd (Option.some.inj hw).symm h₁
  · exact hservice .tokensmith (Option.some.inj hw).symm h₂
  · exact hservice .bootService (Option.some.inj hw).symm h₃
  · exact hservice .metadataService (Option.some.inj hw).symm h₄
  · obtain rfl := Option.some.inj hw
    subst h₅
    rw [leavesService, if_pos rfl, Bool.not_not]
    exact reports_collector
  · exact absurd (Option.some.inj hw).symm hne

theorem leavesService_of_none {name : String} (hw : serviceWriter name = none) :
    leavesService cp name = true := by
  unfold serviceWriter at hw
  split_ifs at hw with h₁ h₂ h₃ h₄ h₅
  unfold leavesService
  rw [if_neg h₅]
  simp [Service.name, Ne.symm h₁, Ne.symm h₂, Ne.symm h₃, Ne.symm h₄]

theorem ne_logqQuery {name : String} {sub : Sub} (hw : serviceWriter name = some sub)
    (hname : name ≠ "logq-query") : sub ≠ .logqQuery := by
  rintro rfl
  unfold serviceWriter at hw
  split_ifs at hw <;> cases hw

theorem leavesService_congr {a b : ControlPlane} (h : a.spec = b.spec) (name : String) :
    leavesService a name = leavesService b name := by
  unfold leavesService collectorReported
  simp only [serviceDeployedInCluster_congr h, h]

theorem leavesCondition_congr {a b : ControlPlane} (h : a.spec = b.spec) (t : ConditionType) :
    leavesCondition a t = leavesCondition b t := by
  unfold leavesCondition
  rw [h]

end Reports

/-! ### What a call writes does not depend on the status the pass began with -/

section Congr

variable {env : Env} {a b : ControlPlane}

theorem entering_congr (hm : a.metadata = b.metadata) (hs : a.spec = b.spec) (sub : Sub) :
    (env.entering a sub).metadata = (env.entering b sub).metadata ∧
      (env.entering a sub).spec = (env.entering b sub).spec := by
  obtain ⟨hma, hsa⟩ := env.entering_frame a sub
  obtain ⟨hmb, hsb⟩ := env.entering_frame b sub
  exact ⟨hma.trans (hm.trans hmb.symm), hsa.trans (hs.trans hsb.symm)⟩

/-- A slot that an earlier call has written, and that does not look at the status, is the same. -/
theorem read_entering_congr (hm : a.metadata = b.metadata) (hs : a.spec = b.spec) {s : Slot}
    {sub sub' : Sub} (hw : writer s = some sub) (hbefore : sub ∈ subs.takeWhile (· ≠ sub'))
    (hreads : readsStatus sub = false)
    (hreports : (program env.op env.obs (env.entering a sub) sub).reports s = true) :
    s.read (env.entering a sub') = s.read (env.entering b sub') := by
  obtain ⟨hm', hs'⟩ := @entering_congr env a b hm hs sub
  have hprogram := @program_congr env.op env.obs _ _ sub hm' hs' hreads
  rw [← lastWrite_isSome] at hreports
  obtain ⟨x, hx⟩ := Option.isSome_iff_exists.mp hreports
  rw [read_entering hw hbefore, read_entering hw hbefore, read_done, read_done, ← hprogram, hx, hm']

theorem find_of_read {t : ConditionType} {a b : ControlPlane}
    (h : (Slot.condition t).read a = (Slot.condition t).read b) :
    findStatusCondition a.status.conditions t = findStatusCondition b.status.conditions t :=
  Option.map_injective (fun _ _ h => SlotValue.condition.inj h) h

theorem get?_of_read {name : String} {a b : ControlPlane}
    (h : (Slot.service name).read a = (Slot.service name).read b) :
    a.status.services.get? name = b.status.services.get? name :=
  Option.map_injective (fun _ _ h => SlotValue.service.inj h) h

theorem find_entering_congr (hm : a.metadata = b.metadata) (hs : a.spec = b.spec)
    {t : ConditionType} {sub sub' : Sub} (hw : conditionWriter t = some sub)
    (hbefore : sub ∈ subs.takeWhile (· ≠ sub')) (hreads : readsStatus sub = false)
    (hstop : (program env.op env.obs (env.entering a sub) sub).Clear)
    (hleaves : leavesCondition (env.entering a sub) t = false) :
    findStatusCondition (env.entering a sub').status.conditions t =
      findStatusCondition (env.entering b sub').status.conditions t := by
  refine find_of_read (read_entering_congr hm hs hw hbefore hreads ?_)
  rw [reports_condition hw hstop, hleaves]
  rfl

theorem isStatusConditionTrue_congr {t : ConditionType}
    (h : findStatusCondition a.status.conditions t = findStatusCondition b.status.conditions t) :
    isStatusConditionTrue a.status.conditions t = isStatusConditionTrue b.status.conditions t := by
  unfold isStatusConditionTrue
  rw [h]

/-- The version of the document is in no slot. -/
theorem lastWrite_topology {op : Operator} {obs : Observed} (a b : ControlPlane) (s : Slot) :
    lastWrite s (program op obs a .topology).writes =
      lastWrite s (program op obs b .topology).writes := by
  have hfind : ∀ cp, lastWrite s (program op obs cp .topology).writes =
      if some (Slot.condition .topologyPublished) = some s then
        some (.condition .topologyPublished .true Reason.ready "topology ConfigMap applied")
      else none := by
    intro cp
    have hwrites : (program op obs cp .topology).writes =
        [.field .topologyVersion ("sha256:" ++ obs.topologyHash (buildTopology cp)),
          .condition .topologyPublished .true Reason.ready "topology ConfigMap applied"] := rfl
    unfold lastWrite
    rw [hwrites]
    by_cases hs : Slot.condition .topologyPublished = s <;> simp [StatusWrite.slot?, hs]
  rw [hfind, hfind]

section Readers

variable {op : Operator} {obs : Observed} (hm : a.metadata = b.metadata) (hs : a.spec = b.spec)
include hs

theorem tokensmithJWKSReady_congr (h : serviceDeployedInCluster a .tokensmith = true →
      a.status.services.get? Service.tokensmith.name =
        b.status.services.get? Service.tokensmith.name) :
    Gateway.tokensmithJWKSReady a = Gateway.tokensmithJWKSReady b := by
  have hon := serviceDeployedInCluster_congr hs .tokensmith
  unfold Gateway.tokensmithJWKSReady
  rw [← hon]
  by_cases hdeployed : serviceDeployedInCluster a .tokensmith = true
  · rw [h hdeployed]
  · simp [hdeployed]

theorem program_logqCompactor (hbucket : isStatusConditionTrue a.status.conditions .logBucketReady =
      isStatusConditionTrue b.status.conditions .logBucketReady) :
    program op obs a .logqCompactor = program op obs b .logqCompactor := by
  unfold program reconcileLogqCompactor buildCompactorCronJob objectIn controlPlaneNamespace
  rw [hbucket, hs]

include hm

theorem program_coreDHCP (hprobe : findStatusCondition a.status.conditions .networkProbeReady =
      findStatusCondition b.status.conditions .networkProbeReady) :
    program op obs a .coreDHCP = program op obs b .coreDHCP := by
  have hgate : probeGateReady a .provision = probeGateReady b .provision := by
    unfold probeGateReady probeTargetConfig probeNetwork
    rw [hprobe, hm, hs]
  obtain ⟨m, s, st⟩ := a
  obtain ⟨m', s', st'⟩ := b
  obtain rfl : m = m' := hm
  obtain rfl : s = s' := hs
  unfold program reconcileCoreDHCP
  rw [hgate]
  rfl

theorem program_gateway
    (hcert : isStatusConditionTrue a.status.conditions .certificatesValid =
      isStatusConditionTrue b.status.conditions .certificatesValid)
    (htoken : Gateway.tokensmithJWKSReady a = Gateway.tokensmithJWKSReady b) :
    program op obs a .gateway = program op obs b .gateway := by
  obtain ⟨m, s, st⟩ := a
  obtain ⟨m', s', st'⟩ := b
  obtain rfl : m = m' := hm
  obtain rfl : s = s' := hs
  unfold program reconcileGateway gatewayRequests reportGateway Gateway.objectsApplied
    Gateway.appliesGated
  rw [hcert, htoken]
  rfl

end Readers

variable (hm : a.metadata = b.metadata) (hs : a.spec = b.spec)
  (hstop : ∀ sub, (program env.op env.obs (env.entering a sub) sub).Clear)
include hm hs hstop

theorem coreDHCP_congr : program env.op env.obs (env.entering a .coreDHCP) .coreDHCP =
    program env.op env.obs (env.entering b .coreDHCP) .coreDHCP := by
  obtain ⟨hm', hs'⟩ := @entering_congr env a b hm hs .coreDHCP
  exact program_coreDHCP hm' hs' (find_entering_congr hm hs rfl (by decide) rfl
    (hstop .networkProbe) rfl)

theorem gateway_congr : program env.op env.obs (env.entering a .gateway) .gateway =
    program env.op env.obs (env.entering b .gateway) .gateway := by
  obtain ⟨hm', hs'⟩ := @entering_congr env a b hm hs .gateway
  have hcert := @find_entering_congr env a b hm hs .certificatesValid .certificates .gateway rfl
    (by decide) rfl (hstop .certificates) rfl
  refine program_gateway hm' hs' (isStatusConditionTrue_congr hcert)
    (tokensmithJWKSReady_congr hs' fun hon => ?_)
  have hspec : (env.entering a .tokensmith).spec = (env.entering a .gateway).spec :=
    (env.entering_frame a .tokensmith).2.trans (env.entering_frame a .gateway).2.symm
  have hreports := (@reports_service _ _ _ .tokensmith (hstop .tokensmith)).trans
    ((serviceDeployedInCluster_congr hspec .tokensmith).trans hon)
  exact get?_of_read (read_entering_congr hm hs (serviceWriter_name .tokensmith) (by decide) rfl
    hreports)

theorem logqCompactor_congr :
    program env.op env.obs (env.entering a .logqCompactor) .logqCompactor =
      program env.op env.obs (env.entering b .logqCompactor) .logqCompactor := by
  obtain ⟨-, hs'⟩ := @entering_congr env a b hm hs .logqCompactor
  have hbucket := @find_entering_congr env a b hm hs .logBucketReady .logBucket .logqCompactor rfl
    (by decide) rfl (hstop .logBucket) rfl
  exact program_logqCompactor hs' (isStatusConditionTrue_congr hbucket)

/-- **What a call puts into its slots does not depend on the status the pass began with**, apart from
the query service: the others read slots that an earlier call has written. -/
theorem lastWrite_congr {s : Slot} {sub : Sub} (hne : sub ≠ .logqQuery) :
    lastWrite s (program env.op env.obs (env.entering a sub) sub).writes =
      lastWrite s (program env.op env.obs (env.entering b sub) sub).writes := by
  by_cases hreads : readsStatus sub = true
  · cases sub with
    | coreDHCP => rw [coreDHCP_congr hm hs hstop]
    | gateway => rw [gateway_congr hm hs hstop]
    | topology => exact lastWrite_topology _ _ s
    | logqCompactor => rw [logqCompactor_congr hm hs hstop]
    | logqQuery => exact absurd rfl hne
    | _ => cases hreads
  · obtain ⟨hm', hs'⟩ := @entering_congr env a b hm hs sub
    rw [@program_congr env.op env.obs _ _ sub hm' hs' (by simpa using hreads)]

end Congr

/-! ### What a pass shows -/

/-- The status and the reason of a condition. -/
def shownCondition (cp : ControlPlane) (t : ConditionType) : Option (ConditionStatus × String) :=
  (findStatusCondition cp.status.conditions t).map fun c => (c.status, c.reason)

/-- Readiness and endpoint of a service. -/
def shownService (cp : ControlPlane) (name : String) : Option (Bool × String) :=
  (cp.status.services.get? name).map fun st => (st.ready, st.endpoint)

/-- The same conditions with the same status and reason, and the same services with the same readiness
and endpoint. -/
structure Alike (a b : ControlPlane) : Prop where
  conditions : ∀ t, shownCondition a t = shownCondition b t
  services : ∀ name, shownService a name = shownService b name

/-- What a full pass shows for the query service: a new entry when the service is on and a log bucket
is known, from this pass or from an earlier one, and the earlier entry otherwise. -/
def queryShown (op : Operator) (obs : Observed) (cp : ControlPlane) : Option (Bool × String) :=
  if queryOn cp && (logBucketReported op obs cp || cp.status.logBucket ≠ "") then
    some ((queryStatus obs cp).ready, (queryStatus obs cp).endpoint)
  else shownService cp "logq-query"

theorem shownCondition_of_read {t : ConditionType} {a b : ControlPlane}
    (h : (Slot.condition t).read a = (Slot.condition t).read b) :
    shownCondition a t = shownCondition b t := by
  unfold shownCondition
  rw [find_of_read h]

theorem shownService_of_read {name : String} {a b : ControlPlane}
    (h : (Slot.service name).read a = (Slot.service name).read b) :
    shownService a name = shownService b name := by
  unfold shownService
  rw [get?_of_read h]

theorem shownCondition_set (cp : ControlPlane) (t u : ConditionType) (st : ConditionStatus)
    (reason message : String) : shownCondition (cp.setCondition t st reason message) u =
      if t = u then some (st, reason) else shownCondition cp u := by
  unfold shownCondition ControlPlane.setCondition
  simp only [findStatusCondition_set]
  split_ifs <;> rfl

theorem logBucketName_ne (cp : ControlPlane) : logBucketName cp ≠ "" := by
  unfold logBucketName
  split_ifs with h
  · exact h
  · intro hnil
    have hlist := congrArg String.toList hnil
    simp at hlist

theorem shownCondition_congr {a b : ControlPlane}
    (h : a.status.conditions = b.status.conditions) (t : ConditionType) :
    shownCondition a t = shownCondition b t := by
  unfold shownCondition
  rw [h]

theorem shownService_congr {a b : ControlPlane} (h : a.status.services = b.status.services)
    (name : String) : shownService a name = shownService b name := by
  unfold shownService
  rw [h]

section Outcome

variable {env : Env} {a b : ControlPlane}

theorem outcome_spec (h : a.spec = b.spec) : (env.outcome a).spec = (env.outcome b).spec := by
  have ha : (env.outcome a).spec = a.spec := (env.dones_frame subs (activated a)).2
  have hb : (env.outcome b).spec = b.spec := (env.dones_frame subs (activated b)).2
  rw [ha, hb, h]

theorem read_activated {s : Slot} (hs : s ≠ .condition .reconcileActive) :
    s.read (activated a) = s.read a := by
  cases s with
  | condition t =>
    have ht : ConditionType.reconcileActive ≠ t := fun h => hs (congrArg Slot.condition h.symm)
    simp [Slot.read, activated, ControlPlane.setCondition, findStatusCondition_set, ht]
  | _ => rfl

/-- A slot that its writer does not write is left as it was. -/
theorem read_outcome_of_unreported {s : Slot} {sub : Sub} (hw : writer s = some sub)
    (hs : s ≠ .condition .reconcileActive)
    (h : (program env.op env.obs (env.entering (activated a) sub) sub).reports s = false) :
    s.read (env.outcome a) = s.read a := by
  rw [← lastWrite_isSome, Option.isSome_eq_false_iff, Option.isNone_iff_eq_none] at h
  rw [read_outcome hw, h, read_activated hs]

/-- A slot that its writer writes does not depend on the status the pass began with. -/
theorem read_outcome_congr (hm : a.metadata = b.metadata) (hspec : a.spec = b.spec)
    (hstop : env.Clear a) {s : Slot} {sub : Sub} (hw : writer s = some sub) (hne : sub ≠ .logqQuery)
    (h : (program env.op env.obs (env.entering (activated a) sub) sub).reports s = true) :
    s.read (env.outcome a) = s.read (env.outcome b) := by
  have hlast := @lastWrite_congr env (activated a) (activated b) hm hspec hstop s sub hne
  rw [← lastWrite_isSome] at h
  obtain ⟨x, hx⟩ := Option.isSome_iff_exists.mp h
  rw [read_outcome hw, read_outcome hw, ← hlast, hx, hm]

theorem shownCondition_left (hstop : env.Clear a) {t : ConditionType} (ht : t ≠ .reconcileActive)
    (hleft : leavesCondition a t = true) : shownCondition (env.outcome a) t = shownCondition a t := by
  have hs : Slot.condition t ≠ .condition .reconcileActive := fun h => ht (Slot.condition.inj h)
  rcases hw : conditionWriter t with _ | sub
  · exact shownCondition_of_read ((read_outcome_of_none (s := .condition t) hw).trans (read_activated hs))
  · refine shownCondition_of_read (read_outcome_of_unreported hw hs ?_)
    have hspec := (env.entering_frame (activated a) sub).2
    rw [reports_condition hw (hstop sub), leavesCondition_congr hspec]
    have hleft' : leavesCondition (activated a) t = true := hleft
    rw [hleft']
    rfl

theorem shownService_left (hstop : env.Clear a) {name : String} (hname : name ≠ "logq-query")
    (hleft : leavesService a name = true) : shownService (env.outcome a) name = shownService a name := by
  have hs : Slot.service name ≠ .condition .reconcileActive := fun h => by cases h
  rcases hw : serviceWriter name with _ | sub
  · exact shownService_of_read ((read_outcome_of_none (s := .service name) hw).trans (read_activated hs))
  · refine shownService_of_read (read_outcome_of_unreported hw hs ?_)
    have hspec := (env.entering_frame (activated a) sub).2
    rw [reports_entry hw (ne_logqQuery hw hname) (hstop sub), leavesService_congr hspec]
    have hleft' : leavesService (activated a) name = true := hleft
    rw [hleft']
    rfl

theorem shownCondition_kept (hm : a.metadata = b.metadata) (hspec : a.spec = b.spec)
    (hstop : env.Clear a) {t : ConditionType} (hready : t ≠ .servicesReady)
    (hactive : t ≠ .reconcileActive) (hleft : leavesCondition a t = false) :
    shownCondition (env.outcome a) t = shownCondition (env.outcome b) t := by
  obtain ⟨sub, hw⟩ : ∃ sub, conditionWriter t = some sub := by
    cases t with
    | servicesReady => exact absurd rfl hready
    | reconcileActive => exact absurd rfl hactive
    | ready | logQueryReady | other => cases hleft
    | _ => exact ⟨_, rfl⟩
  have hne : sub ≠ .logqQuery := by
    rintro rfl
    cases t <;> cases hw
  refine shownCondition_of_read (read_outcome_congr hm hspec hstop hw hne ?_)
  have hspec' := (env.entering_frame (activated a) sub).2
  have hleft' : leavesCondition (activated a) t = false := hleft
  rw [reports_condition hw (hstop sub), leavesCondition_congr hspec', hleft']
  rfl

theorem shownService_kept (hm : a.metadata = b.metadata) (hspec : a.spec = b.spec)
    (hstop : env.Clear a) {name : String} (hname : name ≠ "logq-query")
    (hleft : leavesService a name = false) :
    shownService (env.outcome a) name = shownService (env.outcome b) name := by
  rcases hw : serviceWriter name with _ | sub
  · rw [leavesService_of_none hw] at hleft
    cases hleft
  · refine shownService_of_read
      (read_outcome_congr hm hspec hstop hw (ne_logqQuery hw hname) ?_)
    have hspec' := (env.entering_frame (activated a) sub).2
    have hleft' : leavesService (activated a) name = false := hleft
    rw [reports_entry hw (ne_logqQuery hw hname) (hstop sub), leavesService_congr hspec', hleft']
    rfl

theorem read_entering_writer {s : Slot} {sub : Sub} (hw : writer s = some sub) :
    s.read (env.entering a sub) = s.read a :=
  read_dones_of_notMem fun sub' hsub' h => by
    have hne := List.mem_takeWhile_imp hsub'
    have heq : sub' = sub := Option.some.inj (h.symm.trans hw)
    simp [heq] at hne

/-- The query service finds a log bucket when this pass or an earlier one has recorded it. -/
theorem logBucket_entering : (env.entering (activated a) .logqQuery).status.logBucket ≠ "" ↔
    logBucketReported env.op env.obs a = true ∨ a.status.logBucket ≠ "" := by
  have hread := @read_entering env (activated a) .logBucket .logBucket .logqQuery rfl (by decide)
  have hspec := (env.entering_frame (activated a) .logBucket).2
  have hreported : logBucketReported env.op env.obs (env.entering (activated a) .logBucket) =
      logBucketReported env.op env.obs a := by
    unfold logBucketReported secretName
    rw [hspec]
    rfl
  rw [read_done, lastWrite_logBucket, hreported] at hread
  by_cases h : logBucketReported env.op env.obs a = true
  · rw [if_pos h] at hread
    have hname : (env.entering (activated a) .logqQuery).status.logBucket =
        logBucketName (env.entering (activated a) .logBucket) :=
      SlotValue.text.inj (Option.some.inj hread)
    rw [hname]
    simp [h, logBucketName_ne]
  · have hfirst := @read_entering_writer env (activated a) .logBucket .logBucket rfl
    rw [if_neg h, hfirst] at hread
    have hprior : (env.entering (activated a) .logqQuery).status.logBucket = a.status.logBucket :=
      SlotValue.text.inj (Option.some.inj hread)
    rw [hprior]
    simp [h]

theorem shownService_query :
    shownService (env.outcome a) "logq-query" = queryShown env.op env.obs a := by
  have hspec : (env.entering (activated a) .logqQuery).spec = a.spec :=
    (env.entering_frame (activated a) .logqQuery).2
  have hread := @read_outcome env a (.service "logq-query") .logqQuery (by decide)
  have hon : queryOn (env.entering (activated a) .logqQuery) = queryOn a := by
    unfold queryOn
    rw [hspec]
  have hstatus : queryStatus env.obs (env.entering (activated a) .logqQuery) =
      queryStatus env.obs a := by
    unfold queryStatus controlPlaneNamespace queryPort
    rw [hspec]
  have hbucket := @logBucket_entering env a
  have hcond : (queryOn a && decide
      ((env.entering (activated a) .logqQuery).status.logBucket ≠ "")) =
        (queryOn a && (logBucketReported env.op env.obs a || a.status.logBucket ≠ "")) := by
    rw [Bool.eq_iff_iff, Bool.and_eq_true, Bool.and_eq_true, decide_eq_true_eq, hbucket,
      Bool.or_eq_true, decide_eq_true_eq]
  rw [lastWrite_query, hon, hstatus, hcond] at hread
  unfold queryShown
  split_ifs with h
  · rw [if_pos h] at hread
    have hentry : (env.outcome a).status.services.get? "logq-query" =
        some (queryStatus env.obs a) :=
      Option.map_injective (fun _ _ h => SlotValue.service.inj h) hread
    rw [shownService, hentry, Option.map_some]
  · rw [if_neg h] at hread
    exact shownService_of_read (hread.trans (read_activated (fun h => by cases h)))

end Outcome

/-! ### Two passes -/

theorem serviceReady_shown (cp : ControlPlane) (name : String) :
    Status.serviceReady cp name = (shownService cp name).any Prod.fst := by
  unfold Status.serviceReady shownService
  rw [Option.any_map]

/-- No enabled service is pending, in whatever order they are listed. -/
theorem pending_nil_iff {order : List Service}
    (hperm : order.Perm [.smd, .tokensmith, .bootService, .metadataService]) (cp : ControlPlane) :
    ((order.filter fun svc => (serviceDefaults cp svc).enabled &&
        !Status.serviceReady cp svc.name).map Service.name) = [] ↔
      ∀ svc, (serviceDefaults cp svc).enabled = true →
        (shownService cp svc.name).any Prod.fst = true := by
  have hmem : ∀ svc, svc ∈ order := fun svc => hperm.mem_iff.mpr (by cases svc <;> decide)
  rw [List.map_eq_nil_iff, List.filter_eq_nil_iff]
  simp only [hmem, true_implies, Bool.and_eq_true, Bool.not_eq_true', serviceReady_shown]
  exact forall_congr' fun svc => by simp

theorem shownCondition_aggregate_of_ne {order : List Service} {cp : ControlPlane} {t : ConditionType}
    (ht : t ≠ .servicesReady) :
    shownCondition (aggregateServicesReady order cp) t = shownCondition cp t := by
  unfold aggregateServicesReady
  simp only
  split_ifs <;> rw [shownCondition_set, if_neg (Ne.symm ht)]

/-- `ServicesReady` shows nothing but the readiness of the services. -/
theorem shownCondition_aggregate {order order' : List Service} {c d : ControlPlane}
    (hperm : order.Perm [.smd, .tokensmith, .bootService, .metadataService])
    (hperm' : order'.Perm [.smd, .tokensmith, .bootService, .metadataService])
    (hspec : c.spec = d.spec) (hservices : ∀ name, shownService c name = shownService d name) :
    shownCondition (aggregateServicesReady order c) .servicesReady =
      shownCondition (aggregateServicesReady order' d) .servicesReady := by
  have hiff := (pending_nil_iff hperm c).trans (Iff.trans (by
    simp only [serviceDefaults, hspec, hservices]) (pending_nil_iff hperm' d).symm)
  unfold aggregateServicesReady
  simp only
  by_cases h : ((order'.filter fun svc => (serviceDefaults d svc).enabled &&
      !Status.serviceReady d svc.name).map Service.name) = []
  · rw [if_pos h, if_pos (hiff.mpr h), shownCondition_set, shownCondition_set]
    rfl
  · rw [if_neg h, if_neg (fun hc => h (hiff.mp hc)), shownCondition_set, shownCondition_set]
    rfl

theorem outcome_congr {env env' : Env} (hop : env'.op = env.op) (hobs : env'.obs = env.obs)
    (cp : ControlPlane) : env'.outcome cp = env.outcome cp := by
  have hdone : env'.done = env.done := by
    funext cp sub
    unfold Env.done
    rw [hop, hobs]
  unfold Env.outcome
  rw [hdone]

theorem shownCondition_active {env : Env} {cp : ControlPlane} :
    shownCondition (env.outcome cp) .reconcileActive = some (.true, Reason.ready) := by
  have hread := @read_outcome_of_none env cp (.condition .reconcileActive) rfl
  rw [shownCondition_of_read hread]
  unfold activated
  rw [shownCondition_set, if_pos rfl]

/-- **What a status remembers.** Two full passes without an error over the same specification, with
the same answers to their reads, show the same exactly when the statuses they began with agreed on
what such a pass leaves: the condition of a CoreDHCP that is disabled, the conditions that nothing
writes, the entries of services that are not deployed, and what the query service makes of the log
bucket on record. -/
theorem status_forgets_iff {env env' : Env} (hop : env'.op = env.op) (hobs : env'.obs = env.obs)
    (hdry : env.op.dryRun = false) {a a' b b' : ControlPlane} {v v' w w' : World} {n m : ℕ}
    (hmeta : a.metadata = b.metadata) (hspec : a.spec = b.spec)
    (hpin : pinnedElsewhere env.op a = false)
    (ha : reconcileAll env.op (fullPass env a) a v = (.ok n, a', v'))
    (hb : reconcileAll env'.op (fullPass env' b) b w = (.ok m, b', w')) :
    Alike a' b' ↔
      (∀ t, leavesCondition a t = true → shownCondition a t = shownCondition b t) ∧
      (∀ name, name ≠ "logq-query" → leavesService a name = true →
        shownService a name = shownService b name) ∧
      queryShown env.op env.obs a = queryShown env.op env.obs b := by
  have hpin' : pinnedElsewhere env'.op b = false := by
    unfold pinnedElsewhere at hpin ⊢
    rw [hop, ← hspec]
    exact hpin
  obtain ⟨hstop, hconda, hservicesa, -⟩ := reconcileAll_fullPass hdry hpin ha
  obtain ⟨-, hcondb, hservicesb, -⟩ := reconcileAll_fullPass (hop ▸ hdry) hpin' hb
  rw [outcome_congr hop hobs] at hcondb hservicesb
  have hstop' : env.Clear b := fun sub => by
    obtain ⟨hm', hs'⟩ := @entering_congr env (activated a) (activated b) hmeta hspec sub
    exact isStop_congr hm' hs' (hstop sub)
  -- what the two passes show, in terms of what their calls leave
  have hcondition : ∀ t, t ≠ .servicesReady → shownCondition a' t = shownCondition (env.outcome a) t ∧
      shownCondition b' t = shownCondition (env.outcome b) t := fun t ht => by
    rw [← @shownCondition_aggregate_of_ne env.order (env.outcome a) t ht,
      ← @shownCondition_aggregate_of_ne env'.order (env.outcome b) t ht]
    exact ⟨shownCondition_congr hconda t, shownCondition_congr hcondb t⟩
  have hservice : ∀ name, shownService a' name = shownService (env.outcome a) name ∧
      shownService b' name = shownService (env.outcome b) name :=
    fun name => ⟨shownService_congr hservicesa name, shownService_congr hservicesb name⟩
  constructor
  · rintro ⟨hconditions, hservices⟩
    refine ⟨fun t hleft => ?_, fun name hname hleft => ?_, ?_⟩
    · have hactive : t ≠ .reconcileActive := by rintro rfl; cases hleft
      have hready : t ≠ .servicesReady := by rintro rfl; cases hleft
      have hleft' : leavesCondition b t = true := (leavesCondition_congr hspec t).symm.trans hleft
      rw [← shownCondition_left hstop hactive hleft, ← shownCondition_left hstop' hactive hleft',
        ← (hcondition t hready).1, ← (hcondition t hready).2, hconditions]
    · have hleft' : leavesService b name = true := (leavesService_congr hspec name).symm.trans hleft
      rw [← shownService_left hstop hname hleft, ← shownService_left hstop' hname hleft',
        ← (hservice name).1, ← (hservice name).2, hservices]
    · rw [← shownService_query, ← shownService_query, ← (hservice _).1, ← (hservice _).2, hservices]
  · rintro ⟨hconditions, hservices, hquery⟩
    have hservices' : ∀ name, shownService (env.outcome a) name = shownService (env.outcome b) name := by
      intro name
      by_cases hname : name = "logq-query"
      · rw [hname, shownService_query, shownService_query, hquery]
      · rcases hleft : leavesService a name
        · exact shownService_kept hmeta hspec hstop hname hleft
        · have hleft' := (leavesService_congr hspec name).symm.trans hleft
          rw [shownService_left hstop hname hleft, shownService_left hstop' hname hleft',
            hservices name hname hleft]
    refine ⟨fun t => ?_, fun name => ?_⟩
    · by_cases hready : t = .servicesReady
      · subst hready
        rw [shownCondition_congr hconda, shownCondition_congr hcondb]
        exact shownCondition_aggregate env.perm env'.perm (outcome_spec hspec) hservices'
      · rw [(hcondition t hready).1, (hcondition t hready).2]
        by_cases hactive : t = .reconcileActive
        · rw [hactive, shownCondition_active, shownCondition_active]
        · rcases hleft : leavesCondition a t
          · exact shownCondition_kept hmeta hspec hstop hready hactive hleft
          · have hleft' := (leavesCondition_congr hspec t).symm.trans hleft
            rw [shownCondition_left hstop hactive hleft, shownCondition_left hstop' hactive hleft',
              hconditions t hleft]
    · rw [(hservice name).1, (hservice name).2, hservices' name]

/-! ### A cluster that remembers -/

/-- The cluster without CoreDHCP, after a pass that could not create the namespace. -/
def failedSite : ControlPlane :=
  { Webhook.default (site false) with
    status := { conditions := [⟨.namespaceReady, .false, Reason.error, "creating namespace", 0⟩] } }

/-- A failure that is over is forgotten. -/
theorem status_forgets_failure : ∃ a' b' n m v w,
    reconcileAll quiet.op (fullPass quiet (observed (Webhook.default (site false))))
      (observed (Webhook.default (site false))) {} = (.ok n, a', v) ∧
    reconcileAll quiet.op (fullPass quiet (observed failedSite)) (observed failedSite) {} =
      (.ok m, b', w) ∧
    Alike a' b' := by
  obtain ⟨hpin, n, a', v, ha, -, -⟩ :=
    @quiet_run false (Webhook.default (site false)) {} rfl rfl
  obtain ⟨-, m, b', w, hb, -, -⟩ := @quiet_run false failedSite {} rfl rfl
  have hmeta : (observed (Webhook.default (site false))).metadata =
      (observed failedSite).metadata := rfl
  have hspec : (observed (Webhook.default (site false))).spec = (observed failedSite).spec := rfl
  refine ⟨a', b', n, m, v, w, ha, hb, (status_forgets_iff rfl rfl rfl hmeta hspec hpin ha hb).mpr
    ⟨fun t hleft => ?_, fun _ _ _ => rfl, by decide⟩⟩
  cases t with
  | dhcpReady | ready | logQueryReady | other => rfl
  | _ => cases hleft

theorem shownCondition_written {env : Env} {a : ControlPlane} (hstop : env.Clear a)
    {t : ConditionType} {sub : Sub} (hw : conditionWriter t = some sub)
    (hleft : leavesCondition a t = false) : shownCondition (env.outcome a) t ≠ none := by
  have hspec := (env.entering_frame (activated a) sub).2
  have hleft' : leavesCondition (activated a) t = false := hleft
  have hreports := reports_condition hw (hstop sub)
  rw [leavesCondition_congr hspec, hleft', ← lastWrite_isSome] at hreports
  obtain ⟨x, hx⟩ := Option.isSome_iff_exists.mp hreports
  have hslot : x.slot? = some (.condition t) := by simpa using List.find?_some hx
  have hread := @read_outcome env a (.condition t) sub hw
  rw [hx] at hread
  intro hnone
  have hfind : findStatusCondition (env.outcome a).status.conditions t = none :=
    Option.map_eq_none_iff.mp hnone
  have hnil : (Slot.condition t).read (env.outcome a) = none := by
    simp only [Slot.read, hfind, Option.map_none]
  rw [hnil] at hread
  cases x with
  | condition => cases hread
  | service => cases hslot
  | field => cases hread
  | _ => cases hslot

/-- **A status that remembers.** Of two clusters with the same specification, without CoreDHCP, the one
that had it before still shows its condition. -/
theorem status_remembers : ∃ ps qs a b v w, History ps a v ∧ History qs b w ∧
    a.metadata = b.metadata ∧ a.spec = b.spec ∧ ∃ a' b' v' w' n m,
      reconcileAll quiet.op (fullPass quiet (observed a)) (observed a) v = (.ok n, a', v') ∧
      reconcileAll quiet.op (fullPass quiet (observed b)) (observed b) w = (.ok m, b', w') ∧
      ¬ Alike a' b' := by
  obtain ⟨hpin, n, cp₁, w₁, hrun, hm₁, hs₁⟩ := @quiet_run true (Webhook.default (site true)) {} rfl rfl
  have h₁ := site_updated ((site_created true).passed quiet rfl hpin hrun) hm₁ hs₁
  -- the first pass has written the condition, and the update keeps it
  obtain ⟨hstop, hcond, -, -⟩ := reconcileAll_fullPass rfl hpin hrun
  have hshown : shownCondition cp₁ .dhcpReady ≠ none := by
    rw [shownCondition_congr hcond, shownCondition_aggregate_of_ne (by decide)]
    exact shownCondition_written hstop rfl (by decide)
  obtain ⟨hpina, na, a', va, ha, -, -⟩ :=
    @quiet_run false (Webhook.default { site false with status := cp₁.status }) w₁ rfl rfl
  obtain ⟨hpinb, nb, b', vb, hb, -, -⟩ := @quiet_run false (Webhook.default (site false)) {} rfl rfl
  refine ⟨_, _, _, _, w₁, {}, h₁, site_created false, rfl, rfl, a', b', va, vb, na, nb, ha, hb, ?_⟩
  rintro ⟨hconditions, -⟩
  obtain ⟨hstopa, hconda, -, -⟩ := reconcileAll_fullPass rfl hpina ha
  obtain ⟨hstopb, hcondb, -, -⟩ := reconcileAll_fullPass rfl hpinb hb
  have hdhcp := hconditions .dhcpReady
  rw [shownCondition_congr hconda, shownCondition_congr hcondb,
    shownCondition_aggregate_of_ne (by decide), shownCondition_aggregate_of_ne (by decide),
    shownCondition_left hstopa (by decide) rfl, shownCondition_left hstopb (by decide) rfl] at hdhcp
  exact hshown hdhcp

end OpenchamiOperator.Controller
