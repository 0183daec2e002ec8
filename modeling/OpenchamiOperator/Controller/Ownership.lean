import OpenchamiOperator.Controller.FullPass

/-! # Who writes what

Every condition, every entry of a service and every workload has one sub-reconciler that may touch it
in a pass.

* `program_fits`: what an action of each program can do.
* `read_outcome`: what a slot holds after a full pass is what its writer made of it.
* `has_workload`: which workloads are there after a full pass. -/

namespace OpenchamiOperator.Controller

open Lib Api Reconcilers

/-! ### The table -/

/-- The parts of the status that outlive a call: conditions, entries of services, and the name of the
log bucket. -/
inductive Slot where
  | condition (type : ConditionType)
  | service (name : String)
  | logBucket
deriving DecidableEq

def StatusWrite.slot? : StatusWrite → Option Slot
  | .condition t _ _ _ => some (.condition t)
  | .service name _ => some (.service name)
  | .field .logBucket _ => some .logBucket
  | _ => none

/-- The sub-reconciler that writes a condition. `ReconcileActive` and `ServicesReady` are written by
`reconcileAll` itself, `Ready`, `LogQueryReady` and those of others by no one. -/
def conditionWriter : ConditionType → Option Sub
  | .namespaceReady => some .namespace
  | .vaultConfigured => some .vault
  | .bucketReady => some .bucket
  | .databaseReady => some .database
  | .serviceIdentityReady => some .serviceIdentity
  | .networkProbeReady => some .networkProbe
  | .dhcpReady => some .coreDHCP
  | .magellanReady => some .magellan
  | .certificatesValid => some .certificates
  | .gatewayReady => some .gateway
  | .networkPoliciesReady => some .networkPolicies
  | .topologyPublished => some .topology
  | .logBucketReady => some .logBucket
  | .logCollectorReady => some .funicular
  | .logCompactorReady => some .logqCompactor
  | .reconcileActive | .servicesReady | .ready | .logQueryReady | .other _ => none

/-- The sub-reconciler of a service. -/
def serviceSub : Service → Sub
  | .smd => .smd
  | .tokensmith => .tokensmith
  | .bootService => .bootService
  | .metadataService => .metadataService

/-- The sub-reconciler that writes the entry of a service. -/
def serviceWriter (name : String) : Option Sub :=
  if name = "smd" then some .smd
  else if name = "tokensmith" then some .tokensmith
  else if name = "boot-service" then some .bootService
  else if name = "metadata-service" then some .metadataService
  else if name = "funicular-collector" then some .funicular
  else if name = "logq-query" then some .logqQuery
  else none

theorem serviceWriter_name (svc : Service) : serviceWriter svc.name = some (serviceSub svc) := by
  cases svc <;> decide

def writer : Slot → Option Sub
  | .condition t => conditionWriter t
  | .service name => serviceWriter name
  | .logBucket => some .logBucket

/-- The object runs pods, or is the address of pods. -/
def isWorkload (o : KubeObject) : Bool :=
  o.kind = .other "Deployment" || o.kind = .other "Service" || o.kind = .other "DaemonSet"

/-- The workloads of a sub-reconciler. -/
def workloads (cp : ControlPlane) : Sub → List KubeObject
  | .smd => [buildDeployment cp .smd, buildService cp .smd]
  | .tokensmith => [buildDeployment cp .tokensmith, buildService cp .tokensmith]
  | .bootService => [buildDeployment cp .bootService, buildService cp .bootService]
  | .metadataService => [buildDeployment cp .metadataService, buildService cp .metadataService]
  | .networkProbe => [buildProbeDaemonSet cp]
  | .coreDHCP => [buildCoreDHCPDaemonSet cp]
  | .funicular => [buildFunicularDaemonSet cp]
  | .logqQuery => [buildQueryDeployment cp, buildQueryService cp]
  | _ => []

/-- The sub-reconcilers whose call looks at the status as well as at the specification. -/
def readsStatus : Sub → Bool
  | .coreDHCP | .gateway | .topology | .logqCompactor | .logqQuery => true
  | _ => false

/-- What an action of `sub` may do: write its own slots, apply its own workloads and any objects of
other kinds, delete routes. A call that looks at the status does not stop. -/
def Act.Fits (cp : ControlPlane) (sub : Sub) : Act → Prop
  | .write x => ∀ s ∈ x.slot?, writer s = some sub
  | .request (.apply o) _ _ _ => isWorkload o = true → o ∈ workloads cp sub
  | .request (.delete k) _ _ _ => k.1 = .other "HTTPRoute"
  | .stop _ _ _ => readsStatus sub = false
  | _ => True

section Fits

variable {cp : ControlPlane} {sub : Sub}

@[simp] theorem fits_condition {t : ConditionType} {st : ConditionStatus} {reason message : String} :
    (Act.write (.condition t st reason message)).Fits cp sub ↔ conditionWriter t = some sub := by
  simp [Act.Fits, StatusWrite.slot?, writer]

@[simp] theorem fits_service {name : String} {st : ServiceStatus} :
    (Act.write (.service name st)).Fits cp sub ↔ serviceWriter name = some sub := by
  simp [Act.Fits, StatusWrite.slot?, writer]

@[simp] theorem fits_gatewayStatus {g : Option GatewayStatus} :
    (Act.write (.gateway g)).Fits cp sub := by simp [Act.Fits, StatusWrite.slot?]

@[simp] theorem fits_probeStatus {p : Option NetworkProbeStatus} :
    (Act.write (.networkProbe p)).Fits cp sub := by simp [Act.Fits, StatusWrite.slot?]

@[simp] theorem fits_field {f : StatusField} {value : String} :
    (Act.write (.field f value)).Fits cp sub ↔ (f = .logBucket → sub = .logBucket) := by
  cases f <;> simp [Act.Fits, StatusWrite.slot?, writer, eq_comm]

@[simp] theorem fits_event {e : Event} : (Act.event e).Fits cp sub := trivial

@[simp] theorem fits_stop {e : OpError} {writes : List StatusWrite} {events : List Event} :
    (Act.stop e writes events).Fits cp sub ↔ readsStatus sub = false := Iff.rfl

@[simp] theorem fits_none {context : String} {writes : List StatusWrite} {events : List Event} :
    (Act.request .none context writes events).Fits cp sub := trivial

@[simp] theorem fits_patch {o : KubeObject} {context : String} {writes : List StatusWrite}
    {events : List Event} : (Act.request (.patch o) context writes events).Fits cp sub := trivial

@[simp] theorem fits_ensureSecret {path context : String} {overwrite : Bool}
    {writes : List StatusWrite} {events : List Event} :
    (Act.request (.ensureSecret path overwrite) context writes events).Fits cp sub := trivial

@[simp] theorem fits_apply {o : KubeObject} {context : String} {writes : List StatusWrite}
    {events : List Event} : (Act.request (.apply o) context writes events).Fits cp sub ↔
      (isWorkload o = true → o ∈ workloads cp sub) := Iff.rfl

@[simp] theorem fits_delete {k : KubeKind × String × String} {context : String}
    {writes : List StatusWrite} {events : List Event} :
    (Act.request (.delete k) context writes events).Fits cp sub ↔ k.1 = .other "HTTPRoute" := Iff.rfl

@[simp] theorem fits_reading {context : String} : (reading context).Fits cp sub := trivial

@[simp] theorem fits_applying {o : KubeObject} {context : String} :
    (applying context o).Fits cp sub ↔ (isWorkload o = true → o ∈ workloads cp sub) := Iff.rfl

@[simp] theorem isWorkload_objectIn {kind name : String} : isWorkload (objectIn cp kind name) =
    (kind = "Deployment" || kind = "Service" || kind = "DaemonSet") := by
  simp [isWorkload, objectIn]

end Fits

/-! ### Every program keeps to it -/

section Programs

variable (op : Operator) (obs : Observed) (cp : ControlPlane)

theorem fits_namespace : ∀ a ∈ (reconcileNamespace cp).acts, a.Fits cp .namespace := by
  simp [reconcileNamespace, conditionWriter, isWorkload, buildNamespace]

theorem fits_rbac : ∀ a ∈ (reconcileRBAC cp).acts, a.Fits cp .rbac := by
  simp [reconcileRBAC, serviceAccountNames, isWorkload, buildServiceAccount, buildConfigReaderRole,
    buildConfigReaderRoleBinding, buildNetworkProbeClusterRole, buildNetworkProbeClusterRoleBinding,
    objectIn]

theorem fits_vault : ∀ a ∈ (reconcileVault op obs cp).acts, a.Fits cp .vault := by
  have hrole : ∀ a ∈ ensureServiceRole obs cp, a.Fits cp .vault := by
    unfold ensureServiceRole ensureAppRoleSecretID
    split
    · simp only
      split_ifs <;> simp [vaultRequest, vaultStop, readsStatus]
    · simp [vaultRequest]
  have hoidc : ∀ a ∈ ensureOIDC obs cp, a.Fits cp .vault := by
    unfold ensureOIDC
    simp only
    split_ifs <;> simp [vaultRequest, vaultStop, readsStatus]
  have hconfigure : ∀ a ∈ configureVault obs cp, a.Fits cp .vault := by
    unfold configureVault
    simp only [List.forall_mem_append]
    refine ⟨⟨⟨⟨⟨⟨?_, ?_⟩, ?_⟩, hrole⟩, hoidc⟩, ?_⟩, ?_⟩
    · simp [vaultRequest]
    · simp [ensureClusterSecrets, vaultRequest]
    · simp [vaultRequest]
    · simp [applyVSOResources, vsoObjects, vssSuffixes, vaultRequest]
    · simp [conditionWriter]
  unfold reconcileVault
  split_ifs
  · simp [conditionWriter]
  · simp [conditionWriter]
  · exact hconfigure

theorem fits_bucket : ∀ a ∈ (reconcileBucket op obs cp).acts, a.Fits cp .bucket := by
  unfold reconcileBucket
  simp only
  split_ifs <;> simp [conditionWriter]

theorem fits_database : ∀ a ∈ (reconcileDatabase obs cp).acts, a.Fits cp .database := by
  have happly : ∀ a ∈ applyDatabases obs cp, a.Fits cp .database := by
    intro a ha
    obtain ⟨spec, -, ha⟩ := List.mem_flatMap.mp ha
    simp only [List.mem_cons, List.not_mem_nil, or_false] at ha
    rcases ha with rfl | rfl
    · simp [buildDatabase]
    · split_ifs <;> simp [readsStatus]
  have hwait : ∀ message, (databaseWaiting message).Fits cp .database := by
    simp [databaseWaiting, conditionWriter]
  have hfollow : ∀ current, ∀ a ∈ (followCluster obs cp current).acts, a.Fits cp .database := by
    intro current
    unfold followCluster
    split_ifs
    · simp [hwait]
    · simp [hwait]
    · exact List.forall_mem_append.mpr ⟨happly, by simp [hwait]⟩
    · exact List.forall_mem_append.mpr ⟨happly, by simp [conditionWriter]⟩
  unfold reconcileDatabase
  simp only
  split
  · simp only [List.forall_mem_append, List.forall_mem_map]
    exact ⟨⟨fun _ _ => trivial, fun _ _ => trivial⟩, by simp [hwait]⟩
  · split
    · simp [buildCNPGCluster, dbRoleSpecs, readsStatus]
    · simp only [List.forall_mem_append, List.forall_mem_map]
      exact ⟨⟨⟨fun _ _ => trivial, by simp [buildCNPGCluster]⟩, by simp⟩, hfollow _⟩

theorem fits_serviceIdentity :
    ∀ a ∈ (reconcileServiceIdentity obs cp).acts, a.Fits cp .serviceIdentity := by
  have hobjects : ∀ o ∈ identityObjects cp, ¬ isWorkload o = true := by
    simp [identityObjects]
  unfold reconcileServiceIdentity
  simp only
  split_ifs
  all_goals
    simp only [List.forall_mem_append, List.forall_mem_map]
    refine ⟨⟨⟨⟨fun o ho hw => absurd hw (hobjects o ho), ?_⟩, ?_⟩, fun _ _ => trivial⟩, ?_⟩
    · simp
    · simp [buildCAConfigMap]
    · simp [conditionWriter]

theorem fits_smd : ∀ a ∈ (reconcileSMD obs cp).acts, a.Fits cp .smd := by
  unfold reconcileSMD
  split_ifs
  · simp
  · simp [serviceWriter, workloads, buildPDB]

/-- The three objects of a service, and its entry. -/
theorem fits_deployService {svc : Service} {after : List Act}
    (hafter : ∀ a ∈ after, a.Fits cp (serviceSub svc)) :
    ∀ a ∈ (deployService obs cp svc after).acts, a.Fits cp (serviceSub svc) := by
  have hworkloads : workloads cp (serviceSub svc) = [buildDeployment cp svc, buildService cp svc] := by
    cases svc <;> rfl
  have hwriter := serviceWriter_name svc
  have hreads : readsStatus (serviceSub svc) = false := by cases svc <;> rfl
  unfold deployService
  simp only
  split
  · simp [hworkloads, hreads, buildPDB]
  · split_ifs
    · refine List.forall_mem_append.mpr ⟨?_, hafter⟩
      simp [hworkloads, hwriter, buildPDB]
    · simp [hworkloads, hwriter, buildPDB]

theorem fits_tokensmith : ∀ a ∈ (reconcileTokensmith obs cp).acts, a.Fits cp .tokensmith := by
  have htoken : ∀ svc, ∀ a ∈ provisionBootstrapToken obs cp svc, a.Fits cp .tokensmith := by
    intro svc
    unfold provisionBootstrapToken
    simp only
    split_ifs <;> simp
  have htokens : ∀ a ∈ provisionServiceBootstrapTokens obs cp, a.Fits cp .tokensmith := by
    unfold provisionServiceBootstrapTokens
    split_ifs
    · simp
    · intro a ha
      obtain ⟨svc, -, ha⟩ := List.mem_flatMap.mp ha
      exact htoken svc a ha
  unfold reconcileTokensmith
  simp only
  split_ifs
  · simp
  · simp [readsStatus]
  · exact List.forall_mem_cons.mpr ⟨by simp [buildPVC], fits_deployService obs cp htokens⟩

theorem fits_consumer (svc : Service) :
    ∀ a ∈ (reconcileConsumer svc obs cp).acts, a.Fits cp (serviceSub svc) := by
  unfold reconcileConsumer
  split_ifs
  · simp
  · exact fits_deployService obs cp (by simp)

theorem fits_networkProbe : ∀ a ∈ (reconcileNetworkProbe obs cp).acts, a.Fits cp .networkProbe := by
  have hreport : ∀ a ∈ (reportProbe obs cp).acts, a.Fits cp .networkProbe := by
    unfold reportProbe
    simp only
    split_ifs <;> simp [probeCondition, conditionWriter]
  unfold reconcileNetworkProbe
  simp only
  split_ifs
  · simp [probeCondition, conditionWriter]
  · simp [probeCondition, conditionWriter, workloads]
  · exact List.forall_mem_append.mpr ⟨by simp [workloads], hreport⟩

theorem fits_coreDHCP : ∀ a ∈ (reconcileCoreDHCP obs cp).acts, a.Fits cp .coreDHCP := by
  have hrestrict : ∀ a ∈ restrictExistingSelection obs cp, a.Fits cp .coreDHCP := by
    unfold restrictExistingSelection
    split_ifs <;> simp
  have hread : ∀ a ∈ readConfigMapRef cp, a.Fits cp .coreDHCP := by
    unfold readConfigMapRef
    split <;> simp
  have hreport : ∀ current, ∀ a ∈ (reportDHCP current).acts, a.Fits cp .coreDHCP := by
    intro current
    unfold reportDHCP
    simp only
    split_ifs <;> simp [dhcpCondition, conditionWriter]
  unfold reconcileCoreDHCP
  simp only
  split_ifs
  · simp
  · exact List.forall_mem_append.mpr ⟨hrestrict, by simp [dhcpCondition, conditionWriter]⟩
  · split
    · simp only [List.forall_mem_append]
      exact ⟨⟨hrestrict, hread⟩, by simp [dhcpCondition, conditionWriter]⟩
    · simp only [List.forall_mem_append]
      exact ⟨⟨⟨hrestrict, hread⟩, by simp [workloads, buildCoreDHCPConfigMap]⟩, hreport _⟩

theorem fits_magellan : ∀ a ∈ (reconcileMagellan obs cp).acts, a.Fits cp .magellan := by
  have hsuspend : ∀ a ∈ suspendExistingCronJob obs cp, a.Fits cp .magellan := by
    unfold suspendExistingCronJob
    split
    · simp [magellanRequest]
    · simp only
      split_ifs <;> simp [magellanRequest, readsStatus]
  unfold reconcileMagellan
  refine List.forall_mem_append.mpr ⟨hsuspend, ?_⟩
  split_ifs <;> simp [conditionWriter]

theorem fits_certificates : ∀ a ∈ (reconcileCertificates obs cp).acts, a.Fits cp .certificates := by
  have happly : ∀ a ∈ [applying "applying gateway Certificate" (buildCertificate cp),
      reading "reading gateway TLS Secret"], a.Fits cp .certificates := by
    simp [buildCertificate]
  have hreport : ∀ t, ∀ a ∈ reportCertificate obs t, a.Fits cp .certificates := by
    intro t
    unfold reportCertificate
    simp only
    split_ifs <;> simp [certificatesCondition, conditionWriter]
  unfold reconcileCertificates
  simp only
  split
  · exact List.forall_mem_append.mpr ⟨happly, by simp [certificatesCondition, conditionWriter]⟩
  · split
    · exact List.forall_mem_append.mpr ⟨happly, by simp [certificatesCondition, conditionWriter]⟩
    · exact List.forall_mem_append.mpr ⟨happly, hreport _⟩

theorem isWorkload_gatewayObject (o : GatewayApi.Object) : isWorkload (gatewayObject o) = false := by
  unfold isWorkload gatewayObject
  cases o.kind <;> simp [Gateway.kindName]

theorem fits_gateway : ∀ a ∈ (reconcileGateway obs cp).acts, a.Fits cp .gateway := by
  have hrequests : ∀ a ∈ gatewayRequests obs cp, a.Fits cp .gateway := by
    unfold gatewayRequests
    simp only [List.forall_mem_append, List.forall_mem_map]
    exact ⟨fun o _ hw => absurd hw (by simp [isWorkload_gatewayObject]), fun _ _ => rfl⟩
  have hreport : ∀ a ∈ (reportGateway obs cp).acts, a.Fits cp .gateway := by
    unfold reportGateway
    split_ifs <;> simp [gatewayDeferred, conditionWriter]
  unfold reconcileGateway
  split_ifs
  · simp [conditionWriter]
  · exact List.forall_mem_append.mpr ⟨hrequests, hreport⟩

theorem fits_networkPolicies (net : Network) :
    ∀ a ∈ (reconcileNetworkPolicies net cp).acts, a.Fits cp .networkPolicies := by
  unfold reconcileNetworkPolicies
  split
  · simp [readsStatus]
  · simp only [List.forall_mem_append, List.forall_mem_map]
    exact ⟨fun np _ hw => absurd hw (by simp [isWorkload, policyObject]), by simp [conditionWriter]⟩

theorem fits_topology : ∀ a ∈ (reconcileTopology obs cp).acts, a.Fits cp .topology := by
  simp [reconcileTopology, buildTopologyConfigMap, conditionWriter]

theorem fits_serviceMonitor :
    ∀ a ∈ (reconcileServiceMonitor cp).acts, a.Fits cp .serviceMonitor := by
  unfold reconcileServiceMonitor describeServiceMonitor
  split_ifs <;> simp [buildServiceMonitor]

theorem fits_logBucket : ∀ a ∈ (reconcileLogBucket op obs cp).acts, a.Fits cp .logBucket := by
  unfold reconcileLogBucket
  simp only
  split_ifs <;> simp [logBucketRequest, logBucketCondition, conditionWriter]

theorem fits_funicular : ∀ a ∈ (reconcileFunicular obs cp).acts, a.Fits cp .funicular := by
  unfold reconcileFunicular
  simp only
  split_ifs <;> simp [workloads, collectorCondition, conditionWriter, serviceWriter]

theorem fits_logqCompactor : ∀ a ∈ (reconcileLogqCompactor cp).acts, a.Fits cp .logqCompactor := by
  unfold reconcileLogqCompactor
  split_ifs <;> simp [buildCompactorCronJob, compactorCondition, conditionWriter]

theorem fits_logqQuery : ∀ a ∈ (reconcileLogqQuery obs cp).acts, a.Fits cp .logqQuery := by
  unfold reconcileLogqQuery
  simp only
  split_ifs <;> simp [workloads, serviceWriter]

/-- **What an action of a sub-reconciler can do.** -/
theorem program_fits (sub : Sub) : ∀ a ∈ (program op obs cp sub).acts, a.Fits cp sub := by
  cases sub with
  | «namespace» => exact fits_namespace cp
  | rbac => exact fits_rbac cp
  | vault => exact fits_vault op obs cp
  | bucket => exact fits_bucket op obs cp
  | database => exact fits_database obs cp
  | serviceIdentity => exact fits_serviceIdentity obs cp
  | smd => exact fits_smd obs cp
  | tokensmith => exact fits_tokensmith obs cp
  | bootService => exact fits_consumer obs cp .bootService
  | metadataService => exact fits_consumer obs cp .metadataService
  | networkProbe => exact fits_networkProbe obs cp
  | coreDHCP => exact fits_coreDHCP obs cp
  | magellan => exact fits_magellan obs cp
  | certificates => exact fits_certificates obs cp
  | gateway => exact fits_gateway obs cp
  | networkPolicies => exact fits_networkPolicies cp obs.network
  | topology => exact fits_topology obs cp
  | serviceMonitor => exact fits_serviceMonitor cp
  | logBucket => exact fits_logBucket op obs cp
  | funicular => exact fits_funicular obs cp
  | logqCompactor => exact fits_logqCompactor cp
  | logqQuery => exact fits_logqQuery obs cp

end Programs

/-! ### What a call depends on -/

section Congr

variable {op : Operator} {obs : Observed} {a b : ControlPlane} {sub : Sub}

/-- The other calls depend on the object without its status. -/
theorem program_congr (hm : a.metadata = b.metadata) (hs : a.spec = b.spec)
    (h : readsStatus sub = false) : program op obs a sub = program op obs b sub := by
  obtain ⟨m, s, st⟩ := a
  obtain ⟨m', s', st'⟩ := b
  obtain rfl : m = m' := hm
  obtain rfl : s = s' := hs
  cases sub with
  | coreDHCP | gateway | topology | logqCompactor | logqQuery => cases h
  | _ => rfl

theorem isStop_of_readsStatus (h : readsStatus sub = true) : (program op obs a sub).Clear := by
  intro x hx
  have hfits := program_fits op obs a sub x hx
  cases x with
  | stop e writes events =>
    have hnot : readsStatus sub = false := hfits
    simp [h] at hnot
  | _ => rfl

theorem isStop_congr (hm : a.metadata = b.metadata) (hs : a.spec = b.spec)
    (h : (program op obs a sub).Clear) : (program op obs b sub).Clear := by
  by_cases hreads : readsStatus sub = true
  · exact isStop_of_readsStatus hreads
  · rw [← program_congr hm hs (by simpa using hreads)]
    exact h

/-- In a pass no call stops whose program would not on the object the pass starts with. -/
theorem isStop_entering {env : Env} {cp : ControlPlane}
    (h : ∀ sub ∈ subs, (program env.op env.obs cp sub).Clear) (sub : Sub) :
    (program env.op env.obs (env.entering (activated cp) sub) sub).Clear := by
  obtain ⟨hm, hs⟩ := env.entering_frame (activated cp) sub
  have hm' : cp.metadata = (env.entering (activated cp) sub).metadata := hm.symm
  have hs' : cp.spec = (env.entering (activated cp) sub).spec := hs.symm
  exact isStop_congr hm' hs' (h sub (mem_subs sub))

end Congr

/-! ### The status after a pass -/

inductive SlotValue where
  | condition (c : Condition)
  | service (st : ServiceStatus)
  | text (value : String)
deriving DecidableEq

/-- What a slot holds. -/
def Slot.read (cp : ControlPlane) : Slot → Option SlotValue
  | .condition t => (findStatusCondition cp.status.conditions t).map .condition
  | .service name => (cp.status.services.get? name).map .service
  | .logBucket => some (.text cp.status.logBucket)

/-- What a write puts into its slot; a condition is stamped with the generation. -/
def StatusWrite.value (generation : ℤ) : StatusWrite → Option SlotValue
  | .condition t st reason message => some (.condition ⟨t, st, reason, message, generation⟩)
  | .service _ st => some (.service st)
  | .field _ value => some (.text value)
  | _ => none

theorem StatusWrite.read_apply (x : StatusWrite) (cp : ControlPlane) (s : Slot) :
    s.read (x.apply cp) =
      if x.slot? = some s then x.value cp.metadata.generation else s.read cp := by
  cases x with
  | condition t st reason message =>
    cases s with
    | condition u =>
      simp only [Slot.read, StatusWrite.apply, ControlPlane.setCondition, findStatusCondition_set,
        StatusWrite.slot?, Option.some.injEq, Slot.condition.injEq, StatusWrite.value]
      split_ifs <;> rfl
    | _ => simp [Slot.read, StatusWrite.apply, ControlPlane.setCondition, StatusWrite.slot?]
  | service name st =>
    cases s with
    | service other =>
      simp only [Slot.read, StatusWrite.apply, GoMap.get?_insert, StatusWrite.slot?,
        Option.some.injEq, Slot.service.injEq, StatusWrite.value]
      split_ifs <;> rfl
    | _ => simp [Slot.read, StatusWrite.apply, StatusWrite.slot?]
  | field f value =>
    cases f <;> cases s <;>
      simp [Slot.read, StatusWrite.apply, StatusField.set, StatusWrite.slot?, StatusWrite.value]
  | _ => cases s <;> simp [Slot.read, StatusWrite.apply, StatusWrite.slot?]

/-- The last of some writes that goes into a slot. -/
def lastWrite (s : Slot) (xs : List StatusWrite) : Option StatusWrite :=
  xs.reverse.find? fun x => x.slot? = some s

theorem read_writes (s : Slot) : ∀ (xs : List StatusWrite) (cp : ControlPlane),
    s.read (xs.foldl StatusWrite.apply cp) = match lastWrite s xs with
      | some x => x.value cp.metadata.generation
      | none => s.read cp := by
  intro xs
  induction xs using List.reverseRecOn with
  | nil => intro cp; rfl
  | append_singleton xs x ih =>
    intro cp
    have hm := (writes_frame xs cp).1
    rw [List.foldl_append, List.foldl_cons, List.foldl_nil, x.read_apply, hm, ih cp]
    unfold lastWrite
    rw [List.reverse_append, List.reverse_singleton, List.singleton_append, List.find?_cons]
    by_cases hx : x.slot? = some s
    · simp [hx]
    · simp [hx]

variable {env : Env}

theorem lastWrite_of_ne {op : Operator} {obs : Observed} {cp : ControlPlane} {sub : Sub} {s : Slot}
    (h : writer s ≠ some sub) : lastWrite s (program op obs cp sub).writes = none := by
  unfold lastWrite
  rw [List.find?_eq_none]
  intro x hx hslot
  rw [List.mem_reverse] at hx
  obtain ⟨a, ha, hax⟩ := List.mem_filterMap.mp hx
  have hfits := program_fits op obs cp sub a ha
  cases a with
  | write y =>
    obtain rfl := Option.some.inj hax
    exact h (hfits s (by simpa using hslot))
  | _ => cases hax

theorem read_done (cp : ControlPlane) (sub : Sub) (s : Slot) : s.read (env.done cp sub) =
    match lastWrite s (program env.op env.obs cp sub).writes with
      | some x => x.value cp.metadata.generation
      | none => s.read cp :=
  read_writes s _ cp

theorem read_done_of_ne {cp : ControlPlane} {sub : Sub} {s : Slot} (h : writer s ≠ some sub) :
    s.read (env.done cp sub) = s.read cp := by
  rw [read_done, lastWrite_of_ne h]

theorem read_dones_of_notMem {s : Slot} : ∀ {l : List Sub} {cp : ControlPlane},
    (∀ sub ∈ l, writer s ≠ some sub) → s.read (l.foldl env.done cp) = s.read cp
  | [], _, _ => rfl
  | sub :: l, cp, h => by
    obtain ⟨hsub, hl⟩ := List.forall_mem_cons.mp h
    rw [List.foldl_cons, read_dones_of_notMem hl, read_done_of_ne hsub]

/-- In a list of calls a slot gets its value from its writer, which finds in it what was there before
the list. -/
theorem read_dones {l pre rest : List Sub} {cp : ControlPlane} {s : Slot} {sub : Sub}
    (hw : writer s = some sub) (hsplit : l = pre ++ sub :: rest) (hnodup : l.Nodup) :
    s.read (l.foldl env.done cp) = s.read (env.done (pre.foldl env.done cp) sub) ∧
      s.read (pre.foldl env.done cp) = s.read cp := by
  subst hsplit
  have hpre : ∀ sub' ∈ pre, writer s ≠ some sub' := fun sub' hsub' h => by
    have heq : sub' = sub := Option.some.inj (h.symm.trans hw)
    exact (List.nodup_append.mp hnodup).2.2 sub' hsub' sub (by simp) heq
  have hrest : ∀ sub' ∈ rest, writer s ≠ some sub' := fun sub' hsub' h => by
    have heq : sub' = sub := Option.some.inj (h.symm.trans hw)
    have hnot := (List.nodup_cons.mp (List.nodup_append.mp hnodup).2.1).1
    exact hnot (heq ▸ hsub')
  refine ⟨?_, read_dones_of_notMem hpre⟩
  rw [List.foldl_append, List.foldl_cons, read_dones_of_notMem hrest]

/-- **A slot holds what its writer made of it**, and its writer found in it what the pass did. -/
theorem read_outcome {cp : ControlPlane} {s : Slot} {sub : Sub} (hw : writer s = some sub) :
    s.read (env.outcome cp) =
      match lastWrite s (program env.op env.obs (env.entering (activated cp) sub) sub).writes with
      | some x => x.value cp.metadata.generation
      | none => s.read (activated cp) := by
  obtain ⟨pre, rest, hsplit⟩ := List.append_of_mem (mem_subs sub)
  obtain ⟨hlast, hfirst⟩ := @read_dones env subs pre rest (activated cp) s sub hw hsplit subs_nodup
  have henter : env.entering (activated cp) sub = pre.foldl env.done (activated cp) := by
    unfold Env.entering
    rw [takeWhile_subs hsplit.symm]
  have hgen : (pre.foldl env.done (activated cp)).metadata = cp.metadata :=
    (env.dones_frame pre (activated cp)).1
  unfold Env.outcome
  rw [hlast, henter, read_done, hgen, hfirst]

theorem read_entering {cp : ControlPlane} {s : Slot} {sub sub' : Sub} (hw : writer s = some sub)
    (hbefore : sub ∈ subs.takeWhile (· ≠ sub')) :
    s.read (env.entering cp sub') = s.read (env.done (env.entering cp sub) sub) := by
  obtain ⟨pre, rest, hsplit⟩ := List.append_of_mem hbefore
  have hnodup : (subs.takeWhile (· ≠ sub')).Nodup := subs_nodup.sublist (List.takeWhile_sublist _)
  obtain ⟨hlast, -⟩ := @read_dones env _ pre rest cp s sub hw hsplit hnodup
  -- the list up to the later call begins like the whole list
  obtain ⟨tail, htail⟩ := List.takeWhile_prefix (l := subs) (· ≠ sub')
  have hsubs : pre ++ sub :: (rest ++ tail) = subs := by
    rw [← htail, hsplit]
    simp
  have henter : env.entering cp sub = pre.foldl env.done cp := by
    unfold Env.entering
    rw [takeWhile_subs hsubs]
  rw [henter, ← hlast]
  rfl

/-- A slot without a writer is left as it was. -/
theorem read_outcome_of_none {cp : ControlPlane} {s : Slot} (hw : writer s = none) :
    s.read (env.outcome cp) = s.read (activated cp) :=
  read_dones_of_notMem fun sub _ h => by simp [hw] at h

/-! ### The workloads after a pass -/

/-- **A workload is there after the actions of a pass** exactly when it was there before or one of
the sub-reconcilers has applied it. -/
theorem has_workload {cp : ControlPlane} {w : World} {k : KubeKind × String × String}
    (hk : k.1 ≠ .other "HTTPRoute") :
    ((env.acts subs (activated cp)).foldl (Act.run cp) w).objects.has k = true ↔
      w.objects.has k = true ∨ ∃ sub, ∃ o ∈
        (program env.op env.obs (env.entering (activated cp) sub) sub).applied, o.key = k := by
  have hdelete : ∀ a ∈ env.acts subs (activated cp), a.deleted? ≠ some k := by
    intro a ha hdel
    obtain ⟨sub, ha⟩ := Env.mem_acts_subs.mp ha
    have hfits := program_fits _ _ _ sub a ha
    cases a with
    | request eff context writes events =>
      cases eff with
      | delete j =>
        obtain rfl := Option.some.inj hdel
        exact hk hfits
      | _ => cases hdel
    | _ => cases hdel
  rw [has_acts hdelete]
  refine or_congr_right ⟨?_, ?_⟩
  · rintro ⟨o, ho, hkey⟩
    obtain ⟨a, ha, hao⟩ := List.mem_filterMap.mp ho
    obtain ⟨sub, ha⟩ := Env.mem_acts_subs.mp ha
    exact ⟨sub, o, List.mem_filterMap.mpr ⟨a, ha, hao⟩, hkey⟩
  · rintro ⟨sub, o, ho, hkey⟩
    obtain ⟨a, ha, hao⟩ := List.mem_filterMap.mp ho
    exact ⟨o, List.mem_filterMap.mpr ⟨a, Env.mem_acts_subs.mpr ⟨sub, ha⟩, hao⟩, hkey⟩

/-- A workload that is applied is one of the applying sub-reconciler's own. -/
theorem mem_workloads {op : Operator} {obs : Observed} {cp : ControlPlane} {sub : Sub}
    {o : KubeObject} (ho : o ∈ (program op obs cp sub).applied) (hw : isWorkload o = true) :
    o ∈ workloads cp sub := by
  obtain ⟨a, ha, hao⟩ := List.mem_filterMap.mp ho
  have hfits := program_fits op obs cp sub a ha
  cases a with
  | request eff context writes events =>
    cases eff with
    | apply o' =>
      obtain rfl := Option.some.inj hao
      exact hfits hw
    | _ => cases hao
  | _ => cases hao

end OpenchamiOperator.Controller
