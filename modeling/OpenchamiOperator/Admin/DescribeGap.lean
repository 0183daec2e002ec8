import OpenchamiOperator.Admin.Describe
import OpenchamiOperator.Controller.StatusMemory

/-! # Reports and passes

What `ochami-admin describe` shows for a specification, against what a full pass over it applies when
nothing is missing that a pass waits for.

* `applied_of_describe`: with open gates a call applies what it describes.
* `letsPass_entering`: in such a pass the status lets every call pass.
* `describe_difference`: the two sets differ, and by which objects. -/

namespace OpenchamiOperator.Admin

open Lib Strings Api Reconcilers Controller

/-! ### Open gates -/

/-- The certificate of the gateway is there and good for more than a day. -/
def certificateValid (obs : Observed) (cp : ControlPlane) : Bool :=
  (obs.secrets (gatewayTLSSecretName cp)).any fun secret =>
    match obs.notAfter (secret.data.getD "tls.crt" "") with
    | .error _ => false
    | .ok notAfter => 24 * hour < notAfter - obs.now

/-- Nothing that a pass waits for is missing. -/
structure GatesOpen (op : Operator) (obs : Observed) (cp : ControlPlane) : Prop where
  vault : op.vaultClient = true ∧ obs.vault.reachable = true
  roleSecrets : ∀ spec ∈ dbRoleSpecs, (obs.secrets (secretName cp spec.secretSuffix)).isSome = true
  database : (obs.clusters (buildCNPGCluster cp).name).any (fun current =>
    current.phase = "Cluster in healthy state" && unreconciledManagedRoles current = []) = true
  probe : probeOpen obs cp = true
  config : cp.spec.services.coreDHCP.enabled = true → (resolveConfig obs cp).isOk = true
  certificate : certificateValid obs cp = true
  tokensmith : 1 ≤ (obs.deployments "tokensmith").getD 0
  backendTLSPolicy : obs.gateway.btlsAvailable = true
  logBucket : cp.spec.logging.enabled = true → logBucketReported op obs cp = true

section Applied

variable {op : Operator} {obs : Observed} {cp : ControlPlane}

@[simp] theorem applied?_applying (context : String) (o : KubeObject) :
    (applying context o).applied? = some o := rfl

theorem mem_applied {p : Program} {o : KubeObject} {context : String} {writes : List StatusWrite}
    {events : List Event} (h : Act.request (.apply o) context writes events ∈ p.acts) :
    o ∈ p.applied :=
  List.mem_filterMap.mpr ⟨_, h, rfl⟩

theorem applied_vault (h : op.vaultClient = true ∧ obs.vault.reachable = true) :
    ∀ o ∈ vsoObjects cp, o ∈ (reconcileVault op obs cp).applied := by
  intro o ho
  have hvso : vaultRequest (.apply o) ("applying " ++ kindText o.kind ++ "/" ++ o.name) ∈
      applyVSOResources cp := List.mem_map_of_mem ho
  have hmem : vaultRequest (.apply o) ("applying " ++ kindText o.kind ++ "/" ++ o.name) ∈
      configureVault obs cp := List.mem_append_left _ (List.mem_append_right _ hvso)
  have hacts : (reconcileVault op obs cp).acts = configureVault obs cp := by
    simp [reconcileVault, h.1, h.2]
  rw [← hacts] at hmem
  exact mem_applied hmem

/-- The Cluster is applied once its Secrets are there, the databases once it is healthy. -/
theorem applied_database
    (hsecrets : ∀ spec ∈ dbRoleSpecs, (obs.secrets (secretName cp spec.secretSuffix)).isSome = true)
    (hcluster : (obs.clusters (buildCNPGCluster cp).name).any (fun current =>
      current.phase = "Cluster in healthy state" && unreconciledManagedRoles current = []) = true) :
    ∀ o ∈ describeDatabase cp, o ∈ (reconcileDatabase obs cp).applied := by
  have hnone : ((dbRoleSpecs.map fun spec => secretName cp spec.secretSuffix).find?
      fun name => (obs.secrets name).isNone) = none := by
    rw [List.find?_eq_none, List.forall_mem_map]
    intro spec hspec
    have hsome := hsecrets spec hspec
    rw [Option.isSome_iff_ne_none] at hsome
    simpa using hsome
  rcases hcurrent : obs.clusters (buildCNPGCluster cp).name with _ | current
  · simp [hcurrent] at hcluster
  rw [hcurrent, Option.any_some, Bool.and_eq_true, decide_eq_true_eq, decide_eq_true_eq] at hcluster
  obtain ⟨hphase, hroles⟩ := hcluster
  have hfollow : ∀ a ∈ applyDatabases obs cp, a ∈ (followCluster obs cp current).acts := by
    intro a ha
    unfold followCluster
    rw [if_neg (by simp [hphase]), if_neg (by simp [hroles])]
    split_ifs
    · exact List.mem_append_left _ ha
    · exact List.mem_append_left _ ha
  unfold reconcileDatabase describeDatabase
  simp only [hnone, hcurrent]
  refine List.forall_mem_cons.mpr ⟨mem_applied (List.mem_append_left _ (List.mem_append_left _
    (List.mem_append_right _ (List.mem_singleton.mpr rfl)))), List.forall_mem_map.mpr ?_⟩
  intro spec hspec
  have hdb : applying ("applying database " ++ (buildDatabase cp spec).name) (buildDatabase cp spec) ∈
      applyDatabases obs cp := List.mem_flatMap.mpr ⟨spec, hspec, List.mem_cons_self ..⟩
  exact mem_applied (List.mem_append_right _ (hfollow _ hdb))

theorem applied_service {svc : Service} (hon : serviceDeployedInCluster cp svc = true)
    (hstop : (program op obs cp (serviceSub svc)).Clear) :
    ∀ o ∈ describeService cp svc, o ∈ (program op obs cp (serviceSub svc)).applied := by
  cases svc with
  | smd =>
    simp [program, serviceSub, reconcileSMD, hon, describeService, Program.applied]
  | tokensmith =>
    unfold program serviceSub reconcileTokensmith at hstop ⊢
    simp only [hon, Bool.not_true, Bool.false_eq_true, if_false] at hstop ⊢
    split_ifs at hstop ⊢ with hissuer
    · simp [Program.Clear, Act.isStop] at hstop
    · refine List.forall_mem_append.mpr ⟨by simp [Program.applied], fun o ho => ?_⟩
      unfold Program.applied
      rw [List.filterMap_cons]
      exact List.mem_cons_of_mem _ (applied_deployService obs cp _ _ o ho)
  | bootService =>
    simp only [program, serviceSub, reconcileBootService, reconcileConsumer, hon, Bool.not_true,
      Bool.false_eq_true, if_false]
    exact applied_deployService obs cp _ _
  | metadataService =>
    simp only [program, serviceSub, reconcileMetadataService, reconcileConsumer, hon, Bool.not_true,
      Bool.false_eq_true, if_false]
    exact applied_deployService obs cp _ _

theorem applied_networkProbe :
    ∀ o ∈ describeNetworkProbe cp, o ∈ (reconcileNetworkProbe obs cp).applied := by
  unfold reconcileNetworkProbe describeNetworkProbe Program.applied
  simp only
  split_ifs <;> simp_all

theorem applied_coreDHCP {isPrint : Char → Bool} {objs : List KubeObject}
    (h : describeCoreDHCP isPrint cp = .ok objs) (hgate : probeGateReady cp .provision = true)
    (hconfig : cp.spec.services.coreDHCP.enabled = true → (resolveConfig obs cp).isOk = true) :
    ∀ o ∈ objs, o ∈ (reconcileCoreDHCP obs cp).applied := by
  rw [describeCoreDHCP_ok h]
  split_ifs with hen
  · obtain ⟨config, hresolve⟩ := exists_of_isOk (hconfig hen)
    unfold reconcileCoreDHCP Program.applied
    simp [hen, hgate, hresolve]
  · simp

theorem applied_gateway
    (hcert : isStatusConditionTrue cp.status.conditions .certificatesValid = true)
    (htoken : Gateway.tokensmithJWKSReady cp = true) (hbtls : obs.gateway.btlsAvailable = true) :
    ∀ o ∈ (Gateway.objectsAlways cp ++ Gateway.objectsRequiringTokensmith cp true).map gatewayObject,
      o ∈ (reconcileGateway obs cp).applied := by
  have hobjects : Gateway.objectsApplied obs.gateway cp =
      Gateway.objectsAlways cp ++ Gateway.objectsRequiringTokensmith cp true := by
    simp [Gateway.objectsApplied, Gateway.appliesGated, htoken, Gateway.missingBTLSGate, hbtls]
  unfold reconcileGateway gatewayRequests
  rw [if_neg (by simp [hcert]), hobjects, List.forall_mem_map]
  intro o ho
  exact mem_applied (List.mem_append_left _ (List.mem_append_left _ (List.mem_map_of_mem ho)))

theorem applied_networkPolicies {net : Network} {objs : List KubeObject}
    (h : describeNetworkPolicies cp = .ok objs)
    (hstop : (reconcileNetworkPolicies net cp).Clear) :
    ∀ o ∈ objs, o ∈ (reconcileNetworkPolicies net cp).applied := by
  obtain ⟨ps, hps, rfl⟩ := describeNetworkPolicies_ok h
  unfold reconcileNetworkPolicies at hstop ⊢
  split at hstop
  · simp [Program.Clear, Act.isStop] at hstop
  · rename_i policies hbuild
    rw [← policyObjects_eq hbuild hps, List.forall_mem_map]
    exact fun np hnp => mem_applied (List.mem_append_left _ (List.mem_map_of_mem hnp))

theorem applied_serviceIdentity :
    ∀ o ∈ identityObjects cp, o ∈ (reconcileServiceIdentity obs cp).applied := by
  intro o ho
  have hmem : applying ("applying " ++ kindText o.kind ++ "/" ++ o.name) o ∈
      (identityObjects cp).map fun o => applying ("applying " ++ kindText o.kind ++ "/" ++ o.name) o :=
    List.mem_map_of_mem ho
  unfold reconcileServiceIdentity
  simp only
  split_ifs
  all_goals
    exact mem_applied (List.mem_append_left _ (List.mem_append_left _ (List.mem_append_left _
      (List.mem_append_left _ hmem))))

theorem applied_certificates : buildCertificate cp ∈ (reconcileCertificates obs cp).applied := by
  unfold reconcileCertificates Program.applied
  simp only
  split
  · simp
  · split <;> simp

theorem applied_funicular (himage : cp.spec.logging.image.isSome = true) :
    ∀ o ∈ describeFunicular cp, o ∈ (reconcileFunicular obs cp).applied := by
  obtain ⟨image, himage⟩ := Option.isSome_iff_exists.mp himage
  unfold reconcileFunicular describeFunicular Program.applied
  by_cases hen : cp.spec.logging.enabled = true
  · simp only [hen, himage, Option.isNone_some, Bool.not_true, Bool.false_eq_true, if_false, if_true]
    split_ifs <;> simp
  · simp [hen]

/-- The compactor is on. -/
def compactorOn (cp : ControlPlane) : Bool :=
  cp.spec.logging.enabled && cp.spec.logging.compactorEnabled && cp.spec.logging.compactorImage.isSome

theorem applied_logqCompactor (hon : compactorOn cp = true)
    (hbucket : isStatusConditionTrue cp.status.conditions .logBucketReady = true) :
    buildCompactorCronJob cp ∈ (reconcileLogqCompactor cp).applied := by
  unfold compactorOn at hon
  simp only [Bool.and_eq_true, Option.isSome_iff_exists] at hon
  obtain ⟨⟨hlog, hen⟩, image, himage⟩ := hon
  simp [reconcileLogqCompactor, hlog, hen, himage, hbucket, Program.applied]

theorem applied_logqQuery (hon : queryOn cp = true) (hbucket : cp.status.logBucket ≠ "") :
    ∀ o ∈ [buildQueryDeployment cp, buildQueryService cp], o ∈ (reconcileLogqQuery obs cp).applied := by
  unfold queryOn at hon
  simp only [Bool.and_eq_true, Option.isSome_iff_exists] at hon
  obtain ⟨⟨hlog, hen⟩, image, himage⟩ := hon
  simp [reconcileLogqQuery, hlog, hen, himage, hbucket, Program.applied]

end Applied

/-! ### The gates in a pass -/

section Gates

variable {env : Env} {cp : ControlPlane}

/-- A condition that the call before has set is true. -/
theorem isStatusConditionTrue_entering {t : ConditionType} {sub sub' : Sub} {reason message : String}
    (hw : conditionWriter t = some sub) (hbefore : sub ∈ subs.takeWhile (· ≠ sub'))
    (hlast : lastWrite (.condition t) (program env.op env.obs (env.entering cp sub) sub).writes =
      some (.condition t .true reason message)) :
    isStatusConditionTrue (env.entering cp sub').status.conditions t = true := by
  have hread := @read_entering env cp (.condition t) sub sub' hw hbefore
  rw [read_done, hlast] at hread
  have hfind : findStatusCondition (env.entering cp sub').status.conditions t =
      some ⟨t, .true, reason, message, (env.entering cp sub).metadata.generation⟩ :=
    Option.map_injective (fun _ _ h => SlotValue.condition.inj h) hread
  unfold isStatusConditionTrue
  rw [hfind]
  rfl

theorem certificateValid_iff {obs : Observed} : certificateValid obs cp = true ↔
    ∃ secret notAfter, obs.secrets (gatewayTLSSecretName cp) = some secret ∧
      obs.notAfter (secret.data.getD "tls.crt" "") = .ok notAfter ∧
      24 * hour < notAfter - obs.now := by
  unfold certificateValid
  rcases hsecret : obs.secrets (gatewayTLSSecretName cp) with _ | secret
  · simp
  · rcases hnotAfter : obs.notAfter (secret.data.getD "tls.crt" "") with e | notAfter
    · simp [hnotAfter]
    · simp [hnotAfter]

theorem lastWrite_certificates {op : Operator} {obs : Observed} (h : certificateValid obs cp = true) :
    ∃ message, lastWrite (.condition .certificatesValid) (program op obs cp .certificates).writes =
      some (.condition .certificatesValid .true Reason.ready message) := by
  obtain ⟨secret, notAfter, hsecret, hnotAfter, hgap⟩ := certificateValid_iff.mp h
  have hacts : (program op obs cp .certificates).acts =
      [applying "applying gateway Certificate" (buildCertificate cp),
        reading "reading gateway TLS Secret"] ++ reportCertificate obs notAfter := by
    simp [program, reconcileCertificates, hsecret, hnotAfter]
  have hday : ¬ notAfter - obs.now ≤ 24 * hour := by omega
  have hnow : ¬ notAfter - obs.now ≤ 0 := by
    unfold hour at hday
    omega
  refine ⟨"certificate valid until " ++ obs.formatTime notAfter, ?_⟩
  unfold lastWrite Program.writes
  rw [hacts]
  unfold reportCertificate
  simp only [hday, hnow, if_false]
  split_ifs <;> rfl

theorem lastWrite_logBucketReady {op : Operator} {obs : Observed}
    (h : cp.spec.logging.enabled = true → logBucketReported op obs cp = true) :
    ∃ message, lastWrite (.condition .logBucketReady) (program op obs cp .logBucket).writes =
      some (.condition .logBucketReady .true Reason.ready message) := by
  by_cases hen : cp.spec.logging.enabled = true
  · have hreported := h hen
    unfold logBucketReported at hreported
    simp only [Bool.and_eq_true, Option.isSome_iff_exists] at hreported
    obtain ⟨⟨-, hs3⟩, secret, hsecret⟩ := hreported
    simp only [program, reconcileLogBucket, hen, hs3, hsecret]
    exact ⟨_, rfl⟩
  · simp only [program, reconcileLogBucket, hen]
    exact ⟨_, rfl⟩

theorem lastWrite_tokensmith {op : Operator} {obs : Observed}
    (hon : serviceDeployedInCluster cp .tokensmith = true)
    (hstop : (program op obs cp .tokensmith).Clear)
    (havailable : 1 ≤ (obs.deployments "tokensmith").getD 0) :
    ∃ st, lastWrite (.service "tokensmith") (program op obs cp .tokensmith).writes =
      some (.service "tokensmith" st) ∧ st.ready = true := by
  rcases hdeployment : obs.deployments "tokensmith" with _ | available
  · simp [hdeployment] at havailable
  · rw [hdeployment, Option.getD_some] at havailable
    have hname : obs.deployments Service.tokensmith.name = some available := hdeployment
    simp only [program, reconcileTokensmith, hon, Bool.not_true, Bool.false_eq_true, if_false]
      at hstop ⊢
    split_ifs at hstop ⊢
    · simp [Program.Clear, Act.isStop] at hstop
    · unfold deployService lastWrite Program.writes
      simp only [hname, if_pos havailable, List.filterMap_cons, List.filterMap_append,
        writes_provisionServiceBootstrapTokens]
      exact ⟨_, rfl, by simpa using havailable⟩

theorem GatesOpen.congr {op : Operator} {obs : Observed} {a b : ControlPlane}
    (hm : a.metadata = b.metadata) (hs : a.spec = b.spec) (h : GatesOpen op obs a) :
    GatesOpen op obs b := by
  obtain ⟨m, s, st⟩ := a
  obtain ⟨m', s', st'⟩ := b
  obtain rfl : m = m' := hm
  obtain rfl : s = s' := hs
  exact ⟨h.vault, h.roleSecrets, h.database, h.probe, h.config, h.certificate, h.tokensmith,
    h.backendTLSPolicy, h.logBucket⟩

theorem describe_congr {isPrint : Char → Bool} {a b : ControlPlane} (hm : a.metadata = b.metadata)
    (hs : a.spec = b.spec) (sub : Sub) : describe isPrint a sub = describe isPrint b sub := by
  obtain ⟨m, s, st⟩ := a
  obtain ⟨m', s', st'⟩ := b
  obtain rfl : m = m' := hm
  obtain rfl : s = s' := hs
  cases sub <;> rfl

/-- A call whose objects are not switched off. -/
def switchedOn (cp : ControlPlane) : Sub → Bool
  | .smd => serviceDeployedInCluster cp .smd
  | .tokensmith => serviceDeployedInCluster cp .tokensmith
  | .bootService => serviceDeployedInCluster cp .bootService
  | .metadataService => serviceDeployedInCluster cp .metadataService
  | .funicular => cp.spec.logging.image.isSome
  | .logqCompactor => cp.spec.logging.compactorImage.isSome
  | .logqQuery => cp.spec.logging.queryImage.isSome
  | _ => true

/-- The status lets a call pass. -/
def LetsPass (cp : ControlPlane) : Sub → Prop
  | .coreDHCP => probeGateReady cp .provision = true
  | .gateway => isStatusConditionTrue cp.status.conditions .certificatesValid = true ∧
      Gateway.tokensmithJWKSReady cp = true
  | .logqCompactor => isStatusConditionTrue cp.status.conditions .logBucketReady = true
  | .logqQuery => cp.spec.logging.enabled = true → cp.status.logBucket ≠ ""
  | _ => True

/-- **With all gates open a call applies what it describes**, unless it is switched off. -/
theorem applied_of_describe {op : Operator} {obs : Observed} {isPrint : Char → Bool} {sub : Sub}
    {objs : List KubeObject} (hopen : GatesOpen op obs cp) (hpass : LetsPass cp sub)
    (hstop : (program op obs cp sub).Clear)
    (h : describe isPrint cp sub = .ok objs) (hon : switchedOn cp sub = true) :
    ∀ o ∈ objs, o ∈ (program op obs cp sub).applied := by
  cases sub with
  | «namespace» =>
    cases h
    simp [program, reconcileNamespace, Program.applied]
  | rbac =>
    cases h
    simp only [describeRBAC, List.forall_mem_append, List.forall_mem_map]
    exact ⟨fun name hname => mem_applied (List.mem_append_left _ (List.mem_map_of_mem hname)),
      by simp [program, reconcileRBAC, Program.applied]⟩
  | vault =>
    cases h
    exact applied_vault hopen.vault
  | database =>
    cases h
    exact applied_database hopen.roleSecrets hopen.database
  | serviceIdentity =>
    cases h
    exact applied_serviceIdentity
  | smd =>
    cases h
    exact @applied_service op obs cp .smd hon hstop
  | tokensmith =>
    cases h
    exact @applied_service op obs cp .tokensmith hon hstop
  | bootService =>
    cases h
    exact @applied_service op obs cp .bootService hon hstop
  | metadataService =>
    cases h
    exact @applied_service op obs cp .metadataService hon hstop
  | networkProbe =>
    cases h
    exact applied_networkProbe
  | coreDHCP => exact applied_coreDHCP h hpass hopen.config
  | certificates =>
    cases h
    exact List.forall_mem_singleton.mpr applied_certificates
  | gateway =>
    cases h
    exact applied_gateway hpass.1 hpass.2 hopen.backendTLSPolicy
  | networkPolicies => exact applied_networkPolicies h hstop
  | topology =>
    cases h
    simp [program, reconcileTopology, Program.applied]
  | serviceMonitor =>
    cases h
    exact fun o ho => mem_applied (List.mem_map_of_mem ho)
  | funicular =>
    cases h
    exact applied_funicular hon
  | logqCompactor =>
    cases h
    split_ifs with hen
    · have hon' : compactorOn cp = true := by
        unfold compactorOn
        rw [hen]
        exact hon
      exact List.forall_mem_singleton.mpr (applied_logqCompactor hon' hpass)
    · simp
  | logqQuery =>
    cases h
    split_ifs with hen
    · have hon' : queryOn cp = true := by
        unfold queryOn
        rw [hen]
        exact hon
      exact applied_logqQuery hon' (hpass (Bool.and_eq_true_iff.mp hen).1)
    · simp
  | bucket | magellan | logBucket =>
    cases h
    simp

theorem applied_of_off {op : Operator} {obs : Observed} {sub : Sub} (hoff : switchedOn cp sub = false) :
    (program op obs cp sub).applied = [] := by
  have hservice : ∀ svc, serviceDeployedInCluster cp svc = false →
      (program op obs cp (serviceSub svc)).applied = [] := fun svc h => by
    unfold Program.applied
    rw [acts_of_off h]
    rfl
  cases sub with
  | smd => exact hservice .smd hoff
  | tokensmith => exact hservice .tokensmith hoff
  | bootService => exact hservice .bootService hoff
  | metadataService => exact hservice .metadataService hoff
  | funicular =>
    have himage : cp.spec.logging.image = none := by simpa [switchedOn] using hoff
    unfold program reconcileFunicular
    simp only [himage, Option.isNone_none, if_true]
    split_ifs <;> rfl
  | logqCompactor =>
    have himage : cp.spec.logging.compactorImage = none := by simpa [switchedOn] using hoff
    unfold program reconcileLogqCompactor
    simp only [himage, Option.isNone_none, if_true]
    split_ifs <;> rfl
  | logqQuery =>
    have himage : cp.spec.logging.queryImage = none := by simpa [switchedOn] using hoff
    unfold program reconcileLogqQuery
    simp only [himage, Option.isNone_none, Bool.true_or, if_true]
    split_ifs <;> rfl
  | _ => cases hoff

theorem switchedOn_congr {a b : ControlPlane} (hs : a.spec = b.spec) (sub : Sub) :
    switchedOn a sub = switchedOn b sub := by
  unfold switchedOn
  simp only [serviceDeployedInCluster_congr hs, hs]

variable (hopen : GatesOpen env.op env.obs cp) (hstop : env.Clear cp)
include hopen

theorem gatesOpen_entering (sub : Sub) :
    GatesOpen env.op env.obs (env.entering (activated cp) sub) := by
  obtain ⟨hm, hs⟩ := env.entering_frame (activated cp) sub
  have hm' : cp.metadata = (env.entering (activated cp) sub).metadata := hm.symm
  have hs' : cp.spec = (env.entering (activated cp) sub).spec := hs.symm
  exact hopen.congr hm' hs'

theorem probeGateReady_entering :
    probeGateReady (env.entering (activated cp) .coreDHCP) .provision = true := by
  rw [entering_coreDHCP, probeGateReady_done]
  exact (gatesOpen_entering hopen .networkProbe).probe

theorem certificatesValid_entering : isStatusConditionTrue
    (env.entering (activated cp) .gateway).status.conditions .certificatesValid = true := by
  obtain ⟨message, hlast⟩ := @lastWrite_certificates (env.entering (activated cp) .certificates)
    env.op env.obs (gatesOpen_entering hopen .certificates).certificate
  exact isStatusConditionTrue_entering rfl (by decide) hlast

theorem logBucketReady_entering : isStatusConditionTrue
    (env.entering (activated cp) .logqCompactor).status.conditions .logBucketReady = true := by
  obtain ⟨message, hlast⟩ := @lastWrite_logBucketReady (env.entering (activated cp) .logBucket)
    env.op env.obs (gatesOpen_entering hopen .logBucket).logBucket
  exact isStatusConditionTrue_entering rfl (by decide) hlast

include hstop

theorem tokensmithJWKSReady_entering :
    Gateway.tokensmithJWKSReady (env.entering (activated cp) .gateway) = true := by
  unfold Gateway.tokensmithJWKSReady
  split_ifs with hoff
  · rfl
  · have hspec : (env.entering (activated cp) .tokensmith).spec =
        (env.entering (activated cp) .gateway).spec :=
      (env.entering_frame _ .tokensmith).2.trans (env.entering_frame _ .gateway).2.symm
    have hon : serviceDeployedInCluster (env.entering (activated cp) .tokensmith) .tokensmith =
        true := by
      rw [serviceDeployedInCluster_congr hspec]
      simpa using hoff
    obtain ⟨st, hlast, hready⟩ := lastWrite_tokensmith hon (hstop .tokensmith) hopen.tokensmith
    have hread := @read_entering env (activated cp) (.service "tokensmith") .tokensmith .gateway
      (by decide) (by decide)
    rw [read_done, hlast] at hread
    have hget : (env.entering (activated cp) .gateway).status.services.get? "tokensmith" = some st :=
      Option.map_injective (fun _ _ h => SlotValue.service.inj h) hread
    have hname : Service.tokensmith.name = "tokensmith" := rfl
    rw [hname, hget, Option.any_some, hready]

theorem letsPass_entering (sub : Sub) : LetsPass (env.entering (activated cp) sub) sub := by
  cases sub with
  | coreDHCP => exact probeGateReady_entering hopen
  | gateway => exact ⟨certificatesValid_entering hopen, tokensmithJWKSReady_entering hopen hstop⟩
  | logqCompactor => exact logBucketReady_entering hopen
  | logqQuery =>
    intro hen
    rw [(env.entering_frame (activated cp) .logqQuery).2] at hen
    exact logBucket_entering.mpr (Or.inl (hopen.logBucket hen))
  | _ => trivial

end Gates

/-! ### The difference -/

/-- The objects a pass without an error applies. -/
def appliedObjects (env : Env) (cp : ControlPlane) : List KubeObject :=
  (env.acts subs (activated cp)).filterMap Act.applied?

/-- Described, but not applied: the services that are not deployed, and a collector without an
image. -/
def skippedObjects (cp : ControlPlane) : List KubeObject :=
  ([Service.smd, .tokensmith, .bootService, .metadataService].filter fun svc =>
    !serviceDeployedInCluster cp svc).flatMap (describeService cp) ++
  if cp.spec.logging.enabled && cp.spec.logging.image.isNone then [buildFunicularDaemonSet cp] else []

/-- Applied, but not described: the certificates by which services know each other, the compactor and
the query service. -/
def unlistedObjects (cp : ControlPlane) : List KubeObject :=
  identityObjects cp ++
  (if compactorOn cp then [buildCompactorCronJob cp] else []) ++
  if queryOn cp then [buildQueryDeployment cp, buildQueryService cp] else []

theorem mem_appliedObjects {env : Env} {cp : ControlPlane} {o : KubeObject} :
    o ∈ appliedObjects env cp ↔
      ∃ sub, o ∈ (program env.op env.obs (env.entering (activated cp) sub) sub).applied := by
  unfold appliedObjects Program.applied
  simp only [List.mem_filterMap, Env.mem_acts_subs]
  constructor
  · rintro ⟨a, ⟨sub, ha⟩, ho⟩
    exact ⟨sub, a, ha, ho⟩
  · rintro ⟨sub, a, ha, ho⟩
    exact ⟨a, ⟨sub, ha⟩, ho⟩

section Sets

variable {isPrint : Char → Bool} {cp : ControlPlane}

theorem mem_skippedObjects {o : KubeObject} : o ∈ skippedObjects cp ↔ ∃ s ∈ describeSubs,
    switchedOn cp s.2 = false ∧ ∃ objs, describe isPrint cp s.2 = .ok objs ∧ o ∈ objs := by
  have hservice : o ∈ ([Service.smd, .tokensmith, .bootService, .metadataService].filter fun svc =>
      !serviceDeployedInCluster cp svc).flatMap (describeService cp) ↔
        ∃ svc, serviceDeployedInCluster cp svc = false ∧ o ∈ describeService cp svc := by
    simp only [List.mem_flatMap, List.mem_filter, Bool.not_eq_true', and_assoc]
    exact exists_congr fun svc => ⟨fun h => h.2, fun h => ⟨by cases svc <;> decide, h⟩⟩
  unfold skippedObjects
  rw [List.mem_append, hservice]
  constructor
  · rintro (⟨svc, hoff, ho⟩ | ho)
    · cases svc with
      | smd => exact ⟨("SMD", .smd), by decide, hoff, _, rfl, ho⟩
      | tokensmith => exact ⟨("Tokensmith", .tokensmith), by decide, hoff, _, rfl, ho⟩
      | bootService => exact ⟨("Boot Service", .bootService), by decide, hoff, _, rfl, ho⟩
      | metadataService =>
        exact ⟨("Metadata Service", .metadataService), by decide, hoff, _, rfl, ho⟩
    · split_ifs at ho with hlogs
      · rw [Bool.and_eq_true] at hlogs
        refine ⟨("Funicular", .funicular), by decide, ?_, _, rfl, ?_⟩
        · simpa [switchedOn] using hlogs.2
        · simpa [describeFunicular, hlogs.1] using ho
      · cases ho
  · rintro ⟨⟨name, sub⟩, hs, hoff, objs, hobjs, ho⟩
    cases sub with
    | smd =>
      cases hobjs
      exact Or.inl ⟨.smd, hoff, ho⟩
    | tokensmith =>
      cases hobjs
      exact Or.inl ⟨.tokensmith, hoff, ho⟩
    | bootService =>
      cases hobjs
      exact Or.inl ⟨.bootService, hoff, ho⟩
    | metadataService =>
      cases hobjs
      exact Or.inl ⟨.metadataService, hoff, ho⟩
    | funicular =>
      cases hobjs
      have himage : cp.spec.logging.image = none := by simpa [switchedOn] using hoff
      refine Or.inr ?_
      unfold describeFunicular at ho
      split_ifs at ho with hlogs
      · simpa [hlogs, himage] using ho
      · cases ho
    | logqCompactor | logqQuery => simp [describeSubs] at hs
    | _ => cases hoff

theorem mem_unlistedObjects {o : KubeObject} : o ∈ unlistedObjects cp ↔
    ∃ sub, (∀ s ∈ describeSubs, s.2 ≠ sub) ∧ switchedOn cp sub = true ∧
      ∃ objs, describe isPrint cp sub = .ok objs ∧ o ∈ objs := by
  unfold unlistedObjects
  rw [List.mem_append, List.mem_append]
  constructor
  · rintro ((ho | ho) | ho)
    · exact ⟨.serviceIdentity, by decide, rfl, _, rfl, ho⟩
    · split_ifs at ho with hon
      · unfold compactorOn at hon
        rw [Bool.and_eq_true] at hon
        exact ⟨.logqCompactor, by decide, hon.2, _, rfl, by rw [if_pos hon.1]; exact ho⟩
      · cases ho
    · split_ifs at ho with hon
      · unfold queryOn at hon
        rw [Bool.and_eq_true] at hon
        exact ⟨.logqQuery, by decide, hon.2, _, rfl, by rw [if_pos hon.1]; exact ho⟩
      · cases ho
  · rintro ⟨sub, hunlisted, hon, objs, hobjs, ho⟩
    cases sub with
    | serviceIdentity =>
      cases hobjs
      exact Or.inl (Or.inl ho)
    | logqCompactor =>
      cases hobjs
      split_ifs at ho with hen
      · refine Or.inl (Or.inr ?_)
        rw [if_pos (show compactorOn cp = true by unfold compactorOn; rw [hen]; exact hon)]
        exact ho
      · cases ho
    | logqQuery =>
      cases hobjs
      split_ifs at ho with hen
      · refine Or.inr ?_
        rw [if_pos (show queryOn cp = true by unfold queryOn; rw [hen]; exact hon)]
        exact ho
      · cases ho
    | _ => exact absurd hunlisted (by decide)

/-- What is left out has no describing call, or one that is listed and never skips. -/
theorem owner_leftOut {o : KubeObject} (h : leftOut cp o) :
    owner o.kind o.name = none ∨ owner o.kind o.name = some .topology := by
  rcases h with hkind | rfl
  · rw [hkind]
    exact Or.inl rfl
  · have hname : (buildCAConfigMap cp).name ≠ "coredhcp-config" := by
      unfold buildCAConfigMap objectIn serviceIdentityCAConfigMapName secretName
      simp only
      rw [String.append_assoc]
      exact openchami_ne (by decide)
    have hkind : (buildCAConfigMap cp).kind = .other "ConfigMap" := rfl
    refine Or.inr ?_
    rw [hkind, owner]
    simp [hname]

end Sets

section Difference

variable {env : Env} {isPrint : Char → Bool} {cp : ControlPlane} {sub : Sub} {objs : List KubeObject}
  {o : KubeObject}

/-- What a call of the pass applies, it describes or it is left out; and it is not switched off. -/
theorem described_of_applied (h : describe isPrint cp sub = .ok objs)
    (ho : o ∈ (program env.op env.obs (env.entering (activated cp) sub) sub).applied) :
    (o ∈ objs ∨ leftOut cp o) ∧ switchedOn cp sub = true := by
  obtain ⟨hm, hs⟩ := env.entering_frame (activated cp) sub
  have hspec : (env.entering (activated cp) sub).spec = cp.spec := hs
  have hdescribe : describe isPrint (env.entering (activated cp) sub) sub = .ok objs :=
    (describe_congr hm hs sub).trans h
  have hca : buildCAConfigMap (env.entering (activated cp) sub) = buildCAConfigMap cp := by
    unfold buildCAConfigMap objectIn serviceIdentityCAConfigMapName secretName controlPlaneNamespace
    rw [hspec]
  obtain ⟨a, ha, hao⟩ := List.mem_filterMap.mp ho
  have hwithin := program_within hdescribe a ha
  refine ⟨?_, ?_⟩
  · unfold Act.applied? at hao
    split at hao
    · obtain rfl := Option.some.inj hao
      rwa [within_apply, leftOut, hca] at hwithin
    · cases hao
  · by_contra hoff
    rw [Bool.not_eq_true, ← switchedOn_congr hspec] at hoff
    rw [applied_of_off hoff] at ho
    cases ho

theorem applied_of_described (hopen : GatesOpen env.op env.obs cp) (hstop : env.Clear cp)
    (h : describe isPrint cp sub = .ok objs) (hon : switchedOn cp sub = true) (ho : o ∈ objs) :
    o ∈ appliedObjects env cp := by
  obtain ⟨hm, hs⟩ := env.entering_frame (activated cp) sub
  have hspec : (env.entering (activated cp) sub).spec = cp.spec := hs
  have hdescribe : describe isPrint (env.entering (activated cp) sub) sub = .ok objs :=
    (describe_congr hm hs sub).trans h
  have hon' := (switchedOn_congr hspec sub).trans hon
  exact mem_appliedObjects.mpr ⟨sub, applied_of_describe (gatesOpen_entering hopen sub)
    (letsPass_entering hopen hstop sub) (hstop sub) hdescribe hon' o ho⟩

theorem describe_unlisted (h : ∀ s ∈ describeSubs, s.2 ≠ sub) :
    ∃ objs, describe isPrint cp sub = .ok objs := by
  cases sub with
  | serviceIdentity | logqCompactor | logqQuery => exact ⟨_, rfl⟩
  | _ => exact absurd h (by decide)

/-- No call leaves out an object of one that is not listed. -/
theorem not_leftOut_of_unlisted (h : describe isPrint cp sub = .ok objs) (ho : o ∈ objs)
    (hsub : ∀ s ∈ describeSubs, s.2 ≠ sub) : ¬ leftOut cp o := by
  intro hleft
  have howner := owner_of_describe h o ho
  rcases owner_leftOut hleft with hnone | htopology
  · simp [hnone] at howner
  · rw [htopology] at howner
    exact hsub ("Topology", .topology) (by decide) (Option.some.inj howner)

variable {report : Report} (hreport : describeRender isPrint cp = .ok report)
include hreport

theorem describe_all (sub : Sub) : ∃ objs, describe isPrint cp sub = .ok objs := by
  by_cases hlisted : ∀ s ∈ describeSubs, s.2 ≠ sub
  · exact describe_unlisted hlisted
  · push Not at hlisted
    obtain ⟨s, hs, rfl⟩ := hlisted
    exact (describeRender_ok hreport).2 s hs

/-- An object that no listed call has is not shown, not even by its key. -/
theorem not_shown {o' : KubeObject} (h : describe isPrint cp sub = .ok objs) (ho : o ∈ objs)
    (hsub : ∀ s ∈ describeSubs, s.2 ≠ sub) (hkey : o'.key = o.key) : o' ∉ report.objects := by
  intro hshown
  obtain ⟨s, hs, objs', hobjs', ho'⟩ := ((describeRender_ok hreport).1 o').mp hshown
  have hkind : o'.kind = o.kind := congrArg Prod.fst hkey
  have hname : o'.name = o.name := congrArg (·.2.2) hkey
  have howner := owner_of_describe hobjs' o' ho'
  rw [hkind, hname] at howner
  exact hsub s hs (Option.some.inj (howner.symm.trans (owner_of_describe h o ho)))

/-- The issuer that signs the certificate authority is applied in every pass, and never shown. -/
theorem shown_ne_applied (env : Env) : ¬ ∀ k, (∃ o ∈ report.objects, o.key = k) ↔
    ∃ o ∈ appliedObjects env cp, ¬ leftOut cp o ∧ o.key = k := by
  intro hsame
  have hissuer : objectIn cp "Issuer" (secretName cp "service-identity-bootstrap") ∈
      identityObjects cp := by
    simp [identityObjects]
  obtain ⟨hm, hs⟩ := env.entering_frame (activated cp) .serviceIdentity
  have hsameObjects : identityObjects (env.entering (activated cp) .serviceIdentity) =
      identityObjects cp :=
    Except.ok.inj (@describe_congr isPrint _ cp hm hs .serviceIdentity)
  have happlied : objectIn cp "Issuer" (secretName cp "service-identity-bootstrap") ∈
      appliedObjects env cp :=
    mem_appliedObjects.mpr ⟨.serviceIdentity, applied_serviceIdentity _ (hsameObjects ▸ hissuer)⟩
  have hleft := @not_leftOut_of_unlisted isPrint cp .serviceIdentity _ _ rfl hissuer (by decide)
  obtain ⟨o, ho, hkey⟩ := (hsame _).mpr ⟨_, happlied, hleft, rfl⟩
  exact @not_shown isPrint cp .serviceIdentity _ _ report hreport o rfl hissuer (by decide) hkey ho

variable (hopen : GatesOpen env.op env.obs cp) (hstop : env.Clear cp)
include hopen hstop

/-- What a pass applies and the report does not show. -/
theorem unlisted_iff : o ∈ appliedObjects env cp ∧ ¬ leftOut cp o ∧ o ∉ report.objects ↔
    o ∈ unlistedObjects cp := by
  obtain ⟨hprinted, -⟩ := describeRender_ok hreport
  rw [@mem_unlistedObjects isPrint]
  constructor
  · rintro ⟨happlied, hleft, hnot⟩
    obtain ⟨sub, ho⟩ := mem_appliedObjects.mp happlied
    obtain ⟨objs, hobjs⟩ := describe_all hreport sub
    obtain ⟨hmem, hon⟩ := described_of_applied hobjs ho
    have hmem' := hmem.resolve_right hleft
    refine ⟨sub, fun s hs heq => hnot ((hprinted o).mpr ⟨s, hs, objs, ?_, hmem'⟩), hon, objs, hobjs,
      hmem'⟩
    rw [heq]
    exact hobjs
  · rintro ⟨sub, hsub, hon, objs, hobjs, ho⟩
    exact ⟨applied_of_described hopen hstop hobjs hon ho, not_leftOut_of_unlisted hobjs ho hsub,
      not_shown hreport hobjs ho hsub rfl⟩

/-- What the report shows and a pass does not apply. -/
theorem skipped_iff : o ∈ report.objects ∧ o ∉ appliedObjects env cp ↔ o ∈ skippedObjects cp := by
  obtain ⟨hprinted, -⟩ := describeRender_ok hreport
  rw [@mem_skippedObjects isPrint]
  constructor
  · rintro ⟨hshown, hnot⟩
    obtain ⟨s, hs, objs, hobjs, ho⟩ := (hprinted o).mp hshown
    refine ⟨s, hs, ?_, objs, hobjs, ho⟩
    by_contra hon
    exact hnot (applied_of_described hopen hstop hobjs (by simpa using hon) ho)
  · rintro ⟨s, hs, hoff, objs, hobjs, ho⟩
    refine ⟨(hprinted o).mpr ⟨s, hs, objs, hobjs, ho⟩, fun happlied => ?_⟩
    obtain ⟨sub, hsub⟩ := mem_appliedObjects.mp happlied
    obtain ⟨objs', hobjs'⟩ := describe_all hreport sub
    obtain ⟨hmem, hon⟩ := described_of_applied hobjs' hsub
    have howner := owner_of_describe hobjs o ho
    -- the call that applies it is the one that describes it, and that one is switched off
    have heq : sub = s.2 := by
      rcases hmem with hmem | hleft
      · exact Option.some.inj ((owner_of_describe hobjs' o hmem).symm.trans howner)
      · rcases owner_leftOut hleft with hnone | htopology
        · simp [hnone] at howner
        · rw [htopology] at howner
          rw [← Option.some.inj howner] at hoff
          cases hoff
    simp [heq, hoff] at hon

end Difference

/-- **How the report differs from a pass.** When every gate is open, what a report shows and a pass
without an error does not apply are the objects of services that are not deployed and of a collector
without an image; what the pass applies and the report does not show are the certificates of the
services, the compactor and the query service. The first of these is in every pass, so the two never
agree. -/
theorem describe_difference {env : Env} {isPrint : Char → Bool} {cp cp' : ControlPlane} {w w' : World}
    {n : ℕ} {report : Report} (hdry : env.op.dryRun = false)
    (hpin : pinnedElsewhere env.op cp = false)
    (hrun : reconcileAll env.op (fullPass env cp) cp w = (.ok n, cp', w'))
    (hopen : GatesOpen env.op env.obs cp) (hreport : describeRender isPrint cp = .ok report) :
    (∀ o, o ∈ report.objects ∧ o ∉ appliedObjects env cp ↔ o ∈ skippedObjects cp) ∧
    (∀ o, o ∈ appliedObjects env cp ∧ ¬ leftOut cp o ∧ o ∉ report.objects ↔
      o ∈ unlistedObjects cp) ∧
    ¬ ∀ k, (∃ o ∈ report.objects, o.key = k) ↔
      ∃ o ∈ appliedObjects env cp, ¬ leftOut cp o ∧ o.key = k := by
  obtain ⟨hstop, -, -, -⟩ := reconcileAll_fullPass hdry hpin hrun
  exact ⟨fun _ => skipped_iff hreport hopen hstop, fun _ => unlisted_iff hreport hopen hstop,
    shown_ne_applied hreport env⟩

/-! ### A cluster with open gates -/

/-- Everything is there and healthy. -/
def healthy : Env where
  obs :=
    { secrets := fun _ => some {}
      deployments := fun _ => some 1
      clusters := fun _ => some ⟨"Cluster in healthy state", ["boot_service", "smd"]⟩
      databases := fun _ => some true
      gateway := ⟨true, true⟩
      network := { bestEffortDNS := true }
      notAfter := fun _ => .ok (720 * hour) }
  perm := order_perm

theorem healthy_open : GatesOpen healthy.op healthy.obs (Webhook.default (site true)) where
  vault := ⟨rfl, rfl⟩
  roleSecrets := fun _ _ => rfl
  database := by decide
  probe := by decide
  config := fun _ => by decide +kernel
  certificate := by decide
  tokensmith := by decide
  backendTLSPolicy := rfl
  logBucket := fun h => absurd h (by decide)

theorem healthy_clear : healthy.Clear (Webhook.default (site true)) := by
  have hsubs : ∀ sub ∈ subs,
      (program healthy.op healthy.obs (Webhook.default (site true)) sub).Clear := by decide +kernel
  exact isStop_entering hsubs

theorem healthy_report : ∃ report,
    describeRender (fun _ => true) (Webhook.default (site true)) = .ok report := by
  have hok : (describeRender (fun _ => true) (Webhook.default (site true))).isOk = true := by
    decide +kernel
  exact exists_of_isOk hok

theorem healthy_run : pinnedElsewhere healthy.op (Webhook.default (site true)) = false ∧ ∃ n r,
    reconcileAll healthy.op (fullPass healthy (Webhook.default (site true)))
      (Webhook.default (site true)) {} = (.ok n, r) :=
  ⟨by decide, reconcileAll_served rfl (fun _ => rfl) (by decide) healthy_clear {}⟩

/-- A pass and a report that exist, and differ. -/
theorem describe_difference_site : ∃ report n r,
    describeRender (fun _ => true) (Webhook.default (site true)) = .ok report ∧
    reconcileAll healthy.op (fullPass healthy (Webhook.default (site true)))
      (Webhook.default (site true)) {} = (.ok n, r) ∧
    ∀ o, o ∈ appliedObjects healthy (Webhook.default (site true)) ∧
      ¬ leftOut (Webhook.default (site true)) o ∧ o ∉ report.objects ↔
        o ∈ unlistedObjects (Webhook.default (site true)) := by
  obtain ⟨report, hreport⟩ := healthy_report
  obtain ⟨hpin, n, ⟨cp', w'⟩, hrun⟩ := healthy_run
  exact ⟨report, n, _, hreport, hrun,
    (describe_difference rfl hpin hrun healthy_open hreport).2.1⟩

/-- The report of a cluster does not show the objects that a pass over it applies. -/
theorem describe_incomplete : ∃ report n r,
    GatesOpen healthy.op healthy.obs (Webhook.default (site true)) ∧
    describeRender (fun _ => true) (Webhook.default (site true)) = .ok report ∧
    reconcileAll healthy.op (fullPass healthy (Webhook.default (site true)))
      (Webhook.default (site true)) {} = (.ok n, r) ∧
    ¬ ∀ k, (∃ o ∈ report.objects, o.key = k) ↔
      ∃ o ∈ appliedObjects healthy (Webhook.default (site true)),
        ¬ leftOut (Webhook.default (site true)) o ∧ o.key = k := by
  obtain ⟨report, hreport⟩ := healthy_report
  obtain ⟨-, n, r, hrun⟩ := healthy_run
  exact ⟨report, n, r, healthy_open, hreport, hrun, shown_ne_applied hreport healthy⟩

end OpenchamiOperator.Admin
