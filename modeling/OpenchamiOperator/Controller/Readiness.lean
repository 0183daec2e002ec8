import OpenchamiOperator.Controller.Phase
import OpenchamiOperator.Controller.StatusMemory
import OpenchamiOperator.Lib.Rfc3339

/-! # When a control plane is ready

What the conditions say after a full pass, in terms of the specification and of what the pass has
read. A call that looks at the status finds there what an earlier call of the same pass has written,
so nothing of this depends on the status the pass began with.

* `met`: what each condition stands for.
* `concludes_program`: a call that does not stop writes its condition by it.
* `ready_exactly`: the conditions and the phase after a pass. -/

namespace OpenchamiOperator.Controller

open Lib Api Reconcilers Status

/-! ### What the conditions stand for -/

/-- The database answers: the Secrets of its roles are there, CNPG reports the cluster healthy with
all roles, and every database is applied. -/
def databaseUp (obs : Observed) (cp : ControlPlane) : Bool :=
  (dbRoleSpecs.all fun spec => (obs.secrets (secretName cp spec.secretSuffix)).isSome) &&
  (obs.clusters (buildCNPGCluster cp).name).any (fun current =>
    current.phase = "Cluster in healthy state" && unreconciledManagedRoles current = []) &&
  dbRoleSpecs.all fun spec => obs.databases (buildDatabase cp spec).name = some true

/-- The probe is off, or one of its pods runs and the nodes it asks for are found. -/
def probePasses (obs : Observed) (cp : ControlPlane) : Bool :=
  !cp.spec.networkProbe.enabled ||
    (((obs.daemonSets (buildProbeDaemonSet cp).name).map DaemonSetView.numberReady).getD 0 ≠ 0 &&
      probeReady obs cp)

/-- CoreDHCP may be scheduled. -/
def dhcpAllowed (obs : Observed) (cp : ControlPlane) : Bool :=
  !cp.spec.networkProbe.enabled || (probePasses obs cp &&
    0 ≤ cp.spec.networkProbe.intervalSeconds && (probeTargetConfig cp .provision).validate.isNone)

/-- CoreDHCP has a configuration and runs wherever it is to run. -/
def dhcpServes (obs : Observed) (cp : ControlPlane) : Bool :=
  dhcpAllowed obs cp && (resolveConfig obs cp).isOk && (obs.daemonSets "coredhcp").any fullyReady

/-- The certificate of the gateway can be read and lasts for more than a day. -/
def certificateLasts (obs : Observed) (cp : ControlPlane) : Bool :=
  (obs.secrets (gatewayTLSSecretName cp)).any fun secret =>
    (obs.notAfter (secret.data.getD "tls.crt" "")).toOption.any fun notAfter =>
      24 * hour < notAfter - obs.now

/-- A service runs. What is known of a service from outside is its entry in the status. -/
def serviceUp (obs : Observed) (cp : ControlPlane) (svc : Service) : Bool :=
  if serviceDeployedInCluster cp svc then 1 ≤ (obs.deployments svc.name).getD 0
  else serviceReady cp svc.name

/-- The gateway has its certificate, its keys and its address. -/
def gatewayServes (obs : Observed) (cp : ControlPlane) : Bool :=
  certificateLasts obs cp &&
    (!serviceDeployedInCluster cp .tokensmith ||
      1 ≤ (obs.deployments Service.tokensmith.name).getD 0) &&
    !Gateway.missingBTLSGate obs.gateway cp && obs.gateway.programmed

/-- The log bucket is there, or nothing is to be logged. -/
def logBucketUp (op : Operator) (obs : Observed) (cp : ControlPlane) : Bool :=
  !cp.spec.logging.enabled ||
    (op.s3Client && (obs.secrets (secretName cp "log-credentials")).isSome)

/-- What each condition stands for. -/
def met (op : Operator) (obs : Observed) (cp : ControlPlane) : ConditionType → Bool
  | .vaultConfigured => op.vaultClient && obs.vault.reachable
  | .bucketReady => op.s3Client && (obs.secrets (secretName cp "s3-credentials")).isSome
  | .databaseReady => databaseUp obs cp
  | .serviceIdentityReady => caReady obs cp && missingSecrets obs cp = []
  | .networkProbeReady => probePasses obs cp
  | .dhcpReady => dhcpServes obs cp
  | .magellanReady => !cp.spec.services.magellan.enabled
  | .certificatesValid => certificateLasts obs cp
  | .gatewayReady => gatewayServes obs cp
  | .servicesReady => [Service.smd, .tokensmith, .bootService, .metadataService].all fun svc =>
      !(serviceDefaults cp svc).enabled || serviceUp obs cp svc
  | .logBucketReady => logBucketUp op obs cp
  | .logCollectorReady => !cp.spec.logging.enabled || (cp.spec.logging.image.isSome &&
      ((obs.daemonSets "funicular-collector").map DaemonSetView.numberReady).getD 0 ≠ 0)
  | .logCompactorReady => !cp.spec.logging.enabled || !cp.spec.logging.compactorEnabled ||
      (cp.spec.logging.compactorImage.isSome && logBucketUp op obs cp)
  | .namespaceReady | .reconcileActive | .networkPoliciesReady | .topologyPublished => true
  | .ready | .logQueryReady | .other _ => true

/-! ### What a call concludes -/

/-- The status for an answer. -/
def statusOf (b : Bool) : ConditionStatus := if b then .true else .false

/-- The last the call writes into the condition is this answer. -/
def Program.Concludes (p : Program) (t : ConditionType) (b : Bool) : Prop :=
  ∃ reason message,
    lastWrite (.condition t) p.writes = some (.condition t (statusOf b) reason message)

theorem lastWrite_append (s : Slot) (xs ys : List StatusWrite) :
    lastWrite s (xs ++ ys) = (lastWrite s ys).or (lastWrite s xs) := by
  unfold lastWrite
  rw [List.reverse_append, List.find?_append]

theorem lastWrite_eq_none {s : Slot} {acts : List Act} (h : ∀ a ∈ acts, a.slot? ≠ some s) :
    lastWrite s (acts.filterMap Act.write?) = none := by
  unfold lastWrite
  rw [List.find?_eq_none]
  intro x hx hslot
  obtain ⟨a, ha, hax⟩ := List.mem_filterMap.mp (List.mem_reverse.mp hx)
  cases a with
  | write y =>
    obtain rfl := Option.some.inj hax
    have hy : y.slot? = some s := by simpa using hslot
    exact h _ ha hy
  | _ => cases hax

theorem lastWrite_of_acts {p : Program} {x : StatusWrite} {s : Slot} (pre post : List Act)
    (hacts : p.acts = pre ++ .write x :: post) (hx : x.slot? = some s)
    (hpost : ∀ a ∈ post, a.slot? ≠ some s) : lastWrite s p.writes = some x := by
  have hwrites : p.writes =
      pre.filterMap Act.write? ++ ([x] ++ post.filterMap Act.write?) := by
    unfold Program.writes
    rw [hacts, List.filterMap_append]
    rfl
  rw [hwrites, lastWrite_append, lastWrite_append, lastWrite_eq_none hpost]
  simp [lastWrite, hx]

theorem concludes_of_acts {p : Program} {t : ConditionType} {b : Bool} {st : ConditionStatus}
    {reason message : String} (pre post : List Act)
    (hacts : p.acts = pre ++ .write (.condition t st reason message) :: post)
    (hpost : ∀ a ∈ post, a.slot? ≠ some (.condition t)) (hst : st = statusOf b) :
    p.Concludes t b :=
  ⟨reason, message, hst ▸ lastWrite_of_acts pre post hacts rfl hpost⟩

theorem concludes_last {p : Program} {t : ConditionType} {b : Bool} {st : ConditionStatus}
    {reason message : String} (pre : List Act)
    (hacts : p.acts = pre ++ [.write (.condition t st reason message)]) (hst : st = statusOf b) :
    p.Concludes t b :=
  concludes_of_acts pre [] hacts (by simp) hst

@[simp] theorem slot?_event {e : Event} : (Act.event e).slot? = none := rfl

@[simp] theorem slot?_gateway {g : Option GatewayStatus} :
    (Act.write (.gateway g)).slot? = none := rfl

section Calls

variable (op : Operator) (obs : Observed) (cp : ControlPlane)

theorem concludes_namespace : (reconcileNamespace cp).Concludes .namespaceReady true :=
  concludes_of_acts [_] [_] rfl (by simp [Act.slot?, StatusWrite.slot?]) rfl

theorem concludes_vault : (reconcileVault op obs cp).Concludes .vaultConfigured
    (met op obs cp .vaultConfigured) := by
  unfold reconcileVault met
  by_cases hclient : op.vaultClient = true
  · by_cases hreach : obs.vault.reachable = true
    · simp only [hclient, hreach]
      exact concludes_of_acts _ [_] rfl (by simp [Act.slot?, StatusWrite.slot?]) rfl
    · simp only [hclient, hreach]
      exact concludes_of_acts [] [_] rfl (by simp) rfl
  · simp only [hclient]
    exact concludes_last [] rfl rfl

theorem concludes_bucket : (reconcileBucket op obs cp).Concludes .bucketReady
    (met op obs cp .bucketReady) := by
  unfold reconcileBucket met
  by_cases hs3 : op.s3Client = true
  · rcases obs.secrets (secretName cp "s3-credentials") with _ | secret
    · simp only [hs3]
      exact concludes_last [_] rfl rfl
    · simp only [hs3]
      exact concludes_last [_, _] rfl rfl
  · simp only [hs3]
    exact concludes_last [] rfl rfl

/-- The end of a call of the database, once the cluster is applied. -/
theorem concludes_followCluster (pre : List Act) (current : ClusterView) :
    ({ followCluster obs cp current with
        acts := pre ++ (followCluster obs cp current).acts } : Program).Concludes .databaseReady
      (current.phase = "Cluster in healthy state" && unreconciledManagedRoles current = [] &&
        dbRoleSpecs.all fun spec => obs.databases (buildDatabase cp spec).name = some true) := by
  have hany : (dbRoleSpecs.any fun spec => obs.databases (buildDatabase cp spec).name ≠ some true) =
      !dbRoleSpecs.all fun spec => obs.databases (buildDatabase cp spec).name = some true := by
    rw [List.not_all_eq_any_not]
    simp only [decide_not]
  unfold followCluster
  rw [hany]
  by_cases hphase : current.phase = "Cluster in healthy state"
  · by_cases hroles : unreconciledManagedRoles current = []
    · rcases dbRoleSpecs.all fun spec => obs.databases (buildDatabase cp spec).name = some true
      all_goals
        simp only [hphase, hroles]
        exact concludes_last _ (List.append_assoc pre (applyDatabases obs cp) _).symm rfl
    · rw [if_neg (by simpa using hphase), if_pos hroles]
      exact concludes_last pre rfl (by simp [hroles, statusOf])
  · rw [if_pos hphase]
    exact concludes_last pre rfl (by simp [hphase, statusOf])

theorem concludes_database (hstop : (reconcileDatabase obs cp).Clear) :
    (reconcileDatabase obs cp).Concludes .databaseReady (met op obs cp .databaseReady) := by
  show (reconcileDatabase obs cp).Concludes .databaseReady (databaseUp obs cp)
  revert hstop
  unfold reconcileDatabase databaseUp
  simp only
  split
  · rename_i missing hfind
    -- a Secret is missing, so the database is not up
    have hall : (dbRoleSpecs.all fun spec =>
        (obs.secrets (secretName cp spec.secretSuffix)).isSome) = false := by
      obtain ⟨spec, hspec, rfl⟩ := List.mem_map.mp (List.mem_of_find?_eq_some hfind)
      have hnone := List.find?_some hfind
      rw [List.all_eq_false]
      exact ⟨spec, hspec, by simpa using hnone⟩
    intro _
    rw [hall]
    exact concludes_last _ rfl rfl
  · rename_i hfind
    have hall : (dbRoleSpecs.all fun spec =>
        (obs.secrets (secretName cp spec.secretSuffix)).isSome) = true := by
      rw [List.find?_eq_none] at hfind
      refine List.all_eq_true.mpr fun spec hspec => ?_
      have hsome := hfind _ (List.mem_map_of_mem hspec)
      simpa [Option.isSome_iff_ne_none] using hsome
    rw [hall]
    rcases obs.clusters (buildCNPGCluster cp).name with _ | current
    · intro hstop
      have hnot := hstop (.stop ⟨"reading cnpg cluster status", .notFound⟩) (by simp)
      cases hnot
    · intro _
      exact concludes_followCluster obs cp _ current

theorem concludes_serviceIdentity : (reconcileServiceIdentity obs cp).Concludes
    .serviceIdentityReady (met op obs cp .serviceIdentityReady) := by
  unfold reconcileServiceIdentity met
  by_cases hwait : (!caReady obs cp || missingSecrets obs cp ≠ []) = true
  · have hmet : (caReady obs cp && missingSecrets obs cp = []) = false := by
      rcases hca : caReady obs cp
      · rfl
      · simpa [hca] using hwait
    simp only [hwait, hmet]
    exact concludes_last _ rfl rfl
  · have hmet : (caReady obs cp && missingSecrets obs cp = []) = true := by
      rcases hca : caReady obs cp
      · simp [hca] at hwait
      · simpa [hca] using hwait
    rw [if_neg hwait, hmet]
    exact concludes_of_acts _ [_] rfl (by simp) rfl

theorem concludes_networkProbe : (reconcileNetworkProbe obs cp).Concludes .networkProbeReady
    (met op obs cp .networkProbeReady) := by
  unfold reconcileNetworkProbe met probePasses
  by_cases hen : cp.spec.networkProbe.enabled = true
  · by_cases hnone : ((obs.daemonSets (buildProbeDaemonSet cp).name).map
        DaemonSetView.numberReady).getD 0 = 0
    · simp only [hen, hnone]
      exact concludes_last [_, _, _] rfl rfl
    · unfold reportProbe
      rcases probeReady obs cp
      · simp only [hen, hnone]
        exact concludes_of_acts [_, _, _, _] [_] rfl (by simp) (by simp [statusOf])
      · simp only [hen, hnone]
        exact concludes_last [_, _, _, _] rfl (by simp [hnone, statusOf])
  · simp only [hen]
    exact concludes_last [_] rfl rfl

theorem concludes_coreDHCP (hen : cp.spec.services.coreDHCP.enabled = true) :
    (reconcileCoreDHCP obs cp).Concludes .dhcpReady (probeGateReady cp .provision &&
      (resolveConfig obs cp).isOk && (obs.daemonSets "coredhcp").any fullyReady) := by
  unfold reconcileCoreDHCP
  by_cases hgate : probeGateReady cp .provision = true
  · rcases resolveConfig obs cp with ⟨reason, message⟩ | config
    · simp only [hen, hgate]
      exact concludes_of_acts _ [_] rfl (by simp) rfl
    · unfold reportDHCP
      by_cases hready : (obs.daemonSets "coredhcp").any fullyReady = true
      all_goals
        simp only [hen, hgate, hready]
        exact concludes_last _ rfl rfl
  · simp only [hen, hgate]
    exact concludes_last _ rfl rfl

theorem concludes_magellan : (reconcileMagellan obs cp).Concludes .magellanReady
    (met op obs cp .magellanReady) := by
  unfold reconcileMagellan met
  by_cases hen : cp.spec.services.magellan.enabled = true
  all_goals
    simp only [hen]
    exact concludes_last _ rfl rfl

theorem concludes_certificates : (reconcileCertificates obs cp).Concludes .certificatesValid
    (met op obs cp .certificatesValid) := by
  unfold reconcileCertificates met certificateLasts
  rcases obs.secrets (gatewayTLSSecretName cp) with _ | secret
  · exact concludes_last [_, _] rfl rfl
  · simp only [Option.any_some]
    rcases obs.notAfter (secret.data.getD "tls.crt" "") with e | notAfter
    · exact concludes_of_acts [_, _] [_] rfl (by simp) rfl
    · have hhour : hour = 3600000000000 := rfl
      simp only [Except.toOption, Option.any_some]
      unfold reportCertificate
      by_cases hexpired : notAfter - obs.now ≤ 0
      · have hshort : ¬ 24 * hour < notAfter - obs.now := by omega
        simp only [hexpired, hshort]
        exact concludes_of_acts [_, _, _] [_] rfl (by simp) rfl
      · by_cases hday : notAfter - obs.now ≤ 24 * hour
        · have hshort : ¬ 24 * hour < notAfter - obs.now := by omega
          simp only [hexpired, hday, hshort]
          exact concludes_of_acts [_, _, _] [_] rfl (by simp) rfl
        · have hlong : 24 * hour < notAfter - obs.now := by omega
          simp only [hexpired, hday, hlong]
          refine concludes_of_acts [_, _, _] _ rfl ?_ rfl
          split_ifs <;> simp

theorem concludes_gateway : (reconcileGateway obs cp).Concludes .gatewayReady
    (isStatusConditionTrue cp.status.conditions .certificatesValid &&
      Gateway.tokensmithJWKSReady cp && !Gateway.missingBTLSGate obs.gateway cp &&
      obs.gateway.programmed) := by
  unfold reconcileGateway reportGateway
  by_cases hcert : isStatusConditionTrue cp.status.conditions .certificatesValid = true
  · by_cases htoken : Gateway.tokensmithJWKSReady cp = true
    · by_cases hbtls : Gateway.missingBTLSGate obs.gateway cp = true
      · simp only [hcert, htoken, hbtls]
        exact concludes_of_acts (gatewayRequests obs cp) [_, _] rfl
          (by simp) rfl
      · by_cases hprog : obs.gateway.programmed = true
        all_goals
          simp only [hcert, htoken, hbtls, hprog]
          exact concludes_of_acts (gatewayRequests obs cp ++ [_]) [_]
            (by simp only [List.append_assoc]; rfl) (by simp) rfl
    · simp only [hcert, htoken]
      exact concludes_of_acts (gatewayRequests obs cp) [_] rfl
        (by simp) rfl
  · simp only [hcert]
    exact concludes_last [] rfl rfl

theorem concludes_networkPolicies {net : Network}
    (hstop : (reconcileNetworkPolicies net cp).Clear) :
    (reconcileNetworkPolicies net cp).Concludes .networkPoliciesReady true := by
  revert hstop
  unfold reconcileNetworkPolicies
  rcases buildPolicies (some net) cp with e | policies
  · intro hstop
    simp [Program.Clear, Act.isStop] at hstop
  · intro _
    exact concludes_last _ rfl rfl

theorem concludes_topology : (reconcileTopology obs cp).Concludes .topologyPublished true :=
  concludes_last [_, _] rfl rfl

theorem concludes_logBucket : (reconcileLogBucket op obs cp).Concludes .logBucketReady
    (met op obs cp .logBucketReady) := by
  unfold reconcileLogBucket met logBucketUp
  by_cases hen : cp.spec.logging.enabled = true
  · by_cases hs3 : op.s3Client = true
    · rcases obs.secrets (secretName cp "log-credentials") with _ | secret
      · simp only [hen, hs3]
        exact concludes_last [_] rfl rfl
      · simp only [hen, hs3]
        exact concludes_last [_, _, _, _] rfl rfl
    · simp only [hen, hs3]
      exact concludes_last [] rfl rfl
  · simp only [hen]
    exact concludes_last [] rfl rfl

theorem concludes_funicular : (reconcileFunicular obs cp).Concludes .logCollectorReady
    (met op obs cp .logCollectorReady) := by
  unfold reconcileFunicular met
  by_cases hen : cp.spec.logging.enabled = true
  · rcases cp.spec.logging.image with _ | image
    · simp only [hen]
      exact concludes_last [] rfl rfl
    · by_cases hnone : ((obs.daemonSets "funicular-collector").map
          DaemonSetView.numberReady).getD 0 = 0
      · simp only [hen, hnone]
        exact concludes_last [_, _, _] rfl rfl
      · simp only [hen, hnone]
        exact concludes_last [_, _, _] rfl (by simp [hnone, statusOf])
  · simp only [hen]
    exact concludes_last [] rfl rfl

theorem concludes_logqCompactor : (reconcileLogqCompactor cp).Concludes .logCompactorReady
    (!cp.spec.logging.enabled || !cp.spec.logging.compactorEnabled ||
      (cp.spec.logging.compactorImage.isSome &&
        isStatusConditionTrue cp.status.conditions .logBucketReady)) := by
  unfold reconcileLogqCompactor
  by_cases hoff : (!cp.spec.logging.enabled || !cp.spec.logging.compactorEnabled) = true
  · simp only [hoff]
    exact concludes_last [] rfl rfl
  · simp only [hoff]
    rcases cp.spec.logging.compactorImage with _ | image
    · exact concludes_last [] rfl rfl
    · rcases isStatusConditionTrue cp.status.conditions .logBucketReady
      · exact concludes_last [] rfl rfl
      · exact concludes_last [_] rfl rfl

/-! ### Services -/

theorem lastWrite_deployService {svc : Service} {after : List Act}
    (hafter : ∀ a ∈ after, a.slot? ≠ some (.service svc.name))
    (hstop : (deployService obs cp svc after).Clear) :
    ∃ st, lastWrite (.service svc.name) (deployService obs cp svc after).writes =
      some (.service svc.name st) ∧ st.ready = decide (1 ≤ (obs.deployments svc.name).getD 0) := by
  revert hstop
  unfold deployService
  rcases obs.deployments svc.name with _ | available
  · intro hstop
    have hnot := hstop (.stop ⟨"reading " ++ svc.name ++ " Deployment status", .notFound⟩) (by simp)
    cases hnot
  · intro _
    simp only
    split_ifs
    · exact ⟨_, lastWrite_of_acts [_, _, _, _] after rfl rfl hafter, rfl⟩
    · exact ⟨_, lastWrite_of_acts [_, _, _, _] [] rfl rfl (by simp), rfl⟩

theorem slot?_bootstrapTokens {a : Act} (ha : a ∈ provisionServiceBootstrapTokens obs cp) :
    a.slot? = none := by
  have htoken : ∀ svc, ∀ a ∈ provisionBootstrapToken obs cp svc, a.slot? = none := by
    intro svc
    unfold provisionBootstrapToken
    simp only
    split_ifs <;> simp [reading, applying]
  unfold provisionServiceBootstrapTokens at ha
  split_ifs at ha
  · cases ha
  · obtain ⟨svc, -, ha⟩ := List.mem_flatMap.mp ha
    exact htoken svc a ha

/-- The entry that the call of a deployed service writes tells whether it has an available replica. -/
theorem lastWrite_service {svc : Service} (hon : serviceDeployedInCluster cp svc = true)
    (hstop : (program op obs cp (serviceSub svc)).Clear) :
    ∃ st, lastWrite (.service svc.name) (program op obs cp (serviceSub svc)).writes =
      some (.service svc.name st) ∧ st.ready = decide (1 ≤ (obs.deployments svc.name).getD 0) := by
  cases svc with
  | smd =>
    simp only [program, serviceSub, reconcileSMD, hon]
    exact ⟨_, lastWrite_of_acts [_, _, _, _] [] rfl rfl (by simp), rfl⟩
  | tokensmith =>
    revert hstop
    simp only [program, serviceSub, reconcileTokensmith, hon, Bool.not_true, Bool.false_eq_true,
      if_false]
    split_ifs with hissuer
    · intro hstop
      simp [Program.Clear, Act.isStop] at hstop
    · intro hstop
      have hafter : ∀ a ∈ provisionServiceBootstrapTokens obs cp,
          a.slot? ≠ some (.service Service.tokensmith.name) := fun a ha => by
        rw [slot?_bootstrapTokens obs cp ha]
        simp
      exact lastWrite_deployService obs cp hafter (List.forall_mem_cons.mp hstop).2
  | bootService =>
    simp only [program, serviceSub, reconcileBootService, reconcileConsumer, hon, Bool.not_true,
      Bool.false_eq_true, if_false] at hstop ⊢
    exact lastWrite_deployService obs cp (by simp) hstop
  | metadataService =>
    simp only [program, serviceSub, reconcileMetadataService, reconcileConsumer, hon, Bool.not_true,
      Bool.false_eq_true, if_false] at hstop ⊢
    exact lastWrite_deployService obs cp (by simp) hstop

end Calls

/-! ### What a pass concludes -/

/-- What a condition stands for does not depend on the status, apart from the services. -/
theorem met_congr {op : Operator} {obs : Observed} {a b : ControlPlane}
    (hm : a.metadata = b.metadata) (hs : a.spec = b.spec) {t : ConditionType}
    (ht : t ≠ .servicesReady) : met op obs a t = met op obs b t := by
  obtain ⟨m, s, st⟩ := a
  obtain ⟨m', s', st'⟩ := b
  obtain rfl : m = m' := hm
  obtain rfl : s = s' := hs
  cases t with
  | servicesReady => exact absurd rfl ht
  | _ => rfl

section Pass

variable {env : Env} {cp : ControlPlane}

/-- A later call finds the condition as an earlier one has concluded it. -/
theorem find_entering {t : ConditionType} {sub sub' : Sub}
    (hw : conditionWriter t = some sub) (hbefore : sub ∈ subs.takeWhile (· ≠ sub'))
    (ht : t ≠ .servicesReady) (h : (program env.op env.obs (env.entering cp sub) sub).Concludes t
      (met env.op env.obs (env.entering cp sub) t)) :
    ∃ reason message, findStatusCondition (env.entering cp sub').status.conditions t =
      some ⟨t, statusOf (met env.op env.obs cp t), reason, message, cp.metadata.generation⟩ := by
  obtain ⟨hm, hs⟩ := env.entering_frame cp sub
  obtain ⟨reason, message, hlast⟩ := h
  have hread := @read_entering env cp (.condition t) sub sub' hw hbefore
  rw [read_done, hlast, hm, met_congr hm hs ht] at hread
  exact ⟨reason, message, Option.map_injective (fun _ _ h => SlotValue.condition.inj h) hread⟩

theorem conditionTrue_entering {t : ConditionType} {sub sub' : Sub}
    (hw : conditionWriter t = some sub) (hbefore : sub ∈ subs.takeWhile (· ≠ sub'))
    (ht : t ≠ .servicesReady) (h : (program env.op env.obs (env.entering cp sub) sub).Concludes t
      (met env.op env.obs (env.entering cp sub) t)) :
    isStatusConditionTrue (env.entering cp sub').status.conditions t = met env.op env.obs cp t := by
  obtain ⟨reason, message, hfind⟩ := find_entering hw hbefore ht h
  unfold isStatusConditionTrue
  rw [hfind]
  cases met env.op env.obs cp t <;> rfl

theorem certificatesValid_entering :
    isStatusConditionTrue (env.entering cp .gateway).status.conditions .certificatesValid =
      certificateLasts env.obs cp := by
  refine @conditionTrue_entering env cp .certificatesValid .certificates .gateway rfl (by decide)
    (by decide) ?_
  unfold program
  exact concludes_certificates env.op env.obs (env.entering cp .certificates)

theorem logBucketReady_entering :
    isStatusConditionTrue (env.entering cp .logqCompactor).status.conditions .logBucketReady =
      logBucketUp env.op env.obs cp := by
  refine @conditionTrue_entering env cp .logBucketReady .logBucket .logqCompactor rfl (by decide)
    (by decide) ?_
  unfold program
  exact concludes_logBucket env.op env.obs (env.entering cp .logBucket)

theorem probeGateReady_entering :
    probeGateReady (env.entering cp .coreDHCP) .provision = dhcpAllowed env.obs cp := by
  obtain ⟨hm, hs⟩ := env.entering_frame cp .coreDHCP
  have hprobe := concludes_networkProbe env.op env.obs (env.entering cp .networkProbe)
  obtain ⟨reason, message, hfind⟩ := @find_entering env cp .networkProbeReady .networkProbe
    .coreDHCP rfl (by decide) (by decide) hprobe
  have hmet : met env.op env.obs cp .networkProbeReady = probePasses env.obs cp := rfl
  rw [hmet] at hfind
  unfold probeGateReady dhcpAllowed probeTargetConfig probeNetwork
  rw [hfind, hm, hs]
  by_cases hen : cp.spec.networkProbe.enabled = true
  · simp only [hen, Option.any_some]
    cases probePasses env.obs cp <;> simp [statusOf]
  · simp [hen]

variable (hstop : ∀ sub, (program env.op env.obs (env.entering cp sub) sub).Clear)
include hstop

theorem tokensmithJWKSReady_entering :
    Gateway.tokensmithJWKSReady (env.entering cp .gateway) =
      (!serviceDeployedInCluster cp .tokensmith ||
        1 ≤ (env.obs.deployments Service.tokensmith.name).getD 0) := by
  have hon := serviceDeployedInCluster_congr (env.entering_frame cp .gateway).2 .tokensmith
  have hon' := serviceDeployedInCluster_congr (env.entering_frame cp .tokensmith).2 .tokensmith
  unfold Gateway.tokensmithJWKSReady
  rw [hon]
  by_cases hdeployed : serviceDeployedInCluster cp .tokensmith = true
  · obtain ⟨st, hlast, hready⟩ := @lastWrite_service env.op env.obs (env.entering cp .tokensmith)
      .tokensmith (hon'.trans hdeployed) (hstop .tokensmith)
    have hread := @read_entering env cp (.service Service.tokensmith.name) .tokensmith .gateway
      (serviceWriter_name .tokensmith) (by decide)
    have hlast' : lastWrite (.service Service.tokensmith.name)
        (program env.op env.obs (env.entering cp .tokensmith) .tokensmith).writes =
          some (.service Service.tokensmith.name st) := hlast
    rw [read_done, hlast'] at hread
    have hget : (env.entering cp .gateway).status.services.get? Service.tokensmith.name = some st :=
      Option.map_injective (fun _ _ h => SlotValue.service.inj h) hread
    simp [hdeployed, hget, hready]
  · simp [hdeployed]

/-- **A call that does not stop writes its condition by what the condition stands for**, in a pass
without an error. -/
theorem concludes_program {t : ConditionType} {sub : Sub} (hw : conditionWriter t = some sub)
    (hleft : leavesCondition cp t = false) :
    (program env.op env.obs (env.entering cp sub) sub).Concludes t (met env.op env.obs cp t) := by
  obtain ⟨hm, hs⟩ := env.entering_frame cp sub
  unfold program
  have hmet : t ≠ .servicesReady →
      met env.op env.obs (env.entering cp sub) t = met env.op env.obs cp t := met_congr hm hs
  cases t
  case reconcileActive | servicesReady | ready | logQueryReady | other => cases hw
  all_goals obtain rfl := Option.some.inj hw
  case namespaceReady =>
    exact concludes_namespace (env.entering cp .namespace)
  case vaultConfigured =>
    rw [← hmet (by decide)]
    exact concludes_vault env.op env.obs _
  case bucketReady =>
    rw [← hmet (by decide)]
    exact concludes_bucket env.op env.obs _
  case databaseReady =>
    rw [← hmet (by decide)]
    exact concludes_database env.op env.obs _ (hstop .database)
  case serviceIdentityReady =>
    rw [← hmet (by decide)]
    exact concludes_serviceIdentity env.op env.obs _
  case networkProbeReady =>
    rw [← hmet (by decide)]
    exact concludes_networkProbe env.op env.obs _
  case dhcpReady =>
    have hen : (env.entering cp .coreDHCP).spec.services.coreDHCP.enabled = true := by
      rw [hs]
      simpa [leavesCondition] using hleft
    have hconfig : resolveConfig env.obs (env.entering cp .coreDHCP) = resolveConfig env.obs cp := by
      unfold resolveConfig renderCoreDHCPConfig coreDHCPValues DHCPValues.text coreDHCPConfigSourceRef
      rw [hs, hm]
    have hcall := concludes_coreDHCP env.obs _ hen
    rw [probeGateReady_entering, hconfig] at hcall
    exact hcall
  case magellanReady =>
    rw [← hmet (by decide)]
    exact concludes_magellan env.op env.obs _
  case certificatesValid =>
    rw [← hmet (by decide)]
    exact concludes_certificates env.op env.obs _
  case gatewayReady =>
    have hbtls : Gateway.missingBTLSGate env.obs.gateway (env.entering cp .gateway) =
        Gateway.missingBTLSGate env.obs.gateway cp := by
      unfold Gateway.missingBTLSGate tokensmithMTLSEnabled
      rw [hs]
    have hcall := concludes_gateway env.obs (env.entering cp .gateway)
    rw [certificatesValid_entering, tokensmithJWKSReady_entering hstop, hbtls] at hcall
    exact hcall
  case networkPoliciesReady =>
    exact concludes_networkPolicies _ (hstop .networkPolicies)
  case topologyPublished =>
    exact concludes_topology env.obs (env.entering cp .topology)
  case logBucketReady =>
    rw [← hmet (by decide)]
    exact concludes_logBucket env.op env.obs _
  case logCollectorReady =>
    rw [← hmet (by decide)]
    exact concludes_funicular env.op env.obs _
  case logCompactorReady =>
    have hcall := concludes_logqCompactor (env.entering cp .logqCompactor)
    rw [logBucketReady_entering, hs] at hcall
    exact hcall

end Pass

/-! ### Lists of conditions -/

/-- The list is keyed by the type. -/
def OneOfEach (cs : List Condition) : Prop := (cs.map Condition.type).Nodup

theorem OneOfEach.set (c : Condition) : ∀ {cs : List Condition}, OneOfEach cs →
    OneOfEach (setStatusCondition cs c)
  | [], _ => by simp [OneOfEach, setStatusCondition]
  | d :: cs, h => by
    obtain ⟨hd, hcs⟩ := List.nodup_cons.mp h
    unfold setStatusCondition
    split_ifs with heq
    · exact List.nodup_cons.mpr ⟨heq ▸ hd, hcs⟩
    · refine List.nodup_cons.mpr ⟨fun hmem => ?_, OneOfEach.set c hcs⟩
      obtain ⟨e, he, htype⟩ := List.mem_map.mp hmem
      rcases mem_setStatusCondition he with rfl | he
      · exact heq htype.symm
      · exact hd (htype ▸ List.mem_map_of_mem he)

theorem OneOfEach.find {cs : List Condition} (h : OneOfEach cs) {c : Condition} (hc : c ∈ cs) :
    findStatusCondition cs c.type = some c := by
  induction cs with
  | nil => cases hc
  | cons d cs ih =>
    obtain ⟨hd, hcs⟩ := List.nodup_cons.mp h
    unfold findStatusCondition
    rw [List.find?_cons]
    rcases List.mem_cons.mp hc with rfl | hc
    · simp
    · have hne : d.type ≠ c.type := fun heq => hd (heq ▸ List.mem_map_of_mem hc)
      simp only [hne, decide_false]
      exact ih hcs hc

/-- No condition is `False`, in terms of what is shown for each type. -/
theorem OneOfEach.forall_iff {cp : ControlPlane} (h : OneOfEach cp.status.conditions)
    (p : ConditionType → Prop) :
    (∀ c ∈ cp.status.conditions, p c.type → c.status ≠ .false) ↔
      ∀ t, p t → ∀ x ∈ shownCondition cp t, x.1 ≠ .false := by
  constructor
  · intro hall t ht x hx
    obtain ⟨c, hfind, rfl⟩ := Option.map_eq_some_iff.mp hx
    have htype : c.type = t := by simpa using List.find?_some hfind
    exact hall c (List.mem_of_find?_eq_some hfind) (htype ▸ ht)
  · intro hshown c hc ht
    refine hshown c.type ht (c.status, c.reason) ?_
    simp only [shownCondition, h.find hc, Option.map_some]
    rfl

theorem OneOfEach.apply {cp : ControlPlane} (h : OneOfEach cp.status.conditions) (x : StatusWrite) :
    OneOfEach (x.apply cp).status.conditions := by
  cases x with
  | condition t st reason message => exact h.set _
  | field f value => cases f <;> exact h
  | _ => exact h

theorem OneOfEach.dones {env : Env} {l : List Sub} {cp : ControlPlane}
    (h : OneOfEach cp.status.conditions) : OneOfEach (l.foldl env.done cp).status.conditions := by
  refine List.foldlRecOn (motive := fun c : ControlPlane => OneOfEach c.status.conditions) l _ h
    fun c hc sub _ => ?_
  exact List.foldlRecOn (motive := fun c : ControlPlane => OneOfEach c.status.conditions) _ _ hc
    fun _ hd x _ => hd.apply x

theorem OneOfEach.managed {cp : ControlPlane} (h : OneOfEach cp.status.conditions) (op : Operator)
    (p : Pass) : OneOfEach (managed op p cp).status.conditions := by
  unfold Controller.managed aggregateServicesReady
  simp only
  split_ifs
  · exact h.set _
  · exact h.set _

/-! ### The phase after a pass -/

section Phase

variable {env : Env} {cp : ControlPlane}

theorem reconcileAll_reported (hdry : env.op.dryRun = false) (hreporter : env.op.reporter = true)
    {cp' : ControlPlane} {w w' : World} {longest : ℕ} (hpin : pinnedElsewhere env.op cp = false)
    (h : reconcileAll env.op (fullPass env cp) cp w = (.ok longest, cp', w')) :
    cp' = (computeAndSetPhase (managed env.op (fullPass env cp) (env.outcome cp))).1 := by
  rcases reconcileAll_cases (p := fullPass env cp) (w := w) hpin with
    ⟨e, cp₁, w₁, -, heq⟩ | ⟨n, cp₁, w₁, hrun, heq⟩
  · rw [heq] at h
    cases h
  · obtain ⟨-, hcp₁, -⟩ := runSubs_fullPass hdry cp (show [] ++ subs = subs from rfl) rfl hrun
    have houtcome : cp₁ = env.outcome cp := hcp₁
    rw [heq, if_pos hreporter, houtcome] at h
    exact (congrArg (fun r => r.2.1) h).symm

variable (hstop : env.Clear cp)
include hstop

theorem serviceEntry_outcome {svc : Service} (hon : serviceDeployedInCluster cp svc = true) :
    ∃ st, (env.outcome cp).status.services.get? svc.name = some st ∧
      st.ready = decide (1 ≤ (env.obs.deployments svc.name).getD 0) := by
  have hon' : serviceDeployedInCluster (env.entering (activated cp) (serviceSub svc)) svc = true :=
    (serviceDeployedInCluster_congr (env.entering_frame (activated cp) _).2 svc).trans hon
  obtain ⟨st, hlast, hready⟩ := lastWrite_service env.op env.obs _ hon' (hstop (serviceSub svc))
  have hread := @read_outcome env cp (.service svc.name) (serviceSub svc) (serviceWriter_name svc)
  rw [hlast] at hread
  exact ⟨st, Option.map_injective (fun _ _ h => SlotValue.service.inj h) hread, hready⟩

theorem serviceReady_outcome (svc : Service) :
    serviceReady (env.outcome cp) svc.name = serviceUp env.obs cp svc := by
  unfold serviceUp
  by_cases hon : serviceDeployedInCluster cp svc = true
  · obtain ⟨st, hget, hready⟩ := serviceEntry_outcome hstop hon
    rw [if_pos hon, serviceReady, hget]
    exact hready
  · have hleft : leavesService cp svc.name = true := by
      rw [leavesService_service]
      simpa using hon
    have hname : svc.name ≠ "logq-query" := by cases svc <;> decide
    rw [if_neg hon, serviceReady_shown, shownService_left hstop hname hleft, serviceReady_shown]

/-- **What each condition says after the calls of a pass.** -/
theorem shownCondition_outcome {t : ConditionType} (hleft : leavesCondition cp t = false)
    (ht : t ≠ .servicesReady) : ∃ reason, shownCondition (env.outcome cp) t =
      some (statusOf (met env.op env.obs cp t), reason) := by
  by_cases hactive : t = .reconcileActive
  · subst hactive
    exact ⟨Reason.ready, shownCondition_active⟩
  · obtain ⟨sub, hw⟩ : ∃ sub, conditionWriter t = some sub := by
      cases t with
      | servicesReady => exact absurd rfl ht
      | reconcileActive => exact absurd rfl hactive
      | ready | logQueryReady | other => cases hleft
      | _ => exact ⟨_, rfl⟩
    obtain ⟨reason, message, hlast⟩ := concludes_program hstop hw hleft
    have hmet : met env.op env.obs (activated cp) t = met env.op env.obs cp t :=
      met_congr rfl rfl ht
    have hread := @read_outcome env cp (.condition t) sub hw
    rw [hlast, hmet] at hread
    have hfind := @Option.map_injective _ _ _ (fun _ _ h => SlotValue.condition.inj h)
      (findStatusCondition (env.outcome cp).status.conditions t)
      (some ⟨t, statusOf (met env.op env.obs cp t), reason, message, cp.metadata.generation⟩) hread
    refine ⟨reason, ?_⟩
    rw [shownCondition, hfind]
    rfl

theorem shownCondition_services : ∃ reason,
    shownCondition (aggregateServicesReady env.order (env.outcome cp)) .servicesReady =
      some (statusOf (met env.op env.obs cp .servicesReady), reason) := by
  have hspec : (env.outcome cp).spec = cp.spec := (env.dones_frame subs (activated cp)).2
  have hiff := pending_nil_iff env.perm (env.outcome cp)
  have hmet : met env.op env.obs cp .servicesReady = true ↔
      ∀ svc, (serviceDefaults (env.outcome cp) svc).enabled = true →
        (shownService (env.outcome cp) svc.name).any Prod.fst = true := by
    have henabled : ∀ svc, serviceDefaults (env.outcome cp) svc = serviceDefaults cp svc := by
      intro svc
      unfold serviceDefaults
      rw [hspec]
    simp only [← serviceReady_shown, serviceReady_outcome hstop, henabled]
    constructor
    · intro h svc hen
      have hsvc := List.all_eq_true.mp h svc (by cases svc <;> decide)
      simpa [hen] using hsvc
    · intro h
      refine List.all_eq_true.mpr fun svc _ => ?_
      by_cases hen : (serviceDefaults cp svc).enabled = true
      · simp [hen, h svc hen]
      · simp [hen]
  unfold aggregateServicesReady
  simp only
  split_ifs with hpending
  · rw [hmet.mpr (hiff.mp hpending), shownCondition_set, if_pos rfl]
    exact ⟨_, rfl⟩
  · have hnot : met env.op env.obs cp .servicesReady = false := by
      rw [Bool.eq_false_iff]
      exact fun h => hpending (hiff.mpr (hmet.mp h))
    rw [hnot, shownCondition_set, if_pos rfl]
    exact ⟨_, rfl⟩

end Phase

section Reported

variable {env : Env} (hdry : env.op.dryRun = false) {cp cp' : ControlPlane} {w w' : World}
  {longest : ℕ} (hpin : pinnedElsewhere env.op cp = false)
  (h : reconcileAll env.op (fullPass env cp) cp w = (.ok longest, cp', w'))
include hdry hpin h

theorem shownCondition_reported {t : ConditionType} (hleft : leavesCondition cp t = false) :
    ∃ reason, shownCondition cp' t = some (statusOf (met env.op env.obs cp t), reason) := by
  obtain ⟨hstop, hconditions, -, -⟩ := reconcileAll_fullPass hdry hpin h
  rw [shownCondition_congr hconditions]
  by_cases ht : t = .servicesReady
  · subst ht
    exact shownCondition_services hstop
  · rw [shownCondition_aggregate_of_ne ht]
    exact shownCondition_outcome hstop hleft ht

theorem shownCondition_unreported {t : ConditionType} (hleft : leavesCondition cp t = true) :
    shownCondition cp' t = shownCondition cp t := by
  obtain ⟨hstop, hconditions, -, -⟩ := reconcileAll_fullPass hdry hpin h
  have hready : t ≠ .servicesReady := by rintro rfl; cases hleft
  have hactive : t ≠ .reconcileActive := by rintro rfl; cases hleft
  rw [shownCondition_congr hconditions, shownCondition_aggregate_of_ne hready,
    shownCondition_left hstop hactive hleft]

theorem serviceReady_reported (svc : Service) :
    serviceReady cp' svc.name = serviceUp env.obs cp svc := by
  obtain ⟨hstop, -, hservices, -⟩ := reconcileAll_fullPass hdry hpin h
  rw [← serviceReady_outcome hstop, serviceReady, serviceReady, hservices]

theorem serviceEntry_reported {svc : Service} (hon : serviceDeployedInCluster cp svc = true) :
    ∃ st, cp'.status.services.get? svc.name = some st ∧
      st.ready = decide (1 ≤ (env.obs.deployments svc.name).getD 0) := by
  obtain ⟨hstop, -, hservices, -⟩ := reconcileAll_fullPass hdry hpin h
  rw [hservices]
  exact serviceEntry_outcome hstop hon

theorem isStatusConditionTrue_reported {t : ConditionType} (hleft : leavesCondition cp t = false) :
    isStatusConditionTrue cp'.status.conditions t = met env.op env.obs cp t := by
  obtain ⟨reason, hshown⟩ := shownCondition_reported hdry hpin h hleft
  obtain ⟨c, hfind, heq⟩ := Option.map_eq_some_iff.mp hshown
  obtain ⟨hstatus, -⟩ := Prod.mk.inj heq
  unfold isStatusConditionTrue
  rw [hfind, Option.any_some, hstatus]
  cases met env.op env.obs cp t <;> rfl

variable (hreporter : env.op.reporter = true) (hone : OneOfEach cp.status.conditions)
include hreporter hone

/-- No condition is `False` after the pass: the conditions are those that it has written and those
that it has left. -/
theorem conditions_reported_iff : (∀ c ∈ cp'.status.conditions, c.status ≠ .false) ↔
    (∀ t, leavesCondition cp t = false → met env.op env.obs cp t = true) ∧
      ∀ c ∈ cp.status.conditions, leavesCondition cp c.type = true → c.status ≠ .false := by
  have hone' : OneOfEach cp'.status.conditions := by
    rw [reconcileAll_reported hdry hreporter hpin h]
    exact (OneOfEach.dones (hone.set _)).managed env.op (fullPass env cp)
  have hall := hone'.forall_iff fun _ => True
  simp only [true_implies] at hall
  rw [hall, hone.forall_iff fun t => leavesCondition cp t = true]
  constructor
  · intro hnot
    refine ⟨fun t hleft => ?_, fun t hleft x hx => ?_⟩
    · obtain ⟨reason, heq⟩ := shownCondition_reported hdry hpin h hleft
      have hstatus := hnot t _ heq
      cases hmet : met env.op env.obs cp t
      · rw [hmet] at hstatus
        exact absurd rfl hstatus
      · rfl
    · rw [← shownCondition_unreported hdry hpin h hleft] at hx
      exact hnot t x hx
  · rintro ⟨hmet, hleft⟩ t x hx
    cases hl : leavesCondition cp t
    · obtain ⟨reason, heq⟩ := shownCondition_reported hdry hpin h hl
      rw [heq, hmet t hl] at hx
      obtain rfl := Option.some.inj hx
      exact fun hstatus => by cases hstatus
    · rw [shownCondition_unreported hdry hpin h hl] at hx
      exact hleft t hl x hx

theorem phase_reported_iff : cp'.status.phase = .ready ↔
    (∀ t, leavesCondition cp t = false → met env.op env.obs cp t = true) ∧
      ∀ c ∈ cp.status.conditions, leavesCondition cp c.type = true → c.status ≠ .false := by
  have hphase : cp'.status.phase = .ready ↔ Healthy cp' := by
    rw [reconcileAll_reported hdry hreporter hpin h]
    exact computePhase_ready_iff
  have hspec : cp'.spec = cp.spec := by
    have hframe := (reconcileAll_frame env.op (fullPass env cp) cp w).2.1
    rwa [h] at hframe
  unfold Healthy at hphase
  rw [hphase, conditions_reported_iff hdry hpin h hreporter hone]
  refine ⟨fun hhealthy => hhealthy.1, fun hhealthy => ⟨hhealthy, fun name hname => ?_⟩⟩
  -- the entries of the services are what `ServicesReady` counts
  obtain ⟨svc, hsvc, rfl⟩ := List.mem_map.mp hname
  have hup := List.all_eq_true.mp (hhealthy.1 .servicesReady rfl) svc (by cases svc <;> decide)
  have hen : (serviceDefaults cp svc).enabled = true := by
    have hen' := (List.mem_filter.mp hsvc).2
    unfold serviceDefaults at hen' ⊢
    rwa [hspec] at hen'
  rw [serviceReady_reported hdry hpin h]
  simpa [hen] using hup

end Reported

/-- **When a control plane is ready.** After a full pass without an error every condition it writes
says what it stands for, and the phase is `Ready` exactly when all of them are met and none of the
conditions that the pass leaves alone is `False`. -/
theorem ready_exactly {env : Env} (hdry : env.op.dryRun = false) (hreporter : env.op.reporter = true)
    {cp cp' : ControlPlane} {w w' : World} {longest : ℕ} (hpin : pinnedElsewhere env.op cp = false)
    (hone : OneOfEach cp.status.conditions)
    (h : reconcileAll env.op (fullPass env cp) cp w = (.ok longest, cp', w')) :
    (∀ t, leavesCondition cp t = false →
      ∃ reason, shownCondition cp' t = some (statusOf (met env.op env.obs cp t), reason)) ∧
    (cp'.status.phase = .ready ↔
      (∀ t, leavesCondition cp t = false → met env.op env.obs cp t = true) ∧
      ∀ c ∈ cp.status.conditions, leavesCondition cp c.type = true → c.status ≠ .false) :=
  ⟨fun _ hleft => shownCondition_reported hdry hpin h hleft,
    phase_reported_iff hdry hpin h hreporter hone⟩

/-! ### A cluster that becomes ready -/

/-- Everything answers. -/
def serving : Env where
  obs :=
    { secrets := fun _ => some { data := GoMap.ofList [("ca.crt", "ca"), ("tls.crt", "cert")] }
      deployments := fun _ => some 1
      daemonSets := fun _ => some ⟨1, 1, 1, 1, 1, 1, 0⟩
      clusters := fun _ => some ⟨"Cluster in healthy state", ["boot_service", "smd"]⟩
      databases := fun _ => some true
      gateway := ⟨true, true⟩
      network := { bestEffortDNS := true }
      notAfter := fun _ => .ok (720 * hour)
      formatTime := Rfc3339.format }
  perm := order_perm

theorem serving_clear : serving.Clear (Webhook.default (site true)) := by
  have hsubs : ∀ sub ∈ subs,
      (program serving.op serving.obs (Webhook.default (site true)) sub).Clear := by decide +kernel
  exact isStop_entering hsubs

theorem serving_met (t : ConditionType) :
    met serving.op serving.obs (Webhook.default (site true)) t = true := by
  cases t with
  | other => rfl
  | _ => decide +kernel

/-- The first pass over a new cluster makes it ready, when everything already answers. -/
theorem ready_exactly_site : ∃ n cp' w',
    reconcileAll serving.op (fullPass serving (Webhook.default (site true)))
      (Webhook.default (site true)) {} = (.ok n, cp', w') ∧ cp'.status.phase = .ready := by
  have hpin : pinnedElsewhere serving.op (Webhook.default (site true)) = false := by decide
  obtain ⟨n, ⟨cp', w'⟩, hrun⟩ :=
    @reconcileAll_served serving rfl (fun _ => rfl) _ hpin serving_clear {}
  obtain ⟨-, hready⟩ := ready_exactly rfl rfl hpin (by simp [OneOfEach, Webhook.default, site]) hrun
  refine ⟨n, cp', w', hrun, hready.mpr ⟨fun t _ => serving_met t, ?_⟩⟩
  intro c hc
  cases hc

end OpenchamiOperator.Controller
