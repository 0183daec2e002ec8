import OpenchamiOperator.Admin.Describe
import OpenchamiOperator.Controller.NameIsolation
import OpenchamiOperator.Controller.PassRequests
import OpenchamiOperator.Controller.VaultIsolation
import OpenchamiOperator.Reconcilers.GatewayPass

/-! # The territory of a cluster

The objects in the namespace of a cluster, the namespace itself, its two cluster-wide roles and the
directory in Vault are the cluster's own. Whatever a pass reads and wherever it stops, its requests
stay there.

* `program_stays`: every action of every sub-reconciler stays in the territory of its cluster.
* `requests_stay`: so does every request of a pass.
* `not_inTerritory`: the territories of two clusters have nothing in common. -/

namespace OpenchamiOperator.Controller

open Lib Strings Api Reconcilers Admin

/-! ### Territories -/

/-- The objects of a cluster, by their keys. -/
def InTerritory (cp : ControlPlane) (k : KubeKind × String × String) : Prop :=
  k.2.1 = controlPlaneNamespace cp ∨ k ∈ ownKeys cp

/-- The request only concerns the objects and the secrets of the cluster. -/
def Effect.Stays (cp : ControlPlane) : Effect → Prop
  | .apply o => InTerritory cp o.key
  | .delete k => InTerritory cp k
  | .ensureSecret path _ => hasPrefix path (secretDirectory cp.spec.clusterName) = true
  | _ => True

/-- The state of the probe and the end of the certificate are written by one sub-reconciler each. -/
def StatusWrite.Told (sub : Sub) : StatusWrite → Prop
  | .networkProbe _ => sub = .networkProbe
  | .field .certExpiryTime _ => sub = .certificates
  | _ => True

def Act.Stays (cp : ControlPlane) (sub : Sub) (a : Act) : Prop :=
  (∀ eff ∈ a.effect?, eff.Stays cp) ∧ ∀ x ∈ a.write?, x.Told sub

theorem namespace_ne_empty (cp : ControlPlane) : controlPlaneNamespace cp ≠ "" := by
  intro h
  have hlen := congrArg (fun s : String => s.toList.length) h
  unfold controlPlaneNamespace at hlen
  simp [String.toList_append] at hlen

/-- An object has one cluster at most. -/
theorem not_inTerritory {a b : ControlPlane} (hne : a.spec.clusterName ≠ b.spec.clusterName)
    {k : KubeKind × String × String} (ha : InTerritory a k) : ¬ InTerritory b k := by
  have hns := namespace_ne hne
  have hrole := roleName_ne hne
  have hempty : ∀ cp, k ∈ ownKeys cp → k.2.1 = "" := by
    intro cp hk
    simp only [ownKeys, List.mem_cons, List.not_mem_nil, or_false] at hk
    rcases hk with rfl | rfl | rfl <;> rfl
  rintro (hb | hb)
  · rcases ha with ha | ha
    · exact hns (ha.symm.trans hb)
    · exact namespace_ne_empty b (hb.symm.trans (hempty a ha))
  · rcases ha with ha | ha
    · exact namespace_ne_empty a (ha.symm.trans (hempty b hb))
    · simp only [ownKeys, List.mem_cons, List.not_mem_nil, or_false] at ha hb
      rcases ha with rfl | rfl | rfl <;> simp [hns, hrole] at hb

theorem inTerritory_congr {a b : ControlPlane} (h : a.spec.clusterName = b.spec.clusterName)
    (k : KubeKind × String × String) : InTerritory a k ↔ InTerritory b k := by
  unfold InTerritory ownKeys controlPlaneNamespace networkProbeRoleName
  rw [h]

theorem Effect.stays_congr {a b : ControlPlane} (h : a.spec.clusterName = b.spec.clusterName)
    (eff : Effect) : eff.Stays a ↔ eff.Stays b := by
  cases eff with
  | apply o => exact inTerritory_congr h o.key
  | delete k => exact inTerritory_congr h k
  | ensureSecret path overwrite =>
    unfold Effect.Stays
    rw [h]
  | _ => exact Iff.rfl

/-! ### Actions -/

section Stays

variable {cp : ControlPlane} {sub : Sub} {x : StatusWrite} {e : Event} {err : OpError}
  {context : String} {writes : List StatusWrite} {events : List Event} {o : KubeObject}
  {k : KubeKind × String × String} {path kind name : String} {overwrite : Bool}

@[simp] theorem told_condition {t : ConditionType} {st : ConditionStatus} {message : String} :
    (StatusWrite.condition t st context message).Told sub := trivial

@[simp] theorem told_service {st : ServiceStatus} :
    (StatusWrite.service name st).Told sub := trivial

@[simp] theorem told_gateway {g : Option GatewayStatus} :
    (StatusWrite.gateway g).Told sub := trivial

@[simp] theorem told_networkProbe {p : Option NetworkProbeStatus} :
    (StatusWrite.networkProbe p).Told sub ↔ sub = .networkProbe := Iff.rfl

@[simp] theorem told_field {f : StatusField} {value : String} :
    (StatusWrite.field f value).Told sub ↔ (f = .certExpiryTime → sub = .certificates) := by
  cases f <;> simp [StatusWrite.Told]

@[simp] theorem stays_write : (Act.write x).Stays cp sub ↔ x.Told sub := by
  simp [Act.Stays, Act.effect?, Act.write?]

@[simp] theorem stays_event : (Act.event e).Stays cp sub := by
  simp [Act.Stays, Act.effect?, Act.write?]

@[simp] theorem stays_stop : (Act.stop err writes events).Stays cp sub := by
  simp [Act.Stays, Act.effect?, Act.write?]

@[simp] theorem stays_none : (Act.request .none context writes events).Stays cp sub := by
  simp [Act.Stays, Act.effect?, Act.write?, Effect.Stays]

@[simp] theorem stays_patch : (Act.request (.patch o) context writes events).Stays cp sub := by
  simp [Act.Stays, Act.effect?, Act.write?, Effect.Stays]

@[simp] theorem stays_apply : (Act.request (.apply o) context writes events).Stays cp sub ↔
    InTerritory cp o.key := by
  simp [Act.Stays, Act.effect?, Act.write?, Effect.Stays]

@[simp] theorem stays_delete : (Act.request (.delete k) context writes events).Stays cp sub ↔
    InTerritory cp k := by
  simp [Act.Stays, Act.effect?, Act.write?, Effect.Stays]

@[simp] theorem stays_reading : (reading context).Stays cp sub := stays_none

@[simp] theorem stays_applying :
    (applying context o).Stays cp sub ↔ InTerritory cp o.key := stays_apply

@[simp] theorem inTerritory_objectIn : InTerritory cp (objectIn cp kind name).key := Or.inl rfl

@[simp] theorem stays_ensureSecret :
    (Act.request (.ensureSecret path overwrite) context writes events).Stays cp sub ↔
      hasPrefix path (secretDirectory cp.spec.clusterName) = true := by
  simp [Act.Stays, Act.effect?, Act.write?, Effect.Stays]

end Stays

/-! ### Every program stays -/

section Programs

variable (op : Operator) (obs : Observed) (cp : ControlPlane)

theorem stays_namespace : ∀ a ∈ (reconcileNamespace cp).acts, a.Stays cp .namespace := by
  simp [reconcileNamespace, InTerritory, ownKeys, buildNamespace, KubeObject.key]

theorem stays_rbac : ∀ a ∈ (reconcileRBAC cp).acts, a.Stays cp .rbac := by
  simp [reconcileRBAC, serviceAccountNames, buildServiceAccount, buildConfigReaderRole,
    buildConfigReaderRoleBinding, buildNetworkProbeClusterRole, buildNetworkProbeClusterRoleBinding,
    InTerritory, ownKeys, KubeObject.key, objectIn]

theorem stays_vault : ∀ a ∈ (reconcileVault op obs cp).acts, a.Stays cp .vault := by
  have hseeds : ∀ a ∈ ensureClusterSecrets (Vault.paths cp.spec.clusterName),
      a.Stays cp .vault := by
    intro a ha
    have hunder := under_ensureClusterSecrets cp.spec.clusterName a ha
    obtain ⟨path, -, rfl⟩ := List.mem_map.mp ha
    exact stays_ensureSecret.mpr (hunder path rfl)
  have hrole : ∀ a ∈ ensureServiceRole obs cp, a.Stays cp .vault := by
    unfold ensureServiceRole ensureAppRoleSecretID
    split
    · simp only
      split_ifs <;> simp [vaultRequest, vaultStop]
    · simp [vaultRequest]
  have hoidc : ∀ a ∈ ensureOIDC obs cp, a.Stays cp .vault := by
    intro a ha
    have hunder := under_ensureOIDC obs cp a ha
    unfold ensureOIDC at ha
    simp only at ha
    split_ifs at ha
    · cases ha
    · rw [List.mem_singleton.mp ha]
      exact stays_stop
    · simp only [List.mem_append, List.mem_cons, List.not_mem_nil, or_false] at ha
      rcases ha with (rfl | rfl) | rfl
      · exact stays_none
      · exact stays_ensureSecret.mpr (hunder _ rfl)
      · exact stays_ensureSecret.mpr (hunder _ rfl)
    · simp only [List.mem_append, List.mem_cons, List.not_mem_nil, or_false] at ha
      rcases ha with rfl | rfl
      · exact stays_none
      · exact stays_ensureSecret.mpr (hunder _ rfl)
  have hconfigure : ∀ a ∈ configureVault obs cp, a.Stays cp .vault := by
    unfold configureVault
    simp only [List.forall_mem_append]
    refine ⟨⟨⟨⟨⟨⟨?_, hseeds⟩, ?_⟩, hrole⟩, hoidc⟩, ?_⟩, ?_⟩
    · simp [vaultRequest]
    · simp [vaultRequest]
    · simp [applyVSOResources, vsoObjects, vssSuffixes, vaultRequest]
    · simp
  unfold reconcileVault
  split_ifs
  · simp
  · simp
  · exact hconfigure

theorem stays_bucket : ∀ a ∈ (reconcileBucket op obs cp).acts, a.Stays cp .bucket := by
  unfold reconcileBucket
  simp only
  split_ifs <;> simp

theorem stays_database : ∀ a ∈ (reconcileDatabase obs cp).acts, a.Stays cp .database := by
  have happly : ∀ a ∈ applyDatabases obs cp, a.Stays cp .database := by
    intro a ha
    obtain ⟨spec, -, ha⟩ := List.mem_flatMap.mp ha
    simp only [List.mem_cons, List.not_mem_nil, or_false] at ha
    rcases ha with rfl | rfl
    · simp [buildDatabase]
    · split_ifs <;> simp
  have hfollow : ∀ current, ∀ a ∈ (followCluster obs cp current).acts, a.Stays cp .database := by
    intro current
    unfold followCluster
    split_ifs
    · simp [databaseWaiting]
    · simp [databaseWaiting]
    · exact List.forall_mem_append.mpr ⟨happly, by simp [databaseWaiting]⟩
    · exact List.forall_mem_append.mpr ⟨happly, by simp⟩
  unfold reconcileDatabase
  simp only
  split
  · simp only [List.forall_mem_append, List.forall_mem_map]
    exact ⟨⟨fun _ _ => stays_reading, fun _ _ => stays_reading⟩, by simp [databaseWaiting]⟩
  · split
    · simp [buildCNPGCluster, dbRoleSpecs]
    · simp only [List.forall_mem_append, List.forall_mem_map]
      exact ⟨⟨⟨fun _ _ => stays_reading, by simp [buildCNPGCluster]⟩, by simp⟩, hfollow _⟩

theorem stays_serviceIdentity :
    ∀ a ∈ (reconcileServiceIdentity obs cp).acts, a.Stays cp .serviceIdentity := by
  have hobjects : ∀ o ∈ identityObjects cp, InTerritory cp o.key := by simp [identityObjects]
  unfold reconcileServiceIdentity
  simp only
  split_ifs
  all_goals
    simp only [List.forall_mem_append, List.forall_mem_map]
    refine ⟨⟨⟨⟨fun o ho => stays_applying.mpr (hobjects o ho), ?_⟩, ?_⟩, fun _ _ => stays_reading⟩,
      ?_⟩
    · simp
    · simp [buildCAConfigMap]
    · simp

theorem stays_smd : ∀ a ∈ (reconcileSMD obs cp).acts, a.Stays cp .smd := by
  unfold reconcileSMD
  split_ifs
  · simp
  · simp [buildDeployment, buildService, buildPDB]

theorem stays_deployService {svc : Service} {sub : Sub} {after : List Act}
    (hafter : ∀ a ∈ after, a.Stays cp sub) :
    ∀ a ∈ (deployService obs cp svc after).acts, a.Stays cp sub := by
  unfold deployService
  simp only
  split
  · simp [buildDeployment, buildService, buildPDB]
  · split_ifs
    · simp only [List.forall_mem_append]
      exact ⟨by simp [buildDeployment, buildService, buildPDB], hafter⟩
    · simp [buildDeployment, buildService, buildPDB]

theorem stays_tokensmith : ∀ a ∈ (reconcileTokensmith obs cp).acts, a.Stays cp .tokensmith := by
  have htoken : ∀ svc, ∀ a ∈ provisionBootstrapToken obs cp svc, a.Stays cp .tokensmith := by
    intro svc
    unfold provisionBootstrapToken
    simp only
    split_ifs <;> simp
  have htokens : ∀ a ∈ provisionServiceBootstrapTokens obs cp, a.Stays cp .tokensmith := by
    unfold provisionServiceBootstrapTokens
    split_ifs
    · simp
    · intro a ha
      obtain ⟨svc, -, ha⟩ := List.mem_flatMap.mp ha
      exact htoken svc a ha
  unfold reconcileTokensmith
  simp only
  split_ifs
  · simp
  · simp
  · exact List.forall_mem_cons.mpr ⟨by simp [buildPVC], stays_deployService obs cp htokens⟩

theorem stays_consumer (svc : Service) :
    ∀ a ∈ (reconcileConsumer svc obs cp).acts, a.Stays cp (serviceSub svc) := by
  unfold reconcileConsumer
  split_ifs
  · simp
  · exact stays_deployService obs cp (by simp)

theorem stays_networkProbe :
    ∀ a ∈ (reconcileNetworkProbe obs cp).acts, a.Stays cp .networkProbe := by
  unfold reconcileNetworkProbe reportProbe
  simp only
  split_ifs <;> simp [probeCondition, buildProbeDaemonSet]

theorem stays_coreDHCP : ∀ a ∈ (reconcileCoreDHCP obs cp).acts, a.Stays cp .coreDHCP := by
  have hrestrict : ∀ a ∈ restrictExistingSelection obs cp, a.Stays cp .coreDHCP := by
    unfold restrictExistingSelection
    split_ifs <;> simp
  have hread : ∀ a ∈ readConfigMapRef cp, a.Stays cp .coreDHCP := by
    unfold readConfigMapRef
    split <;> simp
  have hreport : ∀ current, ∀ a ∈ (reportDHCP current).acts, a.Stays cp .coreDHCP := by
    intro current
    unfold reportDHCP
    simp only
    split_ifs <;> simp [dhcpCondition]
  unfold reconcileCoreDHCP
  simp only
  split_ifs
  · simp
  · exact List.forall_mem_append.mpr ⟨hrestrict, by simp [dhcpCondition]⟩
  · split
    · simp only [List.forall_mem_append]
      exact ⟨⟨hrestrict, hread⟩, by simp [dhcpCondition]⟩
    · simp only [List.forall_mem_append]
      exact ⟨⟨⟨hrestrict, hread⟩, by simp [buildCoreDHCPConfigMap, buildCoreDHCPDaemonSet]⟩,
        hreport _⟩

theorem stays_magellan : ∀ a ∈ (reconcileMagellan obs cp).acts, a.Stays cp .magellan := by
  have hsuspend : ∀ a ∈ suspendExistingCronJob obs cp, a.Stays cp .magellan := by
    unfold suspendExistingCronJob
    split
    · simp [magellanRequest]
    · simp only
      split_ifs <;> simp [magellanRequest]
  unfold reconcileMagellan
  refine List.forall_mem_append.mpr ⟨hsuspend, ?_⟩
  split_ifs <;> simp

theorem stays_certificates :
    ∀ a ∈ (reconcileCertificates obs cp).acts, a.Stays cp .certificates := by
  have hreport : ∀ notAfter, ∀ a ∈ reportCertificate obs notAfter, a.Stays cp .certificates := by
    intro notAfter
    unfold reportCertificate
    simp only
    split_ifs <;> simp [certificatesCondition]
  unfold reconcileCertificates
  simp only
  split
  · simp [certificatesCondition, buildCertificate]
  · split
    · simp [certificatesCondition, buildCertificate]
    · exact List.forall_mem_append.mpr ⟨by simp [buildCertificate], hreport _⟩

theorem stays_gateway : ∀ a ∈ (reconcileGateway obs cp).acts, a.Stays cp .gateway := by
  have hrequests : ∀ a ∈ gatewayRequests obs cp, a.Stays cp .gateway := by
    unfold gatewayRequests
    simp only [List.forall_mem_append, List.forall_mem_map]
    refine ⟨fun o ho => stays_applying.mpr (Or.inl ?_), fun _ _ => stays_delete.mpr (Or.inl rfl)⟩
    exact Gateway.namespace_of_mem_objectsApplied ho
  have hreport : ∀ a ∈ (reportGateway obs cp).acts, a.Stays cp .gateway := by
    unfold reportGateway
    split_ifs <;> simp [gatewayDeferred]
  unfold reconcileGateway
  split_ifs
  · simp
  · exact List.forall_mem_append.mpr ⟨hrequests, hreport⟩

theorem stays_networkPolicies (net : Network) :
    ∀ a ∈ (reconcileNetworkPolicies net cp).acts, a.Stays cp .networkPolicies := by
  unfold reconcileNetworkPolicies
  split
  · simp
  · rename_i ps hps
    obtain ⟨vault, storage, api, rfl⟩ := buildPolicies_eq hps
    simp only [List.forall_mem_append, List.forall_mem_map]
    refine ⟨fun np hnp => stays_apply.mpr (Or.inl ?_), by simp⟩
    have hspaces : ∀ np ∈ policiesFor cp vault storage api,
        np.namespace = controlPlaneNamespace cp := by
      simp [policiesFor, defaultDenyAll, allowDNSEgress, allowVaultEgress, allowVersityGWEgress,
        allowLogsEgress, allowCNPGKubernetesAPIEgress, smdPolicy, tokensmithPolicy,
        bootServicePolicy, metadataServicePolicy, coreDHCPPolicy, magellanPolicy,
        networkProbePolicy, funicularPolicy, postgresIngressPolicy, postgresEgressPolicy,
        egressOnly, servicePolicy]
    exact hspaces np hnp

theorem stays_topology : ∀ a ∈ (reconcileTopology obs cp).acts, a.Stays cp .topology := by
  simp [reconcileTopology, buildTopologyConfigMap]

theorem stays_serviceMonitor :
    ∀ a ∈ (reconcileServiceMonitor cp).acts, a.Stays cp .serviceMonitor := by
  unfold reconcileServiceMonitor describeServiceMonitor
  split_ifs <;> simp [buildServiceMonitor]

theorem stays_logBucket : ∀ a ∈ (reconcileLogBucket op obs cp).acts, a.Stays cp .logBucket := by
  unfold reconcileLogBucket
  simp only
  split_ifs <;> simp [logBucketCondition, logBucketRequest]

theorem stays_funicular : ∀ a ∈ (reconcileFunicular obs cp).acts, a.Stays cp .funicular := by
  unfold reconcileFunicular
  simp only
  split_ifs <;> simp [collectorCondition, buildFunicularDaemonSet]

theorem stays_logqCompactor :
    ∀ a ∈ (reconcileLogqCompactor cp).acts, a.Stays cp .logqCompactor := by
  unfold reconcileLogqCompactor
  split_ifs <;> simp [compactorCondition, buildCompactorCronJob]

theorem stays_logqQuery : ∀ a ∈ (reconcileLogqQuery obs cp).acts, a.Stays cp .logqQuery := by
  unfold reconcileLogqQuery
  simp only
  split_ifs <;> simp [buildQueryDeployment, buildQueryService]

/-- **Every action of every sub-reconciler stays in the territory of its cluster**, whatever the
operator has and whatever is read. -/
theorem program_stays (sub : Sub) : ∀ a ∈ (program op obs cp sub).acts, a.Stays cp sub := by
  cases sub with
  | «namespace» => exact stays_namespace cp
  | rbac => exact stays_rbac cp
  | vault => exact stays_vault op obs cp
  | bucket => exact stays_bucket op obs cp
  | database => exact stays_database obs cp
  | serviceIdentity => exact stays_serviceIdentity obs cp
  | smd => exact stays_smd obs cp
  | tokensmith => exact stays_tokensmith obs cp
  | bootService => exact stays_consumer obs cp .bootService
  | metadataService => exact stays_consumer obs cp .metadataService
  | networkProbe => exact stays_networkProbe obs cp
  | coreDHCP => exact stays_coreDHCP obs cp
  | magellan => exact stays_magellan obs cp
  | certificates => exact stays_certificates obs cp
  | gateway => exact stays_gateway obs cp
  | networkPolicies => exact stays_networkPolicies cp obs.network
  | topology => exact stays_topology obs cp
  | serviceMonitor => exact stays_serviceMonitor cp
  | logBucket => exact stays_logBucket op obs cp
  | funicular => exact stays_funicular obs cp
  | logqCompactor => exact stays_logqCompactor cp
  | logqQuery => exact stays_logqQuery obs cp

end Programs

/-! ### Passes -/

/-- **Every request of a pass stays in the territory of its cluster**, wherever the pass stops. -/
theorem requests_stay (env : Env) (cp : ControlPlane) : ∀ eff ∈ env.requests cp, eff.Stays cp := by
  intro eff heff
  obtain ⟨sub, hmem⟩ := exists_of_mem_requests heff
  obtain ⟨a, ha, hae⟩ := List.mem_filterMap.mp hmem
  have hname : (env.entering (activated cp) sub).spec.clusterName = cp.spec.clusterName := by
    rw [(env.entering_frame (activated cp) sub).2]
    rfl
  exact (eff.stays_congr hname).mp ((program_stays env.op env.obs _ sub a ha).1 eff hae)

end OpenchamiOperator.Controller
