import OpenchamiOperator.Controller.Ownership

/-! # `ochami-admin describe`

`internal/admin/describe.go`: the objects that the sub-reconcilers say they would apply.

* `program_within`: what a call applies it also describes.
* `owner_of_describe`: the kind and the name of an object tell which call describes it. -/

namespace OpenchamiOperator.Admin

open Lib Strings Api Reconcilers Controller

/-! ### The report -/

/-- `Describe` of each sub-reconciler. -/
def describe (isPrint : Char → Bool) (cp : ControlPlane) : Sub → Except String (List KubeObject)
  | .namespace => .ok [buildNamespace cp]
  | .rbac => .ok (describeRBAC cp)
  | .vault => .ok (vsoObjects cp)
  | .database => .ok (describeDatabase cp)
  | .serviceIdentity => .ok (identityObjects cp)
  | .smd => .ok (describeService cp .smd)
  | .tokensmith => .ok (describeService cp .tokensmith)
  | .bootService => .ok (describeService cp .bootService)
  | .metadataService => .ok (describeService cp .metadataService)
  | .networkProbe => .ok (describeNetworkProbe cp)
  | .coreDHCP => describeCoreDHCP isPrint cp
  | .certificates => .ok [buildCertificate cp]
  | .gateway => .ok ((Gateway.objectsAlways cp ++ Gateway.objectsRequiringTokensmith cp true).map
      gatewayObject)
  | .networkPolicies => describeNetworkPolicies cp
  | .topology => .ok [buildTopologyConfigMap cp]
  | .serviceMonitor => .ok (describeServiceMonitor cp)
  | .funicular => .ok (describeFunicular cp)
  | .logqCompactor =>
    .ok (if cp.spec.logging.enabled && cp.spec.logging.compactorEnabled then
      [buildCompactorCronJob cp] else [])
  | .logqQuery =>
    .ok (if cp.spec.logging.enabled && cp.spec.logging.queryEnabled then
      [buildQueryDeployment cp, buildQueryService cp] else [])
  | .bucket | .magellan | .logBucket => .ok []

/-- `describeSubs`. -/
def describeSubs : List (String × Sub) :=
  [("Namespace", .namespace), ("RBAC", .rbac), ("Vault", .vault), ("Bucket", .bucket),
   ("Database", .database), ("SMD", .smd), ("Tokensmith", .tokensmith),
   ("Boot Service", .bootService), ("Metadata Service", .metadataService),
   ("Network Probe", .networkProbe), ("CoreDHCP", .coreDHCP), ("Magellan", .magellan),
   ("Certificates", .certificates), ("Gateway", .gateway), ("Network Policies", .networkPolicies),
   ("Topology", .topology), ("ServiceMonitor", .serviceMonitor), ("Log Bucket", .logBucket),
   ("Funicular", .funicular)]

/-- What `describeRender` writes, without its layout. -/
structure Report where
  clusterName : String
  domain : String
  «namespace» : String
  notes : String
  sections : List (String × List KubeObject)

def Report.objects (r : Report) : List KubeObject := r.sections.flatMap Prod.snd

/-- The number in the last line. -/
def Report.total (r : Report) : ℕ := (r.sections.map fun s => s.2.length).sum

def describeSections (isPrint : Char → Bool) (cp : ControlPlane) :
    List (String × Sub) → Except String (List (String × List KubeObject))
  | [] => .ok []
  | (name, sub) :: rest =>
    match describe isPrint cp sub with
    | .error e => .error (name ++ ": describe: " ++ e)
    | .ok objs => (describeSections isPrint cp rest).map ((name, objs) :: ·)

/-- `describeRender`. -/
def describeRender (isPrint : Char → Bool) (cp : ControlPlane) : Except String Report :=
  (describeSections isPrint cp describeSubs).map fun sections =>
    { clusterName := cp.spec.clusterName
      domain := cp.spec.domain
      «namespace» := controlPlaneNamespace cp
      notes := trimSpace cp.spec.notes
      sections := sections }

theorem mem_sections {isPrint : Char → Bool} {cp : ControlPlane} :
    ∀ {l : List (String × Sub)} {sections : List (String × List KubeObject)},
      describeSections isPrint cp l = .ok sections →
      (∀ o, o ∈ sections.flatMap Prod.snd ↔
        ∃ s ∈ l, ∃ objs, describe isPrint cp s.2 = .ok objs ∧ o ∈ objs) ∧
      ∀ s ∈ l, ∃ objs, describe isPrint cp s.2 = .ok objs
  | [], sections, h => by
    cases h
    simp
  | (name, sub) :: rest, sections, h => by
    unfold describeSections at h
    rcases hobjs : describe isPrint cp sub with e | objs
    · rw [hobjs] at h
      cases h
    · rcases hrest : describeSections isPrint cp rest with e | sections'
      · rw [hobjs, hrest] at h
        cases h
      · rw [hobjs, hrest] at h
        cases h
        obtain ⟨hmem, hok⟩ := mem_sections hrest
        refine ⟨fun o => ?_, List.forall_mem_cons.mpr ⟨⟨objs, hobjs⟩, hok⟩⟩
        rw [List.flatMap_cons, List.mem_append, hmem, List.exists_mem_cons_iff]
        simp [hobjs]

/-- A report shows what the listed calls describe, and none of them has failed. -/
theorem describeRender_ok {isPrint : Char → Bool} {cp : ControlPlane} {report : Report}
    (h : describeRender isPrint cp = .ok report) :
    (∀ o, o ∈ report.objects ↔ ∃ s ∈ describeSubs, ∃ objs,
      describe isPrint cp s.2 = .ok objs ∧ o ∈ objs) ∧
    ∀ s ∈ describeSubs, ∃ objs, describe isPrint cp s.2 = .ok objs := by
  unfold describeRender at h
  rcases hsections : describeSections isPrint cp describeSubs with e | sections
  · rw [hsections] at h
    cases h
  · rw [hsections] at h
    cases h
    exact mem_sections hsections

/-! ### What a call applies -/

/-- Objects that come from Vault, from a pod or from the certificate authority. -/
def leftOut (cp : ControlPlane) (o : KubeObject) : Prop :=
  o.kind = .other "Secret" ∨ o = buildCAConfigMap cp

/-- An action applies one of the objects, or one that is left out. -/
def Within (cp : ControlPlane) (objs : List KubeObject) : Act → Prop
  | .request (.apply o) _ _ _ => o ∈ objs ∨ leftOut cp o
  | _ => True

/-- What is applied and never described: the login of the services, the tokens of the two consumers
and the certificate authority. -/
def extraObjects (cp : ControlPlane) : List KubeObject :=
  [objectIn cp "Secret" (cp.spec.platform.vault.appRoleSecretRef.getD ""),
   objectIn cp "Secret" (secretName cp (Service.bootService.name ++ "-bootstrap-token")),
   objectIn cp "Secret" (secretName cp (Service.metadataService.name ++ "-bootstrap-token")),
   buildCAConfigMap cp]

/-- An action applies one of the objects, or one of the extra ones. -/
def Adds (cp : ControlPlane) (objs : List KubeObject) : Act → Prop
  | .request (.apply o) _ _ _ => o ∈ objs ∨ o ∈ extraObjects cp
  | _ => True

section Adds

variable {cp : ControlPlane} {objs : List KubeObject} {o : KubeObject} {x : StatusWrite} {e : Event}
  {err : OpError} {context : String} {writes : List StatusWrite} {events : List Event}

@[simp] theorem adds_write : Adds cp objs (.write x) := trivial
@[simp] theorem adds_event : Adds cp objs (.event e) := trivial
@[simp] theorem adds_stop : Adds cp objs (.stop err writes events) := trivial
@[simp] theorem adds_none : Adds cp objs (.request .none context writes events) := trivial
@[simp] theorem adds_reading : Adds cp objs (reading context) := trivial
@[simp] theorem adds_apply :
    Adds cp objs (.request (.apply o) context writes events) ↔ o ∈ objs ∨ o ∈ extraObjects cp :=
  Iff.rfl
@[simp] theorem adds_applying :
    Adds cp objs (applying context o) ↔ o ∈ objs ∨ o ∈ extraObjects cp :=
  Iff.rfl
@[simp] theorem adds_patch : Adds cp objs (.request (.patch o) context writes events) := trivial
@[simp] theorem adds_ensureSecret {path : String} {overwrite : Bool} :
    Adds cp objs (.request (.ensureSecret path overwrite) context writes events) := trivial
@[simp] theorem adds_delete {k : KubeKind × String × String} :
    Adds cp objs (.request (.delete k) context writes events) := trivial

theorem within_apply :
    Within cp objs (.request (.apply o) context writes events) ↔ o ∈ objs ∨ leftOut cp o := Iff.rfl

theorem leftOut_of_extra (h : o ∈ extraObjects cp) : leftOut cp o := by
  simp only [extraObjects, List.mem_cons, List.not_mem_nil, or_false] at h
  rcases h with rfl | rfl | rfl | rfl
  · exact Or.inl rfl
  · exact Or.inl rfl
  · exact Or.inl rfl
  · exact Or.inr rfl

end Adds

section Programs

variable {op : Operator} {obs : Observed} {cp : ControlPlane}

theorem adds_vault : ∀ a ∈ (reconcileVault op obs cp).acts, Adds cp (vsoObjects cp) a := by
  have hlogin : objectIn cp "Secret" (cp.spec.platform.vault.appRoleSecretRef.getD "") ∈
      extraObjects cp := by simp [extraObjects]
  have hrole : ∀ a ∈ ensureServiceRole obs cp, Adds cp (vsoObjects cp) a := by
    unfold ensureServiceRole ensureAppRoleSecretID
    split
    · simp only
      split_ifs <;> simp [vaultRequest, vaultStop, hlogin]
    · simp [vaultRequest]
  have hoidc : ∀ a ∈ ensureOIDC obs cp, Adds cp (vsoObjects cp) a := by
    unfold ensureOIDC
    simp only
    split_ifs <;> simp [vaultRequest, vaultStop]
  have hvso : ∀ a ∈ applyVSOResources cp, Adds cp (vsoObjects cp) a := by
    unfold applyVSOResources
    rw [List.forall_mem_map]
    exact fun o ho => Or.inl ho
  have hconfigure : ∀ a ∈ configureVault obs cp, Adds cp (vsoObjects cp) a := by
    unfold configureVault
    simp only [List.forall_mem_append]
    exact ⟨⟨⟨⟨⟨⟨by simp [vaultRequest], by simp [ensureClusterSecrets, vaultRequest]⟩,
      by simp [vaultRequest]⟩, hrole⟩, hoidc⟩, hvso⟩, by simp⟩
  unfold reconcileVault
  split_ifs
  · simp
  · simp
  · exact hconfigure

theorem adds_database :
    ∀ a ∈ (reconcileDatabase obs cp).acts, Adds cp (describeDatabase cp) a := by
  have happly : ∀ a ∈ applyDatabases obs cp, Adds cp (describeDatabase cp) a := by
    intro a ha
    obtain ⟨spec, hspec, ha⟩ := List.mem_flatMap.mp ha
    simp only [List.mem_cons, List.not_mem_nil, or_false] at ha
    rcases ha with rfl | rfl
    · exact Or.inl (List.mem_cons_of_mem _ (List.mem_map_of_mem hspec))
    · split_ifs <;> simp
  have hfollow : ∀ current, ∀ a ∈ (followCluster obs cp current).acts,
      Adds cp (describeDatabase cp) a := by
    intro current
    unfold followCluster
    split_ifs
    · simp [databaseWaiting]
    · simp [databaseWaiting]
    · exact List.forall_mem_append.mpr ⟨happly, by simp [databaseWaiting]⟩
    · exact List.forall_mem_append.mpr ⟨happly, by simp⟩
  have hcluster : Adds cp (describeDatabase cp) (applying "applying cnpg cluster"
      (buildCNPGCluster cp)) := Or.inl (List.mem_cons_self ..)
  unfold reconcileDatabase
  simp only
  split
  · simp only [List.forall_mem_append, List.forall_mem_map]
    exact ⟨⟨fun _ _ => trivial, fun _ _ => trivial⟩, by simp [databaseWaiting]⟩
  · split
    · simp only [List.forall_mem_append, List.forall_mem_map]
      exact ⟨⟨fun _ _ => trivial, by simpa using hcluster⟩, by simp⟩
    · simp only [List.forall_mem_append, List.forall_mem_map]
      exact ⟨⟨⟨fun _ _ => trivial, by simpa using hcluster⟩, by simp⟩, hfollow _⟩

theorem adds_serviceIdentity :
    ∀ a ∈ (reconcileServiceIdentity obs cp).acts, Adds cp (identityObjects cp) a := by
  have hca : buildCAConfigMap cp ∈ extraObjects cp := by simp [extraObjects]
  unfold reconcileServiceIdentity
  simp only
  split_ifs
  all_goals
    simp only [List.forall_mem_append, List.forall_mem_map]
    refine ⟨⟨⟨⟨fun o ho => Or.inl ho, by simp⟩, ?_⟩, fun _ _ => trivial⟩, by simp⟩
    simp [hca]

theorem adds_deployService {svc : Service} {after : List Act}
    (hafter : ∀ a ∈ after, Adds cp (describeService cp svc) a) :
    ∀ a ∈ (deployService obs cp svc after).acts, Adds cp (describeService cp svc) a := by
  unfold deployService
  simp only
  split
  · simp [describeService]
  · split_ifs
    · refine List.forall_mem_append.mpr ⟨?_, hafter⟩
      simp [describeService]
    · simp [describeService]

theorem adds_smd : ∀ a ∈ (reconcileSMD obs cp).acts, Adds cp (describeService cp .smd) a := by
  unfold reconcileSMD
  split_ifs <;> simp [describeService]

theorem adds_tokensmith :
    ∀ a ∈ (reconcileTokensmith obs cp).acts, Adds cp (describeService cp .tokensmith) a := by
  have htoken : ∀ svc ∈ [Service.bootService, .metadataService],
      ∀ a ∈ provisionBootstrapToken obs cp svc, Adds cp (describeService cp .tokensmith) a := by
    intro svc hsvc
    have hsecret : objectIn cp "Secret" (secretName cp (svc.name ++ "-bootstrap-token")) ∈
        extraObjects cp := by
      simp only [List.mem_cons, List.not_mem_nil, or_false] at hsvc
      rcases hsvc with rfl | rfl <;> simp [extraObjects]
    unfold provisionBootstrapToken
    simp only
    split_ifs <;> simp [hsecret]
  have htokens : ∀ a ∈ provisionServiceBootstrapTokens obs cp,
      Adds cp (describeService cp .tokensmith) a := by
    unfold provisionServiceBootstrapTokens
    split_ifs
    · simp
    · intro a ha
      obtain ⟨svc, hsvc, ha⟩ := List.mem_flatMap.mp ha
      exact htoken svc (List.mem_filter.mp hsvc).1 a ha
  unfold reconcileTokensmith
  simp only
  split_ifs
  · simp
  · simp
  · exact List.forall_mem_cons.mpr ⟨by simp [describeService], adds_deployService htokens⟩

theorem adds_consumer (svc : Service) :
    ∀ a ∈ (reconcileConsumer svc obs cp).acts, Adds cp (describeService cp svc) a := by
  unfold reconcileConsumer
  split_ifs
  · simp
  · exact adds_deployService (by simp)

theorem adds_networkProbe :
    ∀ a ∈ (reconcileNetworkProbe obs cp).acts, Adds cp (describeNetworkProbe cp) a := by
  have hreport : ∀ objs, ∀ a ∈ (reportProbe obs cp).acts, Adds cp objs a := by
    intro objs
    unfold reportProbe
    simp only
    split_ifs <;> simp [probeCondition]
  unfold reconcileNetworkProbe describeNetworkProbe
  simp only
  by_cases hen : cp.spec.networkProbe.enabled = true
  · simp only [hen, Bool.not_true, Bool.false_eq_true, if_false, if_true]
    split_ifs
    · simp [probeCondition]
    · exact List.forall_mem_append.mpr ⟨by simp, hreport _⟩
  · simp [hen, probeCondition]

theorem describeCoreDHCP_ok {isPrint : Char → Bool} {objs : List KubeObject}
    (h : describeCoreDHCP isPrint cp = .ok objs) :
    objs = if cp.spec.services.coreDHCP.enabled then
      [buildCoreDHCPConfigMap cp, buildCoreDHCPDaemonSet cp] else [] := by
  unfold describeCoreDHCP at h
  by_cases hen : cp.spec.services.coreDHCP.enabled = true
  · simp only [hen, Bool.not_true, Bool.false_eq_true, if_false] at h
    rw [if_pos hen]
    split_ifs at h
    · exact (Except.ok.inj h).symm
    · rcases hrender : renderCoreDHCPConfig isPrint cp with e | text
      · rw [hrender] at h
        cases h
      · rw [hrender] at h
        exact (Except.ok.inj h).symm
  · simp only [hen, Bool.not_false, if_true] at h
    rw [if_neg hen]
    exact (Except.ok.inj h).symm

theorem adds_coreDHCP {isPrint : Char → Bool} {objs : List KubeObject}
    (h : describeCoreDHCP isPrint cp = .ok objs) :
    ∀ a ∈ (reconcileCoreDHCP obs cp).acts, Adds cp objs a := by
  have hrestrict : ∀ a ∈ restrictExistingSelection obs cp, Adds cp objs a := by
    unfold restrictExistingSelection
    split_ifs <;> simp
  have hread : ∀ a ∈ readConfigMapRef cp, Adds cp objs a := by
    unfold readConfigMapRef
    split <;> simp
  have hreport : ∀ current, ∀ a ∈ (reportDHCP current).acts, Adds cp objs a := by
    intro current
    unfold reportDHCP
    simp only
    split_ifs <;> simp [dhcpCondition]
  have hobjs := describeCoreDHCP_ok h
  unfold reconcileCoreDHCP
  simp only
  by_cases hen : cp.spec.services.coreDHCP.enabled = true
  · rw [if_pos hen] at hobjs
    simp only [hen, Bool.not_true, Bool.false_eq_true, if_false]
    split_ifs
    · exact List.forall_mem_append.mpr ⟨hrestrict, by simp [dhcpCondition]⟩
    · split
      · simp only [List.forall_mem_append]
        exact ⟨⟨hrestrict, hread⟩, by simp [dhcpCondition]⟩
      · simp only [List.forall_mem_append]
        exact ⟨⟨⟨hrestrict, hread⟩, by simp [hobjs]⟩, hreport _⟩
  · simp [hen]

theorem adds_magellan : ∀ a ∈ (reconcileMagellan obs cp).acts, Adds cp [] a := by
  have hsuspend : ∀ a ∈ suspendExistingCronJob obs cp, Adds cp [] a := by
    unfold suspendExistingCronJob
    split
    · simp [magellanRequest]
    · simp only
      split_ifs <;> simp [magellanRequest]
  unfold reconcileMagellan
  refine List.forall_mem_append.mpr ⟨hsuspend, fun a ha => ?_⟩
  obtain rfl := List.mem_singleton.mp ha
  exact adds_write

theorem adds_certificates :
    ∀ a ∈ (reconcileCertificates obs cp).acts, Adds cp [buildCertificate cp] a := by
  have hreport : ∀ t, ∀ a ∈ reportCertificate obs t, Adds cp [buildCertificate cp] a := by
    intro t
    unfold reportCertificate
    simp only
    split_ifs <;> simp [certificatesCondition]
  unfold reconcileCertificates
  simp only
  split
  · simp [certificatesCondition]
  · split
    · simp [certificatesCondition]
    · exact List.forall_mem_append.mpr ⟨by simp, hreport _⟩

/-- The group that needs tokensmith is largest when the policies for its certificate are there. -/
theorem objectsRequiringTokensmith_subset (btls : Bool) :
    Gateway.objectsRequiringTokensmith cp btls ⊆ Gateway.objectsRequiringTokensmith cp true := by
  cases btls with
  | true => exact List.Subset.refl _
  | false =>
    unfold Gateway.objectsRequiringTokensmith
    simp only [Bool.and_false, Bool.false_eq_true, if_false, List.nil_append, List.append_assoc]
    exact List.subset_append_right ..

theorem adds_gateway : ∀ a ∈ (reconcileGateway obs cp).acts,
    Adds cp ((Gateway.objectsAlways cp ++ Gateway.objectsRequiringTokensmith cp true).map
      gatewayObject) a := by
  have hsubset : Gateway.objectsApplied obs.gateway cp ⊆
      Gateway.objectsAlways cp ++ Gateway.objectsRequiringTokensmith cp true := by
    unfold Gateway.objectsApplied
    split_ifs
    · exact List.append_subset.mpr ⟨List.subset_append_left ..,
        List.Subset.trans (objectsRequiringTokensmith_subset _) (List.subset_append_right ..)⟩
    · exact List.subset_append_left ..
  unfold reconcileGateway gatewayRequests
  split_ifs
  · simp
  · simp only [List.forall_mem_append, List.forall_mem_map]
    refine ⟨⟨fun o ho => Or.inl (List.mem_map_of_mem (hsubset ho)), fun _ _ => trivial⟩, ?_⟩
    unfold reportGateway
    split_ifs <;> simp [gatewayDeferred]

theorem buildPolicies_eq {net : Option Network} {ps : List NetworkPolicy.Policy}
    (h : buildPolicies net cp = .ok ps) : ∃ v s k, ps = policiesFor cp v s k := by
  unfold buildPolicies at h
  simp only [bind, Except.bind] at h
  split at h
  · cases h
  · split at h
    · cases h
    · split at h
      · cases h
      · exact ⟨_, _, _, (Except.ok.inj h).symm⟩

/-- The objects of the policies do not depend on what is asked outside. -/
theorem policyObjects_eq {net net' : Option Network} {ps ps' : List NetworkPolicy.Policy}
    (h : buildPolicies net cp = .ok ps) (h' : buildPolicies net' cp = .ok ps') :
    ps.map policyObject = ps'.map policyObject := by
  obtain ⟨v, s, k, rfl⟩ := buildPolicies_eq h
  obtain ⟨v', s', k', rfl⟩ := buildPolicies_eq h'
  rfl

theorem describeNetworkPolicies_ok {objs : List KubeObject}
    (h : describeNetworkPolicies cp = .ok objs) :
    ∃ ps, buildPolicies none cp = .ok ps ∧ objs = ps.map policyObject := by
  unfold describeNetworkPolicies at h
  rcases hbuild : buildPolicies none cp with e | ps
  · rw [hbuild] at h
    cases h
  · rw [hbuild] at h
    exact ⟨ps, rfl, (Except.ok.inj h).symm⟩

theorem adds_networkPolicies {net : Network} {objs : List KubeObject}
    (h : describeNetworkPolicies cp = .ok objs) :
    ∀ a ∈ (reconcileNetworkPolicies net cp).acts, Adds cp objs a := by
  obtain ⟨ps, hps, rfl⟩ := describeNetworkPolicies_ok h
  unfold reconcileNetworkPolicies
  split
  · simp
  · rename_i policies hbuild
    simp only [List.forall_mem_append, List.forall_mem_map]
    refine ⟨fun np hnp => Or.inl ?_, by simp⟩
    rw [← policyObjects_eq hbuild hps]
    exact List.mem_map_of_mem hnp

theorem adds_funicular :
    ∀ a ∈ (reconcileFunicular obs cp).acts, Adds cp (describeFunicular cp) a := by
  unfold reconcileFunicular describeFunicular
  simp only
  by_cases hen : cp.spec.logging.enabled = true
  · simp only [hen, Bool.not_true, Bool.false_eq_true, if_false, if_true]
    split_ifs <;> simp [collectorCondition]
  · simp [hen, collectorCondition]

/-- **What a call applies it also describes**, apart from what is left out. -/
theorem program_adds {isPrint : Char → Bool} {sub : Sub} {objs : List KubeObject}
    (h : describe isPrint cp sub = .ok objs) :
    ∀ a ∈ (program op obs cp sub).acts, Adds cp objs a := by
  cases sub with
  | «namespace» =>
    cases h
    simp [program, reconcileNamespace]
  | rbac =>
    cases h
    simp only [program, reconcileRBAC, List.forall_mem_append, List.forall_mem_map]
    exact ⟨fun name hname => Or.inl (List.mem_append_left _ (List.mem_map_of_mem hname)),
      by simp [describeRBAC]⟩
  | vault =>
    cases h
    exact adds_vault
  | bucket =>
    cases h
    unfold program reconcileBucket
    simp only
    split_ifs <;> simp
  | database =>
    cases h
    exact adds_database
  | serviceIdentity =>
    cases h
    exact adds_serviceIdentity
  | smd =>
    cases h
    exact adds_smd
  | tokensmith =>
    cases h
    exact adds_tokensmith
  | bootService =>
    cases h
    exact adds_consumer .bootService
  | metadataService =>
    cases h
    exact adds_consumer .metadataService
  | networkProbe =>
    cases h
    exact adds_networkProbe
  | coreDHCP => exact adds_coreDHCP h
  | magellan =>
    cases h
    exact adds_magellan
  | certificates =>
    cases h
    exact adds_certificates
  | gateway =>
    cases h
    exact adds_gateway
  | networkPolicies => exact adds_networkPolicies h
  | topology =>
    cases h
    simp [program, reconcileTopology]
  | serviceMonitor =>
    cases h
    simp only [program, reconcileServiceMonitor, List.forall_mem_map]
    exact fun o ho => Or.inl ho
  | logBucket =>
    cases h
    unfold program reconcileLogBucket
    simp only
    split_ifs <;> simp [logBucketRequest]
  | funicular =>
    cases h
    exact adds_funicular
  | logqCompactor =>
    cases h
    unfold program reconcileLogqCompactor
    split_ifs <;> simp_all [compactorCondition]
  | logqQuery =>
    cases h
    unfold program reconcileLogqQuery
    simp only
    split_ifs <;> simp_all

/-- **What a call applies it also describes**, apart from what is left out. -/
theorem program_within {isPrint : Char → Bool} {sub : Sub} {objs : List KubeObject}
    (h : describe isPrint cp sub = .ok objs) :
    ∀ a ∈ (program op obs cp sub).acts, Within cp objs a := by
  intro a ha
  have hadds := @program_adds op obs cp isPrint sub objs h a ha
  unfold Adds at hadds
  unfold Within
  split
  · exact hadds.imp_right leftOut_of_extra
  · trivial

end Programs

/-! ### Whose an object is -/

/-- The kinds of which only one sub-reconciler has objects. -/
def kindOwners : List (String × Sub) :=
  [("ServiceAccount", .rbac), ("Role", .rbac), ("RoleBinding", .rbac), ("VaultConnection", .vault),
   ("VaultAuth", .vault), ("VaultStaticSecret", .vault), ("Cluster", .database),
   ("Database", .database), ("Issuer", .serviceIdentity), ("PersistentVolumeClaim", .tokensmith),
   ("Gateway", .gateway), ("HTTPRoute", .gateway), ("SecurityPolicy", .gateway),
   ("BackendTrafficPolicy", .gateway), ("BackendTLSPolicy", .gateway),
   ("NetworkPolicy", .networkPolicies), ("ServiceMonitor", .serviceMonitor),
   ("CronJob", .logqCompactor)]

/-- The sub-reconciler that describes an object of a kind and a name. -/
def owner (kind : KubeKind) (name : String) : Option Sub :=
  match kind with
  | .namespace => some .namespace
  | .clusterRole | .clusterRoleBinding => some .rbac
  | .other kind =>
    if kind = "Deployment" ∨ kind = "Service" ∨ kind = "PodDisruptionBudget" then serviceWriter name
    else if kind = "DaemonSet" then
      if name = "coredhcp" then some .coreDHCP
      else if name = "funicular-collector" then some .funicular
      else some .networkProbe
    else if kind = "ConfigMap" then
      if name = "coredhcp-config" then some .coreDHCP else some .topology
    else if kind = "Certificate" then
      if hasSuffix name "-gateway-tls" then some .certificates else some .serviceIdentity
    else kindOwners.lookup kind

section Owner

variable {cp : ControlPlane}

theorem openchami_ne {c s t : String} (h : t.toList.head? ≠ some 'o') :
    "openchami-" ++ c ++ s ≠ t := by
  rintro rfl
  simp at h

theorem owner_service (svc : Service) : ∀ o ∈ describeService cp svc,
    owner o.kind o.name = some (serviceSub svc) := by
  cases svc <;> simp [describeService, buildPVC, buildDeployment, buildService, buildPDB, objectIn] <;>
    decide

theorem owner_identity : ∀ o ∈ identityObjects cp, owner o.kind o.name = some .serviceIdentity := by
  have hissuer : ∀ name, owner (.other "Issuer") name = some .serviceIdentity := fun _ => by rfl
  have hcert : ∀ {suffix}, hasSuffix suffix "-gateway-tls" = false →
      hasSuffix "-gateway-tls" suffix = false →
      owner (.other "Certificate") (secretName cp suffix) = some .serviceIdentity := by
    intro suffix hs ht
    have hnot : hasSuffix (secretName cp suffix) "-gateway-tls" = false := not_hasSuffix_append hs ht
    simp [owner, hnot]
  have hclients : ∀ svc ∈ identityClients cp, owner (.other "Certificate")
      (serviceIdentityClientCertSecretName cp svc) = some .serviceIdentity := by
    intro svc _
    cases svc <;> exact hcert (by decide) (by decide)
  unfold identityObjects
  simp only [List.forall_mem_append, List.forall_mem_map, List.forall_mem_cons]
  exact ⟨⟨hissuer _, hcert (by decide) (by decide), hissuer _, hcert (by decide) (by decide),
    by simp⟩, hclients⟩

/-- **The kind and the name of an object tell which call describes it.** -/
theorem owner_of_describe {isPrint : Char → Bool} {sub : Sub} {objs : List KubeObject}
    (h : describe isPrint cp sub = .ok objs) : ∀ o ∈ objs, owner o.kind o.name = some sub := by
  cases sub with
  | «namespace» =>
    cases h
    simp [buildNamespace, owner]
  | rbac =>
    cases h
    simp only [describeRBAC, List.forall_mem_append, List.forall_mem_map]
    exact ⟨fun name _ => rfl, by
      simp [buildConfigReaderRole, buildConfigReaderRoleBinding, buildNetworkProbeClusterRole,
        buildNetworkProbeClusterRoleBinding, owner, objectIn, kindOwners, List.lookup_cons]⟩
  | vault =>
    cases h
    simp only [vsoObjects, List.forall_mem_append, List.forall_mem_map, List.forall_mem_cons]
    exact ⟨⟨rfl, rfl, by simp⟩, fun _ _ => rfl⟩
  | bucket | magellan | logBucket =>
    cases h
    simp
  | database =>
    cases h
    simp only [describeDatabase, List.forall_mem_cons, List.forall_mem_map]
    exact ⟨rfl, fun _ _ => rfl⟩
  | serviceIdentity =>
    cases h
    exact owner_identity
  | smd =>
    cases h
    exact owner_service .smd
  | tokensmith =>
    cases h
    exact owner_service .tokensmith
  | bootService =>
    cases h
    exact owner_service .bootService
  | metadataService =>
    cases h
    exact owner_service .metadataService
  | networkProbe =>
    cases h
    have hds : owner (buildProbeDaemonSet cp).kind (buildProbeDaemonSet cp).name =
        some .networkProbe := by
      have hdhcp : (buildProbeDaemonSet cp).name ≠ "coredhcp" := openchami_ne (by decide)
      have hlogs : (buildProbeDaemonSet cp).name ≠ "funicular-collector" := openchami_ne (by decide)
      have hkind : (buildProbeDaemonSet cp).kind = .other "DaemonSet" := rfl
      rw [hkind, owner]
      simp [hdhcp, hlogs]
    unfold describeNetworkProbe
    split_ifs <;> simp [hds]
  | coreDHCP =>
    rw [describeCoreDHCP_ok h]
    split_ifs
    · simp only [List.forall_mem_cons]
      exact ⟨rfl, rfl, by simp⟩
    · simp
  | certificates =>
    cases h
    simp [owner, buildCertificate, objectIn]
  | gateway =>
    cases h
    simp only [List.forall_mem_map]
    intro o _
    cases o <;> rfl
  | networkPolicies =>
    obtain ⟨ps, -, rfl⟩ := describeNetworkPolicies_ok h
    simp only [List.forall_mem_map]
    exact fun _ _ => rfl
  | topology =>
    cases h
    have hname : (buildTopologyConfigMap cp).name ≠ "coredhcp-config" := openchami_ne (by decide)
    have hkind : (buildTopologyConfigMap cp).kind = .other "ConfigMap" := rfl
    rw [List.forall_mem_singleton, hkind, owner]
    simp [hname]
  | serviceMonitor =>
    cases h
    unfold describeServiceMonitor
    split_ifs
    · simp only [List.forall_mem_singleton]
      rfl
    · simp
  | funicular =>
    cases h
    unfold describeFunicular
    split_ifs
    · simp only [List.forall_mem_singleton]
      rfl
    · simp
  | logqCompactor =>
    cases h
    split_ifs
    · simp only [List.forall_mem_singleton]
      rfl
    · simp
  | logqQuery =>
    cases h
    split_ifs
    · simp only [List.forall_mem_cons]
      exact ⟨rfl, rfl, by simp⟩
    · simp

end Owner

end OpenchamiOperator.Admin
