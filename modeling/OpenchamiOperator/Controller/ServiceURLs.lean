import OpenchamiOperator.Controller.SwitchedOff

/-! # One address for each service

The address of a service is derived in four places: by `ServiceURL` and `TokensmithBaseURL` for the
environments of its consumers, by the sub-reconciler of the service for the status, and by the
topology document. `canonicalURL` says what it should be.

* `envValues_uses`: the consumers get what `ServiceURL` and `TokensmithBaseURL` give.
* `endpoint_of_mem_writes`: the status gets the address of the listener.
* `oneURL_iff`: when all four agree. -/

namespace OpenchamiOperator.Controller

open Lib Api Reconcilers

/-! ### Addresses -/

/-- The address of a service: the one it is given, or that of its listener behind its Service. -/
def canonicalURL (cp : ControlPlane) (svc : Service) : String :=
  match (serviceDefaults cp svc).externalEndpoint with
  | some url => url
  | none => clusterURL cp (listenScheme cp svc) svc (listenPort svc)

/-- What the operator gives out as the address of a service. -/
def advertisedURL (cp : ControlPlane) (svc : Service) : String :=
  if svc = .tokensmith then tokensmithURL cp else serviceURL cp svc

/-- A variable by which a consumer finds a service, and what is appended to the address in it. -/
structure Use where
  consumer : Service
  name : String
  path : String

/-- The consumers of a service. -/
def uses : Service → List Use
  | .smd => [⟨.bootService, "BOOT_SERVICE_HSM_URL", ""⟩, ⟨.metadataService, "SMD_URL", ""⟩]
  | .tokensmith =>
    [⟨.smd, "SMD_JWKS_URL", "/.well-known/jwks.json"⟩,
     ⟨.bootService, "BOOT_SERVICE_TOKENSMITH_URL", ""⟩,
     ⟨.bootService, "BOOT_SERVICE_JWKS_URL", "/.well-known/jwks.json"⟩,
     ⟨.metadataService, "TOKENSMITH_URL", ""⟩,
     ⟨.metadataService, "JWKS_URL", "/.well-known/jwks.json"⟩]
  | .bootService | .metadataService => []

/-- What an environment has under a name. -/
def envValues (env : List EnvVar) (name : String) : List EnvVarSource :=
  (env.filter fun v => v.name = name).map EnvVar.source

/-- All derivations of the address of a service agree with `canonicalURL`. -/
structure OneURL (cp : ControlPlane) (svc : Service) : Prop where
  advertised : advertisedURL cp svc = canonicalURL cp svc
  consumers : ∀ use ∈ uses svc, envValues (serviceEnv cp use.consumer) use.name =
    [.value (canonicalURL cp svc ++ use.path)]
  status : ∀ (op : Operator) (obs : Observed) (st : ServiceStatus),
    .service svc.name st ∈ (program op obs cp (serviceSub svc)).writes →
      st.endpoint = canonicalURL cp svc
  topology : ((buildTopology cp).services svc).endpoint = canonicalURL cp svc

/-! ### The derivations -/

section Derivations

variable {cp : ControlPlane} {svc : Service}

theorem envValues_append (l l' : List EnvVar) (name : String) :
    envValues (l ++ l') name = envValues l name ++ envValues l' name := by
  unfold envValues
  rw [List.filter_append, List.map_append]

/-- The variables of a client certificate have other names. -/
theorem envValues_identityEnv {pre name : String}
    (hcert : pre ++ "TOKENSMITH_SERVICE_IDENTITY_CERT" ≠ name)
    (hkey : pre ++ "TOKENSMITH_SERVICE_IDENTITY_KEY" ≠ name) :
    envValues (identityEnv cp pre) name = [] := by
  unfold envValues identityEnv
  split_ifs <;> simp [hcert, hkey]

/-- Every consumer gets the advertised address. -/
theorem envValues_uses : ∀ use ∈ uses svc, envValues (serviceEnv cp use.consumer) use.name =
    [.value (advertisedURL cp svc ++ use.path)] := by
  cases svc with
  | smd =>
    simp only [uses, List.forall_mem_cons, serviceEnv, bootServiceEnv, metadataServiceEnv,
      envValues_append]
    rw [envValues_identityEnv (by decide) (by decide), envValues_identityEnv (by decide) (by decide)]
    simp [envValues, secretEnv, advertisedURL]
  | tokensmith =>
    simp only [uses, List.forall_mem_cons, serviceEnv, smdEnv, bootServiceEnv, metadataServiceEnv,
      envValues_append]
    rw [envValues_identityEnv (by decide) (by decide), envValues_identityEnv (by decide) (by decide),
      envValues_identityEnv (by decide) (by decide), envValues_identityEnv (by decide) (by decide)]
    simp [envValues, secretEnv, advertisedURL]
  | bootService => simp [uses]
  | metadataService => simp [uses]

/-- A deployment reports the address of the listener. -/
theorem endpoint_of_mem_deployService {obs : Observed} {st : ServiceStatus} {after : List Act}
    (hafter : after.filterMap Act.write? = [])
    (h : .service svc.name st ∈ (deployService obs cp svc after).writes) :
    st.endpoint = statusEndpoint cp svc := by
  unfold deployService Program.writes at h
  simp only at h
  split at h
  · simp [applying, Act.write?] at h
  · split_ifs at h
    all_goals
      simp [applying, reading, hafter] at h
      rw [h]

/-- **The status**: a service that is deployed reports the address of its listener, any other
nothing. -/
theorem endpoint_of_mem_writes {op : Operator} {obs : Observed} {st : ServiceStatus}
    (h : .service svc.name st ∈ (program op obs cp (serviceSub svc)).writes) :
    serviceDeployedInCluster cp svc = true ∧ st.endpoint = statusEndpoint cp svc := by
  by_cases hon : serviceDeployedInCluster cp svc = true
  · refine ⟨hon, ?_⟩
    cases svc with
    | smd =>
      simp [program, serviceSub, reconcileSMD, hon, Program.writes, applying, reading] at h
      rw [h.2]
    | tokensmith =>
      have hprogram : program op obs cp (serviceSub .tokensmith) = reconcileTokensmith obs cp := rfl
      rw [hprogram] at h
      unfold reconcileTokensmith at h
      simp only [hon, Bool.not_true, Bool.false_eq_true, if_false] at h
      split_ifs at h
      · simp [Program.writes, Act.write?] at h
      · exact endpoint_of_mem_deployService (writes_provisionServiceBootstrapTokens obs cp) h
    | bootService =>
      simp only [program, serviceSub, reconcileBootService, reconcileConsumer, hon] at h
      exact endpoint_of_mem_deployService rfl h
    | metadataService =>
      simp only [program, serviceSub, reconcileMetadataService, reconcileConsumer, hon] at h
      exact endpoint_of_mem_deployService rfl h
  · have hoff := Bool.eq_false_iff.mpr hon
    unfold Program.writes at h
    rw [acts_of_off hoff] at h
    simp at h

theorem topology_endpoint : ((buildTopology cp).services svc).endpoint =
    clusterURL cp "http" svc (listenPort svc) := by
  cases svc <;> rfl

end Derivations

/-! ### Agreement -/

section Agreement

variable {cp : ControlPlane} {svc : Service}

/-- What the webhook asks of an external endpoint. -/
theorem external_of_admitted {listing : Option (List ControlPlane)} {url : String}
    (hadmitted : (Webhook.validate listing cp).2 = none)
    (hurl : (serviceDefaults cp svc).externalEndpoint = some url) :
    (serviceDefaults cp svc).enabled = false ∧ Webhook.isHTTPURL url = true := by
  cases listing with
  | none => simp [Webhook.validate] at hadmitted
  | some stored =>
    have hown := (Webhook.validationErrors_eq_nil.mp (Webhook.validate_admits.mp hadmitted)).1
    unfold Webhook.ownErrors at hown
    simp only [List.append_eq_nil_iff, Webhook.externallyOverridableServices, List.flatMap_cons,
      List.flatMap_nil] at hown
    obtain ⟨⟨⟨⟨-, hsmd, htokensmith, hboot, hmetadata, -⟩, -⟩, -⟩, -⟩ := hown
    have hrule : ∀ {name : String} {d : ServiceDefaults}, d.externalEndpoint = some url →
        Webhook.validateExternalEndpoint name d = [] →
          d.enabled = false ∧ Webhook.isHTTPURL url = true := by
      intro name d hd hnil
      unfold Webhook.validateExternalEndpoint at hnil
      simpa [hd, Webhook.errIf_eq_nil] using hnil
    cases svc with
    | smd => exact hrule hurl hsmd
    | tokensmith => exact hrule hurl htokensmith
    | bootService => exact hrule hurl hboot
    | metadataService => exact hrule hurl hmetadata

theorem ne_empty_of_isHTTPURL {url : String} (h : Webhook.isHTTPURL url = true) : url ≠ "" := by
  rintro rfl
  revert h
  decide

theorem advertisedURL_external {url : String} (hne : url ≠ "")
    (hurl : (serviceDefaults cp svc).externalEndpoint = some url) : advertisedURL cp svc = url := by
  have hserviceURL : serviceURL cp svc = url := by simp [serviceURL, externalEndpointFor, hurl, hne]
  cases svc with
  | tokensmith =>
    have hbase : tokensmithBaseURL cp = url := by
      simp [tokensmithBaseURL, externalEndpointFor, hurl, hne]
    simp [advertisedURL, tokensmithURL, hbase, hserviceURL]
  | smd => simpa [advertisedURL] using hserviceURL
  | bootService => simpa [advertisedURL] using hserviceURL
  | metadataService => simpa [advertisedURL] using hserviceURL

theorem serviceURL_cluster (hurl : (serviceDefaults cp svc).externalEndpoint = none) :
    serviceURL cp svc = clusterURL cp "http" svc (servicePort svc) := by
  simp [serviceURL, externalEndpointFor, hurl, clusterURL]

theorem clusterURL_scheme_inj {a b : String} {port : ℕ}
    (h : clusterURL cp a svc port = clusterURL cp b svc port) : a = b := by
  unfold clusterURL at h
  simpa only [String.append_left_inj] using h

theorem clusterURL_port_inj {scheme : String} {a b : ℕ}
    (h : clusterURL cp scheme svc a = clusterURL cp scheme svc b) : toString a = toString b := by
  unfold clusterURL at h
  exact (String.append_right_inj _).mp h

/-- **One address for each service**: the derivations agree for a service in the cluster that does
not listen with TLS, the metadata service apart, and for an external service whose address is the
one it would have in the cluster. -/
theorem oneURL_iff {listing : Option (List ControlPlane)} (cp : ControlPlane) (svc : Service)
    (hadmitted : (Webhook.validate listing cp).2 = none) :
    OneURL cp svc ↔ match (serviceDefaults cp svc).externalEndpoint with
      | none => (serviceDefaults cp svc).tls.enabled = false ∧ svc ≠ .metadataService
      | some url => url = clusterURL cp "http" svc (listenPort svc) := by
  cases hurl : (serviceDefaults cp svc).externalEndpoint with
  | some url =>
    have hcanonical : canonicalURL cp svc = url := by simp [canonicalURL, hurl]
    have hne := ne_empty_of_isHTTPURL (external_of_admitted hadmitted hurl).2
    constructor
    · intro h
      rw [← hcanonical, ← h.topology, topology_endpoint]
    · intro h
      refine ⟨?_, fun use huse => ?_, fun op obs st hst => ?_, ?_⟩
      · rw [hcanonical, advertisedURL_external hne hurl]
      · rw [envValues_uses use huse, hcanonical, advertisedURL_external hne hurl]
      · have hdeployed := (endpoint_of_mem_writes hst).1
        simp [serviceDeployedInCluster, hurl] at hdeployed
      · rw [topology_endpoint, hcanonical, h]
  | none =>
    have hcanonical : canonicalURL cp svc = statusEndpoint cp svc := by
      simp [canonicalURL, hurl, statusEndpoint]
    constructor
    · intro h
      have hscheme : "http" = listenScheme cp svc := by
        have htopology := h.topology
        rw [topology_endpoint, hcanonical] at htopology
        exact clusterURL_scheme_inj htopology
      refine ⟨?_, ?_⟩
      · by_contra htls
        have hhttps : listenScheme cp svc = "https" := by simpa [listenScheme] using htls
        rw [hhttps] at hscheme
        exact absurd hscheme (by decide)
      · rintro rfl
        have hadvertised := h.advertised
        rw [hcanonical, statusEndpoint, ← hscheme] at hadvertised
        have hport : toString (servicePort .metadataService) =
            toString (listenPort .metadataService) :=
          clusterURL_port_inj ((serviceURL_cluster hurl).symm.trans hadvertised)
        exact absurd hport (by decide)
    · rintro ⟨htls, hsvc⟩
      have hport : servicePort svc = listenPort svc := by
        cases svc with
        | metadataService => exact absurd rfl hsvc
        | smd | tokensmith | bootService => rfl
      have hstatus : statusEndpoint cp svc = clusterURL cp "http" svc (listenPort svc) := by
        simp [statusEndpoint, listenScheme, htls]
      have hadvertised : advertisedURL cp svc = statusEndpoint cp svc := by
        rw [hstatus, ← hport, ← serviceURL_cluster hurl]
        unfold advertisedURL
        split_ifs with h
        · subst h
          have hmtls : tokensmithMTLSEnabled cp = false := htls
          simp [tokensmithURL, hmtls]
        · rfl
      refine ⟨?_, fun use huse => ?_, fun op obs st hst => ?_, ?_⟩
      · rw [hcanonical, hadvertised]
      · rw [envValues_uses use huse, hcanonical, hadvertised]
      · rw [(endpoint_of_mem_writes hst).2, hcanonical]
      · rw [topology_endpoint, hcanonical, hstatus]

/-- SMD in a cluster without TLS. -/
theorem oneURL_smd : (Webhook.validate (some []) (site true)).2 = none ∧ OneURL (site true) .smd := by
  have hadmitted : (Webhook.validate (some []) (site true)).2 = none := by decide
  exact ⟨hadmitted, (oneURL_iff (site true) .smd hadmitted).mpr ⟨rfl, by decide⟩⟩

/-- The metadata service is advertised at a port where nothing listens. -/
theorem oneURL_fails : (Webhook.validate (some []) (site true)).2 = none ∧
    advertisedURL (site true) .metadataService =
      "http://metadata-service.openchami-alpha.svc.cluster.local:27770" ∧
    statusEndpoint (site true) .metadataService =
      "http://metadata-service.openchami-alpha.svc.cluster.local:8081" ∧
    ¬ OneURL (site true) .metadataService := by
  refine ⟨by decide, by decide, by decide, fun h => absurd h.advertised (by decide)⟩

end Agreement

end OpenchamiOperator.Controller
