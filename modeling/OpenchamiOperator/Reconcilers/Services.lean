import OpenchamiOperator.Lib.Rfc3339
import OpenchamiOperator.Lib.Url
import OpenchamiOperator.Reconcilers.Observed

/-! # The HTTP services

The sub-reconcilers of SMD, tokensmith, the boot service and the metadata service (`smd.go`,
`tokensmith.go`, `tokensmith_bootstrap.go`, `boot_service.go`, `metadata_service.go` of
`internal/reconcilers`), with the environments of their containers. -/

namespace OpenchamiOperator.Reconcilers

open Lib Strings Api Controller

/-! ### Addresses -/

/-- `smdPort`, `tokensmithPort`, `bootServicePort`, `metadataServicePort`: the port of the container
and of the Service. -/
def listenPort : Service → ℕ
  | .smd => 27779
  | .tokensmith => 8080
  | .bootService => 27778
  | .metadataService => 8081

/-- The address of a Service in the cluster. -/
def clusterURL (cp : ControlPlane) (scheme : String) (svc : Service) (port : ℕ) : String :=
  scheme ++ "://" ++ svc.name ++ "." ++ controlPlaneNamespace cp ++ ".svc.cluster.local:" ++
    toString port

/-- The scheme of the listener, which its probes use. -/
def listenScheme (cp : ControlPlane) (svc : Service) : String :=
  if (serviceDefaults cp svc).tls.enabled then "https" else "http"

/-- The endpoint of a service in the status. -/
def statusEndpoint (cp : ControlPlane) (svc : Service) : String :=
  clusterURL cp (listenScheme cp svc) svc (listenPort svc)

/-- `bootServiceTokensmithURL`; SMD and the metadata service do the same in place. -/
def tokensmithURL (cp : ControlPlane) : String :=
  if tokensmithMTLSEnabled cp then tokensmithBaseURL cp else serviceURL cp .tokensmith

/-- `VaultAddress`. -/
def vaultAddress (cp : ControlPlane) : String := trimSpace cp.spec.platform.vault.address

/-- `strings.TrimRight(s, "/")`. -/
def trimSlashes (s : String) : String :=
  String.ofList (s.toList.reverse.dropWhile (· = '/')).reverse

/-- `VaultOIDCIssuerBase`. -/
def vaultOIDCIssuerBase (cp : ControlPlane) : String :=
  let issuer := trimSpace cp.spec.platform.vault.oidcIssuer
  let source := if issuer = "" then vaultAddress cp else issuer
  match Url.parse source with
  | none => trimSlashes (trimSuffix source "/")
  | some u =>
    if u.scheme = "" ∨ u.host = "" then trimSlashes (trimSuffix source "/")
    else u.scheme ++ "://" ++ u.host

/-- `VaultOIDCProviderURL`. -/
def vaultOIDCProviderURL (cp : ControlPlane) : String :=
  vaultOIDCIssuerBase cp ++ "/v1/identity/oidc/provider/openchami"

/-! ### Environments -/

/-- A variable with a key of one of the cluster's Secrets. -/
def secretEnv (cp : ControlPlane) (name suffix key : String) (optional : Bool := false) : EnvVar :=
  ⟨name, .secretKeyRef (secretName cp suffix) key optional⟩

/-- The read-write address of the database. -/
def postgresRWHost (cp : ControlPlane) : String :=
  "openchami-" ++ cp.spec.clusterName ++ "-postgres-rw." ++ controlPlaneNamespace cp ++
    ".svc.cluster.local"

/-- The environment of the SMD container. -/
def smdEnv (cp : ControlPlane) : List EnvVar :=
  [⟨"SMD_DBHOST", .value (postgresRWHost cp)⟩, ⟨"SMD_DBPORT", .value "5432"⟩,
   ⟨"SMD_DBNAME", .value "smd"⟩, ⟨"SMD_DBUSER", .value "smd"⟩,
   secretEnv cp "SMD_DBPASS" "smd-db" "password",
   ⟨"SMD_JWKS_URL", .value (tokensmithURL cp ++ "/.well-known/jwks.json")⟩]

/-- The variables by which tokensmith finds its provider. -/
def tokensmithProviderEnv (cp : ControlPlane) : List EnvVar :=
  if cp.spec.services.tokensmith.oidcProvider = "vault" then
    [⟨"TOKENSMITH_OIDC_PROVIDER", .value (vaultOIDCProviderURL cp)⟩,
     ⟨"TOKENSMITH_OIDC_PROVIDER_MODE", .value "vault"⟩]
  else if cp.spec.services.tokensmith.oidcProvider = "external" then
    [⟨"TOKENSMITH_OIDC_PROVIDER", .value cp.spec.services.tokensmith.oidcIssuerURL⟩]
  else []

/-- The environment of the tokensmith container. -/
def tokensmithEnv (cp : ControlPlane) : List EnvVar :=
  let introspection := trimSpace cp.spec.services.tokensmith.oidcIntrospectionEndpoint
  [secretEnv cp "OIDC_CLIENT_ID" "tokensmith-oidc" "client_id",
   secretEnv cp "OIDC_CLIENT_SECRET" "tokensmith-oidc" "client_secret",
   ⟨"TOKENSMITH_CONFIG", .value ""⟩,
   ⟨"TOKENSMITH_KEY_DIR", .value "/var/lib/tokensmith/keys"⟩,
   ⟨"TOKENSMITH_RFC8693_BOOTSTRAP_STORE", .value "/var/lib/tokensmith/bootstrap-tokens"⟩,
   ⟨"TOKENSMITH_RFC8693_REFRESH_STORE", .value "/var/lib/tokensmith/refresh-tokens"⟩,
   ⟨"TOKENSMITH_ISSUER", .value ("https://" ++ cp.spec.domain)⟩] ++
  tokensmithProviderEnv cp ++
  (if introspection ≠ "" then
    [⟨"TOKENSMITH_OIDC_INTROSPECTION_ENDPOINT", .value introspection⟩] else []) ++
  if tokensmithMTLSEnabled cp then
    [⟨"TOKENSMITH_TLS_CERT_FILE", .value "/etc/tokensmith/tls/tls.crt"⟩,
     ⟨"TOKENSMITH_TLS_KEY_FILE", .value "/etc/tokensmith/tls/tls.key"⟩,
     ⟨"TOKENSMITH_SERVICE_IDENTITY_CA", .value "/etc/tokensmith/tls/ca.crt"⟩]
  else []

/-- The variables of a client certificate. -/
def identityEnv (cp : ControlPlane) (pre : String) : List EnvVar :=
  if tokensmithMTLSEnabled cp then
    [⟨pre ++ "TOKENSMITH_SERVICE_IDENTITY_CERT",
       .value "/etc/openchami/service-identity/tls.crt"⟩,
     ⟨pre ++ "TOKENSMITH_SERVICE_IDENTITY_KEY",
       .value "/etc/openchami/service-identity/tls.key"⟩]
  else []

/-- The environment of the boot service. -/
def bootServiceEnv (cp : ControlPlane) : List EnvVar :=
  [⟨"BOOT_SERVICE_PORT", .value (toString (listenPort .bootService))⟩,
   ⟨"BOOT_SERVICE_DBHOST", .value (postgresRWHost cp)⟩, ⟨"BOOT_SERVICE_DBPORT", .value "5432"⟩,
   ⟨"BOOT_SERVICE_DBNAME", .value "boot_service"⟩, ⟨"BOOT_SERVICE_DBUSER", .value "boot_service"⟩,
   secretEnv cp "BOOT_SERVICE_DBPASS" "boot-service-db" "password",
   ⟨"BOOT_SERVICE_HSM_URL", .value (serviceURL cp .smd)⟩,
   ⟨"BOOT_SERVICE_ENABLE_AUTH", .value "true"⟩,
   ⟨"BOOT_SERVICE_TOKENSMITH_URL", .value (tokensmithURL cp)⟩,
   ⟨"BOOT_SERVICE_TOKENSMITH_TARGET_SERVICE", .value "hsm"⟩,
   secretEnv cp "BOOT_SERVICE_TOKENSMITH_BOOTSTRAP_TOKEN" "boot-service-bootstrap-token" "token"
     true,
   ⟨"BOOT_SERVICE_JWKS_URL", .value (tokensmithURL cp ++ "/.well-known/jwks.json")⟩,
   ⟨"BOOT_SERVICE_S3_ENDPOINT", .value cp.spec.platform.objectStorage.endpoint⟩,
   ⟨"BOOT_SERVICE_S3_BUCKET", .value (bootBucketName cp)⟩,
   secretEnv cp "BOOT_SERVICE_S3_ACCESS_KEY" "s3-credentials" "access_key",
   secretEnv cp "BOOT_SERVICE_S3_SECRET_KEY" "s3-credentials" "secret_key"] ++
  identityEnv cp "BOOT_SERVICE_"

/-- The environment of the metadata service. -/
def metadataServiceEnv (cp : ControlPlane) : List EnvVar :=
  [⟨"SMD_URL", .value (serviceURL cp .smd)⟩, ⟨"TOKENSMITH_URL", .value (tokensmithURL cp)⟩,
   ⟨"TOKENSMITH_TARGET_SERVICE", .value "hsm"⟩,
   secretEnv cp "TOKENSMITH_BOOTSTRAP_TOKEN" "metadata-service-bootstrap-token" "token" true,
   ⟨"JWKS_URL", .value (tokensmithURL cp ++ "/.well-known/jwks.json")⟩] ++
  identityEnv cp ""

/-- The environment of a service's container. -/
def serviceEnv (cp : ControlPlane) : Service → List EnvVar
  | .smd => smdEnv cp
  | .tokensmith => tokensmithEnv cp
  | .bootService => bootServiceEnv cp
  | .metadataService => metadataServiceEnv cp

/-! ### Programs -/

def buildDeployment (cp : ControlPlane) (svc : Service) : KubeObject :=
  objectIn cp "Deployment" svc.name

def buildService (cp : ControlPlane) (svc : Service) : KubeObject := objectIn cp "Service" svc.name

def buildPDB (cp : ControlPlane) (svc : Service) : KubeObject :=
  objectIn cp "PodDisruptionBudget" svc.name

/-- `TokensmithReconciler.buildPVC`. -/
def buildPVC (cp : ControlPlane) : KubeObject :=
  objectIn cp "PersistentVolumeClaim" "tokensmith-data"

/-- `Describe` of a service, whether or not it is deployed. -/
def describeService (cp : ControlPlane) (svc : Service) : List KubeObject :=
  (if svc = .tokensmith then [buildPVC cp] else []) ++
    [buildDeployment cp svc, buildService cp svc, buildPDB cp svc]

/-- `SMDReconciler.Reconcile`; a Deployment that is not there yet has no replicas. -/
def reconcileSMD (obs : Observed) (cp : ControlPlane) : Program :=
  if !serviceDeployedInCluster cp .smd then {}
  else
    let available := (obs.deployments "smd").getD 0
    let ready := decide (1 ≤ available)
    { acts :=
        [applying "applying smd deployment" (buildDeployment cp .smd),
         applying "applying smd service" (buildService cp .smd),
         applying "applying smd pdb" (buildPDB cp .smd),
         reading "reading smd deployment status",
         .write (.service "smd"
           { ready := ready
             endpoint := statusEndpoint cp .smd
             message := if ready then "smd deployment available"
               else "availableReplicas=" ++ Strconv.formatInt available })]
      requeueAfter := if ready then 0 else 30 }

/-- The three objects of one of the other services, and the look at its Deployment; `after` is what
follows once it is available. -/
def deployService (obs : Observed) (cp : ControlPlane) (svc : Service) (after : List Act) : Program :=
  let apply :=
    [applying ("applying " ++ svc.name ++ " Deployment") (buildDeployment cp svc),
     applying ("applying " ++ svc.name ++ " Service") (buildService cp svc),
     applying ("applying " ++ svc.name ++ " PodDisruptionBudget") (buildPDB cp svc)]
  let context := "reading " ++ svc.name ++ " Deployment status"
  match obs.deployments svc.name with
  | none => { acts := apply ++ [.stop ⟨context, .notFound⟩] }
  | some available =>
    let status : String → ServiceStatus := fun message =>
      { ready := decide (1 ≤ available), endpoint := statusEndpoint cp svc, message := message }
    if 1 ≤ available then
      { acts := apply ++ [reading context,
          .write (.service svc.name (status (svc.name ++ " Deployment available")))] ++ after }
    else
      { acts := apply ++ [reading context,
          .write (.service svc.name (status ("waiting for " ++ svc.name ++
            " Deployment (availableReplicas=" ++ Strconv.formatInt available ++ ")")))]
        requeueAfter := 30 }

def bootstrapTokenRefreshAge : ℤ := 1800 * Rfc3339.second

/-- `BootstrapTokenMintedAtAnnotation`. -/
def bootstrapTokenMintedAt : String := "openchami.org/bootstrap-token-minted-at"

/-- `isBootstrapTokenFresh`. -/
def isBootstrapTokenFresh (obs : Observed) (s : SecretView) : Bool :=
  (s.data.get? "token").isSome &&
    let stamp := s.annotations.getD bootstrapTokenMintedAt ""
    stamp ≠ "" && (obs.parseTime stamp).any fun t => obs.now - t < bootstrapTokenRefreshAge

/-- `provisionBootstrapToken`. -/
def provisionBootstrapToken (obs : Observed) (cp : ControlPlane) (svc : Service) : List Act :=
  let name := secretName cp (svc.name ++ "-bootstrap-token")
  let context := "provisioning service bootstrap tokens: "
  reading (context ++ "reading " ++ svc.name ++ " bootstrap-token Secret") ::
  if (obs.secrets name).any (isBootstrapTokenFresh obs) then []
  else
    [.request .none (context ++ "minting " ++ svc.name ++ " bootstrap token"),
     applying (context ++ "applying " ++ svc.name ++ " bootstrap-token Secret")
       (objectIn cp "Secret" name)]

/-- `provisionServiceBootstrapTokens`. -/
def provisionServiceBootstrapTokens (obs : Observed) (cp : ControlPlane) : List Act :=
  if !obs.execAvailable then []
  else ([Service.bootService, .metadataService].filter (serviceDeployedInCluster cp)).flatMap
    (provisionBootstrapToken obs cp)

/-- `TokensmithReconciler.Reconcile`. -/
def reconcileTokensmith (obs : Observed) (cp : ControlPlane) : Program :=
  let message := "tokensmith oidcProvider=external requires oidcIssuerURL"
  if !serviceDeployedInCluster cp .tokensmith then {}
  else if cp.spec.services.tokensmith.oidcProvider = "external" ∧
      cp.spec.services.tokensmith.oidcIssuerURL = "" then
    { acts := [.stop ⟨message, .failed⟩ []
        [conditionEvent .warning "OIDCConfigInvalid" message]] }
  else
    let rest := deployService obs cp .tokensmith (provisionServiceBootstrapTokens obs cp)
    { rest with acts := applying "applying tokensmith PVC" (buildPVC cp) :: rest.acts }

/-- `BootServiceReconciler.Reconcile` and `MetadataServiceReconciler.Reconcile`. -/
def reconcileConsumer (svc : Service) (obs : Observed) (cp : ControlPlane) : Program :=
  if !serviceDeployedInCluster cp svc then {} else deployService obs cp svc []

def reconcileBootService : Observed → ControlPlane → Program := reconcileConsumer .bootService

def reconcileMetadataService : Observed → ControlPlane → Program :=
  reconcileConsumer .metadataService

/-! ### What the calls apply and write -/

section Calls

variable (obs : Observed) (cp : ControlPlane)

theorem applied_deployService (svc : Service) (after : List Act) :
    ∀ o ∈ [buildDeployment cp svc, buildService cp svc, buildPDB cp svc],
      o ∈ (deployService obs cp svc after).applied := by
  unfold deployService Program.applied
  simp only
  split
  · simp [applying]
  · split_ifs <;> simp [applying, reading]

theorem writes_provisionBootstrapToken (svc : Service) :
    (provisionBootstrapToken obs cp svc).filterMap Act.write? = [] := by
  unfold provisionBootstrapToken
  simp only
  split_ifs <;> simp [applying, reading]

/-- The bootstrap tokens leave the status alone. -/
theorem writes_provisionServiceBootstrapTokens :
    (provisionServiceBootstrapTokens obs cp).filterMap Act.write? = [] := by
  unfold provisionServiceBootstrapTokens
  split_ifs
  · rfl
  · rw [List.filterMap_flatMap]
    simp only [writes_provisionBootstrapToken]
    simp

end Calls

end OpenchamiOperator.Reconcilers
