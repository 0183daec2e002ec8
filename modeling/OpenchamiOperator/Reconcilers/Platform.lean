import OpenchamiOperator.Reconcilers.Observed
import OpenchamiOperator.Vault.Paths

/-! # The platform reconcilers

The first sub-reconcilers of a pass: the namespace, the accounts, Vault, the boot bucket, the database
and the certificates by which services know each other (`namespace.go`, `rbac.go`, `vault.go`,
`bucket.go`, `database.go`, `service_identity.go` of `internal/reconcilers`). -/

namespace OpenchamiOperator.Reconcilers

open Lib Api Controller

/-! ### Namespace and accounts -/

def buildNamespace (cp : ControlPlane) : KubeObject where
  kind := .namespace
  name := controlPlaneNamespace cp

/-- `NamespaceReconciler.Reconcile`. -/
def reconcileNamespace (cp : ControlPlane) : Program where
  acts :=
    [.request (.apply (buildNamespace cp)) "reconciling namespace"
        [.condition .namespaceReady .false Reason.error
          (errorText "failed to reconcile namespace")],
     .write (.condition .namespaceReady .true Reason.ready "Namespace exists with correct labels"),
     .write (.field .namespace (controlPlaneNamespace cp))]

def configReaderName : String := "operator-config-reader"

def serviceAccountNames : List String :=
  ["smd", "tokensmith", "boot-service", "metadata-service", "coredhcp", "magellan", "network-probe",
   "funicular-collector", configReaderName]

def buildServiceAccount (cp : ControlPlane) (name : String) : KubeObject :=
  objectIn cp "ServiceAccount" name

def buildConfigReaderRole (cp : ControlPlane) : KubeObject := objectIn cp "Role" configReaderName

def buildConfigReaderRoleBinding (cp : ControlPlane) : KubeObject :=
  objectIn cp "RoleBinding" configReaderName

def buildNetworkProbeClusterRole (cp : ControlPlane) : KubeObject where
  kind := .clusterRole
  name := networkProbeRoleName cp

def buildNetworkProbeClusterRoleBinding (cp : ControlPlane) : KubeObject where
  kind := .clusterRoleBinding
  name := networkProbeRoleName cp

/-- `RBACReconciler.Reconcile`. -/
def reconcileRBAC (cp : ControlPlane) : Program where
  acts :=
    (serviceAccountNames.map fun name =>
      applying ("reconciling service account " ++ name) (buildServiceAccount cp name)) ++
    [applying "reconciling config-reader role" (buildConfigReaderRole cp),
     applying "reconciling config-reader rolebinding" (buildConfigReaderRoleBinding cp),
     applying "reconciling network-probe clusterrole" (buildNetworkProbeClusterRole cp),
     applying "reconciling network-probe clusterrolebinding" (buildNetworkProbeClusterRoleBinding cp)]

/-- `RBACReconciler.Describe`. -/
def describeRBAC (cp : ControlPlane) : List KubeObject :=
  serviceAccountNames.map (buildServiceAccount cp) ++
    [buildConfigReaderRole cp, buildConfigReaderRoleBinding cp, buildNetworkProbeClusterRole cp,
     buildNetworkProbeClusterRoleBinding cp]

/-! ### Vault -/

/-- The suffixes of `vssEntries`. -/
def vssSuffixes : List String :=
  ["smd-db", "boot-service-db", "s3-credentials", "log-credentials", "tokensmith-oidc"]

/-- The objects of the Vault Secrets Operator. -/
def vsoObjects (cp : ControlPlane) : List KubeObject :=
  [objectIn cp "VaultConnection" ("openchami-" ++ cp.spec.clusterName),
   objectIn cp "VaultAuth" ("openchami-" ++ cp.spec.clusterName)] ++
  vssSuffixes.map fun suffix => objectIn cp "VaultStaticSecret" (secretName cp suffix)

/-- The condition of `VaultReconciler.fail`. -/
def vaultFailed (message : String) : List StatusWrite :=
  [.condition .vaultConfigured .false Reason.error message]

/-- A request whose error goes through `fail`. -/
def vaultRequest (eff : Effect) (context : String) : Act :=
  .request eff context (vaultFailed (errorText context))

/-- An error that goes through `fail`. -/
def vaultStop (message : String) : Act := .stop ⟨message, .failed⟩ (vaultFailed message)

/-- `ensureClusterSecrets`: a seed for every secret that is not there. -/
def ensureClusterSecrets (paths : Vault.VaultPaths) : List Act :=
  [paths.dbSMDCredentials, paths.dbBootServiceCredentials, paths.s3Credentials,
   paths.logCredentials, paths.tokensmithOIDC].map fun path =>
    vaultRequest (.ensureSecret path false) ("ensuring secret " ++ path)

/-- The stored secret-id is usable: it is there, and belongs to the role. -/
def boundSecretID (obs : Observed) (name : String) : Bool :=
  match obs.secrets name with
  | none => false
  | some s => s.data.getD "id" "" ≠ "" &&
      s.annotations.getD "openchami.org/vault-approle-role-id" "" = obs.vault.roleID &&
      obs.vault.roleID ≠ ""

/-- `ensureAppRoleSecretID`. -/
def ensureAppRoleSecretID (obs : Observed) (cp : ControlPlane) : List Act :=
  let role := (Vault.paths cp.spec.clusterName).appRoleServices
  let name := cp.spec.platform.vault.appRoleSecretRef.getD ""
  let at_ := controlPlaneNamespace cp ++ "/" ++ name
  if name = "" then
    [vaultStop ("ensuring approle secret-id: appRoleSecretRef must be set when authMethod is " ++
      "appRole")]
  else
    vaultRequest .none ("ensuring approle secret-id: reading approle secret " ++ at_) ::
    if boundSecretID obs name then []
    else
      vaultRequest .none ("ensuring approle secret-id: generating secret-id for " ++ role) ::
      if obs.vault.secretID = "" then
        [vaultStop ("ensuring approle secret-id: vault returned an empty secret-id for " ++ role)]
      else
        [vaultRequest (.apply (objectIn cp "Secret" name))
           ("ensuring approle secret-id: applying approle secret " ++ at_),
         .event (conditionEvent .normal Reason.ready
           ("Provisioned AppRole SecretID into Secret " ++ at_ ++ " for VSO"))]

/-- The login of the services: an AppRole, or a Kubernetes role. -/
def ensureServiceRole (obs : Observed) (cp : ControlPlane) : List Act :=
  match cp.spec.platform.vault.authMethod with
  | .appRole => vaultRequest .none "ensuring approle" :: ensureAppRoleSecretID obs cp
  | _ => [vaultRequest .none "ensuring k8s role"]

/-- The OIDC clients; their credentials replace the seed. -/
def ensureOIDC (obs : Observed) (cp : ControlPlane) : List Act :=
  let paths := Vault.paths cp.spec.clusterName
  if cp.spec.services.tokensmith.oidcProvider ≠ "vault" then []
  else if obs.vault.issuerConflict then [vaultStop (errorText "oidc provider issuer conflict")]
  else
    [vaultRequest .none "ensuring oidc config",
     vaultRequest (.ensureSecret paths.tokensmithOIDC true) "storing oidc client credentials"] ++
    if obs.vault.credentials.cliClientID ≠ "" then
      [vaultRequest (.ensureSecret paths.cliOIDC true) "storing cli oidc client_id"]
    else []

/-- `applyVSOResources`. -/
def applyVSOResources (cp : ControlPlane) : List Act :=
  (vsoObjects cp).map fun o =>
    vaultRequest (.apply o) ("applying " ++ kindText o.kind ++ "/" ++ o.name)

/-- The part of `VaultReconciler.Reconcile` that needs Vault. -/
def configureVault (obs : Observed) (cp : ControlPlane) : List Act :=
  let paths := Vault.paths cp.spec.clusterName
  [vaultRequest .none "ensuring kv mount"] ++ ensureClusterSecrets paths ++
  [vaultRequest .none "ensuring policy"] ++ ensureServiceRole obs cp ++ ensureOIDC obs cp ++
  applyVSOResources cp ++
  [.write (.condition .vaultConfigured .true Reason.ready
     "Vault paths, policies, and VSO resources configured"),
   .write (.field .vaultPathPrefix paths.secretPrefix)]

/-- `VaultReconciler.Reconcile`. -/
def reconcileVault (op : Operator) (obs : Observed) (cp : ControlPlane) : Program :=
  if !op.vaultClient then
    { acts := [.write (.condition .vaultConfigured .false Reason.error
        "vault client not configured")]
      requeueAfter := 30 }
  else if !obs.vault.reachable then
    { acts :=
        [.write (.condition .vaultConfigured .false Reason.unreachable
           (errorText "vault unreachable")),
         .event (conditionEvent .warning Reason.unreachable "Vault is unreachable; will retry")]
      requeueAfter := 30 }
  else { acts := configureVault obs cp }

/-! ### The boot bucket -/

/-- `BucketReconciler.Reconcile`. -/
def reconcileBucket (op : Operator) (obs : Observed) (cp : ControlPlane) : Program :=
  let bucket := bootBucketName cp
  if !op.s3Client then
    { acts := [.write (.condition .bucketReady .false Reason.error "s3 client not configured")]
      requeueAfter := 10 }
  else if (obs.secrets (secretName cp "s3-credentials")).isNone then
    { acts :=
        [reading "getting s3 credentials secret",
         .write (.condition .bucketReady .false Reason.provisioning
           "waiting for VSO to materialize s3-credentials Secret")]
      requeueAfter := 10 }
  else
    { acts :=
        [reading "getting s3 credentials secret",
         .request .none ("ensuring bucket " ++ bucket)
           [.condition .bucketReady .false Reason.error (errorText "ensuring bucket")],
         .write (.condition .bucketReady .true Reason.ready
           ("bucket " ++ bucket ++ " is ready"))] }

/-! ### The database -/

/-- `dbRoleSpec`: the role, the suffix of its Database and that of its Secret. -/
structure DbRoleSpec where
  role : String
  crSuffix : String
  secretSuffix : String

def dbRoleSpecs : List DbRoleSpec :=
  [⟨"smd", "smd", "smd-db"⟩, ⟨"boot_service", "boot-service", "boot-service-db"⟩]

def buildCNPGCluster (cp : ControlPlane) : KubeObject :=
  objectIn cp "Cluster" ("openchami-" ++ cp.spec.clusterName ++ "-postgres")

def buildDatabase (cp : ControlPlane) (spec : DbRoleSpec) : KubeObject :=
  objectIn cp "Database" ("openchami-" ++ cp.spec.clusterName ++ "-" ++ spec.crSuffix)

/-- `unreconciledManagedRoles`. -/
def unreconciledManagedRoles (current : ClusterView) : List String :=
  ((dbRoleSpecs.map DbRoleSpec.role).filter fun role =>
    role ∉ current.reconciledRoles).insertionSort (· ≤ ·)

/-- The end of a call that waits for the database. -/
def databaseWaiting (message : String) : Act :=
  .write (.condition .databaseReady .false Reason.provisioning message)

/-- The loop over the Database objects: apply each, then look at it. -/
def applyDatabases (obs : Observed) (cp : ControlPlane) : List Act :=
  dbRoleSpecs.flatMap fun spec =>
    let db := buildDatabase cp spec
    [applying ("applying database " ++ db.name) db,
     if (obs.databases db.name).isNone then
       .stop ⟨"reading database " ++ db.name ++ " status", .notFound⟩
     else reading ("reading database " ++ db.name ++ " status")]

/-- `DatabaseReconciler.Reconcile` once the Secrets are there and the Cluster is applied. -/
def followCluster (obs : Observed) (cp : ControlPlane) (current : ClusterView) : Program :=
  if current.phase ≠ "Cluster in healthy state" then
    { acts := [databaseWaiting ("cnpg phase: " ++ Strconv.quote obs.isPrint current.phase)]
      requeueAfter := 30 }
  else if unreconciledManagedRoles current ≠ [] then
    { acts := [databaseWaiting ("waiting for CNPG to reconcile managed roles: " ++
        ", ".intercalate (unreconciledManagedRoles current))]
      requeueAfter := 30 }
  else if dbRoleSpecs.any fun spec => obs.databases (buildDatabase cp spec).name ≠ some true then
    { acts := applyDatabases obs cp ++
        [databaseWaiting "waiting for CNPG Database CRs to reach Ready=True"]
      requeueAfter := 30 }
  else
    { acts := applyDatabases obs cp ++
        [.write (.condition .databaseReady .true Reason.ready
          "CNPG cluster healthy; 2 managed databases ready")] }

/-- `DatabaseReconciler.Reconcile`. -/
def reconcileDatabase (obs : Observed) (cp : ControlPlane) : Program :=
  let names := dbRoleSpecs.map fun spec => secretName cp spec.secretSuffix
  let reads (l : List String) := l.map fun name => reading ("getting db secret " ++ name)
  match names.find? fun name => (obs.secrets name).isNone with
  | some missing =>
    { acts := reads (names.takeWhile (· ≠ missing) ++ [missing]) ++
        [databaseWaiting ("waiting for VSO to materialize Secret " ++ missing)]
      requeueAfter := 30 }
  | none =>
    let apply := reads names ++ [applying "applying cnpg cluster" (buildCNPGCluster cp)]
    match obs.clusters (buildCNPGCluster cp).name with
    | none => { acts := apply ++ [.stop ⟨"reading cnpg cluster status", .notFound⟩] }
    | some current =>
      { followCluster obs cp current with
        acts := apply ++ [reading "reading cnpg cluster status"] ++
          (followCluster obs cp current).acts }

/-- `DatabaseReconciler.Describe`. -/
def describeDatabase (cp : ControlPlane) : List KubeObject :=
  buildCNPGCluster cp :: dbRoleSpecs.map (buildDatabase cp)

/-! ### Service identity -/

/-- `ServiceIdentityClientCertSecretName`. -/
def serviceIdentityClientCertSecretName (cp : ControlPlane) (svc : Service) : String :=
  secretName cp (svc.name ++ "-identity")

/-- The services that get a client certificate. -/
def identityClients (cp : ControlPlane) : List Service :=
  [Service.bootService, .metadataService].filter (serviceDeployedInCluster cp)

/-- `applyOrder`. -/
def identityObjects (cp : ControlPlane) : List KubeObject :=
  [objectIn cp "Issuer" (secretName cp "service-identity-bootstrap"),
   objectIn cp "Certificate" (secretName cp "service-identity-ca"),
   objectIn cp "Issuer" (secretName cp "service-identity-issuer"),
   objectIn cp "Certificate" (secretName cp "tokensmith-server-tls")] ++
  (identityClients cp).map fun svc =>
    objectIn cp "Certificate" (serviceIdentityClientCertSecretName cp svc)

/-- `buildCAConfigMap`. -/
def buildCAConfigMap (cp : ControlPlane) : KubeObject :=
  objectIn cp "ConfigMap" (serviceIdentityCAConfigMapName cp)

/-- The first result of `mirrorCAConfigMap`. -/
def caReady (obs : Observed) (cp : ControlPlane) : Bool :=
  (obs.secrets (secretName cp "service-identity-ca")).any fun s => s.data.getD "ca.crt" "" ≠ ""

/-- The Secrets `missingSecrets` asks for. -/
def identitySecrets (cp : ControlPlane) : List String :=
  [secretName cp "service-identity-ca", secretName cp "tokensmith-server-tls"] ++
  (identityClients cp).map (serviceIdentityClientCertSecretName cp)

/-- `missingSecrets`. -/
def missingSecrets (obs : Observed) (cp : ControlPlane) : List String :=
  (identitySecrets cp).filter fun name =>
    !(obs.secrets name).any fun s => s.data.getD "tls.crt" "" ≠ ""

/-- The message while certificates are missing. -/
def awaitingIdentityMessage (missing : List String) : String :=
  "waiting for cert-manager to issue service-identity certificates" ++
    if missing ≠ [] then ": [" ++ " ".intercalate missing ++ "]" else ""

/-- `ServiceIdentityReconciler.Reconcile`. -/
def reconcileServiceIdentity (obs : Observed) (cp : ControlPlane) : Program :=
  let ns := controlPlaneNamespace cp
  let mirror := "mirroring CA ConfigMap: "
  let acts :=
    ((identityObjects cp).map fun o =>
      applying ("applying " ++ kindText o.kind ++ "/" ++ o.name) o) ++
    [reading (mirror ++ "reading CA Secret " ++ ns ++ "/" ++ secretName cp "service-identity-ca")] ++
    (if caReady obs cp then [applying (mirror ++ "applying CA ConfigMap") (buildCAConfigMap cp)]
      else []) ++
    (identitySecrets cp).map fun name =>
      reading ("checking service-identity Secrets: reading Secret " ++ ns ++ "/" ++ name)
  if !caReady obs cp || missingSecrets obs cp ≠ [] then
    { acts := acts ++ [.write (.condition .serviceIdentityReady .false
        Reason.awaitingServiceIdentity (awaitingIdentityMessage (missingSecrets obs cp)))]
      requeueAfter := 30 }
  else
    { acts := acts ++
        [.write (.condition .serviceIdentityReady .true Reason.ready
           "service-identity CA, server cert, and per-service client certs all issued"),
         .event (conditionEvent .normal "ServiceIdentityIssued" ("service-identity CA + " ++
           "tokensmith server cert + per-service client certs all available"))] }

end OpenchamiOperator.Reconcilers
