import OpenchamiOperator.Vault.Protocol

/-! # The Vault reconciler, request by request

`VaultReconciler.Reconcile` of `internal/reconcilers/vault.go` with each request it makes to Vault and
to the Kubernetes API, in order. `Reconcilers.Platform` has the same function as the list of actions
of one pass, which is what a whole reconciliation is made of; here the answers are part of the run, and
calls of several control planes can interleave. -/

namespace OpenchamiOperator.Reconcilers.VaultReconciler

open Lib Strings Api Controller Vault Interaction

/-! ### Seeds -/

/-- `vaultPathByRole`. -/
def vaultPathByRole (paths : VaultPaths) (role : String) : Option String :=
  if role = "smd" then some paths.dbSMDCredentials
  else if role = "boot_service" then some paths.dbBootServiceCredentials
  else none

/-- The credentials of a database role. -/
def ensureRoleSecret (paths : VaultPaths) (spec : DbRoleSpec) : Call Unit :=
  match vaultPathByRole paths spec.role with
  | none => throw (.plain ("no vault path registered for db role \"" ++ spec.role ++
      "\" (extend vaultPathByRole)"))
  | some path => do
    let password ← request .randomHex ("generating password for " ++ path)
    (ensureSecret path (.ofList [("username", spec.role), ("password", password)]) false).within
      ("ensuring secret " ++ path)

/-- A random value for each key. -/
def randomData : List String → Call (GoMap String)
  | [] => pure .empty
  | k :: keys => do
    let v ← request .randomHex ("generating random for " ++ k)
    let data ← randomData keys
    pure (data.insert k v)

/-- The other seeds: a path, and the keys of its data. -/
def seeds (paths : VaultPaths) : List (String × List String) :=
  [(paths.s3Credentials, ["access_key", "secret_key"]),
   (paths.logCredentials, ["access_key", "secret_key"]),
   (paths.tokensmithOIDC, ["client_id", "client_secret"])]

/-- The body of the loop over the seeds. -/
def ensureSeed (seed : String × List String) : Call Unit := do
  let data ← randomData seed.2
  (ensureSecret seed.1 data false).within ("ensuring secret " ++ seed.1)

/-- `ensureClusterSecrets`. -/
def ensureClusterSecrets (paths : VaultPaths) : Call Unit := do
  Proc.forEach (ensureRoleSecret paths) dbRoleSpecs
  Proc.forEach ensureSeed (seeds paths)

/-! ### The login of the services -/

/-- The stored secret-id can be kept: it is there, and was generated for the RoleID. -/
def usable (existing : Option BoundSecret) (roleID : String) : Bool :=
  match existing with
  | none => false
  | some secret =>
    secret.id.getD "" ≠ "" && secret.roleID.getD "" = roleID && roleID ≠ ""

/-- `ensureAppRoleSecretID`. -/
def ensureAppRoleSecretID (cp : ControlPlane) (paths : VaultPaths) (roleID : String) : Call Unit :=
  let name := cp.spec.platform.vault.appRoleSecretRef.getD ""
  let ns := controlPlaneNamespace cp
  if name = "" then throw (.plain "appRoleSecretRef must be set when authMethod is appRole")
  else do
    let existing ← request (.getSecret ns name) ("reading approle secret " ++ ns ++ "/" ++ name)
    if usable existing roleID then pure ()
    else do
      let secretID ← (generateSecretID paths.appRoleServices).within
        ("generating secret-id for " ++ paths.appRoleServices)
      if secretID = "" then
        throw (.plain ("vault returned an empty secret-id for " ++ paths.appRoleServices))
      else
        request (.applySecret ns name ⟨some secretID, some roleID⟩)
          ("applying approle secret " ++ ns ++ "/" ++ name)

/-- The configuration of the AppRole. -/
def appRoleConfig (paths : VaultPaths) : AppRoleConfig where
  policies := [paths.policyServices]
  tokenTTL := "15m"
  tokenMaxTTL := "1h"
  secretIDTTL := "0"

/-- The configuration of the Kubernetes role. -/
def kubernetesRoleConfig (cp : ControlPlane) (paths : VaultPaths) : KubernetesRoleConfig where
  boundServiceAccountNames := serviceAccountNames
  boundServiceAccountNamespaces := [controlPlaneNamespace cp]
  policies := [paths.policyServices]
  tokenTTL := "15m"

/-- The branches for the method of authentication; the result is the RoleID, if there is one. -/
def ensureServiceRole (cp : ControlPlane) (paths : VaultPaths) : Call String :=
  match cp.spec.platform.vault.authMethod with
  | .appRole => do
    let roleID ← (ensureAppRole paths.appRoleServices (appRoleConfig paths)).within
      "ensuring approle"
    (ensureAppRoleSecretID cp paths roleID).within "ensuring approle secret-id"
    pure roleID
  | _ => do
    (ensureKubernetesRole paths.k8sRoleServices (kubernetesRoleConfig cp paths)).within
      "ensuring k8s role"
    pure ""

/-! ### OIDC -/

/-- The data stored for tokensmith's client. -/
def clientData (clientID clientSecret : String) : GoMap String :=
  .ofList [("client_id", clientID), ("client_secret", clientSecret)]

/-- The context of an error of `EnsureOIDCConfig`. -/
def oidcContext (e : VaultError) : VaultError :=
  if e.isConflict then .wrapped "oidc provider issuer conflict" e
  else .wrapped "ensuring oidc config" e

/-- The branch for Vault as the OIDC provider. -/
def ensureOIDC (cp : ControlPlane) (paths : VaultPaths) : Call Unit :=
  if cp.spec.services.tokensmith.oidcProvider = "vault" then do
    let creds ← Proc.mapError oidcContext (ensureOIDCConfig cp.spec.clusterName (oidcConfig cp))
    (ensureSecret paths.tokensmithOIDC (clientData creds.clientID creds.clientSecret) true).within
      "storing oidc client credentials"
    if creds.cliClientID ≠ "" then
      (ensureSecret paths.cliOIDC (.ofList [("client_id", creds.cliClientID)]) true).within
        "storing cli oidc client_id"
    else pure ()
  else pure ()

/-! ### The objects of the Vault Secrets Operator -/

/-- `Kind/name`. -/
def vsoText : VSOObject → String
  | .vaultConnection o => "VaultConnection/" ++ o.name
  | .vaultAuth o => "VaultAuth/" ++ o.name
  | .vaultStaticSecret o => "VaultStaticSecret/" ++ o.name

/-- The objects in the order in which they are applied; no suffix of the list is unknown. -/
def vsoResources (cp : ControlPlane) (paths : VaultPaths) (appRoleID : String) : List VSOObject :=
  [.vaultConnection (buildVaultConnection cp), .vaultAuth (buildVaultAuth cp appRoleID)] ++
  vssEntries.filterMap fun e =>
    (buildVaultStaticSecret cp e.suffix paths).map .vaultStaticSecret

/-- `applyVSOResources`. -/
def applyVSOResources (cp : ControlPlane) (paths : VaultPaths) (appRoleID : String) : Call Unit :=
  Proc.forEach (fun o => request (.applyVSO o) ("applying " ++ vsoText o))
    (vsoResources cp paths appRoleID)

/-! ### `Reconcile` -/

/-- The part of `Reconcile` after the check that Vault can be reached. -/
def configure (cp : ControlPlane) : Call Unit := do
  let paths := paths cp.spec.clusterName
  (ensureKVMount paths.kvMount).within "ensuring kv mount"
  ensureClusterSecrets paths
  (ensurePolicy paths.policyServices (servicesPolicy cp.spec.clusterName)).within "ensuring policy"
  let appRoleID ← ensureServiceRole cp paths
  ensureOIDC cp paths
  applyVSOResources cp paths appRoleID

/-- The ways in which a call ends. -/
inductive Outcome where
  | noClient
  | unreachable (e : VaultError)
  | failed (e : VaultError)
  | configured
deriving DecidableEq

/-- What is written to the status. -/
def Outcome.writes (isPrint : Char → Bool) (cp : ControlPlane) : Outcome → List StatusWrite
  | .noClient => [.condition .vaultConfigured .false Reason.error "vault client not configured"]
  | .unreachable e =>
    [.condition .vaultConfigured .false Reason.unreachable ("vault unreachable: " ++ e.text isPrint)]
  | .failed e => vaultFailed (e.text isPrint)
  | .configured =>
    [.condition .vaultConfigured .true Reason.ready
       "Vault paths, policies, and VSO resources configured",
     .field .vaultPathPrefix (paths cp.spec.clusterName).secretPrefix]

/-- `VaultReconciler.Reconcile`. -/
def reconcile (hasClient : Bool) (cp : ControlPlane) : Proc Request Resp Outcome :=
  if hasClient then
    isReachable.run.bind fun
      | .error e => .done (.unreachable e)
      | .ok () => (configure cp).run.bind fun
        | .error e => .done (.failed e)
        | .ok () => .done .configured
  else .done .noClient

end OpenchamiOperator.Reconcilers.VaultReconciler
