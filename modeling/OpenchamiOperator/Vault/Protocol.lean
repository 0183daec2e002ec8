import OpenchamiOperator.Lib.Interaction
import OpenchamiOperator.Lib.Strconv
import OpenchamiOperator.Reconcilers.VaultSecrets

/-! # What the operator exchanges with Vault

The methods of `internal/vault/client_vault.go` request by request, so that calls of several control
planes can interleave, with the requests to the Kubernetes API that the Vault reconciler makes in
between. `serve` says what a request does to what is stored, and how it may be answered; where nothing
is known about an answer every answer is possible.

A request that fails has an error other than "not found": a missing secret, role or provider is an
answer. -/

namespace OpenchamiOperator.Vault

open Lib Strings Interaction Reconcilers

/-! ### Requests -/

/-- `AppRoleConfig`. -/
structure AppRoleConfig where
  policies : List String
  tokenTTL : String
  tokenMaxTTL : String
  secretIDTTL : String
deriving DecidableEq

/-- `KubernetesRoleConfig`. -/
structure KubernetesRoleConfig where
  boundServiceAccountNames : List String
  boundServiceAccountNamespaces : List String
  policies : List String
  tokenTTL : String
deriving DecidableEq

/-- What is written for an OIDC client. -/
structure OIDCClient where
  key : String
  clientType : String
  redirectURIs : List String := []
  assignments : List String
  idTokenTTL : String := "30m"
  accessTokenTTL : String := "30m"
deriving DecidableEq

/-- `OIDCConfig`. -/
structure OIDCConfig where
  issuerURL : String
  scopesSupported : List String := []
  cliRedirectURIs : List String := []
  cliAssignments : List String := []
deriving DecidableEq

/-- The Secret of the secret-id: its key `id` and the annotation with the RoleID. -/
structure BoundSecret where
  id : Option String := none
  roleID : Option String := none
deriving DecidableEq

/-- The data of an OIDC client, as far as they are strings. -/
structure ClientReply where
  clientID : Option String := none
  clientSecret : Option String := none
deriving DecidableEq

/-- A request to Vault, to the Kubernetes API, or for random bytes. -/
inductive Request where
  | health
  | listMounts
  | mount (name : String)
  | kvGet (mount path : String)
  | kvPut (mount path : String) (data : GoMap String)
  | putPolicy (name hcl : String)
  | writeAppRole (name : String) (cfg : AppRoleConfig)
  | readRoleID (name : String)
  | generateSecretID (roleName : String)
  | writeKubernetesRole (name : String) (cfg : KubernetesRoleConfig)
  | writeOIDCKey (name : String)
  | readOIDCProvider
  | writeOIDCProvider (issuer : String) (scopes : List String)
  | writeOIDCClient (name : String) (client : OIDCClient)
  | readOIDCClient (name : String)
  | getSecret (ns name : String)
  | applySecret (ns name : String) (secret : BoundSecret)
  | applyVSO (object : VSOObject)
  | randomHex
deriving DecidableEq

/-- The answers. What Vault may leave out of an answer, or fill with something that is not a string,
is an `Option`. -/
abbrev Resp : Request → Type
  | .health => Bool
  | .listMounts => List String
  | .kvGet _ _ => Option (GoMap String)
  | .readRoleID _ => Option (Option String)
  | .generateSecretID _ => Option (Option String)
  | .readOIDCProvider => Option (Option String)
  | .readOIDCClient _ => Option ClientReply
  | .getSecret _ _ => Option BoundSecret
  | .randomHex => String
  | _ => Unit

/-! ### What is stored -/

/-- What the requests read and write: the mounts and the secrets of Vault, the issuer that the shared
provider reports, and the Secrets and VaultAuth objects of the cluster. -/
structure Remote where
  mounts : List String := []
  kv : String × String → Option (GoMap String) := fun _ => none
  provider : Option String := none
  secrets : String × String → Option BoundSecret := fun _ => none
  auths : String × String → Option VaultAuth := fun _ => none

/-- The path Vault adds to the base issuer it was given. -/
def providerPath : String := "/v1/identity/oidc/provider/openchami"

/-- A request, and what it does: the answer and the state after it. -/
def serve : (r : Request) → Remote → Resp r → Remote → Prop
  | .listMounts, s, x, s' => x = s.mounts ∧ s' = s
  | .mount name, s, _, s' => s' = { s with mounts := (name ++ "/") :: s.mounts }
  | .kvGet mount path, s, x, s' => x = s.kv (mount, path) ∧ s' = s
  | .kvPut mount path data, s, _, s' =>
    s' = { s with kv := Function.update s.kv (mount, path) (some data) }
  | .readOIDCProvider, s, x, s' => x = s.provider.map some ∧ s' = s
  | .writeOIDCProvider issuer _, s, _, s' => s' = { s with provider := some (issuer ++ providerPath) }
  | .getSecret ns name, s, x, s' => x = s.secrets (ns, name) ∧ s' = s
  | .applySecret ns name secret, s, _, s' =>
    s' = { s with secrets := Function.update s.secrets (ns, name) (some secret) }
  | .applyVSO (.vaultAuth auth), s, _, s' =>
    s' = { s with auths := Function.update s.auths (auth.«namespace», auth.name) (some auth) }
  | _, s, _, s' => s' = s

/-- The request writes a secret of Vault. -/
def putsKV : Request → Bool
  | .kvPut _ _ _ => true
  | _ => false

/-- The request writes the Secret of a secret-id. -/
def appliesSecret : Request → Bool
  | .applySecret _ _ _ => true
  | _ => false

/-- The request writes a `VaultAuth`. -/
def appliesAuth : Request → Bool
  | .applyVSO (.vaultAuth _) => true
  | _ => false

/-- What the other requests leave alone. -/
theorem serve_frame {r : Request} {s s' : Remote} {x : Resp r} (h : serve r s x s') :
    (putsKV r = false → s'.kv = s.kv) ∧ (appliesSecret r = false → s'.secrets = s.secrets) ∧
      (appliesAuth r = false → s'.auths = s.auths) := by
  have hsame : s' = s → (putsKV r = false → s'.kv = s.kv) ∧
      (appliesSecret r = false → s'.secrets = s.secrets) ∧
      (appliesAuth r = false → s'.auths = s.auths) := by
    rintro rfl
    exact ⟨fun _ => rfl, fun _ => rfl, fun _ => rfl⟩
  cases r with
  | listMounts => exact hsame h.2
  | kvGet => exact hsame h.2
  | readOIDCProvider => exact hsame h.2
  | getSecret => exact hsame h.2
  | mount =>
    rw [show s' = _ from h]
    exact ⟨fun _ => rfl, fun _ => rfl, fun _ => rfl⟩
  | writeOIDCProvider =>
    rw [show s' = _ from h]
    exact ⟨fun _ => rfl, fun _ => rfl, fun _ => rfl⟩
  | kvPut =>
    rw [show s' = _ from h]
    exact ⟨fun hput => (by cases hput), fun _ => rfl, fun _ => rfl⟩
  | applySecret =>
    rw [show s' = _ from h]
    exact ⟨fun _ => rfl, fun happly => (by cases happly), fun _ => rfl⟩
  | applyVSO object =>
    cases object with
    | vaultAuth =>
      rw [show s' = _ from h]
      exact ⟨fun _ => rfl, fun _ => rfl, fun happly => by cases happly⟩
    | _ => exact hsame h
  | _ => exact hsame h

/-- A server that answers every request, and answers what nothing is known about with fixed values. -/
def answer : (r : Request) → (s : Remote) → Resp r × Remote
  | .health, s => (false, s)
  | .listMounts, s => (s.mounts, s)
  | .mount name, s => ((), { s with mounts := (name ++ "/") :: s.mounts })
  | .kvGet mount path, s => (s.kv (mount, path), s)
  | .kvPut mount path data, s =>
    ((), { s with kv := Function.update s.kv (mount, path) (some data) })
  | .putPolicy _ _, s => ((), s)
  | .writeAppRole _ _, s => ((), s)
  | .readRoleID _, s => (some (some "role-id"), s)
  | .generateSecretID _, s => (some (some "secret-id"), s)
  | .writeKubernetesRole _ _, s => ((), s)
  | .writeOIDCKey _, s => ((), s)
  | .readOIDCProvider, s => (s.provider.map some, s)
  | .writeOIDCProvider issuer _, s => ((), { s with provider := some (issuer ++ providerPath) })
  | .writeOIDCClient _ _, s => ((), s)
  | .readOIDCClient name, s => (some ⟨some name, some "client-secret"⟩, s)
  | .getSecret ns name, s => (s.secrets (ns, name), s)
  | .applySecret ns name secret, s =>
    ((), { s with secrets := Function.update s.secrets (ns, name) (some secret) })
  | .applyVSO (.vaultAuth auth), s =>
    ((), { s with auths := Function.update s.auths (auth.«namespace», auth.name) (some auth) })
  | .applyVSO _, s => ((), s)
  | .randomHex, s => ("00", s)

theorem serve_answer (r : Request) (s : Remote) : serve r s (answer r s).1 (answer r s).2 := by
  cases r with
  | listMounts => exact ⟨rfl, rfl⟩
  | kvGet => exact ⟨rfl, rfl⟩
  | readOIDCProvider => exact ⟨rfl, rfl⟩
  | getSecret => exact ⟨rfl, rfl⟩
  | applyVSO object => cases object <;> exact rfl
  | _ => exact rfl

/-! ### The client -/

/-- The errors. `library` is an error of the Vault or Kubernetes library as it is. -/
inductive VaultError where
  | library
  | plain (text : String)
  | issuerConflict (existing requested : String)
  | wrapped (context : String) (cause : VaultError)
deriving DecidableEq

/-- `Error()`. -/
def VaultError.text (isPrint : Char → Bool) : VaultError → String
  | .library => "request failed"
  | .plain text => text
  | .issuerConflict existing requested =>
    "vault OIDC provider \"openchami\" already uses issuer " ++ Strconv.quote isPrint existing ++
    ", but this control plane requests issuer " ++ Strconv.quote isPrint requested ++
    "; all control planes sharing this Vault must agree on the provider issuer"
  | .wrapped context cause => context ++ ": " ++ cause.text isPrint

/-- `errors.AsType[*OIDCIssuerConflictError]`. -/
def VaultError.isConflict : VaultError → Bool
  | .issuerConflict _ _ => true
  | .wrapped _ cause => cause.isConflict
  | _ => false

/-- A method of the client, or a part of the reconciler. -/
abbrev Call (α : Type) := ExceptT VaultError (Proc Request Resp) α

/-- Send a request; its error is reported as it is. -/
def rawRequest (r : Request) : Call (Resp r) := Proc.send r VaultError.library

/-- Send a request; its error is reported with a context. -/
def request (r : Request) (context : String) : Call (Resp r) :=
  Proc.send r (VaultError.wrapped context .library)

theorem run_request_bind {α : Type} (r : Request) (context : String) (f : Resp r → Call α) :
    (request r context >>= f).run = .ask r fun x =>
      x.elim (.done (.error (.wrapped context .library))) fun y => (f y).run := by
  refine congrArg (Proc.ask r) (funext fun x => ?_)
  cases x <;> rfl

/-- Report an error of a call with a context. -/
def Call.within {α : Type} (context : String) (x : Call α) : Call α :=
  Proc.mapError (.wrapped context) x

/-- `IsReachable`. -/
def isReachable : Call Unit := do
  let isSealed ← request .health "vault health check"
  if isSealed then throw (.plain "vault is sealed") else pure ()

/-- `EnsureKVMount`. -/
def ensureKVMount (mount : String) : Call Unit := do
  let mounts ← request .listMounts "listing mounts"
  if mount ++ "/" ∈ mounts then pure () else rawRequest (.mount mount)

/-- The write of `EnsureSecret`. -/
def putSecret (path : String) (data : GoMap String) : Call Unit :=
  request (.kvPut (splitKVPath path).1 (splitKVPath path).2 data) ("writing secret " ++ path)

/-- `EnsureSecret`. -/
def ensureSecret (path : String) (data : GoMap String) (overwrite : Bool) : Call Unit :=
  if overwrite then putSecret path data
  else do
    let existing ← request (.kvGet (splitKVPath path).1 (splitKVPath path).2)
      ("checking existing secret " ++ path)
    match existing with
    | some _ => pure ()
    | none => putSecret path data

/-- `EnsurePolicy`. -/
def ensurePolicy (name hcl : String) : Call Unit := rawRequest (.putPolicy name hcl)

/-- `EnsureAppRole`. The role-id is empty when Vault's answer has none that is a string. -/
def ensureAppRole (name : String) (cfg : AppRoleConfig) : Call String := do
  request (.writeAppRole name cfg) ("writing approle " ++ name)
  let idResp ← request (.readRoleID name) "reading approle id"
  match idResp with
  | none => throw (.plain ("approle " ++ name ++ " returned no role-id"))
  | some id => pure (id.getD "")

/-- `GenerateSecretID`. -/
def generateSecretID (roleName : String) : Call String := do
  let resp ← request (.generateSecretID roleName) ("generating secret-id for " ++ roleName)
  match resp with
  | none => throw (.plain "secret-id generation returned no data")
  | some id => pure (id.getD "")

/-- `EnsureKubernetesRole`. -/
def ensureKubernetesRole (name : String) (cfg : KubernetesRoleConfig) : Call Unit :=
  request (.writeKubernetesRole name cfg) ("writing kubernetes role " ++ name)

/-! ### The shared provider -/

/-- `expectedOIDCProviderIssuer`. -/
def expectedOIDCProviderIssuer (base : String) : String := trimSlashes base ++ providerPath

/-- The issuer of a provider that is there, when it is another one than expected. -/
def conflictingIssuer (existing : Option (Option String)) (expected : String) : Option String :=
  match existing with
  | some (some current) => if current ≠ "" ∧ current ≠ expected then some current else none
  | _ => none

/-- What the read-back has to show. -/
def verifyIssuer (readback : Option (Option String)) (expected : String) : Except VaultError Unit :=
  match readback with
  | none => .error (.plain "oidc provider \"openchami\" returned no data after write")
  | some issuer =>
    if issuer.getD "" = "" then
      .error (.plain "oidc provider \"openchami\" returned no issuer after write")
    else if issuer.getD "" ≠ expected then .error (.issuerConflict (issuer.getD "") expected)
    else .ok ()

/-- `ensureOIDCProvider`. -/
def ensureOIDCProvider (cfg : OIDCConfig) : Call Unit := do
  let expected := expectedOIDCProviderIssuer cfg.issuerURL
  let existing ← request .readOIDCProvider "reading oidc provider \"openchami\""
  match conflictingIssuer existing expected with
  | some current => throw (.issuerConflict current expected)
  | none => do
    request (.writeOIDCProvider cfg.issuerURL cfg.scopesSupported)
      "configuring oidc provider \"openchami\""
    let readback ← request .readOIDCProvider "reading back oidc provider \"openchami\""
    ExceptT.mk (.done (verifyIssuer readback expected))

/-- `OIDCClientCredentials`. -/
structure OIDCClientCredentials where
  clientID : String
  clientSecret : String
  cliClientID : String
deriving DecidableEq

/-- The OIDC client of tokensmith. -/
def tokensmithClientName (clusterName : String) : String :=
  "openchami-" ++ clusterName ++ "-tokensmith"

/-- The OIDC client of the command line. -/
def cliClientName (clusterName : String) : String := "openchami-" ++ clusterName ++ "-cli"

/-- `EnsureOIDCConfig`. -/
def ensureOIDCConfig (clusterName : String) (cfg : OIDCConfig) : Call OIDCClientCredentials := do
  let keyName := oidcKeyName clusterName
  request (.writeOIDCKey keyName) "creating oidc key"
  ensureOIDCProvider cfg
  let clientName := tokensmithClientName clusterName
  request (.writeOIDCClient clientName
    { key := keyName, clientType := "confidential", assignments := ["allow_all"] })
    "creating oidc client"
  let cliClientName := cliClientName clusterName
  request (.writeOIDCClient cliClientName
    { key := keyName, clientType := "public", redirectURIs := cfg.cliRedirectURIs
      assignments := cfg.cliAssignments })
    "creating public CLI oidc client"
  let resp ← request (.readOIDCClient clientName) "reading oidc client"
  match resp with
  | none => throw (.plain ("oidc client \"" ++ clientName ++ "\" returned no data"))
  | some client =>
    if client.clientID.getD "" = "" then
      throw (.plain ("oidc client \"" ++ clientName ++ "\" returned empty client_id"))
    else do
      let cliResp ← request (.readOIDCClient cliClientName) "reading public CLI oidc client"
      match cliResp with
      | none => throw (.plain ("public CLI oidc client \"" ++ cliClientName ++ "\" returned no data"))
      | some cli =>
        if cli.clientID.getD "" = "" then
          throw (.plain ("public CLI oidc client \"" ++ cliClientName ++
            "\" returned empty client_id"))
        else
          pure ⟨client.clientID.getD "", client.clientSecret.getD "", cli.clientID.getD ""⟩

/-- What the reconciler asks `EnsureOIDCConfig` for. -/
def oidcConfig (cp : Api.ControlPlane) : OIDCConfig where
  issuerURL := vaultOIDCIssuerBase cp
  cliRedirectURIs := cp.spec.services.tokensmith.cliOIDC.redirectURIs
  cliAssignments := cp.spec.services.tokensmith.cliOIDC.assignments

end OpenchamiOperator.Vault
