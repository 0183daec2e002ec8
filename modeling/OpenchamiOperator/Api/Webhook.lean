import Mathlib.Data.List.Sort
import OpenchamiOperator.Api.Types
import OpenchamiOperator.Lib.Url
import OpenchamiOperator.NetworkProbe.Target

/-! # The admission webhook

Defaulting and validation of `api/v1alpha1/openchamicontrolplane_webhook.go`. An error names its
field and says what is wrong; the offending value, which the API machinery prints with it, is left
out, also where `ValidateUpdate` copies the printed text.

* `default_default`: defaulting twice is defaulting once.
* `validationErrors_eq`: the rules split into those that look at the object alone and those that
  compare it with the others. -/

namespace OpenchamiOperator.Api.Webhook

open Lib Strings

/-! ### Defaulting -/

/-- `if s == "" { s = value }`. -/
def orElse (s value : String) : String := if s = "" then value else s

/-- `if n == 0 { n = value }`. -/
def orElseInt (n value : ℤ) : ℤ := if n = 0 then value else n

/-- `if len(l) == 0 { l = value }`. -/
def orElseList (l value : List String) : List String := if l = [] then value else l

/-- A default derived from the name of the cluster, if it has one. -/
def derived (s clusterName suffix : String) : String :=
  if s = "" ∧ clusterName ≠ "" then clusterName ++ suffix else s

def defaultCoreDHCP (d : CoreDHCPSpec) : CoreDHCPSpec :=
  match d.configMapRef with
  | none =>
    { d with
      unknownLeaseDuration := orElse d.unknownLeaseDuration "5m"
      knownLeaseDuration := orElse d.knownLeaseDuration "1h" }
  | some ref => { d with configMapRef := some { ref with key := orElse ref.key "config.yml" } }

def defaultTokensmith (t : TokensmithSpec) : TokensmithSpec :=
  { t with
    replicas := orElseInt t.replicas 1
    cliOIDC :=
      { redirectURIs := orElseList t.cliOIDC.redirectURIs ["http://127.0.0.1:8250/callback"]
        assignments := orElseList t.cliOIDC.assignments ["allow_all"] } }

def defaultServices (s : ServicesSpec) : ServicesSpec where
  smd := { s.smd with replicas := orElseInt s.smd.replicas 2 }
  tokensmith := defaultTokensmith s.tokensmith
  bootService := { s.bootService with replicas := orElseInt s.bootService.replicas 2 }
  metadataService := { s.metadataService with replicas := orElseInt s.metadataService.replicas 2 }
  coreDHCP := defaultCoreDHCP s.coreDHCP
  magellan :=
    { s.magellan with
      schedule := orElse s.magellan.schedule "*/30 * * * *"
      concurrencyPolicy := orElse s.magellan.concurrencyPolicy "Forbid" }

def defaultPlatform (name : String) (p : PlatformSpec) : PlatformSpec :=
  { p with objectStorage :=
      { p.objectStorage with bucket := derived p.objectStorage.bucket name "-boot-images" } }

def defaultNetworking (name : String) (n : NetworkingSpec) : NetworkingSpec where
  gatewayClass := orElse n.gatewayClass "envoy"
  tls :=
    { issuer := orElse n.tls.issuer "vault-pki-issuer"
      secretName := derived n.tls.secretName name "-gateway-tls" }

def defaultLogging (name : String) (l : LoggingSpec) : LoggingSpec :=
  { l with
    logBucket := derived l.logBucket name "-logs"
    retentionDays := orElseInt l.retentionDays 90
    flushIntervalSeconds := orElseInt l.flushIntervalSeconds 60 }

def defaultSpec (s : ControlPlaneSpec) : ControlPlaneSpec :=
  { s with
    platform := defaultPlatform s.clusterName s.platform
    networkProbe :=
      { s.networkProbe with intervalSeconds := orElseInt s.networkProbe.intervalSeconds 300 }
    services := defaultServices s.services
    networking := defaultNetworking s.clusterName s.networking
    database := { s.database with instances := orElseInt s.database.instances 3 }
    logging := defaultLogging s.clusterName s.logging }

/-- `Default`. -/
def default (cp : ControlPlane) : ControlPlane := { cp with spec := defaultSpec cp.spec }

theorem orElse_orElse {s value : String} : orElse (orElse s value) value = orElse s value := by
  unfold orElse
  split_ifs <;> rfl

theorem orElseInt_orElseInt {n value : ℤ} :
    orElseInt (orElseInt n value) value = orElseInt n value := by
  unfold orElseInt
  split_ifs <;> rfl

theorem orElseList_orElseList {l value : List String} :
    orElseList (orElseList l value) value = orElseList l value := by
  unfold orElseList
  split_ifs <;> rfl

theorem derived_derived {s clusterName suffix : String} :
    derived (derived s clusterName suffix) clusterName suffix = derived s clusterName suffix := by
  unfold derived
  split_ifs <;> rfl

theorem defaultCoreDHCP_idem (d : CoreDHCPSpec) :
    defaultCoreDHCP (defaultCoreDHCP d) = defaultCoreDHCP d := by
  unfold defaultCoreDHCP
  rcases hd : d.configMapRef with _ | ref
  · simp only [orElse_orElse]
  · simp only [orElse_orElse]

/-- **Defaulting twice is defaulting once.** -/
theorem default_default (cp : ControlPlane) : default (default cp) = default cp := by
  unfold default defaultSpec defaultPlatform defaultNetworking defaultLogging defaultServices
    defaultTokensmith
  simp only [orElse_orElse, orElseInt_orElseInt, orElseList_orElseList, derived_derived,
    defaultCoreDHCP_idem]

@[simp] theorem default_metadata (cp : ControlPlane) : (default cp).metadata = cp.metadata := rfl

/-! ### Errors -/

inductive ErrorType where
  | required
  | forbidden
  | invalid
  | duplicate
deriving DecidableEq, Repr

/-- `field.Error`. -/
structure FieldError where
  type : ErrorType
  field : String
  detail : String := ""
deriving DecidableEq, Repr

def ErrorType.text : ErrorType → String
  | .required => "Required value"
  | .forbidden => "Forbidden"
  | .invalid => "Invalid value"
  | .duplicate => "Duplicate value"

/-- `ErrorBody`, the message of an error in the details of a status. -/
def FieldError.body (e : FieldError) : String :=
  e.type.text ++ if e.detail = "" then "" else ": " ++ e.detail

/-- `if cond { allErrs = append(allErrs, e) }`. -/
def errIf (cond : Bool) (e : FieldError) : List FieldError := if cond then [e] else []

/-! ### Addresses -/

/-- `isClusterInternalHost`. -/
def isClusterInternalHost (host : String) : Bool :=
  host ∈ ["localhost", "127.0.0.1", "::1"] || hasSuffix host ".svc" ||
    hasSuffix host ".svc.cluster.local" ||
    (Netip.parseIP host).any fun ip => ip.isLoopback || ip.isPrivate || ip.isLinkLocalUnicast

/-- `isSingleLabelHost`. -/
def isSingleLabelHost (host : String) : Bool :=
  host ≠ "" && !contains host "." && !contains host ":"

/-- `isAllowedVaultAddress`. -/
def isAllowedVaultAddress (addr : String) : Bool :=
  hasPrefix addr "https://" ||
    (hasPrefix addr "http://" &&
      (Url.parse addr).any fun u => u.host ≠ "" &&
        (isClusterInternalHost u.hostname || isSingleLabelHost u.hostname))

/-- `isValidOIDCIssuer`. -/
def isValidOIDCIssuer (s : String) : Bool :=
  (Url.parse s).any fun u =>
    (u.scheme = "http" || u.scheme = "https") && u.hostname ≠ "" && !u.user &&
      (u.path = "" || u.path = "/") && u.rawQuery = "" && u.fragment = "" &&
      !(u.scheme = "http" && !isClusterInternalHost u.hostname)

/-- `isHTTPURL`. -/
def isHTTPURL (s : String) : Bool :=
  (Url.parse s).any fun u => (u.scheme = "http" || u.scheme = "https") && u.host ≠ ""

/-- `isSecureOIDCRedirectURI`. -/
def isSecureOIDCRedirectURI (s : String) : Bool :=
  (Url.parse s).any fun u => u.host ≠ "" && u.fragment = "" &&
    (u.scheme = "https" || (u.scheme = "http" &&
      (u.hostname = "localhost" || (Netip.parseIP u.hostname).any Netip.Addr.isLoopback)))

/-! ### Rules on the object alone -/

/-- Rules 1 to 4: Vault and the OIDC provider. -/
def validateVault (s : ControlPlaneSpec) : List FieldError :=
  errIf (!isAllowedVaultAddress s.platform.vault.address)
    ⟨.invalid, "spec.platform.vault.address",
      "vault address must use https:// (http:// is allowed only for hosts unreachable from outside the cluster: " ++
      "localhost/127.0.0.1/::1, single-label DNS, *.svc/*.svc.cluster.local, RFC1918 IPs, IPv6 ULA/link-local)"⟩ ++
  errIf (trimSpace s.platform.vault.oidcIssuer ≠ "" &&
      !isValidOIDCIssuer (trimSpace s.platform.vault.oidcIssuer))
    ⟨.invalid, "spec.platform.vault.oidcIssuer",
      "oidcIssuer must be a valid URL of the form scheme://host[:port] with no userinfo, path, query, or fragment; " ++
      "http:// is allowed only for provably-internal hosts (loopback, *.svc/*.svc.cluster.local, " ++
      "RFC1918/link-local IPs), public hosts require https://"⟩ ++
  errIf (s.platform.vault.authMethod = .appRole && s.platform.vault.appRoleSecretRef.isNone)
    ⟨.required, "spec.platform.vault.appRoleSecretRef",
      "appRoleSecretRef is required when authMethod is appRole"⟩ ++
  errIf (s.services.tokensmith.oidcProvider = "external" &&
      s.services.tokensmith.oidcIssuerURL = "")
    ⟨.required, "spec.services.tokensmith.oidcIssuerURL",
      "oidcIssuerURL is required when oidcProvider is external"⟩

/-- The errors of the elements of a list that fail a check, each with its index. -/
def indexedErrors (l : List String) (ok : String → Bool) (field detail : String) :
    List FieldError :=
  l.zipIdx.flatMap fun (x, i) =>
    errIf (!ok x) ⟨.invalid, field ++ "[" ++ toString i ++ "]", detail⟩

/-- `validateCLIOIDC`. -/
def validateCLIOIDC (cfg : CLIOIDCConfig) : List FieldError :=
  indexedErrors cfg.redirectURIs isSecureOIDCRedirectURI
    "spec.services.tokensmith.cliOIDC.redirectURIs"
    "redirect URI must be an absolute https:// URL or an http:// loopback URL without a fragment" ++
  indexedErrors cfg.assignments (fun a => trimSpace a ≠ "")
    "spec.services.tokensmith.cliOIDC.assignments" "assignment must not be empty"

/-- `externallyOverridableServices`. -/
def externallyOverridableServices (s : ServicesSpec) : List (String × ServiceDefaults) :=
  [("smd", s.smd.toServiceDefaults), ("tokensmith", s.tokensmith.toServiceDefaults),
   ("bootService", s.bootService.toServiceDefaults),
   ("metadataService", s.metadataService.toServiceDefaults)]

/-- Rule 3a, for one service. -/
def validateExternalEndpoint (name : String) (d : ServiceDefaults) : List FieldError :=
  match d.externalEndpoint with
  | none => []
  | some url =>
    errIf d.enabled
      ⟨.forbidden, "spec.services." ++ name ++ ".externalEndpoint",
        "externalEndpoint requires services." ++ name ++ ".enabled=false"⟩ ++
    errIf (!isHTTPURL url)
      ⟨.invalid, "spec.services." ++ name ++ ".externalEndpoint",
        "externalEndpoint must be a valid http:// or https:// URL"⟩

/-- `validateCoreDHCPConfigSource`: its errors. -/
def validateCoreDHCPConfigSource (d : CoreDHCPSpec) : List FieldError :=
  match d.configMapRef with
  | none => []
  | some ref =>
    let msg := "mutually exclusive with spec.services.coreDHCP.configMapRef; " ++
      "configure this in the referenced CoreDHCP config instead"
    errIf (ref.name = "")
      ⟨.required, "spec.services.coreDHCP.configMapRef.name", "configMapRef.name is required"⟩ ++
    errIf (d.leaseRanges ≠ []) ⟨.forbidden, "spec.services.coreDHCP.leaseRanges", msg⟩ ++
    errIf (d.unknownLeaseDuration ≠ "")
      ⟨.forbidden, "spec.services.coreDHCP.unknownLeaseDuration", msg⟩ ++
    errIf (d.knownLeaseDuration ≠ "")
      ⟨.forbidden, "spec.services.coreDHCP.knownLeaseDuration", msg⟩

/-- One target of `validateNetworkProbeTargets`. -/
def validateTarget (name : String) (target : Option NetworkProbeTarget) : List FieldError :=
  match target with
  | none => []
  | some t =>
    match (⟨t.subnet, t.validateHost, t.validateTimeout, t.validatePort⟩ :
        NetworkProbe.Target).validate with
    | none => []
    | some e => [⟨.invalid, "spec.networkProbe." ++ name, e⟩]

/-- `validateNetworkProbeTargets`. -/
def validateNetworkProbeTargets (p : NetworkProbeSpec) : List FieldError :=
  errIf (p.intervalSeconds ≤ 0)
    ⟨.invalid, "spec.networkProbe.intervalSeconds", "must be positive"⟩ ++
  validateTarget "provisionNetwork" p.provisionNetwork ++ validateTarget "bmcNetwork" p.bmcNetwork

/-- `nodeSelectorHasClusterDiscriminator`. -/
def nodeSelectorHasClusterDiscriminator (selector : GoMap String) (clusterName : String) : Bool :=
  clusterName ≠ "" &&
    selector.entries.any fun e => contains e.1 clusterName || contains e.2 clusterName

/-- Rules 5 and 6, when probing is off. -/
def validateSelector (s : ControlPlaneSpec) : List FieldError :=
  if s.services.coreDHCP.nodeSelector.len = 0 then
    [⟨.required, "spec.services.coreDHCP.nodeSelector",
      "coreDHCP.nodeSelector is required when networkProbe.enabled is false"⟩]
  else
    errIf (!nodeSelectorHasClusterDiscriminator s.services.coreDHCP.nodeSelector s.clusterName)
      ⟨.invalid, "spec.services.coreDHCP.nodeSelector",
        "at least one nodeSelector value must contain the clusterName \"" ++ s.clusterName ++
        "\" to prevent overlap with other clusters"⟩

/-- Rules 8 and 9 and the targets, when probing is on. -/
def validateProbe (s : ControlPlaneSpec) : List FieldError :=
  validateNetworkProbeTargets s.networkProbe ++
  errIf (s.services.coreDHCP.enabled && s.networkProbe.provisionNetwork.isNone)
    ⟨.required, "spec.networkProbe.provisionNetwork",
      "networkProbe.provisionNetwork is required when coreDHCP is enabled with networkProbe"⟩ ++
  errIf (s.services.magellan.enabled && s.networkProbe.bmcNetwork.isNone)
    ⟨.required, "spec.networkProbe.bmcNetwork",
      "networkProbe.bmcNetwork is required when magellan is enabled with networkProbe"⟩

/-- `enabledServicesForImagePinning`. -/
def enabledServicesForImagePinning (s : ControlPlaneSpec) : List String :=
  ([(s.services.smd.enabled, "smd"), (s.services.tokensmith.enabled, "tokensmith"),
    (s.services.bootService.enabled, "boot-service"),
    (s.services.metadataService.enabled, "metadata-service"),
    (s.services.coreDHCP.enabled, "coredhcp"), (s.services.magellan.enabled, "magellan"),
    (s.networkProbe.enabled, "network-probe"),
    (s.logging.enabled, "funicular-collector")].filter Prod.fst).map Prod.snd

/-- Rule 11. -/
def validateImages (s : ControlPlaneSpec) : List FieldError :=
  let missing := (enabledServicesForImagePinning s).filter fun n => s.images.pinned.getD n "" = ""
  errIf (s.images.stream = .pinned && missing ≠ [])
    ⟨.required, "spec.images.pinned",
      "stream=pinned requires an entry per enabled service; missing: " ++
        ", ".intercalate (missing.insertionSort (· ≤ ·))⟩

/-! ### Rules on the set of control planes -/

/-- `listOtherClusters`, on the answer of the list call. -/
def listOtherClusters (stored : List ControlPlane) (self : ControlPlane) : List ControlPlane :=
  stored.filter fun c =>
    !(c.metadata.uid ≠ "" && c.metadata.uid = self.metadata.uid) &&
    !(self.metadata.uid = "" && c.metadata.name = self.metadata.name &&
      c.metadata.namespace = self.metadata.namespace)

/-- Rule 4: the name of the cluster is unique. -/
def duplicateName (others : List ControlPlane) (cp : ControlPlane) : List FieldError :=
  errIf (others.any fun c => c.spec.clusterName = cp.spec.clusterName)
    ⟨.duplicate, "spec.clusterName", ""⟩

/-- Rule 7: when probing is off, the selector is that of no other control plane. -/
def duplicateSelector (others : List ControlPlane) (cp : ControlPlane) : List FieldError :=
  errIf (!cp.spec.networkProbe.enabled && cp.spec.services.coreDHCP.nodeSelector.len ≠ 0 &&
      others.any fun c =>
        c.spec.services.coreDHCP.nodeSelector = cp.spec.services.coreDHCP.nodeSelector)
    ⟨.duplicate, "spec.services.coreDHCP.nodeSelector", ""⟩

/-! ### Validation -/

/-- The errors `validate` gathers, in its order. -/
def validationErrors (others : List ControlPlane) (cp : ControlPlane) : List FieldError :=
  validateVault cp.spec ++ validateCLIOIDC cp.spec.services.tokensmith.cliOIDC ++
  ((externallyOverridableServices cp.spec.services).flatMap fun (name, d) =>
    validateExternalEndpoint name d) ++
  duplicateName others cp ++ validateCoreDHCPConfigSource cp.spec.services.coreDHCP ++
  (if !cp.spec.networkProbe.enabled then validateSelector cp.spec ++ duplicateSelector others cp
   else validateProbe cp.spec) ++
  validateImages cp.spec

/-- The warnings of `validate`. -/
def validationWarnings (cp : ControlPlane) : List String :=
  (if cp.spec.services.coreDHCP.configMapRef.isNone && cp.spec.services.coreDHCP.enabled &&
      cp.spec.services.coreDHCP.leaseRanges = [] then
    ["spec.services.coreDHCP has neither configMapRef nor leaseRanges; the CoreDHCP DaemonSet will not be deployed until one is set"]
   else []) ++
  if cp.spec.networkProbe.enabled && cp.spec.services.coreDHCP.nodeSelector.len ≠ 0 then
    ["spec.services.coreDHCP.nodeSelector is ignored when networkProbe.enabled is true; the operator generates the selector from probe labels"]
  else []

/-- Why a request is refused: the list call failed, or there are errors. -/
inductive Refusal where
  | listFailed
  | invalid (errors : List FieldError)
deriving DecidableEq

/-- `validate`, given the answer of the list call (`none` when it failed). -/
def validate (listing : Option (List ControlPlane)) (cp : ControlPlane) :
    List String × Option Refusal :=
  match listing with
  | none => ([], some .listFailed)
  | some stored =>
    let errors := validationErrors (listOtherClusters stored cp) cp
    (validationWarnings cp, if errors = [] then none else some (.invalid errors))

/-- `ValidateCreate`. -/
def validateCreate (listing : Option (List ControlPlane)) (cp : ControlPlane) :
    List String × Option Refusal := validate listing cp

/-- `ValidateUpdate`. The errors of `validate` are read back from the causes of its status. -/
def validateUpdate (listing : Option (List ControlPlane)) (old new : ControlPlane) :
    List String × Option Refusal :=
  let immutable := errIf (old.spec.clusterName ≠ new.spec.clusterName)
    ⟨.forbidden, "spec.clusterName", "clusterName is immutable after creation"⟩
  match validate listing new with
  | (warnings, some .listFailed) => (warnings, some .listFailed)
  | (warnings, some (.invalid errors)) => (warnings, some (.invalid (immutable ++
      errors.map fun e => { e with detail := e.body })))
  | (warnings, none) => (warnings, if immutable = [] then none else some (.invalid immutable))

/-! ### When a request is admitted -/

/-- The errors of the rules that look at the object alone. -/
def ownErrors (cp : ControlPlane) : List FieldError :=
  validateVault cp.spec ++ validateCLIOIDC cp.spec.services.tokensmith.cliOIDC ++
  ((externallyOverridableServices cp.spec.services).flatMap fun (name, d) =>
    validateExternalEndpoint name d) ++
  validateCoreDHCPConfigSource cp.spec.services.coreDHCP ++
  (if !cp.spec.networkProbe.enabled then validateSelector cp.spec else validateProbe cp.spec) ++
  validateImages cp.spec

theorem errIf_eq_nil {cond : Bool} {e : FieldError} : errIf cond e = [] ↔ cond = false := by
  unfold errIf
  split_ifs with h <;> simp [h]

theorem duplicateName_eq_nil {others : List ControlPlane} {cp : ControlPlane} :
    duplicateName others cp = [] ↔ ∀ c ∈ others, c.spec.clusterName ≠ cp.spec.clusterName := by
  unfold duplicateName
  rw [errIf_eq_nil, List.any_eq_false]
  simp

/-- An object without errors of its own has a selector when probing is off. -/
theorem selector_ne_empty {cp : ControlPlane} (h : ownErrors cp = [])
    (hoff : cp.spec.networkProbe.enabled = false) :
    cp.spec.services.coreDHCP.nodeSelector.len ≠ 0 := by
  intro hlen
  unfold ownErrors validateSelector at h
  simp [hoff, hlen] at h

/-- Taking two parts out of a list of errors. -/
theorem append_eq_nil_split {a b c n e s d i : List FieldError} :
    a ++ b ++ c ++ n ++ e ++ (s ++ d) ++ i = [] ↔
      a ++ b ++ c ++ e ++ s ++ i = [] ∧ n = [] ∧ d = [] := by
  simp only [List.append_eq_nil_iff]
  tauto

/-- **The rules, split**: no errors of its own, a name no other control plane has, and when probing
is off a selector no other control plane has, whether that one uses it or not. -/
theorem validationErrors_eq_nil {others : List ControlPlane} {cp : ControlPlane} :
    validationErrors others cp = [] ↔ ownErrors cp = [] ∧
      (∀ c ∈ others, c.spec.clusterName ≠ cp.spec.clusterName) ∧
      (cp.spec.networkProbe.enabled = false → ∀ c ∈ others,
        c.spec.services.coreDHCP.nodeSelector ≠ cp.spec.services.coreDHCP.nodeSelector) := by
  rw [← duplicateName_eq_nil]
  by_cases hoff : cp.spec.networkProbe.enabled = false
  · have hsplit : validationErrors others cp = [] ↔
        ownErrors cp = [] ∧ duplicateName others cp = [] ∧ duplicateSelector others cp = [] := by
      unfold validationErrors ownErrors
      rw [hoff]
      exact append_eq_nil_split
    rw [hsplit]
    refine and_congr_right fun hown => and_congr_right fun _ => ?_
    have hlen := selector_ne_empty hown hoff
    unfold duplicateSelector
    rw [errIf_eq_nil]
    simp [hoff, hlen]
  · have hon : cp.spec.networkProbe.enabled = true := by simpa using hoff
    have hsplit : validationErrors others cp = [] ↔
        ownErrors cp = [] ∧ duplicateName others cp = [] ∧ ([] : List FieldError) = [] := by
      unfold validationErrors ownErrors
      rw [hon, ← append_eq_nil_split, List.append_nil]
      exact Iff.rfl
    rw [hsplit]
    refine and_congr_right fun _ => and_congr_right fun _ => ?_
    exact ⟨fun _ h => absurd h hoff, fun _ => rfl⟩

/-- A request is admitted exactly when the list call succeeds and there are no errors. -/
theorem validate_admits {stored : List ControlPlane} {cp : ControlPlane} :
    (validate (some stored) cp).2 = none ↔
      validationErrors (listOtherClusters stored cp) cp = [] := by
  unfold validate
  simp only
  split_ifs with h <;> simp [h]

theorem validateUpdate_admits {stored : List ControlPlane} {old new : ControlPlane} :
    (validateUpdate (some stored) old new).2 = none ↔
      old.spec.clusterName = new.spec.clusterName ∧
        validationErrors (listOtherClusters stored new) new = [] := by
  rw [← validate_admits]
  unfold validateUpdate
  simp only
  rcases hv : validate (some stored) new with ⟨warnings, _ | _ | errors⟩
  · simp only [and_true]
    by_cases hname : old.spec.clusterName = new.spec.clusterName
    · simp [errIf, hname]
    · simp [errIf, hname]
  · simp
  · simp

end OpenchamiOperator.Api.Webhook
