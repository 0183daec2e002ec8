import OpenchamiOperator.Api.Types
import OpenchamiOperator.Lib.Json

/-! # The specification as a document

The JSON tags and the default markers of `api/v1alpha1/openchamicontrolplane_types.go`, struct by
struct: a field is `required` if its tag has no `omitempty`, `optional` if it has, and the last
argument is the default of its marker. A struct is never left out, whatever its tag is.

* `Kept`: the fields with a default hold something else than the zero value.
* `filled_eq_iff`: these are the specifications that the defaults leave alone. -/

namespace OpenchamiOperator.Api.Wire

open Lib

/-! ### Types of other packages -/

def claim : Codec (String × String) :=
  .struct ("", "")
    [.required "name" (·.1) (fun v s => (v, s.2)) .string,
     .optional "request" (·.2) (fun v s => (s.1, v)) .string none]
    (by decide) fun s => by cases s; rfl

def resources : Codec ResourceRequirements :=
  .struct {}
    [.optional "limits" (·.limits) (fun v s => { s with limits := v }) .stringMap none,
     .optional "requests" (·.requests) (fun v s => { s with requests := v }) .stringMap none,
     .optional "claims" (·.claims) (fun v s => { s with claims := v }) claim.list none]
    (by decide) fun s => by cases s; rfl

def toleration : Codec Toleration :=
  .struct {}
    [.optional "key" (·.key) (fun v s => { s with key := v }) .string none,
     .optional "operator" (·.operator) (fun v s => { s with operator := v }) .string none,
     .optional "value" (·.value) (fun v s => { s with value := v }) .string none,
     .optional "effect" (·.effect) (fun v s => { s with effect := v }) .string none,
     .pointer "tolerationSeconds" .int (·.tolerationSeconds)
       (fun v s => { s with tolerationSeconds := v }) none]
    (by decide) fun s => by cases s; rfl

/-- `corev1.LocalObjectReference`. -/
def reference : Codec String :=
  .struct ""
    [.optional "name" id (fun v _ => v) .string (some "")]
    (by decide) fun s => by cases s; rfl

/-! ### Images -/

def image : Codec ImageSpec :=
  .struct {}
    [.optional "repository" (·.repository) (fun v s => { s with repository := v }) .string none,
     .optional "tag" (·.tag) (fun v s => { s with tag := v }) .string none,
     .optional "pullPolicy" (·.pullPolicy) (fun v s => { s with pullPolicy := v }) .string none]
    (by decide) fun s => by cases s; rfl

def streamText : ImageStream → String
  | .unset => ""
  | .release => "release"
  | .bleedingEdge => "bleedingEdge"
  | .pinned => "pinned"

def stream : Codec ImageStream :=
  .text .unset streamText [.unset, .release, .bleedingEdge, .pinned] fun a => by cases a <;> decide

def images : Codec ImagesSpec :=
  .struct {}
    [.optional "stream" (·.stream) (fun v s => { s with stream := v }) stream (some .release),
     .optional "pinned" (·.pinned) (fun v s => { s with pinned := v }) .stringMap none]
    (by decide) fun s => by cases s; rfl

/-! ### Services -/

def serviceTLS : Codec ServiceTLSConfig :=
  .struct {}
    [.optional "enabled" (·.enabled) (fun v s => { s with enabled := v }) .bool (some false)]
    (by decide) fun s => by cases s; rfl

/-- The fields of `ServiceDefaults`, which every service embeds. -/
def serviceDefaultsMembers : List (Member ServiceDefaults) :=
  [.optional "enabled" (·.enabled) (fun v s => { s with enabled := v }) .bool (some true),
   .optional "replicas" (·.replicas) (fun v s => { s with replicas := v }) .int (some 2),
   .pointer "image" image (·.image) (fun v s => { s with image := v }) none,
   .pointer "resources" resources (·.resources) (fun v s => { s with resources := v }) none,
   .optional "tls" (·.tls) (fun v s => { s with tls := v }) serviceTLS none,
   .pointer "externalEndpoint" .string (·.externalEndpoint)
     (fun v s => { s with externalEndpoint := v }) none]

def publicRoutes : Codec PublicRoutesSpec :=
  .struct {}
    [.pointer "enabled" .bool (·.enabled) (fun v s => { s with enabled := v }) (some true),
     .optional "paths" (·.paths) (fun v s => { s with paths := v }) (.list .string) none]
    (by decide) fun s => by cases s; rfl

def smd : Codec SMDSpec :=
  .struct {}
    (serviceDefaultsMembers.map (·.embedded (·.toServiceDefaults)
      fun v s => { s with toServiceDefaults := v }) ++
    [.optional "publicRoutes" (·.publicRoutes)
       (fun v s => { s with publicRoutes := v }) publicRoutes none])
    (by decide) fun s => by cases s; rfl

def cliOIDC : Codec CLIOIDCConfig :=
  .struct {}
    [.optional "redirectURIs" (·.redirectURIs)
       (fun v s => { s with redirectURIs := v }) (.list .string)
       (some ["http://127.0.0.1:8250/callback"]),
     .optional "assignments" (·.assignments)
       (fun v s => { s with assignments := v }) (.list .string) (some ["allow_all"])]
    (by decide) fun s => by cases s; rfl

def tokensmith : Codec TokensmithSpec :=
  .struct {}
    (serviceDefaultsMembers.map (·.embedded (·.toServiceDefaults)
      fun v s => { s with toServiceDefaults := v }) ++
    [.optional "oidcProvider" (·.oidcProvider)
       (fun v s => { s with oidcProvider := v }) .string (some "vault"),
     .optional "oidcIssuerURL" (·.oidcIssuerURL)
       (fun v s => { s with oidcIssuerURL := v }) .string none,
     .optional "oidcIntrospectionEndpoint" (·.oidcIntrospectionEndpoint)
       (fun v s => { s with oidcIntrospectionEndpoint := v }) .string none,
     .optional "cliOIDC" (·.cliOIDC) (fun v s => { s with cliOIDC := v }) cliOIDC none])
    (by decide) fun s => by cases s; rfl

def bootService : Codec BootServiceSpec :=
  .struct {}
    (serviceDefaultsMembers.map (·.embedded (·.toServiceDefaults)
      fun v s => { s with toServiceDefaults := v }) ++
    [.optional "publicRoutes" (·.publicRoutes)
       (fun v s => { s with publicRoutes := v }) publicRoutes none,
     .pointer "httpBootScript" .bool (·.httpBootScript)
       (fun v s => { s with httpBootScript := v }) (some true)])
    (by decide) fun s => by cases s; rfl

def metadataService : Codec MetadataServiceSpec :=
  .struct {}
    (serviceDefaultsMembers.map (·.embedded (·.toServiceDefaults)
      fun v s => { s with toServiceDefaults := v }) ++
    [.optional "preserveClientIP" (·.preserveClientIP)
       (fun v s => { s with preserveClientIP := v }) .bool (some false)])
    (by decide) fun s => by cases s; rfl

def leaseRange : Codec DHCPLeaseRange :=
  .struct {}
    [.required "subnet" (·.subnet) (fun v s => { s with subnet := v }) .string,
     .required "start" (·.start) (fun v s => { s with start := v }) .string,
     .required "end" (·.«end») (fun v s => { s with «end» := v }) .string]
    (by decide) fun s => by cases s; rfl

def configMapRef : Codec CoreDHCPConfigMapRef :=
  .struct {}
    [.required "name" (·.name) (fun v s => { s with name := v }) .string,
     .optional "key" (·.key) (fun v s => { s with key := v }) .string (some "config.yml")]
    (by decide) fun s => by cases s; rfl

def coreDHCP : Codec CoreDHCPSpec :=
  .struct {}
    [.optional "enabled" (·.enabled) (fun v s => { s with enabled := v }) .bool (some true),
     .optional "nodeSelector" (·.nodeSelector)
       (fun v s => { s with nodeSelector := v }) .stringMap none,
     .pointer "configMapRef" configMapRef (·.configMapRef)
       (fun v s => { s with configMapRef := v }) none,
     .optional "leaseRanges" (·.leaseRanges)
       (fun v s => { s with leaseRanges := v }) leaseRange.list none,
     .optional "unknownLeaseDuration" (·.unknownLeaseDuration)
       (fun v s => { s with unknownLeaseDuration := v }) .string none,
     .optional "knownLeaseDuration" (·.knownLeaseDuration)
       (fun v s => { s with knownLeaseDuration := v }) .string none,
     .pointer "image" image (·.image) (fun v s => { s with image := v }) none,
     .pointer "resources" resources (·.resources) (fun v s => { s with resources := v }) none,
     .optional "tolerations" (·.tolerations)
       (fun v s => { s with tolerations := v }) toleration.list none]
    (by decide) fun s => by cases s; rfl

def magellan : Codec MagellanSpec :=
  .struct {}
    [.optional "enabled" (·.enabled) (fun v s => { s with enabled := v }) .bool (some true),
     .optional "nodeSelector" (·.nodeSelector)
       (fun v s => { s with nodeSelector := v }) .stringMap none,
     .optional "schedule" (·.schedule)
       (fun v s => { s with schedule := v }) .string (some "*/30 * * * *"),
     .optional "bmcSubnet" (·.bmcSubnet) (fun v s => { s with bmcSubnet := v }) .string none,
     .optional "concurrencyPolicy" (·.concurrencyPolicy)
       (fun v s => { s with concurrencyPolicy := v }) .string (some "Forbid"),
     .pointer "image" image (·.image) (fun v s => { s with image := v }) none,
     .pointer "resources" resources (·.resources) (fun v s => { s with resources := v }) none]
    (by decide) fun s => by cases s; rfl

def services : Codec ServicesSpec :=
  .struct {}
    [.optional "smd" (·.smd) (fun v s => { s with smd := v }) smd none,
     .optional "tokensmith" (·.tokensmith) (fun v s => { s with tokensmith := v }) tokensmith none,
     .optional "bootService" (·.bootService)
       (fun v s => { s with bootService := v }) bootService none,
     .optional "metadataService" (·.metadataService)
       (fun v s => { s with metadataService := v }) metadataService none,
     .optional "coreDHCP" (·.coreDHCP) (fun v s => { s with coreDHCP := v }) coreDHCP none,
     .optional "magellan" (·.magellan) (fun v s => { s with magellan := v }) magellan none]
    (by decide) fun s => by cases s; rfl

/-! ### The rest of the specification -/

def probeTarget : Codec NetworkProbeTarget :=
  .struct {}
    [.required "subnet" (·.subnet) (fun v s => { s with subnet := v }) .string,
     .optional "validateHost" (·.validateHost)
       (fun v s => { s with validateHost := v }) .string none,
     .optional "validatePort" (·.validatePort) (fun v s => { s with validatePort := v }) .int none,
     .optional "validateTimeout" (·.validateTimeout)
       (fun v s => { s with validateTimeout := v }) .string none]
    (by decide) fun s => by cases s; rfl

def networkProbe : Codec NetworkProbeSpec :=
  .struct {}
    [.optional "enabled" (·.enabled) (fun v s => { s with enabled := v }) .bool (some false),
     .optional "intervalSeconds" (·.intervalSeconds)
       (fun v s => { s with intervalSeconds := v }) .int (some 300),
     .pointer "provisionNetwork" probeTarget (·.provisionNetwork)
       (fun v s => { s with provisionNetwork := v }) none,
     .pointer "bmcNetwork" probeTarget (·.bmcNetwork) (fun v s => { s with bmcNetwork := v }) none,
     .pointer "image" image (·.image) (fun v s => { s with image := v }) none]
    (by decide) fun s => by cases s; rfl

def authMethodText : VaultAuthMethod → String
  | .unset => ""
  | .kubernetes => "kubernetes"
  | .appRole => "appRole"

def authMethod : Codec VaultAuthMethod :=
  .text .unset authMethodText [.unset, .kubernetes, .appRole] fun a => by cases a <;> decide

def vault : Codec VaultSpec :=
  .struct {}
    [.required "address" (·.address) (fun v s => { s with address := v }) .string,
     .optional "oidcIssuer" (·.oidcIssuer) (fun v s => { s with oidcIssuer := v }) .string none,
     .optional "authMethod" (·.authMethod)
       (fun v s => { s with authMethod := v }) authMethod (some .kubernetes),
     .pointer "appRoleSecretRef" reference (·.appRoleSecretRef)
       (fun v s => { s with appRoleSecretRef := v }) none,
     .pointer "caBundleSecretRef" reference (·.caBundleSecretRef)
       (fun v s => { s with caBundleSecretRef := v }) none]
    (by decide) fun s => by cases s; rfl

def objectStorage : Codec ObjectStorageSpec :=
  .struct {}
    [.required "endpoint" (·.endpoint) (fun v s => { s with endpoint := v }) .string,
     .optional "bucket" (·.bucket) (fun v s => { s with bucket := v }) .string none,
     .optional "tlsInsecure" (·.tlsInsecure) (fun v s => { s with tlsInsecure := v }) .bool none]
    (by decide) fun s => by cases s; rfl

def platform : Codec PlatformSpec :=
  .struct {}
    [.required "vault" (·.vault) (fun v s => { s with vault := v }) vault,
     .required "objectStorage" (·.objectStorage)
       (fun v s => { s with objectStorage := v }) objectStorage]
    (by decide) fun s => by cases s; rfl

def tls : Codec TLSSpec :=
  .struct {}
    [.optional "issuer" (·.issuer)
       (fun v s => { s with issuer := v }) .string (some "vault-pki-issuer"),
     .optional "secretName" (·.secretName) (fun v s => { s with secretName := v }) .string none]
    (by decide) fun s => by cases s; rfl

def networking : Codec NetworkingSpec :=
  .struct {}
    [.optional "gatewayClass" (·.gatewayClass)
       (fun v s => { s with gatewayClass := v }) .string (some "envoy"),
     .optional "tls" (·.tls) (fun v s => { s with tls := v }) tls none]
    (by decide) fun s => by cases s; rfl

def database : Codec DatabaseSpec :=
  .struct {}
    [.optional "instances" (·.instances) (fun v s => { s with instances := v }) .int (some 3),
     .optional "storageSize" (·.storageSize)
       (fun v s => { s with storageSize := v }) (.quantity "0") (some "20Gi"),
     .optional "storageClass" (·.storageClass)
       (fun v s => { s with storageClass := v }) .string none,
     .optional "backupEnabled" (·.backupEnabled)
       (fun v s => { s with backupEnabled := v }) .bool none]
    (by decide) fun s => by cases s; rfl

def logging : Codec LoggingSpec :=
  .struct {}
    [.optional "enabled" (·.enabled) (fun v s => { s with enabled := v }) .bool (some false),
     .optional "logBucket" (·.logBucket) (fun v s => { s with logBucket := v }) .string none,
     .optional "retentionDays" (·.retentionDays)
       (fun v s => { s with retentionDays := v }) .int (some 90),
     .optional "flushIntervalSeconds" (·.flushIntervalSeconds)
       (fun v s => { s with flushIntervalSeconds := v }) .int (some 60),
     .optional "includeServices" (·.includeServices)
       (fun v s => { s with includeServices := v }) (.list .string) none,
     .pointer "image" image (·.image) (fun v s => { s with image := v }) none,
     .optional "compactorEnabled" (·.compactorEnabled)
       (fun v s => { s with compactorEnabled := v }) .bool (some false),
     .pointer "compactorImage" image (·.compactorImage)
       (fun v s => { s with compactorImage := v }) none,
     .optional "compactorSchedule" (·.compactorSchedule)
       (fun v s => { s with compactorSchedule := v }) .string (some "0 2 * * *"),
     .optional "queryEnabled" (·.queryEnabled)
       (fun v s => { s with queryEnabled := v }) .bool (some false),
     .pointer "queryImage" image (·.queryImage) (fun v s => { s with queryImage := v }) none,
     .optional "queryReplicas" (·.queryReplicas)
       (fun v s => { s with queryReplicas := v }) .int (some 1),
     .optional "queryPort" (·.queryPort) (fun v s => { s with queryPort := v }) .int (some 8080)]
    (by decide) fun s => by cases s; rfl

def observability : Codec ObservabilitySpec :=
  .struct {}
    [.optional "prometheusOperator" (·.prometheusOperator)
       (fun v s => { s with prometheusOperator := v }) .bool none]
    (by decide) fun s => by cases s; rfl

/-- `OpenCHAMIControlPlaneSpec`. -/
def spec : Codec ControlPlaneSpec :=
  .struct {}
    [.required "clusterName" (·.clusterName) (fun v s => { s with clusterName := v }) .string,
     .optional "notes" (·.notes) (fun v s => { s with notes := v }) .string none,
     .required "domain" (·.domain) (fun v s => { s with domain := v }) .string,
     .required "platform" (·.platform) (fun v s => { s with platform := v }) platform,
     .optional "networkProbe" (·.networkProbe)
       (fun v s => { s with networkProbe := v }) networkProbe none,
     .optional "services" (·.services) (fun v s => { s with services := v }) services none,
     .optional "networking" (·.networking) (fun v s => { s with networking := v }) networking none,
     .optional "database" (·.database) (fun v s => { s with database := v }) database none,
     .optional "logging" (·.logging) (fun v s => { s with logging := v }) logging none,
     .optional "observability" (·.observability)
       (fun v s => { s with observability := v }) observability none,
     .optional "images" (·.images) (fun v s => { s with images := v }) images none,
     .optional "operatorChannel" (·.operatorChannel)
       (fun v s => { s with operatorChannel := v }) .string (some "stable"),
     .optional "pinnedVersion" (·.pinnedVersion)
       (fun v s => { s with pinnedVersion := v }) .string none]
    (by decide) fun s => by cases s; rfl

/-! ### Defaults of single fields -/

section Fields

@[simp] theorem plain_bool : Codec.bool.Plain := fun _ => rfl
@[simp] theorem plain_int : Codec.int.Plain := fun _ => rfl
@[simp] theorem plain_string : Codec.string.Plain := fun _ => rfl
@[simp] theorem plain_stringMap : Codec.stringMap.Plain := fun _ => rfl
@[simp] theorem plain_strings : (Codec.list .string).Plain := Codec.plain_list plain_string

@[simp] theorem filledOr_true {b : Bool} : Codec.bool.filledOr (some true) b = true := by
  cases b <;> rfl

@[simp] theorem filledOr_false {b : Bool} : Codec.bool.filledOr (some false) b = b := by
  cases b <;> rfl

@[simp] theorem filledOr_int {n d : ℤ} (hd : d ≠ 0) :
    Codec.int.filledOr (some d) n = n ↔ n ≠ 0 := Codec.filledOr_some_eq_iff plain_int rfl hd

@[simp] theorem filledOr_string {s d : String} (hd : d ≠ "") :
    Codec.string.filledOr (some d) s = s ↔ s ≠ "" := Codec.filledOr_some_eq_iff plain_string rfl hd

@[simp] theorem filledOr_strings {l d : List String} (hd : d ≠ []) :
    (Codec.list .string).filledOr (some d) l = l ↔ l ≠ [] :=
  Codec.filledOr_some_eq_iff plain_strings rfl hd

end Fields

/-! ### Structs without defaults -/

section Plain

@[simp] theorem plain_image : image.Plain := fun s => by
  cases s
  simp [image, Codec.filledOr_none_of_plain]

theorem plain_claim : claim.Plain := fun s => by
  cases s
  simp [claim, Codec.filledOr_none_of_plain, plain_string _]

@[simp] theorem plain_resources : resources.Plain := fun s => by
  cases s
  simp [resources, Codec.filledOr_none_of_plain, Codec.plain_list plain_claim]

theorem plain_toleration : toleration.Plain := fun s => by
  cases s
  simp [toleration, Codec.filledOr_none_of_plain, Codec.map_filled]

@[simp] theorem plain_serviceTLS : serviceTLS.Plain := fun s => by
  cases s
  simp [serviceTLS]

theorem plain_leaseRange : leaseRange.Plain := fun s => by
  cases s
  simp [leaseRange, plain_string _]

@[simp] theorem plain_probeTarget : probeTarget.Plain := fun s => by
  cases s
  simp [probeTarget, plain_string _, Codec.filledOr_none_of_plain]

@[simp] theorem plain_reference : reference.Plain := fun s => by
  simp only [reference, Codec.filled_struct, List.foldl_cons, List.foldl_nil, Member.fill_optional,
    id_eq]
  unfold Codec.filledOr
  split_ifs with h
  · exact (Codec.string.zero_of_empty s h).symm
  · rfl

@[simp] theorem plain_objectStorage : objectStorage.Plain := fun s => by
  cases s
  simp [objectStorage, plain_string _, Codec.filledOr_none_of_plain]

@[simp] theorem plain_observability : observability.Plain := fun s => by
  cases s
  simp [observability, Codec.filledOr_none_of_plain]

end Plain

/-! ### What the defaults leave alone -/

/-- No field with a default has the zero value. -/
structure Kept (s : ControlPlaneSpec) : Prop where
  smd : s.services.smd.enabled = true ∧ s.services.smd.replicas ≠ 0 ∧
    s.services.smd.publicRoutes.enabled ≠ none
  tokensmith : s.services.tokensmith.enabled = true ∧ s.services.tokensmith.replicas ≠ 0 ∧
    s.services.tokensmith.oidcProvider ≠ "" ∧
    s.services.tokensmith.cliOIDC.redirectURIs ≠ [] ∧ s.services.tokensmith.cliOIDC.assignments ≠ []
  bootService : s.services.bootService.enabled = true ∧ s.services.bootService.replicas ≠ 0 ∧
    s.services.bootService.publicRoutes.enabled ≠ none ∧ s.services.bootService.httpBootScript ≠ none
  metadataService : s.services.metadataService.enabled = true ∧
    s.services.metadataService.replicas ≠ 0
  coreDHCP : s.services.coreDHCP.enabled = true ∧
    ∀ ref, s.services.coreDHCP.configMapRef = some ref → ref.key ≠ ""
  magellan : s.services.magellan.enabled = true ∧ s.services.magellan.schedule ≠ "" ∧
    s.services.magellan.concurrencyPolicy ≠ ""
  networkProbe : s.networkProbe.intervalSeconds ≠ 0
  vault : s.platform.vault.authMethod ≠ .unset
  networking : s.networking.gatewayClass ≠ "" ∧ s.networking.tls.issuer ≠ ""
  database : s.database.instances ≠ 0
  logging : s.logging.retentionDays ≠ 0 ∧ s.logging.flushIntervalSeconds ≠ 0 ∧
    s.logging.compactorSchedule ≠ "" ∧ s.logging.queryReplicas ≠ 0 ∧ s.logging.queryPort ≠ 0
  images : s.images.stream ≠ .unset
  operatorChannel : s.operatorChannel ≠ ""

section Filled

/-- A list of strings with a default. -/
abbrev orStrings (l d : List String) : List String := (Codec.list .string).filledOr (some d) l

/-- An integer with a default. -/
abbrev orInt (n d : ℤ) : ℤ := Codec.int.filledOr (some d) n

/-- A string with a default. -/
abbrev orString (s d : String) : String := Codec.string.filledOr (some d) s

theorem publicRoutes_filled (p : PublicRoutesSpec) : publicRoutes.filledOr none p =
    { p with enabled := p.enabled.or (some true) } := by
  show publicRoutes.filled p = _
  cases p
  simp only [publicRoutes, Codec.filled_struct, List.foldl_cons, List.foldl_nil, Member.fill_pointer,
    Member.fill_optional, Codec.map_filled plain_bool, Codec.filledOr_none_of_plain plain_strings]

theorem cliOIDC_filled (c : CLIOIDCConfig) : cliOIDC.filledOr none c =
    { redirectURIs := orStrings c.redirectURIs ["http://127.0.0.1:8250/callback"]
      assignments := orStrings c.assignments ["allow_all"] } := by
  show cliOIDC.filled c = _
  cases c
  rfl

theorem smd_filled (s : SMDSpec) : smd.filledOr none s =
    { s with
      enabled := true
      replicas := orInt s.replicas 2
      publicRoutes := { s.publicRoutes with enabled := s.publicRoutes.enabled.or (some true) } } := by
  show smd.filled s = _
  cases s
  simp [smd, serviceDefaultsMembers, Codec.map_filled, Codec.filledOr_none_of_plain,
    publicRoutes_filled]

theorem tokensmith_filled (t : TokensmithSpec) : tokensmith.filledOr none t =
    { t with
      enabled := true
      replicas := orInt t.replicas 2
      oidcProvider := orString t.oidcProvider "vault"
      cliOIDC :=
        { redirectURIs := orStrings t.cliOIDC.redirectURIs ["http://127.0.0.1:8250/callback"]
          assignments := orStrings t.cliOIDC.assignments ["allow_all"] } } := by
  show tokensmith.filled t = _
  cases t
  simp [tokensmith, serviceDefaultsMembers, Codec.map_filled, Codec.filledOr_none_of_plain,
    cliOIDC_filled]

theorem bootService_filled (b : BootServiceSpec) : bootService.filledOr none b =
    { b with
      enabled := true
      replicas := orInt b.replicas 2
      publicRoutes := { b.publicRoutes with enabled := b.publicRoutes.enabled.or (some true) }
      httpBootScript := b.httpBootScript.or (some true) } := by
  show bootService.filled b = _
  cases b
  simp [bootService, serviceDefaultsMembers, Codec.map_filled, Codec.filledOr_none_of_plain,
    publicRoutes_filled, plain_bool _]

theorem metadataService_filled (m : MetadataServiceSpec) : metadataService.filledOr none m =
    { m with enabled := true, replicas := orInt m.replicas 2 } := by
  show metadataService.filled m = _
  cases m
  simp [metadataService, serviceDefaultsMembers, Codec.map_filled, Codec.filledOr_none_of_plain]

theorem configMapRef_filled (r : CoreDHCPConfigMapRef) : configMapRef.filled r =
    { r with key := orString r.key "config.yml" } := by
  cases r
  rfl

theorem coreDHCP_filled (d : CoreDHCPSpec) : coreDHCP.filledOr none d =
    { d with
      enabled := true
      configMapRef := d.configMapRef.map fun r => { r with key := orString r.key "config.yml" } } := by
  show coreDHCP.filled d = _
  have href : configMapRef.filled = fun r => { r with key := orString r.key "config.yml" } :=
    funext configMapRef_filled
  cases d
  simp [coreDHCP, Codec.map_filled, Codec.filledOr_none_of_plain, Codec.plain_list plain_toleration,
    Codec.plain_list plain_leaseRange, href]

theorem magellan_filled (m : MagellanSpec) : magellan.filledOr none m =
    { m with
      enabled := true
      schedule := orString m.schedule "*/30 * * * *"
      concurrencyPolicy := orString m.concurrencyPolicy "Forbid" } := by
  show magellan.filled m = _
  cases m
  simp [magellan, Codec.map_filled, Codec.filledOr_none_of_plain]

theorem networkProbe_filled (p : NetworkProbeSpec) : networkProbe.filledOr none p =
    { p with intervalSeconds := orInt p.intervalSeconds 300 } := by
  show networkProbe.filled p = _
  cases p
  simp [networkProbe, Codec.map_filled]

theorem vault_filled (v : VaultSpec) : vault.filled v =
    { v with authMethod := authMethod.filledOr (some .kubernetes) v.authMethod } := by
  cases v
  simp [vault, Codec.map_filled, Codec.filledOr_none_of_plain, plain_string _]

theorem networking_filled (n : NetworkingSpec) : networking.filledOr none n =
    { gatewayClass := orString n.gatewayClass "envoy"
      tls := { n.tls with issuer := orString n.tls.issuer "vault-pki-issuer" } } := by
  show networking.filled n = _
  have htls : ∀ t : TLSSpec, tls.filledOr none t =
      { t with issuer := orString t.issuer "vault-pki-issuer" } := fun t => by
    show tls.filled t = _
    cases t
    simp [tls, Codec.filledOr_none_of_plain]
  cases n
  simp [networking, htls]

theorem database_filled (d : DatabaseSpec) : database.filledOr none d =
    { d with instances := orInt d.instances 3 } := by
  show database.filled d = _
  have hquantity : ∀ q : String, (Codec.quantity "0").filledOr (some "20Gi") q = q := fun _ => rfl
  cases d
  simp [database, Codec.filledOr_none_of_plain, hquantity]

theorem logging_filled (l : LoggingSpec) : logging.filledOr none l =
    { l with
      retentionDays := orInt l.retentionDays 90
      flushIntervalSeconds := orInt l.flushIntervalSeconds 60
      compactorSchedule := orString l.compactorSchedule "0 2 * * *"
      queryReplicas := orInt l.queryReplicas 1
      queryPort := orInt l.queryPort 8080 } := by
  show logging.filled l = _
  cases l
  simp [logging, Codec.map_filled, Codec.filledOr_none_of_plain]

theorem images_filled (i : ImagesSpec) : images.filledOr none i =
    { i with stream := stream.filledOr (some .release) i.stream } := by
  show images.filled i = _
  cases i
  simp [images, Codec.filledOr_none_of_plain]

theorem services_filled (s : ServicesSpec) : services.filledOr none s =
    { smd := smd.filledOr none s.smd
      tokensmith := tokensmith.filledOr none s.tokensmith
      bootService := bootService.filledOr none s.bootService
      metadataService := metadataService.filledOr none s.metadataService
      coreDHCP := coreDHCP.filledOr none s.coreDHCP
      magellan := magellan.filledOr none s.magellan } := by
  show services.filled s = _
  cases s
  rfl

theorem platform_filled (p : PlatformSpec) : platform.filled p =
    { p with vault := vault.filled p.vault } := by
  cases p
  simp [platform, plain_objectStorage _]

theorem spec_filled (s : ControlPlaneSpec) : spec.filled s =
    { s with
      platform := platform.filled s.platform
      networkProbe := networkProbe.filledOr none s.networkProbe
      services := services.filledOr none s.services
      networking := networking.filledOr none s.networking
      database := database.filledOr none s.database
      logging := logging.filledOr none s.logging
      images := images.filledOr none s.images
      operatorChannel := orString s.operatorChannel "stable" } := by
  cases s
  simp [spec, plain_string _, Codec.filledOr_none_of_plain]

end Filled

section Kept

theorem publicRoutes_kept {p : PublicRoutesSpec} :
    ({ p with enabled := p.enabled.or (some true) } : PublicRoutesSpec) = p ↔ p.enabled ≠ none := by
  obtain ⟨enabled, paths⟩ := p
  cases enabled <;> simp

theorem smd_kept {s : SMDSpec} : smd.filledOr none s = s ↔
    s.enabled = true ∧ s.replicas ≠ 0 ∧ s.publicRoutes.enabled ≠ none := by
  rw [smd_filled, ← publicRoutes_kept]
  obtain ⟨⟨enabled, replicas, tls, external, image, resources⟩, routes⟩ := s
  simp [orInt, and_assoc, eq_comm (a := true)]

theorem tokensmith_kept {t : TokensmithSpec} : tokensmith.filledOr none t = t ↔
    t.enabled = true ∧ t.replicas ≠ 0 ∧ t.oidcProvider ≠ "" ∧ t.cliOIDC.redirectURIs ≠ [] ∧
      t.cliOIDC.assignments ≠ [] := by
  rw [tokensmith_filled]
  obtain ⟨⟨enabled, replicas, tls, external, image, resources⟩, provider, issuer, ⟨uris, groups⟩,
    introspection⟩ := t
  simp [orInt, orString, orStrings, and_assoc, eq_comm (a := true)]

theorem bootService_kept {b : BootServiceSpec} : bootService.filledOr none b = b ↔
    b.enabled = true ∧ b.replicas ≠ 0 ∧ b.publicRoutes.enabled ≠ none ∧
      b.httpBootScript ≠ none := by
  rw [bootService_filled, ← publicRoutes_kept]
  obtain ⟨⟨enabled, replicas, tls, external, image, resources⟩, routes, script⟩ := b
  cases script <;> simp [orInt, and_assoc, eq_comm (a := true)]

theorem metadataService_kept {m : MetadataServiceSpec} : metadataService.filledOr none m = m ↔
    m.enabled = true ∧ m.replicas ≠ 0 := by
  rw [metadataService_filled]
  obtain ⟨⟨enabled, replicas, tls, external, image, resources⟩, preserve⟩ := m
  simp [orInt, eq_comm (a := true)]

theorem coreDHCP_kept {d : CoreDHCPSpec} : coreDHCP.filledOr none d = d ↔
    d.enabled = true ∧ ∀ ref, d.configMapRef = some ref → ref.key ≠ "" := by
  rw [coreDHCP_filled]
  obtain ⟨enabled, selector, ref, ranges, unknown, known, image, resources, tolerations⟩ := d
  rcases ref with _ | ⟨name, key⟩ <;> simp [orString, eq_comm (a := true)]

theorem magellan_kept {m : MagellanSpec} : magellan.filledOr none m = m ↔
    m.enabled = true ∧ m.schedule ≠ "" ∧ m.concurrencyPolicy ≠ "" := by
  rw [magellan_filled]
  obtain ⟨enabled, schedule, policy, selector, subnet, image, resources⟩ := m
  simp [orString, eq_comm (a := true)]

theorem services_kept {s : ServicesSpec} : services.filledOr none s = s ↔
    smd.filledOr none s.smd = s.smd ∧ tokensmith.filledOr none s.tokensmith = s.tokensmith ∧
      bootService.filledOr none s.bootService = s.bootService ∧
      metadataService.filledOr none s.metadataService = s.metadataService ∧
      coreDHCP.filledOr none s.coreDHCP = s.coreDHCP ∧
      magellan.filledOr none s.magellan = s.magellan := by
  rw [services_filled]
  obtain ⟨a, b, c, d, e, f⟩ := s
  simp only [ServicesSpec.mk.injEq]

theorem platform_kept {p : PlatformSpec} : platform.filled p = p ↔
    p.vault.authMethod ≠ .unset := by
  rw [platform_filled, vault_filled]
  obtain ⟨⟨address, issuer, method, role, bundle⟩, storage⟩ := p
  have hmethod : authMethod.filledOr (some .kubernetes) method = method ↔ method ≠ .unset := by
    cases method <;> decide
  simpa using hmethod

theorem networkProbe_kept {p : NetworkProbeSpec} : networkProbe.filledOr none p = p ↔
    p.intervalSeconds ≠ 0 := by
  rw [networkProbe_filled]
  cases p
  simp [orInt]

theorem networking_kept {n : NetworkingSpec} : networking.filledOr none n = n ↔
    n.gatewayClass ≠ "" ∧ n.tls.issuer ≠ "" := by
  rw [networking_filled]
  obtain ⟨gatewayClass, ⟨issuer, secret⟩⟩ := n
  simp [orString]

theorem database_kept {d : DatabaseSpec} : database.filledOr none d = d ↔ d.instances ≠ 0 := by
  rw [database_filled]
  cases d
  simp [orInt]

theorem logging_kept {l : LoggingSpec} : logging.filledOr none l = l ↔
    l.retentionDays ≠ 0 ∧ l.flushIntervalSeconds ≠ 0 ∧ l.compactorSchedule ≠ "" ∧
      l.queryReplicas ≠ 0 ∧ l.queryPort ≠ 0 := by
  rw [logging_filled]
  cases l
  simp [orInt, orString]

theorem images_kept {i : ImagesSpec} : images.filledOr none i = i ↔ i.stream ≠ .unset := by
  rw [images_filled]
  obtain ⟨chosen, pinned⟩ := i
  have hstream : stream.filledOr (some .release) chosen = chosen ↔ chosen ≠ .unset := by
    cases chosen <;> decide
  simpa using hstream

/-- **The specifications that the defaults leave alone.** -/
theorem filled_eq_iff {s : ControlPlaneSpec} : spec.filled s = s ↔ Kept s := by
  have hparts : spec.filled s = s ↔ platform.filled s.platform = s.platform ∧
      networkProbe.filledOr none s.networkProbe = s.networkProbe ∧
      services.filledOr none s.services = s.services ∧
      networking.filledOr none s.networking = s.networking ∧
      database.filledOr none s.database = s.database ∧
      logging.filledOr none s.logging = s.logging ∧ images.filledOr none s.images = s.images ∧
      orString s.operatorChannel "stable" = s.operatorChannel := by
    rw [spec_filled]
    cases s
    simp
  have hchannel : orString s.operatorChannel "stable" = s.operatorChannel ↔
      s.operatorChannel ≠ "" := filledOr_string (by decide)
  rw [hparts, platform_kept, networkProbe_kept, services_kept, smd_kept, tokensmith_kept,
    bootService_kept, metadataService_kept, coreDHCP_kept, magellan_kept, networking_kept,
    database_kept, logging_kept, images_kept, hchannel]
  constructor
  · rintro ⟨hvault, hprobe, ⟨hsmd, htoken, hboot, hmeta, hdhcp, hmag⟩, hnet, hdb, hlog, himg, hch⟩
    exact ⟨hsmd, htoken, hboot, hmeta, hdhcp, hmag, hprobe, hvault, hnet, hdb, hlog, himg, hch⟩
  · rintro ⟨hsmd, htoken, hboot, hmeta, hdhcp, hmag, hprobe, hvault, hnet, hdb, hlog, himg, hch⟩
    exact ⟨hvault, hprobe, ⟨hsmd, htoken, hboot, hmeta, hdhcp, hmag⟩, hnet, hdb, hlog, himg, hch⟩

end Kept

end OpenchamiOperator.Api.Wire
