import OpenchamiOperator.Lib.GoMap
import OpenchamiOperator.Lib.Store

/-! # The control plane object

The Go types of `api/v1alpha1` and `internal/conditions` under their names there, with the fields
that the modelled functions read or write (`OpenCHAMIControlPlane` is `ControlPlane`). A missing
value has Go's zero value: `""`, `0`, `false`, a nil pointer is `none`, and a nil slice or map is the
empty one. Timestamps are left out. -/

namespace OpenchamiOperator.Api

open Lib

/-! ### Specification -/

/-- `VaultAuthMethod`; the schema allows these two values and the empty one. -/
inductive VaultAuthMethod where
  | unset
  | kubernetes
  | appRole
deriving DecidableEq, Repr

inductive ImageStream where
  | unset
  | release
  | bleedingEdge
  | pinned
deriving DecidableEq, Repr

structure ImageSpec where
  repository : String := ""
  tag : String := ""
  pullPolicy : String := ""
deriving DecidableEq

structure ImagesSpec where
  stream : ImageStream := .unset
  pinned : GoMap String := .empty
deriving DecidableEq

/-- `corev1.ResourceRequirements`; a quantity is its canonical text. -/
structure ResourceRequirements where
  limits : GoMap String := .empty
  requests : GoMap String := .empty
  claims : List (String × String) := []
deriving DecidableEq

/-- `corev1.Toleration`. -/
structure Toleration where
  key : String := ""
  operator : String := ""
  value : String := ""
  effect : String := ""
  tolerationSeconds : Option ℤ := none
deriving DecidableEq

structure ServiceTLSConfig where
  enabled : Bool := false
deriving DecidableEq

structure ServiceDefaults where
  enabled : Bool := false
  replicas : ℤ := 0
  tls : ServiceTLSConfig := {}
  externalEndpoint : Option String := none
  image : Option ImageSpec := none
  resources : Option ResourceRequirements := none
deriving DecidableEq

structure DHCPLeaseRange where
  subnet : String := ""
  start : String := ""
  «end» : String := ""
deriving DecidableEq

structure NetworkProbeTarget where
  subnet : String := ""
  validateHost : String := ""
  validatePort : ℤ := 0
  validateTimeout : String := ""
deriving DecidableEq

structure NetworkProbeSpec where
  enabled : Bool := false
  intervalSeconds : ℤ := 0
  provisionNetwork : Option NetworkProbeTarget := none
  bmcNetwork : Option NetworkProbeTarget := none
  image : Option ImageSpec := none
deriving DecidableEq

/-- `VaultSpec`; a secret reference is the name in it. -/
structure VaultSpec where
  address : String := ""
  oidcIssuer : String := ""
  authMethod : VaultAuthMethod := .unset
  appRoleSecretRef : Option String := none
  caBundleSecretRef : Option String := none
deriving DecidableEq

structure ObjectStorageSpec where
  endpoint : String := ""
  bucket : String := ""
  tlsInsecure : Bool := false
deriving DecidableEq

structure PlatformSpec where
  vault : VaultSpec := {}
  objectStorage : ObjectStorageSpec := {}
deriving DecidableEq

structure PublicRoutesSpec where
  enabled : Option Bool := none
  paths : List String := []
deriving DecidableEq

/-- `PublicRoutesSpec.IsEnabled`. -/
def PublicRoutesSpec.isEnabled (p : PublicRoutesSpec) : Bool := p.enabled.getD true

structure SMDSpec extends ServiceDefaults where
  publicRoutes : PublicRoutesSpec := {}
deriving DecidableEq

structure CLIOIDCConfig where
  redirectURIs : List String := []
  assignments : List String := []
deriving DecidableEq

structure TokensmithSpec extends ServiceDefaults where
  oidcProvider : String := ""
  oidcIssuerURL : String := ""
  cliOIDC : CLIOIDCConfig := {}
  oidcIntrospectionEndpoint : String := ""
deriving DecidableEq

structure BootServiceSpec extends ServiceDefaults where
  publicRoutes : PublicRoutesSpec := {}
  httpBootScript : Option Bool := none
deriving DecidableEq

/-- `BootServiceSpec.HTTPBootScriptEnabled`. -/
def BootServiceSpec.httpBootScriptEnabled (b : BootServiceSpec) : Bool := b.httpBootScript.getD true

structure MetadataServiceSpec extends ServiceDefaults where
  preserveClientIP : Bool := false
deriving DecidableEq

structure CoreDHCPConfigMapRef where
  name : String := ""
  key : String := ""
deriving DecidableEq

structure CoreDHCPSpec where
  enabled : Bool := false
  nodeSelector : GoMap String := .empty
  configMapRef : Option CoreDHCPConfigMapRef := none
  leaseRanges : List DHCPLeaseRange := []
  unknownLeaseDuration : String := ""
  knownLeaseDuration : String := ""
  image : Option ImageSpec := none
  resources : Option ResourceRequirements := none
  tolerations : List Toleration := []
deriving DecidableEq

structure MagellanSpec where
  enabled : Bool := false
  schedule : String := ""
  concurrencyPolicy : String := ""
  nodeSelector : GoMap String := .empty
  bmcSubnet : String := ""
  image : Option ImageSpec := none
  resources : Option ResourceRequirements := none
deriving DecidableEq

structure ServicesSpec where
  smd : SMDSpec := {}
  tokensmith : TokensmithSpec := {}
  bootService : BootServiceSpec := {}
  metadataService : MetadataServiceSpec := {}
  coreDHCP : CoreDHCPSpec := {}
  magellan : MagellanSpec := {}
deriving DecidableEq

structure TLSSpec where
  issuer : String := ""
  secretName : String := ""
deriving DecidableEq

structure NetworkingSpec where
  gatewayClass : String := ""
  tls : TLSSpec := {}
deriving DecidableEq

/-- `DatabaseSpec`; the zero quantity is written `0`. -/
structure DatabaseSpec where
  instances : ℤ := 0
  storageSize : String := "0"
  storageClass : String := ""
  backupEnabled : Bool := false
deriving DecidableEq

structure LoggingSpec where
  enabled : Bool := false
  logBucket : String := ""
  retentionDays : ℤ := 0
  flushIntervalSeconds : ℤ := 0
  includeServices : List String := []
  image : Option ImageSpec := none
  compactorEnabled : Bool := false
  compactorImage : Option ImageSpec := none
  compactorSchedule : String := ""
  queryEnabled : Bool := false
  queryImage : Option ImageSpec := none
  queryReplicas : ℤ := 0
  queryPort : ℤ := 0
deriving DecidableEq

structure ObservabilitySpec where
  prometheusOperator : Bool := false
deriving DecidableEq

structure ControlPlaneSpec where
  clusterName : String := ""
  domain : String := ""
  platform : PlatformSpec := {}
  networkProbe : NetworkProbeSpec := {}
  services : ServicesSpec := {}
  networking : NetworkingSpec := {}
  database : DatabaseSpec := {}
  logging : LoggingSpec := {}
  images : ImagesSpec := {}
  operatorChannel : String := ""
  pinnedVersion : String := ""
  notes : String := ""
  observability : ObservabilitySpec := {}
deriving DecidableEq

/-! ### Status -/

/-- The four HTTP services whose readiness is tracked in `.status.services`. -/
inductive Service where
  | smd
  | tokensmith
  | bootService
  | metadataService
deriving DecidableEq, Repr

/-- The canonical service names (`ServiceSMD`, …). -/
def Service.name : Service → String
  | .smd => "smd"
  | .tokensmith => "tokensmith"
  | .bootService => "boot-service"
  | .metadataService => "metadata-service"

structure ServiceStatus where
  ready : Bool := false
  endpoint : String := ""
  message : String := ""
deriving DecidableEq

structure GatewayStatus where
  url : String := ""
  routes : GoMap String := .empty
deriving DecidableEq

/-- `ClusterPhase`; `unset` is the empty string of a new object. -/
inductive ClusterPhase where
  | unset
  | provisioning
  | ready
  | degraded
  | deleting
  | failed
deriving DecidableEq, Repr

/-- The condition types of `internal/conditions`, and those that are not the operator's. -/
inductive ConditionType where
  | ready
  | reconcileActive
  | namespaceReady
  | vaultConfigured
  | bucketReady
  | logBucketReady
  | databaseReady
  | networkProbeReady
  | servicesReady
  | dhcpReady
  | gatewayReady
  | certificatesValid
  | topologyPublished
  | logCollectorReady
  | logCompactorReady
  | logQueryReady
  | magellanReady
  | networkPoliciesReady
  | serviceIdentityReady
  | other (name : String)
deriving DecidableEq, Repr

/-- `metav1.ConditionStatus`. -/
inductive ConditionStatus where
  | true
  | false
  | unknown
deriving DecidableEq, Repr

/-- `metav1.Condition`, without the time of its last transition. -/
structure Condition where
  type : ConditionType
  status : ConditionStatus
  reason : String
  message : String := ""
  observedGeneration : ℤ := 0
deriving DecidableEq

structure NetworkProbeStatus where
  nodesWithProvisionAccess : List String := []
  nodesWithBMCAccess : List String := []
  probeReady : Bool := false
deriving DecidableEq

structure ControlPlaneStatus where
  observedGeneration : ℤ := 0
  phase : ClusterPhase := .unset
  conditions : List Condition := []
  services : GoMap ServiceStatus := .empty
  gateway : Option GatewayStatus := none
  «namespace» : String := ""
  vaultPathPrefix : String := ""
  networkProbe : Option NetworkProbeStatus := none
  topologyVersion : String := ""
  managedByVersion : String := ""
  certExpiryTime : String := ""
  logBucket : String := ""
deriving DecidableEq

/-! ### The object -/

/-- The part of `metav1.ObjectMeta` that the operator uses. -/
structure ObjectMeta where
  name : String := ""
  «namespace» : String := ""
  uid : String := ""
  generation : ℤ := 0
  annotations : GoMap String := .empty
  finalizers : List String := []
  deletionTimestamp : Bool := false
deriving DecidableEq

structure ControlPlane where
  metadata : ObjectMeta := {}
  spec : ControlPlaneSpec := {}
  status : ControlPlaneStatus := {}
deriving DecidableEq

/-- The namespace and the name of a control plane. -/
def planeKey (cp : ControlPlane) : String × String := (cp.metadata.namespace, cp.metadata.name)

/-- The stored control planes, at most one of each namespace and name. -/
abbrev ControlPlanes := Store planeKey

end OpenchamiOperator.Api
