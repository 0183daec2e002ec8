import OpenchamiOperator.Api.Conditions
import OpenchamiOperator.Lib.Requests

/-! # Helpers shared by the reconcilers

Names and addresses derived from the specification (`internal/reconcilers/helpers.go`), the errors
of API calls and the events of the operator. -/

namespace OpenchamiOperator.Reconcilers

open Lib Api

/-! ### Names -/

/-- `ControlPlaneNamespace`. -/
def controlPlaneNamespace (cp : ControlPlane) : String := "openchami-" ++ cp.spec.clusterName

/-- `SecretName`. -/
def secretName (cp : ControlPlane) (suffix : String) : String :=
  "openchami-" ++ cp.spec.clusterName ++ "-" ++ suffix

/-- `ServiceIdentityCAConfigMapName`. -/
def serviceIdentityCAConfigMapName (cp : ControlPlane) : String :=
  secretName cp "service-identity-ca"

/-- `GatewayTLSSecretName`. -/
def gatewayTLSSecretName (cp : ControlPlane) : String :=
  if cp.spec.networking.tls.secretName ≠ "" then cp.spec.networking.tls.secretName
  else cp.spec.clusterName ++ "-gateway-tls"

/-- `BootBucketName`. -/
def bootBucketName (cp : ControlPlane) : String :=
  if cp.spec.platform.objectStorage.bucket ≠ "" then cp.spec.platform.objectStorage.bucket
  else cp.spec.clusterName ++ "-boot-images"

/-- `LogBucketName`. -/
def logBucketName (cp : ControlPlane) : String :=
  if cp.spec.logging.logBucket ≠ "" then cp.spec.logging.logBucket
  else cp.spec.clusterName ++ "-logs"

/-! ### The HTTP services -/

/-- The common part of a service's specification. -/
def serviceDefaults (cp : ControlPlane) : Service → ServiceDefaults
  | .smd => cp.spec.services.smd.toServiceDefaults
  | .tokensmith => cp.spec.services.tokensmith.toServiceDefaults
  | .bootService => cp.spec.services.bootService.toServiceDefaults
  | .metadataService => cp.spec.services.metadataService.toServiceDefaults

/-- `ServiceDeployedInCluster`: enabled, and not provided from outside. -/
def serviceDeployedInCluster (cp : ControlPlane) (svc : Service) : Bool :=
  (serviceDefaults cp svc).enabled && (serviceDefaults cp svc).externalEndpoint.isNone

/-- `servicePort`; the metadata service listens on another port than the one given here. -/
def servicePort : Service → ℕ
  | .smd => 27779
  | .tokensmith => 8080
  | .bootService => 27778
  | .metadataService => 27770

/-- `externalEndpointFor`. -/
def externalEndpointFor (cp : ControlPlane) (svc : Service) : String :=
  (serviceDefaults cp svc).externalEndpoint.getD ""

/-- `ServiceURL`. -/
def serviceURL (cp : ControlPlane) (svc : Service) : String :=
  if externalEndpointFor cp svc ≠ "" then externalEndpointFor cp svc
  else "http://" ++ svc.name ++ "." ++ controlPlaneNamespace cp ++ ".svc.cluster.local:" ++
    toString (servicePort svc)

/-- `TokensmithBaseURL`: the address of tokensmith in TLS mode. -/
def tokensmithBaseURL (cp : ControlPlane) : String :=
  if externalEndpointFor cp .tokensmith ≠ "" then externalEndpointFor cp .tokensmith
  else "https://" ++ Service.tokensmith.name ++ "." ++ controlPlaneNamespace cp ++
    ".svc.cluster.local:" ++ toString (servicePort .tokensmith)

/-- `tokensmithMTLSEnabled`. -/
def tokensmithMTLSEnabled (cp : ControlPlane) : Bool := cp.spec.services.tokensmith.tls.enabled

/-! ### Environment variables -/

/-- Where a container takes the value of an environment variable from. -/
inductive EnvVarSource where
  | value (value : String)
  | fieldRef (fieldPath : String)
  | secretKeyRef (name key : String) (optional : Bool)
deriving DecidableEq

/-- `corev1.EnvVar`. -/
structure EnvVar where
  name : String
  source : EnvVarSource
deriving DecidableEq

/-! ### Errors, results and events -/

/-- What an API call fails with, as far as the operator looks at it. -/
inductive ApiError where
  | notFound
  | failed
deriving DecidableEq, Repr

/-- An error wrapped with `fmt.Errorf("context: %w", cause)`. -/
structure OpError where
  context : String
  cause : ApiError
deriving DecidableEq, Repr

/-- `client.IgnoreNotFound`. -/
def isNotFound : ApiError → Bool
  | .notFound => true
  | .failed => false

inductive EventType where
  | normal
  | warning
deriving DecidableEq, Repr

/-- A Kubernetes Event about the control plane object. -/
structure Event where
  type : EventType
  reason : String
  message : String
deriving DecidableEq

/-- `RunbookURL`. -/
def runbookURL (reason : String) : String :=
  "https://openchami.org/docs/ops/" ++
    String.ofList (reason.toList.map fun c => if c = '_' then '-' else c.toLower)

/-- `RecordConditionEvent`. -/
def conditionEvent (type : EventType) (reason message : String) : Event :=
  ⟨type, reason, message ++ " — Runbook: " ++ runbookURL reason⟩

end OpenchamiOperator.Reconcilers
