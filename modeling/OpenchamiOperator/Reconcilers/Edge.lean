import OpenchamiOperator.Reconcilers.Services
import OpenchamiOperator.Status.Reporter
import OpenchamiOperator.Vault.Paths

/-! # Certificates, gateway, topology, metrics

The sub-reconcilers that make a cluster visible from outside its services (`certificates.go`,
`gateway.go`, `topology.go`, `servicemonitor.go` of `internal/reconcilers`). -/

namespace OpenchamiOperator.Reconcilers

open Lib Api Controller

/-! ### Certificates -/

/-- `buildCertificate`. -/
def buildCertificate (cp : ControlPlane) : KubeObject :=
  objectIn cp "Certificate" (cp.spec.clusterName ++ "-gateway-tls")

def certificatesCondition (status : ConditionStatus) (reason message : String) : Act :=
  .write (.condition .certificatesValid status reason message)

/-- One hour, in nanoseconds. -/
def hour : ℤ := 3600000000000

/-- The end of a call, once the end of the certificate's validity is known. -/
def reportCertificate (obs : Observed) (notAfter : ℤ) : List Act :=
  let gap := notAfter - obs.now
  let expiry := obs.formatTime notAfter
  let warning : String → String → Act := fun reason text =>
    .event (conditionEvent .warning reason ("gateway TLS certificate " ++ text))
  let expires := "expires in " ++ obs.formatGap gap
  .write (.field .certExpiryTime expiry) ::
  if gap ≤ 0 then
    [certificatesCondition .false Reason.expired ("certificate expired at " ++ expiry),
     warning Reason.expired ("expired at " ++ expiry)]
  else if gap ≤ 24 * hour then
    [certificatesCondition .false Reason.expirationImminent ("certificate " ++ expires),
     warning Reason.expirationImminent expires]
  else
    certificatesCondition .true Reason.ready ("certificate valid until " ++ expiry) ::
      if gap ≤ 48 * hour then [warning Reason.expirationImminent expires] else []

/-- `CertificatesReconciler.Reconcile`. -/
def reconcileCertificates (obs : Observed) (cp : ControlPlane) : Program :=
  let apply := [applying "applying gateway Certificate" (buildCertificate cp),
    reading "reading gateway TLS Secret"]
  let name := Strconv.quote obs.isPrint (gatewayTLSSecretName cp)
  match obs.secrets (gatewayTLSSecretName cp) with
  | none =>
    { acts := apply ++ [certificatesCondition .false Reason.awaitingCertificate
        ("waiting for TLS Secret " ++ name ++ " to be issued")]
      requeueAfter := 30 }
  | some secret =>
    match obs.notAfter (secret.data.getD "tls.crt" "") with
    | .error e =>
      { acts := apply ++
          [certificatesCondition .false Reason.error ("parsing TLS Secret " ++ name ++ ": " ++ e),
           .event (conditionEvent .warning Reason.error
             ("could not parse TLS certificate from Secret " ++ name))]
        requeueAfter := 30 }
    | .ok notAfter => { acts := apply ++ reportCertificate obs notAfter }

/-! ### The gateway -/

/-- A gateway object as an object of the cluster. -/
def gatewayObject (o : GatewayApi.Object) : KubeObject where
  kind := .other (Gateway.kindName o.kind)
  «namespace» := o.metadata.namespace
  name := o.metadata.name

/-- The condition of a call that waits; the published address is withdrawn. -/
def gatewayDeferred (reason message : String) : List Act :=
  [.write (.condition .gatewayReady .false reason message), .write (.gateway none)]

/-- The requests of a call. -/
def gatewayRequests (obs : Observed) (cp : ControlPlane) : List Act :=
  ((Gateway.objectsApplied obs.gateway cp).map fun o =>
    applying ("applying " ++ Gateway.kindName o.kind ++ "/" ++ o.metadata.name) (gatewayObject o)) ++
  (Gateway.stalePublicRoutes cp).map fun name =>
    .request (.delete (.other "HTTPRoute", controlPlaneNamespace cp, name))
      ("deleting stale HTTPRoute " ++ name)

/-- The end of a call. -/
def reportGateway (obs : Observed) (cp : ControlPlane) : Program :=
  if !Gateway.tokensmithJWKSReady cp then
    { acts := gatewayDeferred Reason.awaitingTokensmith
        ("deferring JWT-protected routes until tokensmith is Ready (envoy JWKS fetch would " ++
          "otherwise poison)")
      requeueAfter := 30 }
  else if Gateway.missingBTLSGate obs.gateway cp then
    { acts :=
        [.write (.condition .gatewayReady .false Reason.missingCRD
           ("BackendTLSPolicy CRD (gateway.networking.k8s.io/v1) is not installed; install " ++
             "gateway-api v1.4+ standard CRDs to enable JWT-gated routes under mTLS")),
         .event (conditionEvent .warning Reason.missingCRD
           "BackendTLSPolicy CRD missing — JWT-gated gateway routes deferred until installed"),
         .write (.gateway none)]
      requeueAfter := 30 }
  else if !obs.gateway.programmed then
    { acts := reading "reading gateway status" :: gatewayDeferred Reason.notProgrammed
        "waiting for Gateway Programmed=True from Envoy Gateway"
      requeueAfter := 30 }
  else
    { acts :=
        [reading "reading gateway status",
         .write (.condition .gatewayReady .true Reason.ready
           "Envoy Gateway reports Programmed=True"),
         .write (.gateway (some ⟨"https://" ++ cp.spec.domain, Gateway.gatewayStatusRoutes cp⟩))] }

/-- `GatewayReconciler.Reconcile`, as a list of actions. -/
def reconcileGateway (obs : Observed) (cp : ControlPlane) : Program :=
  if !isStatusConditionTrue cp.status.conditions .certificatesValid then
    { acts := [.write (.condition .gatewayReady .false Reason.awaitingCertificate
        "waiting for CertificatesValid before applying gateway")]
      requeueAfter := 30 }
  else { reportGateway obs cp with acts := gatewayRequests obs cp ++ (reportGateway obs cp).acts }

/-! ### The topology document -/

/-- `serviceURL` of `topology.go`. -/
def topologyURL (cp : ControlPlane) (svc : Service) : String :=
  clusterURL cp "http" svc (listenPort svc)

/-- An entry of the document. -/
def topologyEntry (cp : ControlPlane) (svc : Service) : TopologyServiceEntry :=
  let entry : String → TopologyServiceEntry := fun path =>
    { endpoint := topologyURL cp svc
      externalPath := path
      ready := Status.serviceReady cp svc.name }
  match svc with
  | .smd => entry Gateway.pathSMDPrefix
  | .tokensmith =>
    { entry "/oauth" with jwksURL := topologyURL cp .tokensmith ++ Gateway.pathTokensmithJWKS }
  | .bootService =>
    { entry Gateway.pathBootPrefix with
      s3Endpoint := cp.spec.platform.objectStorage.endpoint
      s3Bucket := bootBucketName cp }
  | .metadataService => entry Gateway.pathMetadataPrefix

/-- `postgresEndpoint`. -/
def postgresEndpoint (cp : ControlPlane) (role : String) : String :=
  "openchami-" ++ cp.spec.clusterName ++ "-postgres-" ++ role ++ "." ++ controlPlaneNamespace cp ++
    ".svc.cluster.local:5432"

/-- `buildTopology`. -/
def buildTopology (cp : ControlPlane) : TopologySpec :=
  let paths := Vault.paths cp.spec.clusterName
  { clusterName := cp.spec.clusterName
    domain := cp.spec.domain
    services := topologyEntry cp
    vault := (cp.spec.platform.vault.address, paths.kvMount, paths.secretPrefix)
    objectStorage := (cp.spec.platform.objectStorage.endpoint, bootBucketName cp)
    logging := (cp.spec.platform.objectStorage.endpoint, logBucketName cp, "logs/")
    database := (postgresEndpoint cp "rw", postgresEndpoint cp "ro") }

/-- `TopologyReconciler.buildConfigMap`. -/
def buildTopologyConfigMap (cp : ControlPlane) : KubeObject :=
  objectIn cp "ConfigMap" ("openchami-" ++ cp.spec.clusterName ++ "-topology")

/-- `TopologyReconciler.Reconcile`; a document of texts and flags can always be encoded. -/
def reconcileTopology (obs : Observed) (cp : ControlPlane) : Program where
  acts :=
    [.request (.apply (buildTopologyConfigMap cp)) "applying topology ConfigMap"
       [.condition .topologyPublished .false Reason.error (errorText "applying topology ConfigMap")]
       [conditionEvent .warning Reason.error (errorText "applying topology ConfigMap failed")],
     .write (.field .topologyVersion ("sha256:" ++ obs.topologyHash (buildTopology cp))),
     .write (.condition .topologyPublished .true Reason.ready "topology ConfigMap applied")]

/-! ### Metrics -/

def buildServiceMonitor (cp : ControlPlane) : KubeObject :=
  objectIn cp "ServiceMonitor" ("openchami-" ++ cp.spec.clusterName ++ "-services")

/-- `ServiceMonitorReconciler.Describe`. -/
def describeServiceMonitor (cp : ControlPlane) : List KubeObject :=
  if cp.spec.observability.prometheusOperator then [buildServiceMonitor cp] else []

/-- `ServiceMonitorReconciler.Reconcile`. -/
def reconcileServiceMonitor (cp : ControlPlane) : Program where
  acts := (describeServiceMonitor cp).map (applying "applying ServiceMonitor")

end OpenchamiOperator.Reconcilers
