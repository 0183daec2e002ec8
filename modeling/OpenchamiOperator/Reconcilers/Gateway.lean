import Mathlib.Data.List.Sort
import OpenchamiOperator.Lib.GatewayApi
import OpenchamiOperator.Lib.Store
import OpenchamiOperator.Reconcilers.Helpers

/-! # The gateway reconciler

`internal/reconcilers/gateway.go`. A pass builds the gateway objects of a control plane and applies
them one after the other: `objectsAlways` first, then, once tokensmith can serve its keys,
`objectsRequiringTokensmith` with the routes that need a token and their policies. Public routes the
specification no longer asks for are deleted afterwards. Nothing of this happens before the
certificate is valid. -/

namespace OpenchamiOperator.Reconcilers.Gateway

open Lib Lib.Strings Lib.GatewayApi Api

/-! ### Names and paths -/

def gatewayName : String := "openchami-gateway"
def listenerHTTP : String := "http"
def listenerHTTPS : String := "https"

def routeHTTPRedirect : String := "http-redirect"
def routeSMD : String := "smd"
def routeSMDPublic : String := "smd-public"
def routeTokensmith : String := "tokensmith"
def routeBootService : String := "boot-service"
def routeBootPublic : String := "boot-service-public"
def routeBootPublicHTTP : String := "boot-service-public-http"
def routeBootAdmin : String := "boot-admin"
def routeMetadataPublic : String := "metadata-public"
def routeMetadataAdmin : String := "metadata-admin"
def policyJWTSMD : String := "jwt-smd"
def policyJWTBoot : String := "jwt-boot"
def policyJWTBootAdmin : String := "jwt-boot-admin"
def policyJWTMetaAdmin : String := "jwt-metadata-admin"
def policySMDRateLimit : String := "smd-ratelimit"
def jwksBackendTLSPolicyName : String := "tokensmith-backend-tls"

def pathSMDPrefix : String := "/hsm"
def pathBootPrefix : String := "/boot"
def pathBootScript : String := "/boot/v1/bootscript"
def pathBootAdmin : String := "/admin/boot"
def pathMetadataPrefix : String := "/cloud-init"
def pathMetadataAdmin : String := "/cloud-init/admin"
def pathTokensmithJWKS : String := "/.well-known/jwks.json"
def pathTokensmithToken : String := "/oauth/token"
def pathTokensmithExchange : String := "/oauth/exchange"
def pathTokensmithHealth : String := "/health"

def smdPort : ℕ := 27779
def tokensmithPort : ℕ := 8080
def bootServicePort : ℕ := 27778
def metadataServicePort : ℕ := 8081

/-- The requeue delay of a pass that waits, in seconds. -/
def gatewayRequeueAfter : ℕ := 30

/-! ### Public paths -/

def defaultSMDPublicPaths : List String :=
  ["/hsm/v2/service/ready", "/hsm/v2/service/liveness", "/hsm/v2/service/values",
    "/hsm/v2/service/values/arch", "/hsm/v2/service/values/class", "/hsm/v2/service/values/flag",
    "/hsm/v2/service/values/nettype", "/hsm/v2/service/values/role",
    "/hsm/v2/service/values/subrole", "/hsm/v2/service/values/state",
    "/hsm/v2/service/values/type", "/hsm/v2/State/Components",
    "/hsm/v2/Inventory/EthernetInterfaces"]

def defaultBootPublicPaths : List String :=
  [pathBootScript, "/boot/v1/service/status", "/boot/v1/service/version"]

/-- The loop of `resolvePublicPaths`: the entries below `base`, each once. -/
def collectPublicPaths (base : String) : List String → List String → List String
  | _, [] => []
  | seen, p :: src =>
    if !hasPrefix p (base ++ "/") then collectPublicPaths base seen src
    else if p ∈ seen then collectPublicPaths base seen src
    else p :: collectPublicPaths base (p :: seen) src

/-- `resolvePublicPaths`; nil is the empty list. -/
def resolvePublicPaths (spec : PublicRoutesSpec) (base : String) (defaults : List String) :
    List String :=
  if !spec.isEnabled then []
  else
    let src := if spec.paths.length > 0 then spec.paths else defaults
    (collectPublicPaths base [] src).insertionSort (· ≤ ·)

def smdPublicPaths (cp : ControlPlane) : List String :=
  resolvePublicPaths cp.spec.services.smd.publicRoutes pathSMDPrefix defaultSMDPublicPaths

def bootPublicPaths (cp : ControlPlane) : List String :=
  resolvePublicPaths cp.spec.services.bootService.publicRoutes pathBootPrefix defaultBootPublicPaths

/-- The paths served on the plain HTTP listener: only ever the boot script. -/
def bootHTTPPublicPaths (cp : ControlPlane) : List String :=
  if !serviceDeployedInCluster cp .bootService ||
      !cp.spec.services.bootService.httpBootScriptEnabled then []
  else if !(bootPublicPaths cp).contains pathBootScript then []
  else [pathBootScript]

/-- `gatewayStatusRoutes`. -/
def gatewayStatusRoutes (cp : ControlPlane) : GoMap String :=
  GoMap.ofList <|
    (if serviceDeployedInCluster cp .smd then [("smd", pathSMDPrefix)] else []) ++
    (if serviceDeployedInCluster cp .bootService then
      [("boot-service", pathBootPrefix), ("boot-service-admin", pathBootAdmin)] else []) ++
    (if serviceDeployedInCluster cp .metadataService then
      [("metadata-service", pathMetadataPrefix), ("metadata-service-admin", pathMetadataAdmin)]
      else []) ++
    (if serviceDeployedInCluster cp .tokensmith then
      [("tokensmith-jwks", pathTokensmithJWKS), ("tokensmith-token", pathTokensmithToken)] else [])

/-! ### Builders -/

def gatewayLabels (cp : ControlPlane) : GoMap String :=
  GoMap.ofList [("app.kubernetes.io/name", "gateway"),
    ("app.kubernetes.io/instance", "openchami-" ++ cp.spec.clusterName),
    ("openchami.org/managed-by", "operator")]

/-- The metadata of every gateway object. -/
def objectMeta (cp : ControlPlane) (name : String) : GatewayApi.ObjectMeta :=
  ⟨name, controlPlaneNamespace cp, gatewayLabels cp⟩

def gatewayClassName (cp : ControlPlane) : String :=
  if cp.spec.networking.gatewayClass ≠ "" then cp.spec.networking.gatewayClass else "envoy"

def jwksURL (cp : ControlPlane) : String :=
  if tokensmithMTLSEnabled cp then tokensmithBaseURL cp ++ "/.well-known/jwks.json"
  else serviceURL cp .tokensmith ++ "/.well-known/jwks.json"

def buildGateway (cp : ControlPlane) : GatewayApi.Gateway where
  metadata := objectMeta cp gatewayName
  gatewayClassName := gatewayClassName cp
  listeners :=
    [{ name := listenerHTTP, hostname := cp.spec.domain, port := 80, protocol := .HTTP },
      { name := listenerHTTPS, hostname := cp.spec.domain, port := 443, protocol := .HTTPS,
        certificateRefs := [gatewayTLSSecretName cp] }]

def httpParentRef (cp : ControlPlane) : ParentReference :=
  ⟨gatewayName, controlPlaneNamespace cp, listenerHTTP⟩

def httpsParentRef (cp : ControlPlane) : ParentReference :=
  ⟨gatewayName, controlPlaneNamespace cp, listenerHTTPS⟩

/-- The shape of all routes: one listener, the domain as host name. -/
def buildRoute (cp : ControlPlane) (name : String) (parent : ParentReference)
    (rules : List HTTPRouteRule) : HTTPRoute where
  metadata := objectMeta cp name
  parentRefs := [parent]
  hostnames := [cp.spec.domain]
  rules := rules

def pathPrefixRule (base : String) (backend : Service) (port : ℕ) : HTTPRouteRule where
  routeMatches := [{ path := .pathPrefix base }]
  backendRefs := [⟨backend.name, port⟩]

/-- `pathPrefixRule` that strips the matched prefix. -/
def pathPrefixRewriteRule (base : String) (backend : Service) (port : ℕ) : HTTPRouteRule where
  routeMatches := [{ path := .pathPrefix base }]
  filters := [.urlRewrite "/"]
  backendRefs := [⟨backend.name, port⟩]

def exactPathRule (path : String) : HTTPRouteRule where
  routeMatches := [{ path := .exact path }]
  backendRefs := [⟨Service.tokensmith.name, tokensmithPort⟩]

def buildHTTPRedirectRoute (cp : ControlPlane) : HTTPRoute :=
  buildRoute cp routeHTTPRedirect (httpParentRef cp) [{ filters := [.requestRedirect "https" 301] }]

def buildSMDRoute (cp : ControlPlane) : HTTPRoute :=
  buildRoute cp routeSMD (httpsParentRef cp) [pathPrefixRule pathSMDPrefix .smd smdPort]

/-- A route without policy for a list of exact paths, restricted to `GET`. -/
def buildPublicReadOnlyRoute (cp : ControlPlane) (name : String) (parent : ParentReference)
    (backend : Service) (port : ℕ) (paths : List String) : HTTPRoute :=
  buildRoute cp name parent
    [{ routeMatches := paths.map fun p => { path := .exact p, method := some .GET },
       backendRefs := [⟨backend.name, port⟩] }]

def buildTokensmithRoute (cp : ControlPlane) : HTTPRoute :=
  buildRoute cp routeTokensmith (httpsParentRef cp)
    [exactPathRule pathTokensmithJWKS, exactPathRule pathTokensmithToken,
      exactPathRule pathTokensmithExchange, exactPathRule pathTokensmithHealth]

def buildBootServiceRoute (cp : ControlPlane) : HTTPRoute :=
  buildRoute cp routeBootService (httpsParentRef cp)
    [pathPrefixRule pathBootPrefix .bootService bootServicePort]

def buildBootAdminRoute (cp : ControlPlane) : HTTPRoute :=
  buildRoute cp routeBootAdmin (httpsParentRef cp)
    [pathPrefixRewriteRule pathBootAdmin .bootService bootServicePort]

def buildMetadataPublicRoute (cp : ControlPlane) : HTTPRoute :=
  buildRoute cp routeMetadataPublic (httpsParentRef cp)
    [pathPrefixRule pathMetadataPrefix .metadataService metadataServicePort]

def buildMetadataAdminRoute (cp : ControlPlane) : HTTPRoute :=
  buildRoute cp routeMetadataAdmin (httpsParentRef cp)
    [pathPrefixRewriteRule pathMetadataAdmin .metadataService metadataServicePort]

def httpRouteTargetRef (routeName : String) : PolicyTargetRef where
  group := "gateway.networking.k8s.io"
  kind := "HTTPRoute"
  name := routeName

def jwksBackendRefs (cp : ControlPlane) : List BackendRef :=
  if !serviceDeployedInCluster cp .tokensmith then []
  else [⟨Service.tokensmith.name, tokensmithPort⟩]

def buildSecurityPolicy (cp : ControlPlane) (name route : String) : SecurityPolicy where
  metadata := objectMeta cp name
  targetRefs := [httpRouteTargetRef route]
  jwtProviders := [{ name := "tokensmith", uri := jwksURL cp, backendRefs := jwksBackendRefs cp }]

def buildJWKSBackendTLSPolicy (cp : ControlPlane) : BackendTLSPolicy where
  metadata := objectMeta cp jwksBackendTLSPolicyName
  targetRefs := [⟨"", "Service", Service.tokensmith.name, some "http"⟩]
  caCertificateRefs := [serviceIdentityCAConfigMapName cp]
  hostname := Service.tokensmith.name ++ "." ++ controlPlaneNamespace cp ++ ".svc.cluster.local"

def buildSMDRateLimit (cp : ControlPlane) : BackendTrafficPolicy where
  metadata := objectMeta cp policySMDRateLimit
  targetRefs := [httpRouteTargetRef routeSMD]
  headerName := "X-User-ID"
  requestsPerMinute := 1000

/-! ### The objects of a pass -/

/-- The objects that are safe before tokensmith is ready. -/
def objectsAlways (cp : ControlPlane) : List Object :=
  [.gateway (buildGateway cp), .httpRoute (buildHTTPRedirectRoute cp)] ++
  (if serviceDeployedInCluster cp .tokensmith then [.httpRoute (buildTokensmithRoute cp)] else []) ++
  (if serviceDeployedInCluster cp .metadataService then
    [.httpRoute (buildMetadataPublicRoute cp)] else []) ++
  (if serviceDeployedInCluster cp .smd && smdPublicPaths cp ≠ [] then
    [.httpRoute (buildPublicReadOnlyRoute cp routeSMDPublic (httpsParentRef cp) .smd smdPort
      (smdPublicPaths cp))] else []) ++
  (if serviceDeployedInCluster cp .bootService && bootPublicPaths cp ≠ [] then
    [.httpRoute (buildPublicReadOnlyRoute cp routeBootPublic (httpsParentRef cp) .bootService
      bootServicePort (bootPublicPaths cp))] else []) ++
  (if bootHTTPPublicPaths cp ≠ [] then
    [.httpRoute (buildPublicReadOnlyRoute cp routeBootPublicHTTP (httpParentRef cp) .bootService
      bootServicePort (bootHTTPPublicPaths cp))] else [])

/-- The public routes that must not exist for this specification. -/
def stalePublicRoutes (cp : ControlPlane) : List String :=
  (if !serviceDeployedInCluster cp .smd || smdPublicPaths cp = [] then [routeSMDPublic] else []) ++
  (if !serviceDeployedInCluster cp .bootService || bootPublicPaths cp = [] then
    [routeBootPublic] else []) ++
  (if bootHTTPPublicPaths cp = [] then [routeBootPublicHTTP] else [])

/-- The routes that need a token and their policies. -/
def objectsRequiringTokensmith (cp : ControlPlane) (btlsAvailable : Bool) : List Object :=
  (if serviceDeployedInCluster cp .tokensmith && tokensmithMTLSEnabled cp && btlsAvailable then
    [.backendTLSPolicy (buildJWKSBackendTLSPolicy cp)] else []) ++
  (if serviceDeployedInCluster cp .smd then
    [.httpRoute (buildSMDRoute cp),
      .securityPolicy (buildSecurityPolicy cp policyJWTSMD routeSMD),
      .backendTrafficPolicy (buildSMDRateLimit cp)] else []) ++
  (if serviceDeployedInCluster cp .bootService then
    [.httpRoute (buildBootServiceRoute cp), .httpRoute (buildBootAdminRoute cp),
      .securityPolicy (buildSecurityPolicy cp policyJWTBoot routeBootService),
      .securityPolicy (buildSecurityPolicy cp policyJWTBootAdmin routeBootAdmin)] else []) ++
  (if serviceDeployedInCluster cp .metadataService then
    [.httpRoute (buildMetadataAdminRoute cp),
      .securityPolicy (buildSecurityPolicy cp policyJWTMetaAdmin routeMetadataAdmin)] else [])

/-- `tokensmithJWKSReady`. -/
def tokensmithJWKSReady (cp : ControlPlane) : Bool :=
  if !serviceDeployedInCluster cp .tokensmith then true
  else (cp.status.services.get? Service.tokensmith.name).any (·.ready)

/-! ### The pass -/

/-- The gateway objects on the API server. -/
abbrev Objects : Type := Store Object.key

/-- What a pass learns from outside: whether the `BackendTLSPolicy` kind is registered, and whether
Envoy Gateway reports the gateway as programmed. -/
structure Observed where
  btlsAvailable : Bool
  programmed : Bool

/-- The control plane with its new status, the requeue delay in seconds and the events. -/
structure Outcome where
  cp : ControlPlane
  requeueAfter : ℕ := 0
  events : List Event := []

def missingBTLSGate (env : Observed) (cp : ControlPlane) : Bool :=
  tokensmithMTLSEnabled cp && !env.btlsAvailable

/-- Both groups are applied in this pass. -/
def appliesGated (env : Observed) (cp : ControlPlane) : Bool :=
  tokensmithJWKSReady cp && !missingBTLSGate env cp

/-- The objects a pass applies, in order. -/
def objectsApplied (env : Observed) (cp : ControlPlane) : List Object :=
  if appliesGated env cp then
    objectsAlways cp ++ objectsRequiringTokensmith cp env.btlsAvailable
  else objectsAlways cp

def kindName : Kind → String
  | .Gateway => "Gateway"
  | .HTTPRoute => "HTTPRoute"
  | .SecurityPolicy => "SecurityPolicy"
  | .BackendTrafficPolicy => "BackendTrafficPolicy"
  | .BackendTLSPolicy => "BackendTLSPolicy"

/-- Server-side apply of one object. -/
def applyObject (o : Object) : Prog Objects OpError Unit :=
  Prog.request ⟨"applying " ++ kindName o.kind ++ "/" ++ o.metadata.name, .failed⟩ fun s =>
    (.ok (), s.apply o)

def routeKey (cp : ControlPlane) (name : String) : Kind × String × String :=
  (.HTTPRoute, controlPlaneNamespace cp, name)

def deleteRoute (cp : ControlPlane) (name : String) : Prog Objects ApiError Unit :=
  Prog.request .failed fun s =>
    if s.has (routeKey cp name) then (.ok (), s.delete (routeKey cp name)) else (.error .notFound, s)

def deleteStalePublicRoutes (cp : ControlPlane) : Prog Objects OpError Unit :=
  Prog.forEach (stalePublicRoutes cp) fun name =>
    Prog.ignoring isNotFound (fun e => ⟨"deleting stale HTTPRoute " ++ name, e⟩)
      (deleteRoute cp name)

/-- Read the gateway: whether it exists and is programmed. -/
def readProgrammed (env : Observed) (cp : ControlPlane) : Prog Objects OpError Bool :=
  Prog.request ⟨"reading gateway status", .failed⟩ fun s =>
    (.ok (s.has (.Gateway, controlPlaneNamespace cp, gatewayName) && env.programmed), s)

/-- Set the condition `GatewayReady` to false and withdraw the published address. -/
def deferred (cp : ControlPlane) (reason message : String) : ControlPlane :=
  let cp' := cp.setCondition .gatewayReady .false reason message
  { cp' with status := { cp'.status with gateway := none } }

/-- The last part of a pass: report what the gateway does. -/
def reportStatus (env : Observed) (cp : ControlPlane) : Prog Objects OpError Outcome :=
  if !tokensmithJWKSReady cp then
    pure { cp := deferred cp Reason.awaitingTokensmith
            "deferring JWT-protected routes until tokensmith is Ready (envoy JWKS fetch would otherwise poison)",
           requeueAfter := gatewayRequeueAfter }
  else if missingBTLSGate env cp then
    pure { cp := deferred cp Reason.missingCRD
            "BackendTLSPolicy CRD (gateway.networking.k8s.io/v1) is not installed; install gateway-api v1.4+ standard CRDs to enable JWT-gated routes under mTLS",
           requeueAfter := gatewayRequeueAfter,
           events := [conditionEvent .warning Reason.missingCRD
            "BackendTLSPolicy CRD missing — JWT-gated gateway routes deferred until installed"] }
  else do
    let programmed ← readProgrammed env cp
    if !programmed then
      pure { cp := deferred cp Reason.notProgrammed
              "waiting for Gateway Programmed=True from Envoy Gateway",
             requeueAfter := gatewayRequeueAfter }
    else
      let cp' := cp.setCondition .gatewayReady .true Reason.ready
        "Envoy Gateway reports Programmed=True"
      pure { cp := { cp' with status := { cp'.status with
              gateway := some ⟨"https" ++ "://" ++ cp.spec.domain, gatewayStatusRoutes cp⟩ } } }

/-- `GatewayReconciler.Reconcile`. -/
def reconcile (env : Observed) (cp : ControlPlane) : Prog Objects OpError Outcome :=
  if !isStatusConditionTrue cp.status.conditions .certificatesValid then
    pure { cp := cp.setCondition .gatewayReady .false Reason.awaitingCertificate
            "waiting for CertificatesValid before applying gateway",
           requeueAfter := gatewayRequeueAfter }
  else do
    Prog.forEach (objectsApplied env cp) applyObject
    deleteStalePublicRoutes cp
    reportStatus env cp

end OpenchamiOperator.Reconcilers.Gateway
