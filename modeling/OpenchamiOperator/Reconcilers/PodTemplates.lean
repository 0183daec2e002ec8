import OpenchamiOperator.Reconcilers.Logging
import OpenchamiOperator.Reconcilers.NetworkPolicies
import OpenchamiOperator.Reconcilers.NodeServices
import OpenchamiOperator.Reconcilers.Platform

/-! # Pod templates

What the Deployments, DaemonSets and CronJobs of the operator run: the images (`images.go`), the
account, the environments and the volumes (the `build...` functions of `smd.go`, `tokensmith.go`,
`boot_service.go`, `metadata_service.go`, `coredhcp.go`, `networkprobe.go`, `funicular.go`,
`logq_compactor.go` and `logq_query.go`). Probes, ports, resources and scheduling are left out. -/

namespace OpenchamiOperator.Reconcilers

open Lib Api Controller

/-! ### Images -/

/-- The services the operator resolves images for, by the names it knows them under. -/
inductive ImageService where
  | service (svc : Service)
  | coreDHCP
  | magellan
  | networkProbe
  | funicular
  | logqCompactor
  | logqQuery
deriving DecidableEq, Repr

def ImageService.name : ImageService → String
  | .service svc => svc.name
  | .coreDHCP => "coredhcp"
  | .magellan => "magellan"
  | .networkProbe => "network-probe"
  | .funicular => "funicular-collector"
  | .logqCompactor => "logq-compactor"
  | .logqQuery => "logq-query"

/-- `imageDefaults`. -/
structure ImageDefaults where
  repository : String
  releaseTag : String

/-- `builtInImages`. -/
def builtInImages : ImageService → ImageDefaults
  | .service .smd => ⟨"ghcr.io/openchami/smd", "v2.20.3"⟩
  | .service .tokensmith => ⟨"ghcr.io/openchami/tokensmith", "v0.4.1"⟩
  | .service .bootService => ⟨"ghcr.io/openchami/boot-service", "v0.1.6"⟩
  | .service .metadataService => ⟨"ghcr.io/openchami/metadata-service", "v0.1.0"⟩
  | .coreDHCP => ⟨"ghcr.io/openchami/coresmd", "v0.7.1"⟩
  | .magellan => ⟨"ghcr.io/openchami/magellan", "v0.5.1"⟩
  | .networkProbe => ⟨"ghcr.io/openchami/openchami-operator", ""⟩
  | .funicular => ⟨"ghcr.io/openchami/legendary-funicular", ""⟩
  | .logqCompactor => ⟨"ghcr.io/openchami/openchami-logq-compactor", "pr-1"⟩
  | .logqQuery => ⟨"ghcr.io/openchami/openchami-logq-query", "pr-1"⟩

/-- `perServiceImageOverride`. -/
def perServiceImageOverride (cp : ControlPlane) : ImageService → Option ImageSpec
  | .service svc => (serviceDefaults cp svc).image
  | .coreDHCP => cp.spec.services.coreDHCP.image
  | .magellan => cp.spec.services.magellan.image
  | .networkProbe => cp.spec.networkProbe.image
  | .funicular => cp.spec.logging.image
  | .logqCompactor => cp.spec.logging.compactorImage
  | .logqQuery => cp.spec.logging.queryImage

def imageTagLatest : String := "latest"

/-- The curated tag, or `latest` where there is none. -/
def releaseOrLatest (releaseDefault : String) : String :=
  if releaseDefault ≠ "" then releaseDefault else imageTagLatest

/-- `resolveStreamTag`. -/
def resolveStreamTag (cp : ControlPlane) (svc : ImageService) (releaseDefault : String) : String :=
  match cp.spec.images.stream with
  | .bleedingEdge => imageTagLatest
  | .pinned =>
    if cp.spec.images.pinned.getD svc.name "" ≠ "" then cp.spec.images.pinned.getD svc.name ""
    else releaseOrLatest releaseDefault
  | _ => releaseOrLatest releaseDefault

/-- `tagAwarePullPolicy`. -/
def tagAwarePullPolicy (tag : String) : String :=
  if tag = imageTagLatest then "Always" else "IfNotPresent"

/-- The tag of the override, empty when there is none. -/
def overrideTag (cp : ControlPlane) (svc : ImageService) : String :=
  ((perServiceImageOverride cp svc).map ImageSpec.tag).getD ""

/-- The repository in `ResolveImage`. -/
def resolveRepository (cp : ControlPlane) (svc : ImageService) : String :=
  match perServiceImageOverride cp svc with
  | some o => if o.repository ≠ "" then o.repository else (builtInImages svc).repository
  | none => (builtInImages svc).repository

/-- The tag in `ResolveImage`. -/
def resolveTag (cp : ControlPlane) (svc : ImageService) : String :=
  if overrideTag cp svc ≠ "" then overrideTag cp svc
  else resolveStreamTag cp svc (builtInImages svc).releaseTag

/-- `ResolveImage`: the image and its pull policy. -/
def resolveImage (cp : ControlPlane) (svc : ImageService) : String × String :=
  let image := resolveRepository cp svc ++ ":" ++ resolveTag cp svc
  match perServiceImageOverride cp svc with
  | some o => (image, if o.pullPolicy ≠ "" then o.pullPolicy else tagAwarePullPolicy (resolveTag cp svc))
  | none => (image, tagAwarePullPolicy (resolveTag cp svc))

/-! ### Templates -/

/-- The keys of a Secret that are mounted. -/
structure SecretItems where
  name : String
  keys : List String
  optional : Bool := false
deriving DecidableEq

inductive VolumeSource where
  | emptyDir
  | hostPath (path : String)
  | persistentVolumeClaim (name : String)
  | configMap (name : String)
  | secret (items : SecretItems)
  | projected (sources : List SecretItems)
deriving DecidableEq

structure Container where
  name : String
  image : String
  imagePullPolicy : String
  env : List EnvVar
deriving DecidableEq

structure PodTemplate where
  serviceAccountName : String
  initContainers : List Container := []
  containers : List Container
  volumes : List VolumeSource
deriving DecidableEq

def container (cp : ControlPlane) (svc : ImageService) (name : String) (env : List EnvVar) :
    Container :=
  ⟨name, (resolveImage cp svc).1, (resolveImage cp svc).2, env⟩

/-- `serviceIdentityCATrustOnly`. -/
def serviceIdentityCATrustOnly (cp : ControlPlane) : List VolumeSource :=
  [.secret ⟨secretName cp "service-identity-ca", ["ca.crt"], true⟩]

/-- The volumes of `serviceIdentityVolumesAndMounts`. -/
def serviceIdentityVolumes (cp : ControlPlane) (svc : Service) : List VolumeSource :=
  [.projected [⟨serviceIdentityClientCertSecretName cp svc, ["tls.crt", "tls.key"], true⟩,
     ⟨secretName cp "service-identity-ca", ["ca.crt"], true⟩],
   .secret ⟨secretName cp "service-identity-ca", ["ca.crt"], true⟩]

/-- The pods of the boot service and of the metadata service. -/
def consumerTemplate (cp : ControlPlane) (svc : Service) : PodTemplate where
  serviceAccountName := svc.name
  containers := [container cp (.service svc) svc.name (serviceEnv cp svc)]
  volumes := [.emptyDir, .emptyDir] ++
    if tokensmithMTLSEnabled cp then serviceIdentityVolumes cp svc else []

/-- The pods of SMD; its migrations run in an init container. -/
def smdTemplate (cp : ControlPlane) : PodTemplate where
  serviceAccountName := "smd"
  initContainers :=
    [container cp (.service .smd) "smd-init" [secretEnv cp "SMD_DBPASS" "smd-db" "password"]]
  containers := [container cp (.service .smd) "smd" (smdEnv cp)]
  volumes := [.emptyDir] ++
    if tokensmithMTLSEnabled cp then serviceIdentityCATrustOnly cp else []

/-- The pod of tokensmith. -/
def tokensmithTemplate (cp : ControlPlane) : PodTemplate where
  serviceAccountName := "tokensmith"
  containers := [container cp (.service .tokensmith) "tokensmith" (tokensmithEnv cp)]
  volumes := [.emptyDir, .persistentVolumeClaim "tokensmith-data"] ++
    if tokensmithMTLSEnabled cp then
      [.projected [⟨secretName cp "tokensmith-server-tls", ["tls.crt", "tls.key"], false⟩,
        ⟨secretName cp "service-identity-ca", ["ca.crt"], false⟩]]
    else []

/-- The objects of the operator that run pods. -/
inductive Workload where
  | service (svc : Service)
  | coreDHCP
  | networkProbe
  | funicular
  | logqCompactor
  | logqQuery
deriving DecidableEq, Repr

def Workload.imageService : Workload → ImageService
  | .service svc => .service svc
  | .coreDHCP => .coreDHCP
  | .networkProbe => .networkProbe
  | .funicular => .funicular
  | .logqCompactor => .logqCompactor
  | .logqQuery => .logqQuery

/-- `ServiceSMD`, `ServiceFunicular` and their siblings. -/
def Workload.appName : Workload → String
  | .service svc => svc.name
  | .coreDHCP => "coredhcp"
  | .networkProbe => "network-probe"
  | .funicular => "funicular-collector"
  | .logqCompactor => "logq-compactor"
  | .logqQuery => "logq-query"

def labelAppInst : String := "app.kubernetes.io/instance"

def labelManagedBy : String := "openchami.org/managed-by"

/-- `smdPodLabels`, `funicularPodLabels` and their siblings: the labels of the pods, by which the
Service of the workload finds them. -/
def Workload.podLabels (cp : ControlPlane) (w : Workload) : GoMap String :=
  GoMap.ofList [(labelAppName, w.appName), (labelAppInst, "openchami-" ++ cp.spec.clusterName),
    (labelManagedBy, "operator")]

def Workload.object (cp : ControlPlane) : Workload → KubeObject
  | .service svc => buildDeployment cp svc
  | .coreDHCP => buildCoreDHCPDaemonSet cp
  | .networkProbe => buildProbeDaemonSet cp
  | .funicular => buildFunicularDaemonSet cp
  | .logqCompactor => buildCompactorCronJob cp
  | .logqQuery => buildQueryDeployment cp

/-- The pod template of a workload. -/
def Workload.template (obs : Observed) (cp : ControlPlane) : Workload → PodTemplate
  | .service .smd => smdTemplate cp
  | .service .tokensmith => tokensmithTemplate cp
  | .service svc => consumerTemplate cp svc
  | .coreDHCP =>
    { serviceAccountName := "coredhcp"
      containers := [container cp .coreDHCP "coredhcp" [⟨"NODE_NAME", .fieldRef "spec.nodeName"⟩]]
      volumes := [.emptyDir, .configMap "coredhcp-config",
        .secret ⟨gatewayTLSSecretName cp, ["ca.crt"], true⟩] }
  | .networkProbe =>
    { serviceAccountName := "network-probe"
      containers := [container cp .networkProbe "probe" (probeEnv obs.isPrint obs.probeDigest cp)]
      volumes := [.emptyDir] }
  | .funicular =>
    { serviceAccountName := "funicular-collector"
      containers := [container cp .funicular "funicular-collector" (funicularEnv cp)]
      volumes := [.emptyDir, .hostPath "/var/log/pods"] }
  | .logqCompactor =>
    { serviceAccountName := "logq-compactor"
      containers := [container cp .logqCompactor "logq-compactor" (compactorEnv cp)]
      volumes := [.emptyDir] }
  | .logqQuery =>
    { serviceAccountName := "logq-query"
      containers := [container cp .logqQuery "logq-query" (queryEnv cp)]
      volumes := [.emptyDir] }

end OpenchamiOperator.Reconcilers
