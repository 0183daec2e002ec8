import OpenchamiOperator.Reconcilers.Services

/-! # The log services

The sub-reconcilers of the log bucket, the collector, the compactor and the query service
(`logbucket.go`, `funicular.go`, `logq_compactor.go`, `logq_query.go` of `internal/reconcilers`). -/

namespace OpenchamiOperator.Reconcilers

open Lib Api Controller

/-! ### The log bucket -/

def logBucketCondition (status : ConditionStatus) (reason message : String) : StatusWrite :=
  .condition .logBucketReady status reason message

/-- A request to the object store, whose error is reported under `what`. -/
def logBucketRequest (what context : String) : Act :=
  .request .none context [logBucketCondition .false Reason.error (errorText what)]

/-- `LogBucketReconciler.Reconcile`. -/
def reconcileLogBucket (op : Operator) (obs : Observed) (cp : ControlPlane) : Program :=
  let bucket := logBucketName cp
  if !cp.spec.logging.enabled then
    { acts := [.write (logBucketCondition .true Reason.ready "logging disabled")] }
  else if !op.s3Client then
    { acts := [.write (logBucketCondition .false Reason.error "s3 client not configured")]
      requeueAfter := 10 }
  else if (obs.secrets (secretName cp "log-credentials")).isNone then
    { acts := [reading "getting log credentials secret",
        .write (logBucketCondition .false Reason.provisioning
          "waiting for VSO to sync log credentials")]
      requeueAfter := 10 }
  else
    { acts :=
        [reading "getting log credentials secret",
         logBucketRequest "ensuring log bucket" ("ensuring log bucket " ++ bucket),
         logBucketRequest "ensuring log bucket lifecycle rule"
           ("ensuring log bucket lifecycle rule on " ++ bucket),
         .write (.field .logBucket bucket),
         .write (logBucketCondition .true Reason.ready ("log bucket " ++ bucket ++
           " ready (retention " ++ Strconv.formatInt cp.spec.logging.retentionDays ++ " days)"))] }

/-! ### The collector -/

/-- `FunicularReconciler.buildDaemonSet`. -/
def buildFunicularDaemonSet (cp : ControlPlane) : KubeObject :=
  objectIn cp "DaemonSet" "funicular-collector"

/-- The environment of the collector. -/
def funicularEnv (cp : ControlPlane) : List EnvVar :=
  [⟨"FUNICULAR_CLUSTER_NAME", .value cp.spec.clusterName⟩,
   ⟨"FUNICULAR_NAMESPACE", .value (controlPlaneNamespace cp)⟩,
   ⟨"FUNICULAR_S3_ENDPOINT", .value cp.spec.platform.objectStorage.endpoint⟩,
   ⟨"FUNICULAR_S3_BUCKET", .value (logBucketName cp)⟩,
   ⟨"FUNICULAR_FLUSH_INTERVAL", .value (Strconv.formatInt cp.spec.logging.flushIntervalSeconds)⟩,
   secretEnv cp "FUNICULAR_ACCESS_KEY" "log-credentials" "access_key",
   secretEnv cp "FUNICULAR_SECRET_KEY" "log-credentials" "secret_key",
   ⟨"FUNICULAR_INCLUDE_SERVICES", .value (",".intercalate cp.spec.logging.includeServices)⟩]

def collectorCondition (status : ConditionStatus) (reason message : String) : Act :=
  .write (.condition .logCollectorReady status reason message)

/-- `FunicularReconciler.Reconcile`. -/
def reconcileFunicular (obs : Observed) (cp : ControlPlane) : Program :=
  let numberReady := ((obs.daemonSets "funicular-collector").map DaemonSetView.numberReady).getD 0
  let apply :=
    [applying "applying funicular-collector DaemonSet" (buildFunicularDaemonSet cp),
     reading "reading funicular-collector DaemonSet status"]
  let status : Bool → String → Act := fun ready message =>
    .write (.service "funicular-collector"
      { ready := ready
        endpoint := "daemonset/funicular-collector." ++ controlPlaneNamespace cp
        message := message })
  let waiting := "waiting for funicular-collector DaemonSet pods to become ready"
  let ready := "funicular-collector DaemonSet ready (numberReady=" ++
    Strconv.formatInt numberReady ++ ")"
  if !cp.spec.logging.enabled then
    { acts := [collectorCondition .true Reason.ready "logging disabled"] }
  else if cp.spec.logging.image.isNone then
    { acts := [collectorCondition .false "ImageNotConfigured"
        ("spec.logging.image is required when spec.logging.enabled=true (no default " ++
          "funicular-collector image is published yet)")]
      requeueAfter := 30 }
  else if numberReady = 0 then
    { acts := apply ++ [status false waiting, collectorCondition .false Reason.provisioning waiting]
      requeueAfter := 30 }
  else { acts := apply ++ [status true ready, collectorCondition .true Reason.ready ready] }

/-- `FunicularReconciler.Describe`. -/
def describeFunicular (cp : ControlPlane) : List KubeObject :=
  if cp.spec.logging.enabled then [buildFunicularDaemonSet cp] else []

/-! ### The compactor -/

/-- `LogqCompactorReconciler.buildCronJob`. -/
def buildCompactorCronJob (cp : ControlPlane) : KubeObject := objectIn cp "CronJob" "logq-compactor"

/-- The variables of the compactor and of the query service, with those of `more` between. -/
def logqEnv (cp : ControlPlane) (more : List EnvVar) : List EnvVar :=
  [⟨"LOGQ_CLUSTER_NAME", .value cp.spec.clusterName⟩,
   ⟨"LOGQ_NAMESPACE", .value (controlPlaneNamespace cp)⟩,
   ⟨"LOGQ_S3_ENDPOINT", .value cp.spec.platform.objectStorage.endpoint⟩,
   ⟨"LOGQ_S3_BUCKET", .value (logBucketName cp)⟩] ++ more ++
  [secretEnv cp "LOGQ_S3_ACCESS_KEY" "log-credentials" "access_key",
   secretEnv cp "LOGQ_S3_SECRET_KEY" "log-credentials" "secret_key"]

/-- The environment of the compactor. -/
def compactorEnv (cp : ControlPlane) : List EnvVar := logqEnv cp []

def compactorCondition (status : ConditionStatus) (reason message : String) : Act :=
  .write (.condition .logCompactorReady status reason message)

/-- `LogqCompactorReconciler.Reconcile`. -/
def reconcileLogqCompactor (cp : ControlPlane) : Program :=
  if !cp.spec.logging.enabled || !cp.spec.logging.compactorEnabled then
    { acts := [compactorCondition .true Reason.ready "logq-compactor disabled"] }
  else if cp.spec.logging.compactorImage.isNone then
    { acts := [compactorCondition .false "CompactorImageNotConfigured"
        "spec.logging.compactorImage is required when spec.logging.compactorEnabled=true"]
      requeueAfter := 30 }
  else if !isStatusConditionTrue cp.status.conditions .logBucketReady then
    { acts := [compactorCondition .false Reason.provisioning
        "waiting for LogBucketReady before scheduling compactor"]
      requeueAfter := 30 }
  else
    { acts :=
        [applying "applying logq-compactor CronJob" (buildCompactorCronJob cp),
         compactorCondition .true Reason.ready "logq-compactor CronJob applied"] }

/-! ### The query service -/

/-- `queryPort`. -/
def queryPort (cp : ControlPlane) : ℤ :=
  if cp.spec.logging.queryPort = 0 then 8080 else cp.spec.logging.queryPort

/-- `LogqQueryReconciler.buildDeployment` and `buildService`. -/
def buildQueryDeployment (cp : ControlPlane) : KubeObject := objectIn cp "Deployment" "logq-query"

def buildQueryService (cp : ControlPlane) : KubeObject := objectIn cp "Service" "logq-query"

/-- The environment of the query service. -/
def queryEnv (cp : ControlPlane) : List EnvVar :=
  logqEnv cp [⟨"LOGQ_HTTP_PORT", .value (Strconv.formatInt (queryPort cp))⟩]

/-- `LogqQueryReconciler.Reconcile`. -/
def reconcileLogqQuery (obs : Observed) (cp : ControlPlane) : Program :=
  let available := (obs.deployments "logq-query").getD 0
  let ready := decide (1 ≤ available)
  if !cp.spec.logging.enabled || !cp.spec.logging.queryEnabled then {}
  else if cp.spec.logging.queryImage.isNone || cp.status.logBucket = "" then
    { requeueAfter := 30 }
  else
    { acts :=
        [applying "applying logq-query deployment" (buildQueryDeployment cp),
         applying "applying logq-query service" (buildQueryService cp),
         reading "reading logq-query deployment status",
         .write (.service "logq-query"
           { ready := ready
             endpoint := "http://logq-query." ++ controlPlaneNamespace cp ++
               ".svc.cluster.local:" ++ Strconv.formatInt (queryPort cp)
             message := if ready then "logq-query deployment available"
               else "availableReplicas=" ++ Strconv.formatInt available })]
      requeueAfter := if ready then 0 else 30 }

end OpenchamiOperator.Reconcilers
