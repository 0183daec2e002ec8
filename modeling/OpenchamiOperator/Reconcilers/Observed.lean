import OpenchamiOperator.Controller.Actions
import OpenchamiOperator.Lib.Strconv
import OpenchamiOperator.Reconcilers.Gateway

/-! # What a pass reads

The answers to the reads of the sub-reconcilers in one pass, and the objects they apply. Objects are
told apart by kind, namespace and name; what else is in them is modelled where something reads it. -/

namespace OpenchamiOperator.Reconcilers

open Lib Api Controller

/-! ### Objects -/

/-- The kind of an object as the API writes it. -/
def kindText : KubeKind → String
  | .namespace => "Namespace"
  | .clusterRole => "ClusterRole"
  | .clusterRoleBinding => "ClusterRoleBinding"
  | .other kind => kind

/-- An object in the namespace of the cluster. -/
def objectIn (cp : ControlPlane) (kind name : String) : KubeObject where
  kind := .other kind
  «namespace» := controlPlaneNamespace cp
  name := name

/-- Server-side apply of an object. -/
def applying (context : String) (o : KubeObject) : Act := .request (.apply o) context

/-- A read. -/
def reading (context : String) : Act := .request .none context

/-! ### Answers -/

/-- What is read of a Secret. -/
structure SecretView where
  data : GoMap String := .empty
  annotations : GoMap String := .empty

/-- What is read of a DaemonSet. -/
structure DaemonSetView where
  generation : ℤ := 0
  observedGeneration : ℤ := 0
  desiredNumberScheduled : ℤ := 0
  numberReady : ℤ := 0
  updatedNumberScheduled : ℤ := 0
  numberAvailable : ℤ := 0
  numberMisscheduled : ℤ := 0

/-- What is read of a CNPG Cluster. -/
structure ClusterView where
  phase : String := ""
  reconciledRoles : List String := []

/-- `OIDCClientCredentials`. -/
structure OIDCClientCredentials where
  clientID : String := ""
  clientSecret : String := ""
  cliClientID : String := ""

/-- What Vault answers. -/
structure VaultAnswers where
  reachable : Bool := true
  roleID : String := ""
  secretID : String := ""
  issuerConflict : Bool := false
  credentials : OIDCClientCredentials := {}

/-- What the building of the policies learns from outside: the answers of the resolver, whether the
operator runs in best-effort mode, and the addresses and ports in the endpoint slices of the API
server, one pair of lists for each slice. `isPrint` is for the quoting of a host in an error. -/
structure Network where
  lookupHost : String → Option (List String) := fun _ => none
  bestEffortDNS : Bool := false
  apiSlices : Option (List (List String × List ℤ)) := none
  isPrint : Char → Bool := fun _ => true

/-! ### The topology document -/

structure TopologyServiceEntry where
  endpoint : String
  externalPath : String
  ready : Bool
  jwksURL : String := ""
  s3Endpoint : String := ""
  s3Bucket : String := ""
deriving DecidableEq

/-- `TopologySpec` without its version and time; `vault`, `objectStorage` and `logging` are the parts
of `platform`, and `database` has the read-write and the read-only endpoint. -/
structure TopologySpec where
  clusterName : String
  domain : String
  services : Service → TopologyServiceEntry
  vault : String × String × String
  objectStorage : String × String
  logging : String × String × String
  database : String × String

/-! ### A pass -/

/-- The answers to the reads of one pass. Objects are looked up by name in the namespace of the
cluster, `configMaps` in that of the control plane object; `none` is an object that is not there.
`deployments` gives the available replicas, `databases` whether CNPG has applied the database and
`coreDHCPExists` whether the DaemonSet of CoreDHCP was there before the pass. A time is in
nanoseconds; the last fields are functions of Go's library that only texts and hashes go through. -/
structure Observed where
  secrets : String → Option SecretView := fun _ => none
  deployments : String → Option ℤ := fun _ => none
  daemonSets : String → Option DaemonSetView := fun _ => none
  coreDHCPExists : Bool := false
  clusters : String → Option ClusterView := fun _ => none
  databases : String → Option Bool := fun _ => none
  cronJobLabels : String → Option (GoMap String) := fun _ => none
  configMaps : String → Option (GoMap String) := fun _ => none
  nodes : List (String × GoMap String) := []
  vault : VaultAnswers := {}
  execAvailable : Bool := false
  gateway : Gateway.Observed := ⟨true, false⟩
  network : Network := {}
  now : ℤ := 0
  parseTime : String → Option ℤ := fun _ => none
  notAfter : String → Except String ℤ := fun _ => .error "tls.crt is empty"
  formatTime : ℤ → String := fun _ => ""
  formatGap : ℤ → String := fun _ => ""
  isPrint : Char → Bool := fun _ => true
  probeDigest : String → BitVec 128 := fun _ => 0
  topologyHash : TopologySpec → String := fun _ => ""

end OpenchamiOperator.Reconcilers
