import OpenchamiOperator.Api.Admission
import OpenchamiOperator.Api.Wire
import OpenchamiOperator.Reconcilers.Platform

/-! # Backup and restore of the control plane object

`backupRunner.run` of `internal/admin/backup.go` and `restoreLoadBackup` and `restoreRunner.run` of
`internal/admin/restore.go`. YAML is the JSON document here. Metadata and status have no defaults and
are kept as values; what a backup leaves out of the metadata and the model does not have
(`managedFields`, `resourceVersion`) is not mentioned. The instructions that are printed are left
out, and so is the text of a library's error at the end of a message of a restore.

* `backup_addresses_iff`: which backups are taken of the database of the control plane.
* `restoreRun_applies`: what a restore sends, if the flags and the namespace let it.
* `restored_iff`: which specifications come back as they were. -/

namespace OpenchamiOperator.Admin

open Lib Api Reconcilers Relation

/-! ### Documents -/

/-- The Go object with its `TypeMeta`. -/
structure TypedObject where
  apiVersion : String := ""
  kind : String := ""
  object : ControlPlane := {}

/-- A document with a control plane. -/
structure Manifest where
  apiVersion : String
  kind : String
  metadata : ObjectMeta
  spec : Json
  status : ControlPlaneStatus

/-- `yaml.Marshal`, and the encoding of a request. -/
def marshal (o : TypedObject) : Manifest where
  apiVersion := o.apiVersion
  kind := o.kind
  metadata := o.object.metadata
  spec := Wire.spec.encode o.object.spec
  status := o.object.status

/-- `yaml.Unmarshal` into a new object. -/
def unmarshal (m : Manifest) : Option TypedObject :=
  (Wire.spec.decode m.spec).map fun s => ⟨m.apiVersion, m.kind, ⟨m.metadata, s, m.status⟩⟩

theorem unmarshal_marshal (o : TypedObject) : unmarshal (marshal o) = some o := by
  simp [unmarshal, marshal, Wire.spec.decode_encode]

/-- The specification the API server stores for a document. -/
def storedSpec (m : Manifest) : Option ControlPlaneSpec :=
  Wire.spec.decode (Wire.spec.defaulted m.spec)

theorem storedSpec_marshal (o : TypedObject) :
    storedSpec (marshal o) = some (Wire.spec.filled o.object.spec) :=
  Wire.spec.decode_defaulted o.object.spec

/-- A specification that some document was stored with. -/
def Stored (s : ControlPlaneSpec) : Prop := ∃ m, storedSpec m = some s

/-! ### Backup -/

/-- `backupRunner.writeClusterYAML`: the file. -/
def writeClusterYAML (o : TypedObject) : Manifest :=
  marshal { o with object.metadata.uid := "" }

/-- `backupRunner`, as far as its steps depend on it. `yamlPath` is the path of the file in the output
directory. -/
structure BackupRunner where
  clusterName : String
  «namespace» : String := "default"
  outputDir : String
  yamlPath : String

/-- `cnpgv1.Backup`. -/
structure CNPGBackup where
  name : String
  «namespace» : String
  labels : GoMap String
  cluster : String
  method : String

/-- Why a `get` fails. -/
inductive GetError where
  | notFound
  | failed (text : String)

/-- What the steps of a backup meet: the answers of the API server and of the file system, the time
and the table of printable characters. A `get` answers with the object of that name. -/
structure BackupEnv where
  get : String × String → Except GetError TypedObject
  planeKey_get : ∀ {k : String × String} {o : TypedObject}, get k = .ok o → planeKey o.object = k
  mkdirAll : Option String := none
  writeFile : Option String := none
  create : Option String := none
  timestamp : String
  isPrint : Char → Bool

/-- `fetchCluster`. -/
def BackupRunner.fetchCluster (r : BackupRunner) (env : BackupEnv) : Except String TypedObject :=
  match env.get (r.namespace, r.clusterName) with
  | .ok o => .ok o
  | .error .notFound =>
    .error ("OpenCHAMIControlPlane " ++ Strconv.quote env.isPrint r.clusterName ++
      " not found in namespace " ++ Strconv.quote env.isPrint r.namespace)
  | .error (.failed text) =>
    .error ("getting OpenCHAMIControlPlane " ++ r.namespace ++ "/" ++ r.clusterName ++ ": " ++ text)

/-- The object that `createCNPGBackup` sends. -/
def BackupRunner.cnpgBackup (r : BackupRunner) (env : BackupEnv) : CNPGBackup where
  name := r.clusterName ++ "-backup-" ++ env.timestamp
  «namespace» := "openchami-" ++ r.clusterName
  labels := GoMap.ofList [("openchami.org/cluster", r.clusterName),
    ("openchami.org/triggered", "ochami-admin-backup")]
  cluster := "openchami-" ++ r.clusterName ++ "-postgres"
  method := "barmanObjectStore"

/-- What a backup leaves behind. -/
structure BackupRun where
  file : Option Manifest := none
  created : Option CNPGBackup := none
  error : Option String := none

/-- `backupRunner.run`. -/
def BackupRunner.run (r : BackupRunner) (env : BackupEnv) : BackupRun :=
  match r.fetchCluster env with
  | .error e => { error := some e }
  | .ok o =>
    match env.mkdirAll with
    | some e => { error := some ("creating output directory " ++ r.outputDir ++ ": " ++ e) }
    | none =>
      match env.writeFile with
      | some e => { error := some ("writing " ++ r.yamlPath ++ ": " ++ e) }
      | none =>
        let backup := r.cnpgBackup env
        match env.create with
        | some e =>
          { file := some (writeClusterYAML o)
            error := some ("creating cnpg Backup " ++ backup.namespace ++ "/" ++ backup.name ++
              ": " ++ e) }
        | none => { file := some (writeClusterYAML o), created := some backup }

/-- A backup is created of an object that was fetched, and after its file is written. -/
theorem run_created {r : BackupRunner} {env : BackupEnv} {backup : CNPGBackup}
    (h : (r.run env).created = some backup) :
    ∃ o, env.get (r.namespace, r.clusterName) = .ok o ∧ backup = r.cnpgBackup env ∧
      (r.run env).file = some (writeClusterYAML o) ∧ (r.run env).error = none := by
  unfold BackupRunner.run BackupRunner.fetchCluster at h ⊢
  cases hget : env.get (r.namespace, r.clusterName) with
  | error e =>
    rw [hget] at h
    cases e with
    | notFound => cases h
    | failed text => cases h
  | ok o =>
    rw [hget] at h
    cases hmkdir : env.mkdirAll with
    | some e => simp [hmkdir] at h
    | none =>
      cases hwrite : env.writeFile with
      | some e => simp [hmkdir, hwrite] at h
      | none =>
        cases hcreate : env.create with
        | some e => simp [hmkdir, hwrite, hcreate] at h
        | none =>
          simp only [hmkdir, hwrite, hcreate, Option.some.injEq] at h
          exact ⟨o, rfl, h.symm, rfl, rfl⟩

/-- **The database of a backup.** The runner makes the names from the name of the object, the
reconcilers make them from the name of the cluster. -/
theorem backup_addresses_iff (r : BackupRunner) (env : BackupEnv) {o : TypedObject}
    {backup : CNPGBackup} (hget : env.get (r.namespace, r.clusterName) = .ok o)
    (hcreated : (r.run env).created = some backup) :
    (backup.namespace = controlPlaneNamespace o.object ∧
      backup.cluster = (buildCNPGCluster o.object).name) ↔
      o.object.metadata.name = o.object.spec.clusterName := by
  obtain ⟨-, -, rfl, -, -⟩ := run_created hcreated
  have hname : o.object.metadata.name = r.clusterName :=
    congrArg Prod.snd (env.planeKey_get hget)
  have hcluster : (r.cnpgBackup env).cluster = (buildCNPGCluster o.object).name ↔
      r.clusterName = o.object.spec.clusterName := by
    show "openchami-" ++ r.clusterName ++ "-postgres" =
      "openchami-" ++ o.object.spec.clusterName ++ "-postgres" ↔ _
    rw [String.append_left_inj, String.append_right_inj]
  have hspace : (r.cnpgBackup env).namespace = controlPlaneNamespace o.object ↔
      r.clusterName = o.object.spec.clusterName := by
    show "openchami-" ++ r.clusterName = "openchami-" ++ o.object.spec.clusterName ↔ _
    rw [String.append_right_inj]
  rw [hcluster, hspace, and_self, hname]

/-- The API server with a set of control planes, and a file system that takes everything. -/
def storeEnv (s : ControlPlanes) (timestamp : String) : BackupEnv where
  get k := match s.get? k with
    | none => .error .notFound
    | some cp => .ok { object := cp }
  planeKey_get := by
    intro k o h
    split at h
    · cases h
    · rename_i cp hcp
      cases h
      exact (Store.get?_eq_some_iff.mp hcp).2
  timestamp := timestamp
  isPrint := fun _ => true

/-- A control plane whose object has another name than its cluster. -/
def namedApart (name clusterName : String) : ControlPlane :=
  { Admission.labelled clusterName ("openchami.org/" ++ clusterName) "true" with
    metadata := { name := name, «namespace» := "default" } }

def storedApart (name clusterName : String) : ControlPlane :=
  Admission.withUid ("uid-" ++ name) (Webhook.default (namedApart name clusterName))

/-- Two control planes, each under the name of the other's cluster. -/
def crossed : ControlPlanes :=
  (Store.empty.apply (storedApart "alpha" "beta")).apply (storedApart "beta" "alpha")

def backupAlpha : BackupRunner where
  clusterName := "alpha"
  outputDir := "backup/alpha"
  yamlPath := "backup/alpha/cluster.yaml"

theorem backup_addresses_alpha :
    ∃ o backup, (storeEnv (Store.empty.apply (storedApart "alpha" "alpha")) "20261117-120000").get
        ("default", "alpha") = .ok o ∧
      (backupAlpha.run (storeEnv (Store.empty.apply (storedApart "alpha" "alpha"))
        "20261117-120000")).created = some backup ∧
      backup.namespace = controlPlaneNamespace o.object ∧
      backup.cluster = (buildCNPGCluster o.object).name :=
  ⟨{ object := storedApart "alpha" "alpha" }, _, rfl, rfl,
    (backup_addresses_iff backupAlpha (storeEnv (Store.empty.apply (storedApart "alpha" "alpha"))
      "20261117-120000") rfl rfl).mpr rfl⟩

/-- The backup of one is taken of the database of the other. -/
theorem backup_of_other_database :
    ReflTransGen (Admission.Admitted fun _ _ => True) Store.empty crossed ∧
    ∃ backup, (backupAlpha.run (storeEnv crossed "20261117-120000")).created = some backup ∧
      crossed.get? ("default", "alpha") = some (storedApart "alpha" "beta") ∧
      backup.namespace ≠ controlPlaneNamespace (storedApart "alpha" "beta") ∧
      backup.cluster ≠ (buildCNPGCluster (storedApart "alpha" "beta")).name ∧
      storedApart "beta" "alpha" ∈ crossed ∧
      backup.namespace = controlPlaneNamespace (storedApart "beta" "alpha") ∧
      backup.cluster = (buildCNPGCluster (storedApart "beta" "alpha")).name := by
  have hfirst : Admission.Admitted (fun _ _ => True) Store.empty
      (Store.empty.apply (storedApart "alpha" "beta")) :=
    @Admission.Admitted.create _ Store.empty (namedApart "alpha" "beta") "uid-alpha"
      (by decide) (by decide) (by decide) (by decide) (Or.inl rfl) (by decide +kernel) trivial
  have hsecond : Admission.Admitted (fun _ _ => True)
      (Store.empty.apply (storedApart "alpha" "beta")) crossed :=
    @Admission.Admitted.create _ _ (namedApart "beta" "alpha") "uid-beta"
      (by decide) (by decide) (by decide) (by decide) (Or.inl rfl) (by decide +kernel) trivial
  exact ⟨(ReflTransGen.single hfirst).tail hsecond, _, rfl, by decide, by decide, by decide,
    Store.mem_apply.mpr (Or.inl rfl), by decide, by decide⟩

/-! ### Restore -/

structure RestoreOpts where
  clusterName : String := ""
  «namespace» : String := "default"
  inputPrefix : String := ""
  force : Bool := false
  dryRun : Bool := false

/-- `restoreRunner.validate`: the text of the error, if there is one. -/
def RestoreOpts.validate (opts : RestoreOpts) : Option String :=
  if opts.clusterName = "" then some "--cluster-name is required"
  else if opts.inputPrefix = "" then some "--input-prefix is required"
  else none

/-- `restoreLoadBackup`, given the path of the file and what is there: the object and the file. -/
def restoreLoadBackup (path : String) (file : Option Manifest) :
    Except String (TypedObject × Manifest) :=
  match file with
  | none => .error ("reading backup file " ++ path)
  | some m =>
    match unmarshal m with
    | none => .error ("parsing backup file " ++ path)
    | some o =>
      if o.object.spec.clusterName = "" then
        .error ("backup file " ++ path ++ " is missing spec.clusterName")
      else
        .ok
          ({ apiVersion := "openchami.openchami.org/v1alpha1"
             kind := "OpenCHAMIControlPlane"
             object := { o.object with status := {} } }, m)

/-- What the look at the target namespace finds. -/
inductive Lookup where
  | found
  | notFound
  | failed
deriving DecidableEq

/-- `preflightNamespace`: the text of the error, if there is one. -/
def preflightNamespace (opts : RestoreOpts) (lookup : Lookup) (ns : String) : Option String :=
  match lookup with
  | .notFound => none
  | .failed => some ("checking namespace \"" ++ ns ++ "\"")
  | .found =>
    if opts.force then none
    else some ("namespace \"" ++ ns ++ "\" already exists; pass --force to overwrite")

/-- What a restore does: with `--dry-run` it prints the file, otherwise it sends an apply request. -/
inductive RestoreAction where
  | print (file : Manifest)
  | apply (sent : Manifest)

/-- `restoreRunner.run`, up to the answer to its request. -/
def restoreRun (opts : RestoreOpts) (path : String) (file : Option Manifest) (lookup : Lookup) :
    Except String RestoreAction :=
  match opts.validate with
  | some e => .error e
  | none =>
    match restoreLoadBackup path file with
    | .error e => .error e
    | .ok (o, raw) =>
      let name := o.object.spec.clusterName
      if name ≠ opts.clusterName ∧ !opts.force then
        .error ("backup cluster-name \"" ++ name ++ "\" does not match --cluster-name \"" ++
          opts.clusterName ++ "\"; pass --force to override")
      else if opts.dryRun then .ok (.print raw)
      else
        match preflightNamespace opts lookup ("openchami-" ++ name) with
        | some e => .error e
        | none => .ok (.apply (marshal { o with object.metadata.namespace := opts.namespace }))

/-! ### The round trip -/

section RoundTrip

variable {o : TypedObject} {opts : RestoreOpts} {path : String} {lookup : Lookup}

/-- A backup of a named cluster can be loaded, and has its specification. -/
theorem restoreLoadBackup_writeClusterYAML (hname : o.object.spec.clusterName ≠ "") :
    ∃ loaded, restoreLoadBackup path (some (writeClusterYAML o)) = .ok (loaded, writeClusterYAML o) ∧
      loaded.object.spec = o.object.spec := by
  have hread : unmarshal (writeClusterYAML o) = some { o with object.metadata.uid := "" } :=
    unmarshal_marshal _
  unfold restoreLoadBackup
  simp only [hread, hname, if_false]
  exact ⟨_, rfl, rfl⟩

/-- What a restore sends, if the flags and the namespace let it. -/
theorem restoreRun_applies (hflags : opts.validate = none) (hdry : opts.dryRun = false)
    (hname : o.object.spec.clusterName = opts.clusterName)
    (hns : preflightNamespace opts lookup ("openchami-" ++ opts.clusterName) = none) :
    ∃ sent : TypedObject,
      restoreRun opts path (some (writeClusterYAML o)) lookup = .ok (.apply (marshal sent)) ∧
        sent.object.spec = o.object.spec := by
  have hne : o.object.spec.clusterName ≠ "" := by
    intro h
    rw [hname] at h
    simp [RestoreOpts.validate, h] at hflags
  obtain ⟨loaded, hload, hspec⟩ := @restoreLoadBackup_writeClusterYAML o path hne
  unfold restoreRun
  simp only [hflags, hload, hspec, hname, hns, hdry]
  exact ⟨{ loaded with object.metadata.namespace := opts.namespace }, by simp [hspec], hspec⟩

/-- **Backup and restore**: exactly the specifications without a zero value in a field that has a
default come back as they were. -/
theorem restored_iff (o : TypedObject) (opts : RestoreOpts) (path : String) (lookup : Lookup)
    (hflags : opts.validate = none) (hdry : opts.dryRun = false)
    (hname : o.object.spec.clusterName = opts.clusterName)
    (hns : preflightNamespace opts lookup ("openchami-" ++ opts.clusterName) = none) :
    ∃ sent, restoreRun opts path (some (writeClusterYAML o)) lookup = .ok (.apply sent) ∧
      (storedSpec sent = some o.object.spec ↔ Wire.Kept o.object.spec) := by
  obtain ⟨sent, hrun, hspec⟩ := @restoreRun_applies o opts path lookup hflags hdry hname hns
  refine ⟨marshal sent, hrun, ?_⟩
  rw [storedSpec_marshal, hspec, Option.some_inj]
  exact Wire.filled_eq_iff

end RoundTrip

/-! ### Two clusters -/

/-- A manifest with SMD inside the cluster or provided from outside. -/
def siteManifest (smd : List (String × Json)) : Manifest where
  apiVersion := "openchami.openchami.org/v1alpha1"
  kind := "OpenCHAMIControlPlane"
  metadata := { name := "alpha", «namespace» := "default" }
  status := {}
  spec := .obj
    [("clusterName", .str "alpha"),
     ("domain", .str "alpha.example.org"),
     ("platform", .obj
       [("vault", .obj [("address", .str "https://vault.example.org:8200")]),
        ("objectStorage", .obj [("endpoint", .str "https://s3.example.org:10000")])]),
     ("networkProbe", .obj []),
     ("services", .obj
       [("smd", .obj smd),
        ("tokensmith", .obj [("cliOIDC", .obj [])]),
        ("bootService", .obj [("publicRoutes", .obj [])]),
        ("metadataService", .obj []),
        ("coreDHCP", .obj [("nodeSelector", .obj [("openchami.org/alpha", .str "true")])]),
        ("magellan", .obj [])]),
     ("networking", .obj [("tls", .obj [])]),
     ("database", .obj []),
     ("logging", .obj []),
     ("images", .obj [])]

/-- The object a `get` answers with. -/
def siteObject (smd : List (String × Json)) : TypedObject where
  object.metadata := { name := "alpha", «namespace» := "default", uid := "uid-alpha" }
  object.spec := (storedSpec (siteManifest smd)).getD {}

def siteRestore : RestoreOpts where
  clusterName := "alpha"
  inputPrefix := "backup/alpha"

/-- A cluster with everything in it comes back. -/
theorem restored_site : ∃ sent,
    restoreRun siteRestore "backup/alpha/cluster.yaml"
      (some (writeClusterYAML (siteObject [("publicRoutes", .obj [])]))) .notFound =
        .ok (.apply sent) ∧
    storedSpec sent = some (siteObject [("publicRoutes", .obj [])]).object.spec := by
  obtain ⟨sent, hrun, hiff⟩ := restored_iff (siteObject [("publicRoutes", .obj [])]) siteRestore
    "backup/alpha/cluster.yaml" .notFound (by decide +kernel) rfl
    (by decide +kernel) rfl
  exact ⟨sent, hrun, hiff.mpr (Wire.filled_eq_iff.mp (by decide +kernel))⟩

/-- SMD provided from outside. -/
def externalSMD : List (String × Json) :=
  [("enabled", .bool false), ("publicRoutes", .obj []),
   ("externalEndpoint", .str "https://smd.example.org")]

/-- SMD is switched on by a restore, though the cluster has it outside. -/
theorem restored_differs : Stored (siteObject externalSMD).object.spec ∧
    (siteObject externalSMD).object.spec.services.smd.enabled = false ∧
    ∃ sent s, restoreRun siteRestore "backup/alpha/cluster.yaml"
        (some (writeClusterYAML (siteObject externalSMD))) .notFound = .ok (.apply sent) ∧
      storedSpec sent = some s ∧ s.services.smd.enabled = true ∧
      s.services.smd.externalEndpoint = some "https://smd.example.org" := by
  obtain ⟨sent, hrun, hspec⟩ := @restoreRun_applies (siteObject externalSMD) siteRestore
    "backup/alpha/cluster.yaml" .notFound (by decide +kernel) rfl
    (by decide +kernel) rfl
  refine ⟨⟨siteManifest externalSMD, by decide +kernel⟩, by decide +kernel, marshal sent, _, hrun,
    storedSpec_marshal sent, ?_, ?_⟩
  · rw [hspec]
    decide +kernel
  · rw [hspec]
    decide +kernel

end OpenchamiOperator.Admin
