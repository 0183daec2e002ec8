import OpenchamiOperator.Api.Admission
import OpenchamiOperator.Reconcilers.Logging
import OpenchamiOperator.Reconcilers.Platform
import OpenchamiOperator.Vault.Client
import OpenchamiOperator.Vault.Policies

/-! # Secrets that come out of Vault

The `VaultStaticSecret` objects of `internal/reconcilers/vault.go`: each reads one secret of the
cluster in Vault and keeps a copy of it as a Secret, which the workloads read.

* `read_access_exact`: the policy of a cluster opens exactly its own secrets, each object reads the
  path that is seeded, and its copy has the name the workloads ask for. -/

namespace OpenchamiOperator.Reconcilers

open Lib Strings Api Admission Controller Vault VaultPolicy

/-! ### The objects -/

/-- `vssEntry`. -/
structure VSSEntry where
  suffix : String
  path : VaultPaths → String

/-- `vssEntries`. -/
def vssEntries : List VSSEntry :=
  [⟨"smd-db", VaultPaths.dbSMDCredentials⟩, ⟨"boot-service-db", VaultPaths.dbBootServiceCredentials⟩,
   ⟨"s3-credentials", VaultPaths.s3Credentials⟩, ⟨"log-credentials", VaultPaths.logCredentials⟩,
   ⟨"tokensmith-oidc", VaultPaths.tokensmithOIDC⟩]

/-- What a `VaultStaticSecret` says: which secret to read, as whom, and under which name to keep it. -/
structure VaultStaticSecret where
  name : String
  «namespace» : String
  vaultAuthRef : String
  refreshAfter : String
  destination : String
  create : Bool
  mount : String
  path : String
  type : String
deriving DecidableEq

/-- `buildVaultStaticSecretAt`: the path with the mount cut off by its length. The paths are ASCII, so
a byte is a character. -/
def buildVaultStaticSecretAt (cp : ControlPlane) (suffix mount fullPath : String) :
    VaultStaticSecret where
  name := "openchami-" ++ cp.spec.clusterName ++ "-" ++ suffix
  «namespace» := controlPlaneNamespace cp
  vaultAuthRef := "openchami-" ++ cp.spec.clusterName
  refreshAfter := "1h"
  destination := "openchami-" ++ cp.spec.clusterName ++ "-" ++ suffix
  create := true
  mount := mount
  path :=
    if fullPath.toList.length > mount.toList.length + 1 then
      String.ofList (fullPath.toList.drop (mount.toList.length + 1))
    else fullPath
  type := "kv-v2"

/-- `buildVaultStaticSecret`; it panics on a suffix that is not in the list. -/
def buildVaultStaticSecret (cp : ControlPlane) (suffix : String) (paths : VaultPaths) :
    Option VaultStaticSecret :=
  (vssEntries.find? fun e => e.suffix = suffix).map fun e =>
    buildVaultStaticSecretAt cp suffix paths.kvMount (e.path paths)

/-- What a `VaultConnection` says. -/
structure VaultConnection where
  name : String
  «namespace» : String
  address : String
deriving DecidableEq

/-- `buildVaultConnection`. -/
def buildVaultConnection (cp : ControlPlane) : VaultConnection where
  name := "openchami-" ++ cp.spec.clusterName
  «namespace» := controlPlaneNamespace cp
  address := cp.spec.platform.vault.address

/-- How a `VaultAuth` logs in: `VaultAuthConfigAppRole` or `VaultAuthConfigKubernetes`. -/
inductive VaultLogin where
  | appRole (roleID secretRef : String)
  | kubernetes (role serviceAccount : String)
deriving DecidableEq

/-- What a `VaultAuth` says. -/
structure VaultAuth where
  name : String
  «namespace» : String
  vaultConnectionRef : String
  method : String
  mount : String
  login : VaultLogin
deriving DecidableEq

/-- `buildVaultAuth`. Without a RoleID the name of the role stands in its place. -/
def buildVaultAuth (cp : ControlPlane) (appRoleID : String) : VaultAuth :=
  let paths := paths cp.spec.clusterName
  let name := "openchami-" ++ cp.spec.clusterName
  if cp.spec.platform.vault.authMethod = .appRole then
    { name := name, «namespace» := controlPlaneNamespace cp, vaultConnectionRef := name
      method := "appRole", mount := "approle"
      login := .appRole (if appRoleID = "" then paths.appRoleServices else appRoleID)
        (cp.spec.platform.vault.appRoleSecretRef.getD "") }
  else
    { name := name, «namespace» := controlPlaneNamespace cp, vaultConnectionRef := name
      method := "kubernetes", mount := "kubernetes"
      login := .kubernetes paths.k8sRoleServices configReaderName }

/-- An object of the Vault Secrets Operator. -/
inductive VSOObject where
  | vaultConnection (connection : VaultConnection)
  | vaultAuth (auth : VaultAuth)
  | vaultStaticSecret (secret : VaultStaticSecret)
deriving DecidableEq

/-- The KV v2 path that is read: the mount, `data`, and the path below the mount. -/
def VaultStaticSecret.dataPath (vss : VaultStaticSecret) : String :=
  vss.mount ++ "/data/" ++ vss.path

/-! ### The two ends -/

/-- The paths a list of actions seeds without overwriting. -/
def seededPaths (acts : List Act) : List String :=
  acts.filterMap fun a =>
    match a with
    | .request (.ensureSecret path false) _ _ _ => some path
    | _ => none

/-- The Secrets an environment cannot do without. -/
def requiredSecrets (env : List EnvVar) : List String :=
  env.filterMap fun v =>
    match v.source with
    | .secretKeyRef name _ false => some name
    | _ => none

/-- The Secrets the consumers of the credentials name: the workloads in their environments, and the
database for its roles. -/
def consumedSecrets (cp : ControlPlane) : List String :=
  requiredSecrets (smdEnv cp) ++ requiredSecrets (tokensmithEnv cp) ++
  requiredSecrets (bootServiceEnv cp) ++ requiredSecrets (metadataServiceEnv cp) ++
  requiredSecrets (funicularEnv cp) ++ requiredSecrets (compactorEnv cp) ++
  requiredSecrets (queryEnv cp) ++ dbRoleSpecs.map fun spec => secretName cp spec.secretSuffix

/-! ### Paths -/

theorem plain_of_name {name : String} (h : clusterNamePattern name = true) :
    ∀ c ∈ name.toList, plain c = true := by
  have hplain : ∀ x ∈ ['"', '\\', '\n'], ¬ (x.isLower = true ∨ x.isDigit = true ∨ x = '-') := by
    intro x hx
    simp only [List.mem_cons, List.not_mem_nil, or_false] at hx
    rcases hx with rfl | rfl | rfl <;> decide
  intro c hc
  have hname := mem_of_clusterNamePattern h c hc
  unfold plain
  simp only [Bool.and_eq_true, decide_eq_true_eq]
  refine ⟨⟨?_, ?_⟩, ?_⟩
  all_goals
    rintro rfl
    exact hplain _ (by decide) hname

theorem slash_not_mem_of_name {name : String} (h : clusterNamePattern name = true) :
    '/' ∉ name.toList := by
  intro hc
  have hname := mem_of_clusterNamePattern h '/' hc
  revert hname
  decide

/-- Cutting by the length of the mount is cutting after the mount. -/
theorem path_buildVaultStaticSecretAt (cp : ControlPlane) (suffix mount : String) {sub : String}
    (h : sub ≠ "") :
    (buildVaultStaticSecretAt cp suffix mount (mount ++ ("/" ++ sub))).path = sub := by
  have hpos : 0 < sub.toList.length := by
    rw [List.length_pos_iff, ne_eq, String.toList_eq_nil_iff]
    exact h
  have hlist : (mount ++ ("/" ++ sub)).toList = (mount.toList ++ ['/']) ++ sub.toList := by simp
  have hlong : (mount ++ ("/" ++ sub)).toList.length > mount.toList.length + 1 := by
    rw [hlist, List.length_append, List.length_append, List.length_singleton]
    omega
  have hdrop : (mount ++ ("/" ++ sub)).toList.drop (mount.toList.length + 1) = sub.toList := by
    rw [hlist]
    exact List.drop_left' (by simp)
  show (if _ then String.ofList _ else _) = sub
  rw [if_pos hlong, hdrop, String.ofList_toList]

/-- Every entry reads below the directory of the cluster. -/
theorem path_of_mem_vssEntries {e : VSSEntry} (he : e ∈ vssEntries) :
    ∃ rest, ∀ name, e.path (paths name) = "openchami" ++ ("/" ++ (name ++ ("/" ++ rest))) := by
  have hpath : ∀ {tail rest : String}, tail = "/" ++ rest → ∀ name, "openchami/" ++ name ++ tail =
      "openchami" ++ ("/" ++ (name ++ ("/" ++ rest))) := by
    rintro tail rest rfl name
    have hmount : "openchami/" = "openchami" ++ "/" := by decide
    rw [hmount]
    simp only [String.append_assoc]
  simp only [vssEntries, List.mem_cons, List.not_mem_nil, or_false] at he
  rcases he with rfl | rfl | rfl | rfl | rfl
  · exact ⟨"db/smd", hpath (by decide)⟩
  · exact ⟨"db/boot-service", hpath (by decide)⟩
  · exact ⟨"s3/versitygw", hpath (by decide)⟩
  · exact ⟨"s3/logs", hpath (by decide)⟩
  · exact ⟨"oidc/tokensmith-client", hpath (by decide)⟩

theorem buildVaultStaticSecret_of_mem {e : VSSEntry} (he : e ∈ vssEntries) (cp : ControlPlane)
    (paths : VaultPaths) : buildVaultStaticSecret cp e.suffix paths =
      some (buildVaultStaticSecretAt cp e.suffix paths.kvMount (e.path paths)) := by
  simp only [vssEntries, List.mem_cons, List.not_mem_nil, or_false] at he
  rcases he with rfl | rfl | rfl | rfl | rfl <;> rfl

/-- The paths that are seeded are those that are read. -/
theorem seededPaths_ensureClusterSecrets (paths : VaultPaths) :
    seededPaths (ensureClusterSecrets paths) = vssEntries.map fun e => e.path paths :=
  rfl

/-! ### Consumers -/

theorem requiredSecrets_append (env env' : List EnvVar) :
    requiredSecrets (env ++ env') = requiredSecrets env ++ requiredSecrets env' :=
  List.filterMap_append

theorem requiredSecrets_tokensmithProviderEnv (cp : ControlPlane) :
    requiredSecrets (tokensmithProviderEnv cp) = [] := by
  unfold tokensmithProviderEnv
  split_ifs <;> rfl

theorem requiredSecrets_identityEnv (cp : ControlPlane) (pre : String) :
    requiredSecrets (identityEnv cp pre) = [] := by
  unfold identityEnv
  split_ifs <;> rfl

theorem requiredSecrets_tokensmithEnv (cp : ControlPlane) : requiredSecrets (tokensmithEnv cp) =
    [secretName cp "tokensmith-oidc", secretName cp "tokensmith-oidc"] := by
  unfold tokensmithEnv
  simp only [requiredSecrets_append, requiredSecrets_tokensmithProviderEnv, List.append_nil]
  split_ifs <;> rfl

/-- The credentials the workloads cannot do without, in their order. -/
theorem consumedSecrets_eq (cp : ControlPlane) : consumedSecrets cp =
    ["smd-db", "tokensmith-oidc", "tokensmith-oidc", "boot-service-db", "s3-credentials",
     "s3-credentials", "log-credentials", "log-credentials", "log-credentials", "log-credentials",
     "log-credentials", "log-credentials", "smd-db", "boot-service-db"].map (secretName cp) := by
  unfold consumedSecrets bootServiceEnv metadataServiceEnv
  rw [requiredSecrets_append, requiredSecrets_append, requiredSecrets_identityEnv,
    requiredSecrets_identityEnv, requiredSecrets_tokensmithEnv]
  rfl

theorem mem_consumedSecrets {cp : ControlPlane} {name : String} :
    name ∈ consumedSecrets cp ↔ ∃ e ∈ vssEntries, name = secretName cp e.suffix := by
  rw [consumedSecrets_eq]
  simp only [vssEntries, List.map_cons, List.map_nil, List.mem_cons, List.not_mem_nil, or_false,
    exists_eq_or_imp, exists_eq_left]
  tauto

/-! ### Access -/

/-- **Read access is exact.** -/
theorem read_access_exact {c : String} {cp : ControlPlane} (hc : clusterNamePattern c = true)
    (hd : clusterNamePattern cp.spec.clusterName = true) :
    (∀ e ∈ vssEntries, ∃ vss,
      buildVaultStaticSecret cp e.suffix (paths cp.spec.clusterName) = some vss ∧
      (grants (servicesPolicy c) "read" vss.dataPath = true ↔ c = cp.spec.clusterName) ∧
      e.path (paths cp.spec.clusterName) ∈
        seededPaths (ensureClusterSecrets (paths cp.spec.clusterName)) ∧
      splitKVPath (e.path (paths cp.spec.clusterName)) = (vss.mount, vss.path) ∧
      vss.destination = secretName cp e.suffix) ∧
    ∀ name, name ∈ consumedSecrets cp ↔ ∃ e ∈ vssEntries, name = secretName cp e.suffix := by
  refine ⟨fun e he => ?_, fun name => mem_consumedSecrets⟩
  obtain ⟨rest, hpath⟩ := path_of_mem_vssEntries he
  have hsub : (buildVaultStaticSecretAt cp e.suffix (paths cp.spec.clusterName).kvMount
      (e.path (paths cp.spec.clusterName))).path = cp.spec.clusterName ++ ("/" ++ rest) := by
    rw [hpath]
    refine path_buildVaultStaticSecretAt cp e.suffix "openchami" fun hempty => ?_
    simpa using congrArg String.toList hempty
  refine ⟨_, buildVaultStaticSecret_of_mem he cp _, ?_, ?_, ?_, rfl⟩
  · have hdata : (buildVaultStaticSecretAt cp e.suffix (paths cp.spec.clusterName).kvMount
        (e.path (paths cp.spec.clusterName))).dataPath =
          "openchami/data/" ++ (cp.spec.clusterName ++ ("/" ++ rest)) := by
      unfold VaultStaticSecret.dataPath
      rw [hsub]
      rfl
    rw [hdata]
    exact grants_secret_iff (plain_of_name hc) (slash_not_mem_of_name hc)
      (slash_not_mem_of_name hd)
  · rw [seededPaths_ensureClusterSecrets]
    exact List.mem_map.mpr ⟨e, he, rfl⟩
  · rw [hsub, hpath]
    exact splitKVPath_append (by decide) _

/-- A cluster whose name goes on where that of another ends. -/
def longer : ControlPlane where
  metadata := {}
  spec := { clusterName := "alpha-2" }
  status := {}

theorem read_access_exact_longer :
    clusterNamePattern "alpha" = true ∧ clusterNamePattern longer.spec.clusterName = true ∧
      ∃ vss, buildVaultStaticSecret longer "smd-db" (paths "alpha-2") = some vss ∧
        ¬ grants (servicesPolicy "alpha") "read" vss.dataPath = true := by
  have hc : clusterNamePattern "alpha" = true := by decide
  have hd : clusterNamePattern longer.spec.clusterName = true := by decide
  obtain ⟨vss, hvss, hread, -⟩ := (read_access_exact hc hd).1
    ⟨"smd-db", VaultPaths.dbSMDCredentials⟩ List.mem_cons_self
  have hne : "alpha" ≠ longer.spec.clusterName := by decide
  exact ⟨hc, hd, vss, hvss, mt hread.mp hne⟩

end OpenchamiOperator.Reconcilers
