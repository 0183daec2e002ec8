import OpenchamiOperator.Controller.Workloads
import OpenchamiOperator.Reconcilers.GatewayPass
import OpenchamiOperator.Reconcilers.VaultCalls

/-! # References between the objects of a pass

What the pods and the routes of a cluster name (accounts, keys of Secrets, ConfigMaps, Services), and
which objects of the same pass stand behind these names.

* `needed_of_template`: the keys the pods cannot start without are seeded credentials and the
  certificates of tokensmith.
* `backend_of_route`, `target_of_policy`: a route leads to a Service that is deployed, a policy to a
  route of the same pass.
* `no_dangling_iff`: the only names with nothing behind them are the accounts of the compactor and of
  the query service. -/

namespace OpenchamiOperator.Controller

open Lib GatewayApi Api Reconcilers Admin Vault

/-! ### What a pod names -/

/-- The keys of Secrets that an environment cannot do without. -/
def requiredKeys (env : List EnvVar) : List (String × String) :=
  env.filterMap fun v =>
    match v.source with
    | .secretKeyRef name key false => some (name, key)
    | _ => none

/-- The keys of a Secret that have to be there for the mount. -/
def requiredItems (items : SecretItems) : List (String × String) :=
  if items.optional then [] else items.keys.map fun key => (items.name, key)

def mountedKeys : VolumeSource → List (String × String)
  | .secret items => requiredItems items
  | .projected sources => sources.flatMap requiredItems
  | _ => []

def mountedConfigMaps : VolumeSource → List String
  | .configMap name => [name]
  | _ => []

/-- The keys of Secrets that the pods of a template cannot start without. -/
def neededKeys (t : PodTemplate) : List (String × String) :=
  (t.initContainers ++ t.containers).flatMap (fun c => requiredKeys c.env) ++
    t.volumes.flatMap mountedKeys

/-! ### What is behind the names -/

/-- `ensureClusterSecrets`: the path of every seed, with the keys of its data. -/
def clusterSeeds (paths : VaultPaths) : List (String × List String) :=
  [paths.dbSMDCredentials, paths.dbBootServiceCredentials].map (·, ["username", "password"]) ++
    VaultReconciler.seeds paths

/-- The Certificates of a pass, with the Secret that cert-manager fills for each and its keys. The
authority is in it only where the issuer is one of the cluster's own. -/
def issuedSecrets (cp : ControlPlane) : List (KubeObject × String × List String) :=
  (buildCertificate cp, gatewayTLSSecretName cp, ["tls.crt", "tls.key"]) ::
    (identitySecrets cp).map fun name =>
      (objectIn cp "Certificate" name, name, ["tls.crt", "tls.key", "ca.crt"])

/-- A key of a Secret gets into the namespace of the cluster through an object of the pass: a copy of
a secret in Vault that the pass seeds, or a certificate. -/
inductive Produced (env : Env) (cp : ControlPlane) (name key : String) : Prop
  | vault (e : VSSEntry) (vss : VaultStaticSecret) (keys : List String)
      (build : buildVaultStaticSecret cp e.suffix (paths cp.spec.clusterName) = some vss)
      (destination : vss.destination = name)
      (applied : objectIn cp "VaultStaticSecret" vss.name ∈ appliedObjects env cp)
      (seeded : e.path (paths cp.spec.clusterName) ∈ seededPaths (env.acts subs (activated cp)))
      (data : (e.path (paths cp.spec.clusterName), keys) ∈ clusterSeeds (paths cp.spec.clusterName))
      (mem : key ∈ keys)
  | certificate (o : KubeObject) (keys : List String) (issued : (o, name, keys) ∈ issuedSecrets cp)
      (applied : o ∈ appliedObjects env cp) (mem : key ∈ keys)

/-- Everything the pods of a template name is there. -/
structure Resolved (env : Env) (cp : ControlPlane) (t : PodTemplate) : Prop where
  account : buildServiceAccount cp t.serviceAccountName ∈
    (program env.op env.obs (env.entering (activated cp) .rbac) .rbac).applied
  secrets : ∀ r ∈ neededKeys t, Produced env cp r.1 r.2
  configMaps : ∀ name ∈ t.volumes.flatMap mountedConfigMaps,
    objectIn cp "ConfigMap" name ∈ appliedObjects env cp

/-- The gateway objects of the pass, in full. -/
def gatewayApplied (env : Env) (cp : ControlPlane) : List Object :=
  Gateway.objectsApplied env.obs.gateway (env.entering (activated cp) .gateway)

/-- **No name without an object behind it**, in the pods, the routes and the policies of a pass. -/
structure NoDangling (env : Env) (cp : ControlPlane) : Prop where
  pods : ∀ sub, ∀ o ∈ (program env.op env.obs (env.entering (activated cp) sub) sub).applied,
    runsPods o →
      ∃ w, sub = workloadSub w ∧ o = w.object cp ∧ Resolved env cp (w.template env.obs cp)
  backends : ∀ r, .httpRoute r ∈ gatewayApplied env cp → ∀ rule ∈ r.rules,
    ∀ b ∈ rule.backendRefs, ∃ svc : Service, b = ⟨svc.name, listenPort svc⟩ ∧
      buildService cp svc ∈ appliedObjects env cp
  targets : ∀ p, .securityPolicy p ∈ gatewayApplied env cp → ∀ t ∈ p.targetRefs,
    ∃ r, .httpRoute r ∈ gatewayApplied env cp ∧ t.kind = "HTTPRoute" ∧
      r.metadata.namespace = p.metadata.namespace ∧ r.metadata.name = t.name

/-! ### Keys -/

section Keys

variable {obs : Observed} {cp : ControlPlane}

theorem requiredKeys_append (env env' : List EnvVar) :
    requiredKeys (env ++ env') = requiredKeys env ++ requiredKeys env' :=
  List.filterMap_append

theorem requiredKeys_identityEnv (cp : ControlPlane) (pre : String) :
    requiredKeys (identityEnv cp pre) = [] := by
  unfold identityEnv
  split_ifs <;> rfl

theorem requiredKeys_tokensmithEnv (cp : ControlPlane) : requiredKeys (tokensmithEnv cp) =
    ["client_id", "client_secret"].map fun key => (secretName cp "tokensmith-oidc", key) := by
  have hprovider : requiredKeys (tokensmithProviderEnv cp) = [] := by
    unfold tokensmithProviderEnv
    split_ifs <;> rfl
  unfold tokensmithEnv
  simp only [requiredKeys_append, hprovider, List.append_nil]
  split_ifs <;> rfl

theorem requiredKeys_bootServiceEnv (cp : ControlPlane) : requiredKeys (bootServiceEnv cp) =
    (secretName cp "boot-service-db", "password") ::
      ["access_key", "secret_key"].map fun key => (secretName cp "s3-credentials", key) := by
  unfold bootServiceEnv
  rw [requiredKeys_append, requiredKeys_identityEnv]
  rfl

theorem requiredKeys_metadataServiceEnv (cp : ControlPlane) :
    requiredKeys (metadataServiceEnv cp) = [] := by
  unfold metadataServiceEnv
  rw [requiredKeys_append, requiredKeys_identityEnv]
  rfl

/-- The identity of a consumer is optional until it is issued. -/
theorem mountedKeys_consumer (svc : Service) :
    (consumerTemplate cp svc).volumes.flatMap mountedKeys = [] := by
  unfold consumerTemplate
  simp only
  split_ifs <;> rfl

theorem mountedKeys_smd : (smdTemplate cp).volumes.flatMap mountedKeys = [] := by
  unfold smdTemplate
  simp only
  split_ifs <;> rfl

theorem mountedKeys_tokensmith : (tokensmithTemplate cp).volumes.flatMap mountedKeys =
    if tokensmithMTLSEnabled cp then
      [(secretName cp "tokensmith-server-tls", "tls.crt"),
       (secretName cp "tokensmith-server-tls", "tls.key"),
       (secretName cp "service-identity-ca", "ca.crt")]
    else [] := by
  unfold tokensmithTemplate
  simp only
  split_ifs <;> rfl

/-- The credentials of a cluster, by the suffix of the Secret, with their keys. -/
def credentials : List (String × List String) :=
  [("smd-db", ["username", "password"]), ("boot-service-db", ["username", "password"]),
   ("s3-credentials", ["access_key", "secret_key"]),
   ("log-credentials", ["access_key", "secret_key"]),
   ("tokensmith-oidc", ["client_id", "client_secret"])]

/-- The credentials are the copies out of Vault, with the keys of their seeds. -/
theorem seed_of_credential {c : String × List String} (hc : c ∈ credentials) (paths : VaultPaths) :
    ∃ e ∈ vssEntries, e.suffix = c.1 ∧ (e.path paths, c.2) ∈ clusterSeeds paths := by
  simp only [credentials, List.mem_cons, List.not_mem_nil, or_false] at hc
  rcases hc with rfl | rfl | rfl | rfl | rfl
  · exact ⟨⟨_, VaultPaths.dbSMDCredentials⟩, by simp [vssEntries], rfl, by simp [clusterSeeds, VaultReconciler.seeds]⟩
  · exact ⟨⟨_, VaultPaths.dbBootServiceCredentials⟩, by simp [vssEntries], rfl,
      by simp [clusterSeeds, VaultReconciler.seeds]⟩
  · exact ⟨⟨_, VaultPaths.s3Credentials⟩, by simp [vssEntries], rfl, by simp [clusterSeeds, VaultReconciler.seeds]⟩
  · exact ⟨⟨_, VaultPaths.logCredentials⟩, by simp [vssEntries], rfl, by simp [clusterSeeds, VaultReconciler.seeds]⟩
  · exact ⟨⟨_, VaultPaths.tokensmithOIDC⟩, by simp [vssEntries], rfl, by simp [clusterSeeds, VaultReconciler.seeds]⟩

/-- A key of one of the credentials. -/
def Credential (cp : ControlPlane) (r : String × String) : Prop :=
  ∃ c ∈ credentials, r.1 = secretName cp c.1 ∧ r.2 ∈ c.2

/-- **What the pods cannot start without**: credentials, and the certificates of tokensmith. -/
theorem needed_of_template {w : Workload} {r : String × String}
    (hr : r ∈ neededKeys (w.template obs cp)) :
    Credential cp r ∨ r.1 ∈ identitySecrets cp ∧ r.2 ∈ ["tls.crt", "tls.key", "ca.crt"] := by
  have hcredential : ∀ suffix keys, (suffix, keys) ∈ credentials → ∀ key ∈ keys,
      Credential cp (secretName cp suffix, key) := fun suffix keys hmem key hkey =>
    ⟨_, hmem, rfl, hkey⟩
  have hlogs : ∀ r ∈ ["access_key", "secret_key"].map fun key =>
      (secretName cp "log-credentials", key), Credential cp r :=
    List.forall_mem_map.mpr (hcredential _ _ (by decide))
  cases w with
  | service svc =>
    cases svc with
    | smd =>
      have hkeys : neededKeys (smdTemplate cp) = [(secretName cp "smd-db", "password"),
          (secretName cp "smd-db", "password")] := by
        unfold neededKeys
        rw [mountedKeys_smd]
        rfl
      obtain rfl : r = (secretName cp "smd-db", "password") := by
        simpa [Workload.template, hkeys] using hr
      exact Or.inl (hcredential "smd-db" ["username", "password"] (by decide) _ (by decide))
    | tokensmith =>
      have hkeys : neededKeys (tokensmithTemplate cp) = requiredKeys (tokensmithEnv cp) ++
          (tokensmithTemplate cp).volumes.flatMap mountedKeys := by
        unfold neededKeys
        simp [tokensmithTemplate, container]
      change r ∈ neededKeys (tokensmithTemplate cp) at hr
      rw [hkeys, requiredKeys_tokensmithEnv, mountedKeys_tokensmith] at hr
      rcases List.mem_append.mp hr with hr | hr
      · obtain ⟨key, hkey, rfl⟩ := List.mem_map.mp hr
        exact Or.inl (hcredential _ _ (by decide) key hkey)
      · refine Or.inr ?_
        split_ifs at hr
        · simp only [List.mem_cons, List.not_mem_nil, or_false] at hr
          rcases hr with rfl | rfl | rfl <;> simp [identitySecrets]
        · cases hr
    | bootService =>
      have hkeys : neededKeys (consumerTemplate cp .bootService) =
          requiredKeys (bootServiceEnv cp) := by
        unfold neededKeys
        rw [mountedKeys_consumer]
        simp [consumerTemplate, container, serviceEnv]
      change r ∈ neededKeys (consumerTemplate cp .bootService) at hr
      rw [hkeys, requiredKeys_bootServiceEnv] at hr
      rcases List.mem_cons.mp hr with rfl | hr
      · exact Or.inl (hcredential "boot-service-db" ["username", "password"] (by decide) _
          (by decide))
      · obtain ⟨key, hkey, rfl⟩ := List.mem_map.mp hr
        exact Or.inl (hcredential _ _ (by decide) key hkey)
    | metadataService =>
      have hkeys : neededKeys (consumerTemplate cp .metadataService) = [] := by
        unfold neededKeys
        rw [mountedKeys_consumer]
        simp [consumerTemplate, container, serviceEnv, requiredKeys_metadataServiceEnv]
      change r ∈ neededKeys (consumerTemplate cp .metadataService) at hr
      rw [hkeys] at hr
      cases hr
  | coreDHCP | networkProbe => cases hr
  | funicular | logqCompactor | logqQuery => exact Or.inl (hlogs r hr)

/-- Only CoreDHCP mounts a ConfigMap. -/
theorem configMaps_template (w : Workload) :
    (w.template obs cp).volumes.flatMap mountedConfigMaps =
      if w = .coreDHCP then ["coredhcp-config"] else [] := by
  have hvolumes : ∀ (c : Bool) (pre l : List VolumeSource), pre.flatMap mountedConfigMaps = [] →
      l.flatMap mountedConfigMaps = [] →
        (pre ++ if c then l else []).flatMap mountedConfigMaps = [] := by
    intro c pre l hpre hl
    cases c with
    | false => simpa using hpre
    | true => simpa using And.intro hpre hl
  cases w with
  | service svc => cases svc <;> exact hvolumes _ _ _ rfl rfl
  | _ => rfl

end Keys

/-! ### Routes and policies -/

section Routes

variable {genv : Gateway.Observed} {cp : ControlPlane}

/-- A route leads to a Service that is deployed, at the port it listens on. -/
theorem backend_of_route {r : HTTPRoute} (hr : .httpRoute r ∈ Gateway.objectsApplied genv cp) :
    ∀ rule ∈ r.rules, ∀ b ∈ rule.backendRefs,
      ∃ svc, serviceDeployedInCluster cp svc = true ∧ b = ⟨svc.name, listenPort svc⟩ := by
  have hbackend : ∀ svc, serviceDeployedInCluster cp svc = true → ∀ rules : List HTTPRouteRule,
      (∀ rule ∈ rules, rule.backendRefs = [⟨svc.name, listenPort svc⟩]) →
      ∀ rule ∈ rules, ∀ b ∈ rule.backendRefs,
        ∃ svc, serviceDeployedInCluster cp svc = true ∧ b = ⟨svc.name, listenPort svc⟩ := by
    intro svc hon rules hrules rule hrule b hb
    rw [hrules rule hrule] at hb
    exact ⟨svc, hon, List.mem_singleton.mp hb⟩
  rw [Gateway.mem_objectsApplied, Gateway.mem_objectsAlways,
    Gateway.mem_objectsRequiringTokensmith] at hr
  rcases hr with (h | h | ⟨hon, h⟩ | ⟨hon, h⟩ | ⟨⟨hon, -⟩, h⟩ | ⟨⟨hon, -⟩, h⟩ | ⟨hpaths, h⟩) |
    ⟨-, ⟨-, h⟩ | ⟨hon, h | h | h⟩ | ⟨hon, h | h | h | h⟩ | ⟨hon, h | h⟩⟩ <;> cases h
  · -- the redirect has no backend
    intro rule hrule b hb
    obtain rfl := List.mem_singleton.mp hrule
    cases hb
  · refine hbackend .tokensmith hon _ ?_
    simp [Gateway.buildTokensmithRoute, Gateway.buildRoute, Gateway.exactPathRule, listenPort,
      Gateway.tokensmithPort]
  · exact hbackend .metadataService hon _ (List.forall_mem_singleton.mpr rfl)
  · exact hbackend .smd hon _ (List.forall_mem_singleton.mpr rfl)
  · exact hbackend .bootService hon _ (List.forall_mem_singleton.mpr rfl)
  · have hon : serviceDeployedInCluster cp .bootService = true := by
      by_contra hoff
      simp [Gateway.bootHTTPPublicPaths, hoff] at hpaths
    exact hbackend .bootService hon _ (List.forall_mem_singleton.mpr rfl)
  · exact hbackend .smd hon _ (List.forall_mem_singleton.mpr rfl)
  · exact hbackend .bootService hon _ (List.forall_mem_singleton.mpr rfl)
  · exact hbackend .bootService hon _ (List.forall_mem_singleton.mpr rfl)
  · exact hbackend .metadataService hon _ (List.forall_mem_singleton.mpr rfl)

/-- A policy is for a route that is applied with it. -/
theorem target_of_policy {p : SecurityPolicy}
    (hp : .securityPolicy p ∈ Gateway.objectsApplied genv cp) :
    ∀ t ∈ p.targetRefs, ∃ r, .httpRoute r ∈ Gateway.objectsApplied genv cp ∧ t.kind = "HTTPRoute" ∧
      r.metadata.namespace = p.metadata.namespace ∧ r.metadata.name = t.name := by
  rw [Gateway.mem_objectsApplied, Gateway.mem_objectsAlways,
    Gateway.mem_objectsRequiringTokensmith] at hp
  rcases hp with (h | h | ⟨-, h⟩ | ⟨-, h⟩ | ⟨-, h⟩ | ⟨-, h⟩ | ⟨-, h⟩) |
    ⟨hgated, ⟨-, h⟩ | ⟨hon, h | h | h⟩ | ⟨hon, h | h | h | h⟩ | ⟨hon, h | h⟩⟩ <;> cases h
  · refine List.forall_mem_singleton.mpr ⟨Gateway.buildSMDRoute cp, ?_, rfl, rfl, rfl⟩
    simp [Gateway.mem_objectsApplied, Gateway.mem_objectsRequiringTokensmith, hgated, hon]
  · refine List.forall_mem_singleton.mpr ⟨Gateway.buildBootServiceRoute cp, ?_, rfl, rfl, rfl⟩
    simp [Gateway.mem_objectsApplied, Gateway.mem_objectsRequiringTokensmith, hgated, hon]
  · refine List.forall_mem_singleton.mpr ⟨Gateway.buildBootAdminRoute cp, ?_, rfl, rfl, rfl⟩
    simp [Gateway.mem_objectsApplied, Gateway.mem_objectsRequiringTokensmith, hgated, hon]
  · refine List.forall_mem_singleton.mpr ⟨Gateway.buildMetadataAdminRoute cp, ?_, rfl, rfl, rfl⟩
    simp [Gateway.mem_objectsApplied, Gateway.mem_objectsRequiringTokensmith, hgated, hon]

end Routes

/-! ### Accounts -/

/-- The pods run under an account with the name of their image. -/
theorem serviceAccountName_template (obs : Observed) (cp : ControlPlane) (w : Workload) :
    (w.template obs cp).serviceAccountName = w.imageService.name := by
  cases w with
  | service svc => cases svc <;> rfl
  | _ => rfl

theorem mem_serviceAccountNames_iff (w : Workload) :
    w.imageService.name ∈ serviceAccountNames ↔ w ≠ .logqCompactor ∧ w ≠ .logqQuery := by
  cases w with
  | service svc => cases svc <;> decide
  | _ => decide

theorem object_congr {a b : ControlPlane} (hs : a.spec = b.spec) (w : Workload) :
    w.object a = w.object b := by
  obtain ⟨m, s, st⟩ := a
  obtain ⟨m', s', st'⟩ := b
  obtain rfl : s = s' := hs
  cases w <;> rfl

theorem wanted_congr {a b : ControlPlane} (hs : a.spec = b.spec) (w : Workload) :
    wanted a w = wanted b w := by
  obtain ⟨m, s, st⟩ := a
  obtain ⟨m', s', st'⟩ := b
  obtain rfl : s = s' := hs
  cases w <;> rfl

theorem applied_logq {op : Operator} {obs : Observed} {cp : ControlPlane} {w : Workload}
    (hw : w = .logqCompactor ∨ w = .logqQuery) (hon : wanted cp w = true)
    (hpass : LetsPass cp (workloadSub w)) :
    w.object cp ∈ (program op obs cp (workloadSub w)).applied := by
  rcases hw with rfl | rfl
  · exact applied_logqCompactor hon hpass
  · have hlogs : cp.spec.logging.enabled = true :=
      (Bool.and_eq_true_iff.mp (Bool.and_eq_true_iff.mp hon).1).1
    exact applied_logqQuery hon (hpass hlogs) _ List.mem_cons_self

/-! ### A pass with open gates -/

section Pass

variable {env : Env} {cp : ControlPlane}

theorem spec_entering (sub : Sub) : (env.entering (activated cp) sub).spec = cp.spec :=
  (env.entering_frame (activated cp) sub).2

theorem account_iff (w : Workload) :
    buildServiceAccount cp (w.template env.obs cp).serviceAccountName ∈
      (program env.op env.obs (env.entering (activated cp) .rbac) .rbac).applied ↔
        w ≠ .logqCompactor ∧ w ≠ .logqQuery := by
  have hspec := @spec_entering env cp .rbac
  have happlied : (program env.op env.obs (env.entering (activated cp) .rbac) .rbac).applied =
      describeRBAC cp := by
    have hcongr : ∀ {a b : ControlPlane}, a.spec = b.spec →
        (program env.op env.obs a .rbac).applied = describeRBAC b := by
      rintro ⟨m, s, st⟩ ⟨m', s', st'⟩ rfl
      rfl
    exact hcongr hspec
  rw [happlied, serviceAccountName_template, ← mem_serviceAccountNames_iff]
  unfold describeRBAC
  constructor
  · intro h
    rcases List.mem_append.mp h with h | h
    · obtain ⟨name, hname, heq⟩ := List.mem_map.mp h
      have hsame : name = w.imageService.name := congrArg KubeObject.name heq
      rwa [← hsame]
    · simp [buildServiceAccount, buildConfigReaderRole, buildConfigReaderRoleBinding,
        buildNetworkProbeClusterRole, buildNetworkProbeClusterRoleBinding, objectIn] at h
  · exact fun h => List.mem_append_left _ (List.mem_map_of_mem h)

variable (hopen : GatesOpen env.op env.obs cp) (hstop : env.Clear cp)
include hopen

/-- With Vault at hand every credential is seeded. -/
theorem seeded_of_open {e : VSSEntry} (he : e ∈ vssEntries) :
    e.path (paths cp.spec.clusterName) ∈ seededPaths (env.acts subs (activated cp)) := by
  have hspec := @spec_entering env cp .vault
  have hseed : e.path (paths cp.spec.clusterName) ∈
      seededPaths (ensureClusterSecrets (paths cp.spec.clusterName)) := by
    rw [seededPaths_ensureClusterSecrets]
    exact List.mem_map_of_mem (f := fun e => e.path (paths cp.spec.clusterName)) he
  obtain ⟨a, ha, hpath⟩ := List.mem_filterMap.mp hseed
  refine List.mem_filterMap.mpr ⟨a, Env.mem_acts_subs.mpr ⟨.vault, ?_⟩, hpath⟩
  have hacts : (program env.op env.obs (env.entering (activated cp) .vault) .vault).acts =
      configureVault env.obs (env.entering (activated cp) .vault) := by
    simp [program, reconcileVault, hopen.vault.1, hopen.vault.2]
  rw [hacts]
  unfold configureVault
  rw [hspec]
  simp only [List.mem_append]
  tauto

include hstop

theorem produced_of_credential {r : String × String} (hr : Credential cp r) :
    Produced env cp r.1 r.2 := by
  obtain ⟨c, hc, hname, hkey⟩ := hr
  obtain ⟨e, he, hsuffix, hseed⟩ := seed_of_credential hc (paths cp.spec.clusterName)
  have hvso : objectIn cp "VaultStaticSecret" (secretName cp e.suffix) ∈ vsoObjects cp := by
    have hmem : e.suffix ∈ vssSuffixes := List.mem_map_of_mem (f := VSSEntry.suffix) he
    exact List.mem_append_right _ (List.mem_map_of_mem hmem)
  have happlied : objectIn cp "VaultStaticSecret" (secretName cp e.suffix) ∈
      appliedObjects env cp :=
    @applied_of_described env (fun _ => true) cp .vault _ _ hopen hstop rfl rfl hvso
  refine .vault e _ c.2 (buildVaultStaticSecret_of_mem he cp _) ?_ happlied
    (seeded_of_open hopen he) hseed hkey
  rw [hname, ← hsuffix]
  rfl

theorem produced_of_certificate {name key : String} (hname : name ∈ identitySecrets cp)
    (hkey : key ∈ ["tls.crt", "tls.key", "ca.crt"]) : Produced env cp name key := by
  have hissued : (objectIn cp "Certificate" name, name, ["tls.crt", "tls.key", "ca.crt"]) ∈
      issuedSecrets cp := List.mem_cons_of_mem _ (List.mem_map_of_mem hname)
  have hidentity : objectIn cp "Certificate" name ∈ identityObjects cp := by
    unfold identitySecrets at hname
    unfold identityObjects
    rcases List.mem_append.mp hname with h | h
    · simp only [List.mem_cons, List.not_mem_nil, or_false] at h
      rcases h with rfl | rfl <;> simp
    · obtain ⟨svc, hsvc, rfl⟩ := List.mem_map.mp h
      exact List.mem_append_right _ (List.mem_map_of_mem hsvc)
  exact .certificate _ _ hissued
    (@applied_of_described env (fun _ => true) cp .serviceIdentity _ _ hopen hstop rfl rfl hidentity)
    hkey

/-- Everything that a workload of the pass names is there, its account apart. -/
theorem resolved_of_applied {w : Workload} (hw : w ≠ .logqCompactor ∧ w ≠ .logqQuery)
    (happlied : w.object cp ∈ (program env.op env.obs
      (env.entering (activated cp) (workloadSub w)) (workloadSub w)).applied) :
    Resolved env cp (w.template env.obs cp) where
  account := (account_iff w).mpr hw
  secrets := by
    intro r hr
    rcases needed_of_template hr with h | ⟨hname, hkey⟩
    · exact produced_of_credential hopen hstop h
    · exact produced_of_certificate hopen hstop hname hkey
  configMaps := by
    intro name hname
    rw [configMaps_template] at hname
    split_ifs at hname with hdhcp
    · obtain rfl := List.mem_singleton.mp hname
      subst hdhcp
      refine mem_appliedObjects.mpr ⟨.coreDHCP, ?_⟩
      have hmap : objectIn cp "ConfigMap" "coredhcp-config" =
          buildCoreDHCPConfigMap (env.entering (activated cp) .coreDHCP) := by
        unfold buildCoreDHCPConfigMap objectIn controlPlaneNamespace
        rw [spec_entering]
      change _ ∈ (reconcileCoreDHCP env.obs (env.entering (activated cp) .coreDHCP)).applied
        at happlied
      change _ ∈ (reconcileCoreDHCP env.obs (env.entering (activated cp) .coreDHCP)).applied
      rw [applied_reconcileCoreDHCP] at happlied ⊢
      split_ifs at happlied ⊢
      · rw [hmap]
        exact List.mem_cons_self
      · cases happlied
    · cases hname

theorem service_of_deployed {svc : Service} (hon : serviceDeployedInCluster cp svc = true) :
    buildService cp svc ∈ appliedObjects env cp := by
  have hdescribe : describe (fun _ => true) cp (serviceSub svc) = .ok (describeService cp svc) := by
    cases svc <;> rfl
  have hswitched : switchedOn cp (serviceSub svc) = true := by cases svc <;> exact hon
  refine applied_of_described hopen hstop hdescribe hswitched ?_
  simp [describeService]

/-- The compactor and the query service run under accounts that nobody makes. -/
theorem dangling_of_wanted {w : Workload} (hw : w = .logqCompactor ∨ w = .logqQuery)
    (hwanted : wanted cp w = true) : ¬ NoDangling env cp := by
  intro h
  have hpass := letsPass_entering hopen hstop (workloadSub w)
  have hspec := @spec_entering env cp (workloadSub w)
  have hon : wanted (env.entering (activated cp) (workloadSub w)) w = true :=
    (wanted_congr hspec w).trans hwanted
  have happlied := @applied_logq env.op env.obs _ w hw hon hpass
  obtain ⟨w', hsub, -, hresolved⟩ := h.pods _ _ happlied (object_runsPods _ w)
  obtain rfl := workloadSub_injective hsub
  have haccount := (account_iff w).mp hresolved.account
  rcases hw with rfl | rfl
  · exact haccount.1 rfl
  · exact haccount.2 rfl

end Pass

/-- **Where a name has nothing behind it.** In a pass without an error and with open gates, every
name that a pod, a route or a policy uses stands for an object of the same pass, exactly when neither
the compactor nor the query service is on: no account is made for these two. -/
theorem no_dangling_iff {env : Env} {cp cp' : ControlPlane} {w w' : World} {n : ℕ}
    (hdry : env.op.dryRun = false) (hpin : pinnedElsewhere env.op cp = false)
    (hrun : reconcileAll env.op (fullPass env cp) cp w = (.ok n, cp', w'))
    (hopen : GatesOpen env.op env.obs cp) :
    NoDangling env cp ↔ compactorOn cp = false ∧ queryOn cp = false := by
  obtain ⟨hstop, -, -, -⟩ := reconcileAll_fullPass hdry hpin hrun
  constructor
  · intro h
    exact ⟨Bool.eq_false_iff.mpr fun hon => dangling_of_wanted hopen hstop (Or.inl rfl) hon h,
      Bool.eq_false_iff.mpr fun hon => dangling_of_wanted hopen hstop (Or.inr rfl) hon h⟩
  · rintro ⟨hcompactor, hquery⟩
    have hspec : ∀ sub, (env.entering (activated cp) sub).spec = cp.spec := spec_entering
    refine ⟨fun sub o ho hpods => ?_, fun r hr rule hrule b hb => ?_,
      fun p hp => target_of_policy hp⟩
    · obtain ⟨w, rfl, hobject, hwanted⟩ := workload_of_applied ho hpods
      rw [object_congr (hspec _)] at hobject
      rw [wanted_congr (hspec _)] at hwanted
      have hw : w ≠ .logqCompactor ∧ w ≠ .logqQuery := by
        constructor
        · rintro rfl
          exact absurd hwanted (Bool.eq_false_iff.mp hcompactor)
        · rintro rfl
          exact absurd hwanted (Bool.eq_false_iff.mp hquery)
      rw [hobject] at ho
      exact ⟨w, rfl, hobject, resolved_of_applied hopen hstop hw ho⟩
    · obtain ⟨svc, hon, hb⟩ := backend_of_route hr rule hrule b hb
      rw [serviceDeployedInCluster_congr (hspec _)] at hon
      exact ⟨svc, hb, service_of_deployed hopen hstop hon⟩

theorem no_dangling_site : ∃ n r,
    reconcileAll healthy.op (fullPass healthy (Webhook.default (site true)))
      (Webhook.default (site true)) {} = (.ok n, r) ∧
    NoDangling healthy (Webhook.default (site true)) := by
  obtain ⟨hpin, n, ⟨cp', w'⟩, hrun⟩ := healthy_run
  exact ⟨n, _, hrun, (no_dangling_iff rfl hpin hrun healthy_open).mpr (by decide)⟩

/-- A site whose logs are compacted. -/
def archived : ControlPlane :=
  let cp := Webhook.default (site true)
  { cp with
    spec.logging :=
      { cp.spec.logging with
        enabled := true
        compactorEnabled := true
        compactorImage := some { repository := "registry.example.org/logq-compactor", tag := "v1" } } }

theorem archived_open : GatesOpen healthy.op healthy.obs archived where
  vault := ⟨rfl, rfl⟩
  roleSecrets := fun _ _ => rfl
  database := by decide
  probe := by decide
  config := fun _ => by decide +kernel
  certificate := by decide
  tokensmith := by decide
  backendTLSPolicy := rfl
  logBucket := fun _ => by decide

theorem archived_clear : healthy.Clear archived := by
  have hsubs : ∀ sub ∈ subs, (program healthy.op healthy.obs archived sub).Clear := by decide +kernel
  exact isStop_entering hsubs

/-- The compactor is applied, and its pods wait for an account that never comes. -/
theorem dangling_archived : (Webhook.validate (some []) archived).2 = none ∧
    GatesOpen healthy.op healthy.obs archived ∧
    (∃ n r, reconcileAll healthy.op (fullPass healthy archived) archived {} = (.ok n, r)) ∧
    ¬ NoDangling healthy archived :=
  ⟨by decide +kernel, archived_open, reconcileAll_served rfl (fun _ => rfl) (by decide) archived_clear {},
    dangling_of_wanted archived_open archived_clear (Or.inl rfl) (by decide)⟩

end OpenchamiOperator.Controller
