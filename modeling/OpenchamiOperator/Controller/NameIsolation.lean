import OpenchamiOperator.Controller.DeleteIsolation
import OpenchamiOperator.Probe.Attestation
import OpenchamiOperator.Vault.Paths

/-! # Isolation by name

Everything the operator shares between clusters is told apart by the name of the cluster: namespaces,
Vault paths and roles, OIDC keys and clients, cluster roles, node labels. Admission keeps the names
apart, and nothing changes the name of a stored object.

* `clusterName_life`: the name of an object is the same over its whole life.
* `cluster_isolation`: the names derived for two stored control planes have nothing in common, and
  the patches of their probes commute. -/

namespace OpenchamiOperator.Controller

open Lib Strings Api Reconcilers Admission NetworkProbe Probe Relation

/-! ### The life of an object -/

/-- A request before and after which the object with the identifier `uid` is stored. -/
def LivingStep (uid : String) (s s' : ControlPlanes) : Prop :=
  Admitted (fun _ _ => True) s s' ∧ (∃ c ∈ s, c.metadata.uid = uid) ∧ ∃ c ∈ s', c.metadata.uid = uid

theorem eq_of_uid {s : ControlPlanes} (hs : Sound s) {a b : ControlPlane} (ha : a ∈ s) (hb : b ∈ s)
    (huid : a.metadata.uid = b.metadata.uid) : a = b := by
  by_contra hne
  exact hs.uids a ha b hb (fun hkey => hne (Store.eq_of_key_eq ha hb hkey)) huid

/-- **One request** does not change the name of an object. -/
theorem clusterName_step {cond : ControlPlanes → ControlPlane → Prop} {s s' : ControlPlanes}
    (hs : Sound s) (h : Admitted cond s s') {a a' : ControlPlane} (ha : a ∈ s) (ha' : a' ∈ s')
    (huid : a'.metadata.uid = a.metadata.uid) : a'.spec.clusterName = a.spec.clusterName := by
  have hkept : a' ∈ s → a'.spec.clusterName = a.spec.clusterName := fun hmem => by
    rw [eq_of_uid hs hmem ha huid]
  cases h with
  | @create cp uid hschema hkey hne hfresh hrequest hadm hcond =>
    rcases Store.mem_apply.mp ha' with rfl | ⟨hmem, -⟩
    · -- the identifier of a new object is not in use
      exact absurd huid.symm (hfresh a ha)
    · exact hkept hmem
  | @update old new hold hkey hsame hschema hadm hcond =>
    rcases Store.mem_apply.mp ha' with rfl | ⟨hmem, -⟩
    · obtain ⟨hname, -⟩ := Webhook.validateUpdate_admits.mp hadm
      have hold' : old = a := eq_of_uid hs hold ha (hsame.symm.trans huid)
      rw [← hold']
      exact hname.symm
    · exact hkept hmem
  | delete k => exact hkept (Store.mem_delete.mp ha').1

/-- **The name of an object is the same over its whole life.** -/
theorem clusterName_life {s s' : ControlPlanes} (hs : Sound s) {uid : String}
    (hrun : ReflTransGen (LivingStep uid) s s') {a a' : ControlPlane} (ha : a ∈ s)
    (hua : a.metadata.uid = uid) (ha' : a' ∈ s') (hua' : a'.metadata.uid = uid) :
    a'.spec.clusterName = a.spec.clusterName := by
  -- the reachable sets are sound, which the induction carries along
  have hinv : Sound s' ∧ ∀ a' ∈ s', a'.metadata.uid = uid →
      a'.spec.clusterName = a.spec.clusterName := by
    clear ha' hua' a'
    induction hrun with
    | refl =>
      refine ⟨hs, fun a' ha' hua' => ?_⟩
      rw [eq_of_uid hs ha' ha (hua'.trans hua.symm)]
    | tail _ hstep ih =>
      obtain ⟨hmid, hnames⟩ := ih
      obtain ⟨hadm, ⟨c, hc, huc⟩, -⟩ := hstep
      refine ⟨hmid.admitted hadm, fun a' ha' hua' => ?_⟩
      have hname := clusterName_step hmid hadm hc ha' (hua'.trans huc.symm)
      exact hname.trans (hnames c hc huc)
  exact hinv.2 a' ha' hua'

/-! ### Names of two clusters -/

/-- The four labels by which the probes of a cluster mark a node. -/
def probeLabels (cp : ControlPlane) : List String :=
  [readyLabel cp.spec.clusterName .provision, readyLabel cp.spec.clusterName .bmc,
   revisionLabel cp.spec.clusterName .provision, revisionLabel cp.spec.clusterName .bmc]

/-- `p` is what a tick of a probe of `cp` patches, the probe having been started for some
specification with the name of `cp`, which the kubelet passes on. -/
def ProbePatch (isPrint : Char → Bool) (digest : String → BitVec 128) (cp : ControlPlane)
    (p : GoMap String) : Prop :=
  ∃ started resolve checks applied, started.spec.clusterName = cp.spec.clusterName ∧
    resolve ⟨"PROBE_CLUSTER_NAME", .value cp.spec.clusterName⟩ = cp.spec.clusterName ∧
    p = (NodeEvent.tick started resolve checks applied).patch isPrint digest

/-- The names derived for `a` and for `b` have nothing in common. -/
structure NamedApart (a b : ControlPlane) : Prop where
  clusterName : a.spec.clusterName ≠ b.spec.clusterName
  «namespace» : controlPlaneNamespace a ≠ controlPlaneNamespace b
  kvPrefix : ¬ Vault.Nested (Vault.paths a.spec.clusterName).secretPrefix
    (Vault.paths b.spec.clusterName).secretPrefix
  policy : (Vault.paths a.spec.clusterName).policyServices ≠
    (Vault.paths b.spec.clusterName).policyServices
  appRole : (Vault.paths a.spec.clusterName).appRoleServices ≠
    (Vault.paths b.spec.clusterName).appRoleServices
  k8sRole : (Vault.paths a.spec.clusterName).k8sRoleServices ≠
    (Vault.paths b.spec.clusterName).k8sRoleServices
  oidcKey : Vault.oidcKeyName a.spec.clusterName ≠ Vault.oidcKeyName b.spec.clusterName
  oidcClients : ∀ x ∈ Vault.oidcClientNames a.spec.clusterName,
    x ∉ Vault.oidcClientNames b.spec.clusterName
  clusterRole : networkProbeRoleName a ≠ networkProbeRoleName b
  labels : ∀ x ∈ probeLabels a, x ∉ probeLabels b

theorem mem_probeLabels {cp : ControlPlane} {x : String} (h : x ∈ probeLabels cp) :
    ∃ s ∈ labelEndings, x = "openchami.org/" ++ cp.spec.clusterName ++ s := by
  have hready := fun kind => readyLabel_eq cp.spec.clusterName kind
  have hrevision := fun kind => revisionLabel_eq cp.spec.clusterName kind
  simp only [probeLabels, List.mem_cons, List.not_mem_nil, or_false] at h
  rcases h with rfl | rfl | rfl | rfl
  · obtain ⟨s, hs, h, -⟩ := hready .provision
    exact ⟨s, hs, h⟩
  · obtain ⟨s, hs, h, -⟩ := hready .bmc
    exact ⟨s, hs, h⟩
  · obtain ⟨s, hs, h, -⟩ := hrevision .provision
    exact ⟨s, hs, h⟩
  · obtain ⟨s, hs, h, -⟩ := hrevision .bmc
    exact ⟨s, hs, h⟩

theorem namedApart_of_ne {a b : ControlPlane} (ha : schemaValid a = true) (hb : schemaValid b = true)
    (hne : a.spec.clusterName ≠ b.spec.clusterName) : NamedApart a b where
  clusterName := hne
  «namespace» := namespace_ne hne
  kvPrefix h := hne (Vault.eq_of_nested (slash_not_mem_of_schema ha) (slash_not_mem_of_schema hb) h)
  policy h := hne (Vault.eq_of_policyServices h)
  appRole h := hne (Vault.eq_of_policyServices h)
  k8sRole h := hne (Vault.eq_of_policyServices h)
  oidcKey h := hne (Vault.eq_of_oidcKeyName h)
  oidcClients x hx hx' := hne (Vault.eq_of_oidcClientNames hx hx')
  clusterRole := roleName_ne hne
  labels x hx hx' := by
    obtain ⟨s, hs, hxs⟩ := mem_probeLabels hx
    obtain ⟨t, ht, hxt⟩ := mem_probeLabels hx'
    exact hne (label_inj hs ht (hxs.symm.trans hxt)).1

/-! ### Patches of two probes -/

/-- A report only sets labels of its cluster. -/
theorem get?_report_isSome {cluster : String} {checks : Checks} {kind : ProbeType}
    {target : Option TargetConfig} {labels : GoMap String} {k v : String}
    (h : (report cluster checks kind target labels).get? k = some v) :
    labels.get? k = some v ∨ k = readyLabel cluster kind ∨ k = revisionLabel cluster kind := by
  rcases target with _ | t
  · exact Or.inl h
  · unfold report at h
    simp only [GoMap.get?_insert] at h
    by_cases hrevision : revisionLabel cluster kind = k
    · exact Or.inr (Or.inr hrevision.symm)
    · rw [if_neg hrevision] at h
      by_cases hready : readyLabel cluster kind = k
      · exact Or.inr (Or.inl hready.symm)
      · rw [if_neg hready] at h
        exact Or.inl h

theorem mem_probeLabels_of_runOnce {cp : ControlPlane} {r : ProbeRunner}
    (hname : r.clusterName = cp.spec.clusterName) {checks : Checks} {labels : GoMap String}
    {k v : String} (hrun : runOnce r checks = some labels) (h : labels.get? k = some v) :
    k ∈ probeLabels cp := by
  unfold runOnce at hrun
  simp only at hrun
  split_ifs at hrun
  cases hrun
  rw [hname] at h
  rcases get?_report_isSome h with h | rfl | rfl
  · rcases get?_report_isSome h with h | rfl | rfl
    · cases h
    · simp [probeLabels]
    · simp [probeLabels]
  · simp [probeLabels]
  · simp [probeLabels]

theorem runnerFromEnv_clusterName {isPrint : Char → Bool} {digest : String → BitVec 128}
    {env : GoMap String} {r : ProbeRunner} (h : runnerFromEnv isPrint digest env = .ok r) :
    r.clusterName = getenv env "PROBE_CLUSTER_NAME" := by
  unfold runnerFromEnv at h
  split_ifs at h
  rcases hinterval : intervalFromEnv isPrint (getenv env "PROBE_INTERVAL_SECONDS") with e | n
  · rw [hinterval] at h
    cases h
  · rw [hinterval] at h
    simp only at h
    split_ifs at h
    cases h
    rfl

theorem getenv_clusterName {isPrint : Char → Bool} {digest : String → BitVec 128}
    (started : ControlPlane) (resolve : EnvVar → String) :
    getenv (processEnv isPrint digest started resolve) "PROBE_CLUSTER_NAME" =
      resolve ⟨"PROBE_CLUSTER_NAME", .value started.spec.clusterName⟩ := by
  have hvar : (⟨"PROBE_CLUSTER_NAME", .value started.spec.clusterName⟩ : EnvVar) ∈
      probeEnv isPrint digest started := by simp [probeEnv]
  have hget := @getenv_processEnv isPrint digest started resolve _ hvar
  exact hget

/-- The patch of a probe only sets labels of its cluster. -/
theorem ProbePatch.mem_probeLabels {isPrint : Char → Bool} {digest : String → BitVec 128}
    {cp : ControlPlane} {p : GoMap String} (hp : ProbePatch isPrint digest cp p) {k v : String}
    (h : p.get? k = some v) : k ∈ probeLabels cp := by
  obtain ⟨started, resolve, checks, applied, hname, hresolve, hpatch⟩ := hp
  simp only [NodeEvent.patch] at hpatch
  rcases hrunner : runnerFromEnv isPrint digest (processEnv isPrint digest started resolve) with e | r
  · rw [hrunner] at hpatch
    rw [hpatch] at h
    cases h
  · rw [hrunner] at hpatch
    simp only at hpatch
    have hcluster : r.clusterName = cp.spec.clusterName := by
      rw [runnerFromEnv_clusterName hrunner, getenv_clusterName, hname, hresolve]
    rcases hrun : runOnce r checks with _ | labels
    · rw [hrun, Option.getD_none, ite_self] at hpatch
      rw [hpatch] at h
      cases h
    · rw [hrun, Option.getD_some] at hpatch
      by_cases happlied : applied = true
      · rw [if_pos happlied] at hpatch
        rw [hpatch] at h
        exact mem_probeLabels_of_runOnce hcluster hrun h
      · rw [if_neg happlied] at hpatch
        rw [hpatch] at h
        cases h

theorem NamedApart.patches_comm {a b : ControlPlane} (h : NamedApart a b) {isPrint : Char → Bool}
    {digest : String → BitVec 128} {p q : GoMap String} (hp : ProbePatch isPrint digest a p)
    (hq : ProbePatch isPrint digest b q) (labels : GoMap String) :
    (labels.merge p).merge q = (labels.merge q).merge p := by
  refine GoMap.merge_comm (fun k => ?_) labels
  rcases hpk : p.get? k with _ | v
  · exact Or.inl rfl
  · rcases hqk : q.get? k with _ | w
    · exact Or.inr rfl
    · exact absurd (hq.mem_probeLabels hqk) (h.labels k (hp.mem_probeLabels hpk))

/-! ### Every reachable set -/

/-- **Isolation by name**, in every set of control planes reachable by admitted requests: an object
keeps its name as long as it lives, the names derived for two stored objects have nothing in common,
and patches of their probes to one node commute. -/
theorem cluster_isolation {s : ControlPlanes}
    (h : ReflTransGen (Admitted fun _ _ => True) Store.empty s) :
    (∀ s' uid, ReflTransGen (LivingStep uid) s s' → ∀ a ∈ s, a.metadata.uid = uid →
      ∀ a' ∈ s', a'.metadata.uid = uid → a'.spec.clusterName = a.spec.clusterName) ∧
    ∀ a ∈ s, ∀ b ∈ s, a ≠ b → NamedApart a b ∧
      ∀ isPrint digest p q, ProbePatch isPrint digest a p → ProbePatch isPrint digest b q →
        ∀ labels : GoMap String, (labels.merge p).merge q = (labels.merge q).merge p := by
  have hs := sound_run h
  refine ⟨fun s' uid hrun a ha hua a' ha' hua' => clusterName_life hs hrun ha hua ha' hua', ?_⟩
  intro a ha b hb hne
  have hkey : planeKey a ≠ planeKey b := fun hk => hne (Store.eq_of_key_eq ha hb hk)
  have hapart := namedApart_of_ne (hs.schema a ha) (hs.schema b hb) (hs.names a ha b hb hkey)
  exact ⟨hapart, fun isPrint digest p q hp hq labels => hapart.patches_comm hp hq labels⟩

theorem cluster_isolation_bothStored : alpha ∈ bothStored ∧ beta ∈ bothStored ∧
    NamedApart alpha beta := by
  obtain ⟨ha, hb⟩ := mem_bothStored
  have hrun : ReflTransGen (Admitted fun _ _ => True) Store.empty bothStored :=
    (ReflTransGen.single (admitted_alpha trivial)).tail admitted_beta
  obtain ⟨-, hpairs⟩ := cluster_isolation hrun
  exact ⟨ha, hb, (hpairs alpha ha beta hb (by decide)).1⟩

end OpenchamiOperator.Controller
