import OpenchamiOperator.Controller.NameIsolation
import OpenchamiOperator.Controller.Workloads
import OpenchamiOperator.Lib.KubeNames
import OpenchamiOperator.Reconcilers.GatewayPass

/-! # Names made from the name of the cluster

The operator puts the name of the cluster into the names of its objects, the keys of the labels on
nodes and the values of labels. The schema bounds the name of the cluster once; whether all that is
made from it is legal for an API server is another matter.

* `named_of_applied`: every object of a call has a fixed name or one of a few derived ones.
* `legal_iff`: all names and labels are legal exactly when the name of the cluster does not end
  with a dash. -/

namespace OpenchamiOperator.Controller

open Lib Strings Api Admission Reconcilers Admin NetworkProbe KubeNames

/-! ### Names of objects -/

/-- The names of the network policies. -/
def policyNames : List String :=
  ["default-deny-all", "allow-dns-egress", "allow-vault-egress", "allow-versitygw-egress",
   "allow-logs-egress", "allow-cnpg-kubernetes-api-egress", "smd-policy", "tokensmith-policy",
   "boot-service-policy", "metadata-service-policy", "coredhcp-policy", "magellan-policy",
   "networkprobe-policy", "funicular-policy", "postgres-ingress-policy", "postgres-egress-policy"]

/-- The names that are the same for every cluster. -/
def fixedNames : List String :=
  serviceAccountNames ++ Gateway.objectNames.map Prod.snd ++ policyNames ++
    ["tokensmith-data", "coredhcp-config", "logq-compactor", "logq-query"]

/-- What follows the name of the cluster, after `openchami-`, in the name of an object. -/
def nameEndings : List String :=
  ["-network-probe", "-smd-db", "-boot-service-db", "-s3-credentials", "-log-credentials",
   "-tokensmith-oidc", "-postgres", "-smd", "-boot-service", "-service-identity-bootstrap",
   "-service-identity-ca", "-service-identity-issuer", "-tokensmith-server-tls",
   "-boot-service-identity", "-metadata-service-identity", "-topology", "-services",
   "-boot-service-bootstrap-token", "-metadata-service-bootstrap-token"]

/-- The names of the objects of a cluster. -/
def Named (cluster name : String) : Prop :=
  name ∈ fixedNames ∨ name = "openchami-" ++ cluster ∨
    (∃ s ∈ nameEndings, name = "openchami-" ++ cluster ++ s) ∨ name = cluster ++ "-gateway-tls"

/-- The Secret under whose name the user wants the login of the services. -/
def appRoleSecret (cp : ControlPlane) : KubeObject :=
  objectIn cp "Secret" (cp.spec.platform.vault.appRoleSecretRef.getD "")

section Named

variable {op : Operator} {obs : Observed} {cp : ControlPlane}

theorem named_fixed {cluster name : String} (h : name ∈ fixedNames) : Named cluster name := Or.inl h

theorem named_ending {cluster s : String} (h : s ∈ nameEndings) :
    Named cluster ("openchami-" ++ cluster ++ s) :=
  Or.inr (Or.inr (Or.inl ⟨s, h, rfl⟩))

theorem named_secretName {suffix : String} (h : "-" ++ suffix ∈ nameEndings) :
    Named cp.spec.clusterName (secretName cp suffix) := by
  unfold secretName
  rw [String.append_assoc]
  exact named_ending h

theorem named_service (svc : Service) :
    ∀ o ∈ describeService cp svc, Named cp.spec.clusterName o.name := by
  have hname : svc.name ∈ fixedNames := by cases svc <;> decide
  have hdata : "tokensmith-data" ∈ fixedNames := by decide
  intro o ho
  rcases List.mem_append.mp ho with ho | ho
  · split_ifs at ho
    · obtain rfl := List.mem_singleton.mp ho
      exact named_fixed hdata
    · cases ho
  · simp only [List.mem_cons, List.not_mem_nil, or_false] at ho
    rcases ho with rfl | rfl | rfl <;> exact named_fixed hname

theorem named_identity : ∀ o ∈ identityObjects cp, Named cp.spec.clusterName o.name := by
  have hclients : ∀ svc ∈ identityClients cp,
      Named cp.spec.clusterName (serviceIdentityClientCertSecretName cp svc) := by
    intro svc hsvc
    have hmem := (List.mem_filter.mp hsvc).1
    simp only [List.mem_cons, List.not_mem_nil, or_false] at hmem
    rcases hmem with rfl | rfl
    · exact named_secretName (by decide)
    · exact named_secretName (by decide)
  unfold identityObjects
  simp only [List.forall_mem_append, List.forall_mem_map, List.forall_mem_cons]
  exact ⟨⟨named_secretName (by decide), named_secretName (by decide), named_secretName (by decide),
    named_secretName (by decide), by simp⟩, hclients⟩

theorem named_gateway (btls : Bool) :
    ∀ o ∈ (Gateway.objectsAlways cp ++ Gateway.objectsRequiringTokensmith cp btls).map gatewayObject,
      Named cp.spec.clusterName o.name := by
  have hkeys : ∀ o ∈ Gateway.objectsAlways cp ++ Gateway.objectsRequiringTokensmith cp btls,
      o.key ∈ Gateway.objectNames.map (Gateway.keyIn cp) := by
    intro o ho
    unfold Gateway.objectNames
    rw [List.map_append]
    rcases List.mem_append.mp ho with ho | ho
    · exact List.mem_append_left _ ((Gateway.map_key_objectsAlways cp).subset
        (List.mem_map_of_mem ho))
    · exact List.mem_append_right _ ((Gateway.map_key_objectsRequiringTokensmith cp btls).subset
        (List.mem_map_of_mem ho))
  rw [List.forall_mem_map]
  intro o ho
  obtain ⟨k, hk, hkey⟩ := List.mem_map.mp (hkeys o ho)
  have hname : k.2 = o.metadata.name := congrArg (·.2.2) hkey
  refine named_fixed (List.mem_append_left _ (List.mem_append_left _ (List.mem_append_right _ ?_)))
  exact List.mem_map.mpr ⟨k, hk, hname⟩

theorem named_coreDHCP : ∀ o ∈ [buildCoreDHCPConfigMap cp, buildCoreDHCPDaemonSet cp],
    Named cp.spec.clusterName o.name := by
  simp only [List.forall_mem_cons]
  exact ⟨@named_fixed _ "coredhcp-config" (by decide), @named_fixed _ "coredhcp" (by decide),
    by simp⟩

theorem named_policies {net : Option Network} {ps : List NetworkPolicy.Policy}
    (h : buildPolicies net cp = .ok ps) : ∀ p ∈ ps, Named cp.spec.clusterName p.name := by
  obtain ⟨vault, storage, api, rfl⟩ := buildPolicies_eq h
  have hnames : (policiesFor cp vault storage api).map NetworkPolicy.Policy.name = policyNames := rfl
  intro p hp
  have hmem : p.name ∈ policyNames := by
    rw [← hnames]
    exact List.mem_map_of_mem hp
  exact named_fixed (List.mem_append_left _ (List.mem_append_right _ hmem))

theorem named_of_describe {isPrint : Char → Bool} {sub : Sub} {objs : List KubeObject}
    (h : describe isPrint cp sub = .ok objs) : ∀ o ∈ objs, Named cp.spec.clusterName o.name := by
  cases sub with
  | «namespace» =>
    cases h
    exact List.forall_mem_singleton.mpr (Or.inr (Or.inl rfl))
  | rbac =>
    cases h
    have haccounts : ∀ name ∈ serviceAccountNames, name ∈ fixedNames := fun name hname =>
      List.mem_append_left _ (List.mem_append_left _ (List.mem_append_left _ hname))
    have hreader : configReaderName ∈ fixedNames := by decide
    have hprobe : Named cp.spec.clusterName (networkProbeRoleName cp) := named_ending (by decide)
    simp only [describeRBAC, List.forall_mem_append, List.forall_mem_map, List.forall_mem_cons]
    exact ⟨fun name hname => named_fixed (haccounts name hname), named_fixed hreader,
      named_fixed hreader, hprobe, hprobe, by simp⟩
  | vault =>
    cases h
    have hsuffixes : ∀ suffix ∈ vssSuffixes, "-" ++ suffix ∈ nameEndings := by decide
    simp only [vsoObjects, List.forall_mem_append, List.forall_mem_map, List.forall_mem_cons]
    exact ⟨⟨Or.inr (Or.inl rfl), Or.inr (Or.inl rfl), by simp⟩,
      fun suffix hsuffix => named_secretName (hsuffixes suffix hsuffix)⟩
  | database =>
    cases h
    have hspecs : ∀ spec ∈ dbRoleSpecs, "-" ++ spec.crSuffix ∈ nameEndings := by decide
    simp only [describeDatabase, List.forall_mem_map, List.forall_mem_cons]
    exact ⟨named_ending (by decide), fun spec hspec => @named_secretName cp _ (hspecs spec hspec)⟩
  | serviceIdentity =>
    cases h
    exact named_identity
  | smd =>
    cases h
    exact named_service .smd
  | tokensmith =>
    cases h
    exact named_service .tokensmith
  | bootService =>
    cases h
    exact named_service .bootService
  | metadataService =>
    cases h
    exact named_service .metadataService
  | networkProbe =>
    cases h
    unfold describeNetworkProbe
    split_ifs
    · exact List.forall_mem_singleton.mpr (named_ending (by decide))
    · simp
  | coreDHCP =>
    rw [describeCoreDHCP_ok h]
    split_ifs
    · exact named_coreDHCP
    · simp
  | certificates =>
    cases h
    exact List.forall_mem_singleton.mpr (Or.inr (Or.inr (Or.inr rfl)))
  | gateway =>
    cases h
    exact named_gateway true
  | networkPolicies =>
    obtain ⟨ps, hps, rfl⟩ := describeNetworkPolicies_ok h
    exact List.forall_mem_map.mpr (named_policies hps)
  | topology =>
    cases h
    exact List.forall_mem_singleton.mpr (named_ending (by decide))
  | serviceMonitor =>
    cases h
    unfold describeServiceMonitor
    split_ifs
    · exact List.forall_mem_singleton.mpr (named_ending (by decide))
    · simp
  | funicular =>
    cases h
    unfold describeFunicular
    split_ifs
    · exact List.forall_mem_singleton.mpr (@named_fixed _ "funicular-collector" (by decide))
    · simp
  | logqCompactor =>
    cases h
    split_ifs
    · exact List.forall_mem_singleton.mpr (@named_fixed _ "logq-compactor" (by decide))
    · simp
  | logqQuery =>
    cases h
    have hquery : "logq-query" ∈ fixedNames := by decide
    split_ifs
    · simp only [List.forall_mem_cons]
      exact ⟨named_fixed hquery, named_fixed hquery, by simp⟩
    · simp
  | bucket | magellan | logBucket =>
    cases h
    simp

/-- **The names of what is applied**, whatever the call finds. -/
theorem named_of_applied {sub : Sub} {o : KubeObject} (ho : o ∈ (program op obs cp sub).applied) :
    o = appRoleSecret cp ∨ Named cp.spec.clusterName o.name := by
  rcases applied_cases ho with ⟨-, -, hmem⟩ | ⟨-, ps, hps, hmem⟩ | ⟨objs, hobjs, hmem | hextra⟩
  · exact Or.inr (named_coreDHCP o hmem)
  · obtain ⟨p, hp, rfl⟩ := List.mem_map.mp hmem
    exact Or.inr (named_policies hps p hp)
  · exact Or.inr (named_of_describe hobjs o hmem)
  · simp only [extraObjects, List.mem_cons, List.not_mem_nil, or_false] at hextra
    rcases hextra with rfl | rfl | rfl | rfl
    · exact Or.inl rfl
    · exact Or.inr (named_secretName (by decide))
    · exact Or.inr (named_secretName (by decide))
    · exact Or.inr (named_secretName (by decide))

end Named

/-! ### Legal names -/

/-- The labels with the name of the cluster in their values: on the namespace, on the topology
document, on every object of the cluster, and in the selectors of the pods of its database. -/
def clusterLabels (cp : ControlPlane) : List (String × String) :=
  [("kubernetes.io/metadata.name", controlPlaneNamespace cp),
   ("openchami.org/cluster", cp.spec.clusterName),
   ("app.kubernetes.io/instance", "openchami-" ++ cp.spec.clusterName),
   ("cnpg.io/cluster", controlPlaneNamespace cp ++ "-postgres")]

/-- An API server takes every name and label that is made from the name of the cluster. -/
structure LegalNames (cp : ControlPlane) : Prop where
  «namespace» : isDNS1123Label (controlPlaneNamespace cp) = true
  objects : ∀ op obs st sub, ∀ o ∈ (program op obs { cp with status := st } sub).applied,
    o = appRoleSecret cp ∨ isDNS1123Subdomain o.name = true
  nodeLabels : ∀ key ∈ probeLabels cp, isQualifiedName key = true
  labels : ∀ label ∈ clusterLabels cp, isValidLabelValue label.2 = true

section Legal

variable {cluster : String} (hname : clusterNamePattern cluster = true)
include hname

theorem labelChars_of_name : ∀ c ∈ cluster.toList, isLabelChar c = true := by
  intro c hc
  unfold isLabelChar isAlnum
  rcases mem_of_clusterNamePattern hname c hc with h | h | h
  · simp [h]
  · simp [h]
  · simp [h]

/-- The schema sees to the first character. -/
theorem opens_of_name : ∃ c ∈ cluster.toList.head?, isAlnum c = true := by
  unfold clusterNamePattern at hname
  cases hlist : cluster.toList with
  | nil =>
    rw [hlist] at hname
    cases hname
  | cons c rest =>
    rw [hlist] at hname
    refine ⟨c, rfl, ?_⟩
    unfold isAlnum
    rw [(Bool.and_eq_true_iff.mp hname).1]
    rfl

/-- It says nothing of the last one. -/
theorem closes_iff :
    (∃ c ∈ cluster.toList.getLast?, isAlnum c = true) ↔ hasSuffix cluster "-" = false := by
  have hne : cluster.toList ≠ [] := by
    intro hnil
    obtain ⟨c, hc, -⟩ := opens_of_name hname
    rw [hnil] at hc
    cases hc
  obtain ⟨l, c, hlist⟩ := (List.eq_nil_or_concat' cluster.toList).resolve_left hne
  have hchar := labelChars_of_name hname c (by rw [hlist]; simp)
  have hdash : isAlnum '-' = false := by decide
  have hsuffix : hasSuffix cluster "-" = true ↔ c = '-' := by
    have hsingle : "-".toList = ['-'] := rfl
    unfold hasSuffix
    rw [List.isSuffixOf_iff_suffix, hlist, hsingle]
    constructor
    · rintro ⟨t, ht⟩
      exact (List.append_inj_right' ht rfl |> List.singleton_inj.mp).symm
    · rintro rfl
      exact ⟨l, rfl⟩
  have hlast : (∃ x ∈ cluster.toList.getLast?, isAlnum x = true) ↔ isAlnum c = true := by
    rw [hlist]
    simp
  rw [hlast, ← Bool.not_eq_true, hsuffix]
  unfold isLabelChar at hchar
  simp only [Bool.or_eq_true, decide_eq_true_eq] at hchar
  constructor
  · rintro halnum rfl
    rw [hdash] at halnum
    cases halnum
  · exact fun hne => hchar.resolve_right hne

/-- The name of the cluster with an ending of its own. -/
theorem labelPattern_ending {s : String} (hs : ∃ c ∈ s.toList.getLast?, isAlnum c = true)
    (hchars : ∀ c ∈ s.toList, isLabelChar c = true) : labelPattern (cluster ++ s).toList = true := by
  rw [String.toList_append]
  refine labelPattern_append (opens_of_name hname) hs ?_
  simp only [List.mem_append]
  rintro c (hc | hc)
  · exact labelChars_of_name hname c hc
  · exact hchars c hc

end Legal

/-- `openchami-`, then what is legal by itself. -/
theorem labelPattern_openchami {s : String} (h : labelPattern s.toList = true) :
    labelPattern ("openchami-" ++ s).toList = true := by
  obtain ⟨-, hlast, hchars⟩ := labelPattern_iff.mp h
  have hopen : ∀ c ∈ "openchami-".toList, isLabelChar c = true :=
    List.all_eq_true.mp (by decide)
  rw [String.toList_append]
  refine labelPattern_append ⟨'o', rfl, by decide⟩ hlast ?_
  simp only [List.mem_append]
  rintro c (hc | hc)
  · exact hopen c hc
  · exact hchars c hc

theorem length_openchami (s : String) : ("openchami-" ++ s).toList.length = 10 + s.toList.length := by
  rw [String.toList_append, List.length_append]
  rfl

theorem endings_close : ∀ s ∈ "-gateway-tls" :: nameEndings ++ labelEndings,
    (∃ c ∈ s.toList.getLast?, isAlnum c = true) ∧ (∀ c ∈ s.toList, isLabelChar c = true) ∧
      s.toList.length ≤ 33 := by
  have hall : ∀ s ∈ "-gateway-tls" :: nameEndings ++ labelEndings,
      s.toList.getLast?.any isAlnum = true ∧ s.toList.all isLabelChar = true ∧
        s.toList.length ≤ 33 := by
    decide +kernel
  intro s hs
  obtain ⟨hlast, hchars, hlength⟩ := hall s hs
  exact ⟨(Option.any_eq_true _ _).mp hlast, List.all_eq_true.mp hchars, hlength⟩

section Bounded

variable {cluster : String} (hname : clusterNamePattern cluster = true)
  (hlength : cluster.toList.length ≤ 32)
include hname hlength

theorem ending_bounded {s : String} (hs : s ∈ "-gateway-tls" :: nameEndings ++ labelEndings) :
    labelPattern (cluster ++ s).toList = true ∧
      (cluster ++ s).toList.length ≤ 32 + s.toList.length ∧ s.toList.length ≤ 33 := by
  obtain ⟨hlast, hchars, hbound⟩ := endings_close s hs
  refine ⟨labelPattern_ending hname hlast hchars, ?_, hbound⟩
  rw [String.toList_append, List.length_append]
  omega

/-- Once the name of the cluster is closed, every name of an object is legal. -/
theorem subdomain_of_named {name : String} (hcluster : labelPattern cluster.toList = true)
    (h : Named cluster name) : isDNS1123Subdomain name = true := by
  have hfixed : ∀ name ∈ fixedNames, isDNS1123Subdomain name = true := by decide +kernel
  rcases h with h | rfl | ⟨s, hs, rfl⟩ | rfl
  · exact hfixed name h
  · refine subdomain_of_pattern ?_ (labelPattern_openchami hcluster)
    rw [length_openchami]
    omega
  · obtain ⟨hpattern, hbound, hs⟩ := ending_bounded hname hlength
      (List.mem_append_left _ (List.mem_cons_of_mem _ hs))
    rw [String.append_assoc]
    refine subdomain_of_pattern ?_ (labelPattern_openchami hpattern)
    rw [length_openchami]
    omega
  · obtain ⟨hpattern, hbound, hs⟩ := ending_bounded hname hlength List.mem_cons_self
    exact subdomain_of_pattern (by omega) hpattern

/-- The keys of the labels on nodes are legal for every name. -/
theorem qualifiedName_of_ending {s : String} (hs : s ∈ labelEndings) :
    isQualifiedName ("openchami.org/" ++ cluster ++ s) = true := by
  have hshort : ∀ s ∈ labelEndings, s.toList.length ≤ 31 := by decide
  obtain ⟨hpattern, hbound, -⟩ := ending_bounded hname hlength (List.mem_append_right _ hs)
  have hsplit : "openchami.org/" ++ cluster ++ s = "openchami.org" ++ "/" ++ (cluster ++ s) := by
    rw [String.append_assoc]
    rfl
  have hs := hshort s hs
  rw [hsplit]
  exact qualifiedName_of_pattern (by decide) (by decide) (by omega) hpattern

end Bounded

/-- **When everything made from the name of the cluster is legal.** -/
theorem legal_iff {cp : ControlPlane} (hschema : schemaValid cp = true) :
    LegalNames cp ↔ hasSuffix cp.spec.clusterName "-" = false := by
  obtain ⟨hname, hlength⟩ := schemaValid_iff.mp hschema
  constructor
  · intro h
    have hpattern := (Bool.and_eq_true_iff.mp h.namespace).2
    obtain ⟨-, ⟨c, hc, halnum⟩, -⟩ := labelPattern_iff.mp hpattern
    obtain ⟨first, hfirst, -⟩ := opens_of_name hname
    have hne : cp.spec.clusterName.toList ≠ [] := by
      intro hnil
      rw [hnil] at hfirst
      cases hfirst
    have hlast : (controlPlaneNamespace cp).toList.getLast? = cp.spec.clusterName.toList.getLast? := by
      unfold controlPlaneNamespace
      rw [String.toList_append, List.getLast?_append_of_ne_nil _ hne]
    rw [hlast] at hc
    exact (closes_iff hname).mp ⟨c, hc, halnum⟩
  · intro hdash
    have hcluster : labelPattern cp.spec.clusterName.toList = true := labelPattern_iff.mpr
      ⟨opens_of_name hname, (closes_iff hname).mpr hdash, labelChars_of_name hname⟩
    have hspace : labelPattern (controlPlaneNamespace cp).toList = true :=
      labelPattern_openchami hcluster
    have hspaceLength : (controlPlaneNamespace cp).toList.length ≤ 42 := by
      have heq : (controlPlaneNamespace cp).toList.length = 10 + cp.spec.clusterName.toList.length :=
        length_openchami _
      omega
    refine ⟨?_, ?_, ?_, ?_⟩
    · unfold isDNS1123Label
      rw [Bool.and_eq_true, decide_eq_true_eq]
      exact ⟨by omega, hspace⟩
    · intro op obs st sub o ho
      exact (named_of_applied ho).imp_right (subdomain_of_named hname hlength hcluster)
    · intro key hkey
      obtain ⟨s, hs, rfl⟩ := mem_probeLabels hkey
      exact qualifiedName_of_ending hname hlength hs
    · have hpostgres : isValidLabelValue (controlPlaneNamespace cp ++ "-postgres") = true := by
        obtain ⟨hpattern, hbound, -⟩ := ending_bounded hname hlength
          (show "-postgres" ∈ "-gateway-tls" :: nameEndings ++ labelEndings by decide)
        have heq : controlPlaneNamespace cp ++ "-postgres" =
            "openchami-" ++ (cp.spec.clusterName ++ "-postgres") := String.append_assoc
        have hlength : "-postgres".toList.length = 9 := rfl
        rw [heq]
        refine labelValue_of_pattern ?_ (labelPattern_openchami hpattern)
        rw [length_openchami]
        omega
      have hvalue : isValidLabelValue (controlPlaneNamespace cp) = true :=
        labelValue_of_pattern (by omega) hspace
      simp only [clusterLabels, List.forall_mem_cons]
      exact ⟨hvalue, labelValue_of_pattern (by omega) hcluster, hvalue, hpostgres, by simp⟩

theorem legal_alpha : schemaValid alpha = true ∧ LegalNames alpha := by
  have hschema : schemaValid alpha = true := by decide
  exact ⟨hschema, (legal_iff hschema).mpr (by decide)⟩

/-- A cluster with a name that the schema and the webhook accept. -/
def dashed : ControlPlane :=
  Webhook.default (labelled "alpha-" "openchami.org/alpha-dhcp" "true")

/-- No API server takes its namespace, the label on it, or the connection to Vault. -/
theorem illegal_dashed : schemaValid dashed = true ∧ (Webhook.validate (some []) dashed).2 = none ∧
    isDNS1123Label (controlPlaneNamespace dashed) = false ∧
    (∃ o ∈ (program {} {} dashed .vault).applied, isDNS1123Subdomain o.name = false) ∧
    ∃ label ∈ clusterLabels dashed, isValidLabelValue label.2 = false := by
  decide +kernel

end OpenchamiOperator.Controller
