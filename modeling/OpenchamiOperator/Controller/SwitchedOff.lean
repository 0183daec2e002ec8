import OpenchamiOperator.Api.Admission
import OpenchamiOperator.Controller.Ownership

/-! # Services that are switched off

The life of one control plane: requests that the webhook admits, and full passes without an error.
Server-side apply removes nothing, and a sub-reconciler whose service is off returns at once.

* `has_history`: a workload is there exactly when some pass has applied it.
* `switched_off_gone_iff`: the workloads of a service that is off are gone exactly when no earlier
  pass found it on. -/

namespace OpenchamiOperator.Controller

open Lib Api Reconcilers Admission

/-! ### The gate of CoreDHCP -/

/-- What the network probe reports in a pass opens the gate of CoreDHCP. -/
def probeOpen (obs : Observed) (cp : ControlPlane) : Bool :=
  !cp.spec.networkProbe.enabled ||
    (((obs.daemonSets (buildProbeDaemonSet cp).name).map DaemonSetView.numberReady).getD 0 ≠ 0 &&
      probeReady obs cp && (probeTargetConfig cp .provision).validate.isNone)

/-- A pass applies the DaemonSet of CoreDHCP: it is enabled, the gate is open, and its configuration
is available. -/
def coreDHCPScheduled (obs : Observed) (cp : ControlPlane) : Bool :=
  cp.spec.services.coreDHCP.enabled && probeOpen obs cp && (resolveConfig obs cp).isOk

variable {env : Env}

theorem entering_coreDHCP (cp : ControlPlane) :
    env.entering cp .coreDHCP = env.done (env.entering cp .networkProbe) .networkProbe := by
  have hsplit : subs.takeWhile (· ≠ .coreDHCP) =
      subs.takeWhile (· ≠ .networkProbe) ++ [.networkProbe] := by decide
  unfold Env.entering
  rw [hsplit, List.foldl_append, List.foldl_cons, List.foldl_nil]

theorem probeGateReady_done (cp : ControlPlane) :
    probeGateReady (env.done cp .networkProbe) .provision = probeOpen env.obs cp := by
  obtain ⟨hm, hs⟩ := env.done_frame cp .networkProbe
  unfold probeGateReady probeOpen
  have htarget : probeTargetConfig (env.done cp .networkProbe) .provision =
      probeTargetConfig cp .provision := by
    unfold probeTargetConfig probeNetwork
    rw [hs]
  rw [hs, hm, htarget]
  by_cases hen : cp.spec.networkProbe.enabled = true
  · simp only [hen, Bool.not_true, Bool.false_eq_true, if_false, Bool.false_or]
    unfold Env.done program reconcileNetworkProbe
    simp only [hen, Bool.not_true, Bool.false_eq_true, if_false]
    by_cases hready : ((env.obs.daemonSets (buildProbeDaemonSet cp).name).map
        DaemonSetView.numberReady).getD 0 = 0
    · rw [if_pos hready]
      simp [hready, Program.writes, applying, reading, probeCondition,
        StatusWrite.apply, ControlPlane.setCondition, findStatusCondition_set]
    · rw [if_neg hready]
      unfold reportProbe
      by_cases hp : probeReady env.obs cp = true
      · have hinterval : 0 ≤ cp.spec.networkProbe.intervalSeconds := by
          unfold probeReady at hp
          simpa using (Bool.and_eq_true_iff.mp hp).2
        simp [hready, hp, hinterval, Program.writes, applying, reading, probeCondition,
          StatusWrite.apply, ControlPlane.setCondition, findStatusCondition_set]
      · simp [hready, hp, Program.writes, applying, reading, probeCondition,
          StatusWrite.apply, ControlPlane.setCondition, findStatusCondition_set]
  · simp [hen]

/-! ### What a call applies -/

section Calls

variable {op : Operator} {obs : Observed} {cp : ControlPlane}

theorem acts_of_off {svc : Service} (h : serviceDeployedInCluster cp svc = false) :
    (program op obs cp (serviceSub svc)).acts = [] := by
  cases svc with
  | smd => simp [program, serviceSub, reconcileSMD, h]
  | tokensmith => simp [program, serviceSub, reconcileTokensmith, h]
  | bootService => simp [program, serviceSub, reconcileBootService, reconcileConsumer, h]
  | metadataService => simp [program, serviceSub, reconcileMetadataService, reconcileConsumer, h]

theorem mem_applied_of_on {svc : Service} (h : serviceDeployedInCluster cp svc = true)
    (hstop : (program op obs cp (serviceSub svc)).Clear) :
    buildDeployment cp svc ∈ (program op obs cp (serviceSub svc)).applied ∧
      buildService cp svc ∈ (program op obs cp (serviceSub svc)).applied := by
  cases svc with
  | smd => simp [program, serviceSub, reconcileSMD, h, Program.applied, applying]
  | tokensmith =>
    unfold program serviceSub reconcileTokensmith at hstop ⊢
    simp only [h, Bool.not_true, Bool.false_eq_true, if_false] at hstop ⊢
    split_ifs at hstop ⊢ with hissuer
    · simp [Program.Clear, Act.isStop] at hstop
    · have happlied := applied_deployService obs cp .tokensmith (provisionServiceBootstrapTokens obs cp)
      exact ⟨List.mem_cons_of_mem _ (happlied _ (by simp)), List.mem_cons_of_mem _ (happlied _ (by simp))⟩
  | bootService =>
    have hprogram : program op obs cp .bootService = deployService obs cp .bootService [] := by
      simp [program, reconcileBootService, reconcileConsumer, h]
    rw [serviceSub, hprogram]
    have happlied := applied_deployService obs cp .bootService []
    exact ⟨happlied _ (by simp), happlied _ (by simp)⟩
  | metadataService =>
    have hprogram : program op obs cp .metadataService =
        deployService obs cp .metadataService [] := by
      simp [program, reconcileMetadataService, reconcileConsumer, h]
    rw [serviceSub, hprogram]
    have happlied := applied_deployService obs cp .metadataService []
    exact ⟨happlied _ (by simp), happlied _ (by simp)⟩

/-- What CoreDHCP applies: its configuration and its DaemonSet when its two gates are open. -/
theorem applied_reconcileCoreDHCP : (reconcileCoreDHCP obs cp).applied =
    if cp.spec.services.coreDHCP.enabled && probeGateReady cp .provision &&
        (resolveConfig obs cp).isOk then
      [buildCoreDHCPConfigMap cp, buildCoreDHCPDaemonSet cp]
    else [] := by
  have hread : (readConfigMapRef cp).filterMap Act.applied? = [] := by
    unfold readConfigMapRef
    split <;> simp [reading]
  have hrestrict : (restrictExistingSelection obs cp).filterMap Act.applied? = [] := by
    unfold restrictExistingSelection
    split_ifs <;> rfl
  have hreport : ∀ current, (reportDHCP current).acts.filterMap Act.applied? = [] := by
    intro current
    unfold reportDHCP
    simp only
    split_ifs <;> rfl
  unfold reconcileCoreDHCP Program.applied
  by_cases hen : cp.spec.services.coreDHCP.enabled = true
  · by_cases hgate : probeGateReady cp .provision = true
    · rcases hconfig : resolveConfig obs cp with ⟨reason, message⟩ | config
      · simp [hen, hgate, hread, hrestrict, dhcpCondition, Except.isOk, Except.toBool]
      · simp [hen, hgate, hread, hrestrict, hreport, applying, reading, Except.isOk, Except.toBool]
    · simp [hen, hgate, hrestrict, dhcpCondition]
  · simp [hen]

theorem mem_applied_coreDHCP : (∃ o ∈ (reconcileCoreDHCP obs cp).applied,
      o.key = (buildCoreDHCPDaemonSet cp).key) ↔
    (cp.spec.services.coreDHCP.enabled && probeGateReady cp .provision &&
      (resolveConfig obs cp).isOk) = true := by
  rw [applied_reconcileCoreDHCP]
  split_ifs with h
  · simp [h]
  · simp [h]

end Calls

/-! ### Whose key it is -/

/-- Apart from the DaemonSets, a workload has the name of the entry its sub-reconciler writes. -/
theorem serviceWriter_of_mem_workloads {cp : ControlPlane} {sub : Sub} {o : KubeObject}
    (ho : o ∈ workloads cp sub) (hkind : o.kind ≠ .other "DaemonSet") :
    serviceWriter o.name = some sub := by
  unfold workloads at ho
  cases sub with
  | smd | tokensmith | bootService | metadataService | logqQuery =>
    simp only [List.mem_cons, List.not_mem_nil, or_false] at ho
    rcases ho with rfl | rfl <;> rfl
  | networkProbe | coreDHCP | funicular =>
    rw [List.mem_singleton.mp ho] at hkind
    exact absurd rfl hkind
  | _ => cases ho

/-- The Deployment and the Service of a service are among the workloads of its sub-reconciler
only. -/
theorem sub_of_service_key {cp : ControlPlane} {sub : Sub} {svc : Service} {o : KubeObject}
    (ho : o ∈ workloads cp sub)
    (hkey : o.key = (buildDeployment cp svc).key ∨ o.key = (buildService cp svc).key) :
    sub = serviceSub svc := by
  have hname : o.name = svc.name := by
    rcases hkey with hkey | hkey <;> exact congrArg (·.2.2) hkey
  have hkind : o.kind ≠ .other "DaemonSet" := by
    rcases hkey with hkey | hkey
    · have hd : o.kind = .other "Deployment" := congrArg (·.1) hkey
      simp [hd]
    · have hs : o.kind = .other "Service" := congrArg (·.1) hkey
      simp [hs]
  have hsub := serviceWriter_of_mem_workloads ho hkind
  rw [hname, serviceWriter_name] at hsub
  exact (Option.some.inj hsub).symm

theorem sub_of_coreDHCP_key {cp : ControlPlane} {sub : Sub} {o : KubeObject}
    (ho : o ∈ workloads cp sub) (hkey : o.key = (buildCoreDHCPDaemonSet cp).key) :
    sub = .coreDHCP := by
  have hname : o.name = "coredhcp" := congrArg (·.2.2) hkey
  have hkind : o.kind = .other "DaemonSet" := congrArg (·.1) hkey
  unfold workloads at ho
  cases sub with
  | smd | tokensmith | bootService | metadataService | logqQuery =>
    simp only [List.mem_cons, List.not_mem_nil, or_false] at ho
    rcases ho with rfl | rfl <;>
      simp [buildDeployment, buildService, buildQueryDeployment, buildQueryService, objectIn] at hkind
  | networkProbe =>
    rw [List.mem_singleton.mp ho] at hname
    -- the two names differ in their first character
    have hfirst := congrArg (fun s : String => s.toList.head?) hname
    simp [buildProbeDaemonSet, objectIn] at hfirst
  | funicular =>
    rw [List.mem_singleton.mp ho] at hname
    have hne : "funicular-collector" ≠ "coredhcp" := by decide
    exact absurd hname hne
  | coreDHCP => rfl
  | _ => cases ho

/-! ### Histories -/

/-- A pass: what it depended on, and the stored object it was started with. -/
structure PassOver where
  env : Env
  cp : ControlPlane

/-- The object in memory when the pass calls `sub`. -/
def PassOver.entering (p : PassOver) (sub : Sub) : ControlPlane :=
  p.env.entering (activated (observed p.cp)) sub

/-- No program of the pass stops. -/
def PassOver.Clear (p : PassOver) : Prop :=
  ∀ sub, ∀ a ∈ (program p.env.op p.env.obs (p.entering sub) sub).acts, a.isStop = false

/-- The pass applies an object with the key `k`. -/
def PassOver.Applies (p : PassOver) (k : KubeKind × String × String) : Prop :=
  ∃ sub, ∃ o ∈ (program p.env.op p.env.obs (p.entering sub) sub).applied, o.key = k

/-- The life of one control plane: its passes, the latest first, the stored object and the world. It
is created without a status and without a workload in its namespace; an update keeps its status; a
full pass without an error persists the status it has computed. -/
inductive History : List PassOver → ControlPlane → World → Prop
  | created {cp : ControlPlane} {w : World} (listing : Option (List ControlPlane))
      (hschema : schemaValid cp = true)
      (hadm : (Webhook.validateCreate listing (Webhook.default cp)).2 = none)
      (hstatus : cp.status = {})
      (hclean : ∀ o ∈ w.objects, o.namespace = controlPlaneNamespace cp → isWorkload o = false) :
      History [] (Webhook.default cp) w
  | updated {ps : List PassOver} {cp new : ControlPlane} {w : World} (h : History ps cp w)
      (listing : Option (List ControlPlane)) (hkey : planeKey new = planeKey cp)
      (huid : new.metadata.uid = cp.metadata.uid) (hschema : schemaValid new = true)
      (hadm : (Webhook.validateUpdate listing cp (Webhook.default new)).2 = none)
      (hstatus : new.status = cp.status) :
      History ps (Webhook.default new) w
  | passed {ps : List PassOver} {cp cp' : ControlPlane} {w w' : World} {longest : ℕ}
      (h : History ps cp w) (env : Env) (hdry : env.op.dryRun = false)
      (hpin : pinnedElsewhere env.op cp = false)
      (hrun : reconcileAll env.op (fullPass env (observed cp)) (observed cp) w =
        (.ok longest, cp', w')) :
      History (⟨env, cp⟩ :: ps) cp' w'

/-- **The passes of a history**: they were all of this cluster, nothing in them stopped, and a
workload is in the namespace exactly when one of them has applied it. -/
theorem has_history {ps : List PassOver} {cp : ControlPlane} {w : World} (h : History ps cp w) :
    (∀ p ∈ ps, p.cp.spec.clusterName = cp.spec.clusterName ∧ p.Clear) ∧
      ∀ o : KubeObject, isWorkload o = true → o.namespace = controlPlaneNamespace cp →
        (w.objects.has o.key = true ↔ ∃ p ∈ ps, p.Applies o.key) := by
  induction h with
  | @created cp w listing hschema hadm hstatus hclean =>
    refine ⟨by simp, fun o hw hns => ?_⟩
    have habsent : ¬ w.objects.has o.key = true := fun hhas => by
      obtain ⟨o', ho', hkey⟩ := Store.has_iff.mp hhas
      have hns' : o'.namespace = controlPlaneNamespace cp := (congrArg (·.2.1) hkey).trans hns
      have hkind : o'.kind = o.kind := congrArg (·.1) hkey
      have hw' : isWorkload o' = true := by
        unfold isWorkload at hw ⊢
        rw [hkind]
        exact hw
      simp [hclean o' ho' hns'] at hw'
    simp [habsent]
  | @updated ps cp new w h listing hkey huid hschema hadm hstatus ih =>
    have hname := Admission.clusterName_of_admits hadm
    have hns : controlPlaneNamespace (Webhook.default new) = controlPlaneNamespace cp := by
      unfold controlPlaneNamespace
      rw [hname]
    rw [hname, hns]
    exact ih
  | @passed ps cp cp' w w' longest h env hdry hpin hrun ih =>
    obtain ⟨hps, hobjects⟩ := ih
    have hpin' : pinnedElsewhere env.op (observed cp) = false := hpin
    obtain ⟨hclear, -, -, hw'⟩ := reconcileAll_fullPass hdry hpin' hrun
    have hframe := (reconcileAll_frame env.op (fullPass env (observed cp)) (observed cp) w).2.1
    rw [hrun] at hframe
    have hspec : cp'.spec = cp.spec := hframe
    rw [hspec]
    have hclear' : PassOver.Clear ⟨env, cp⟩ := hclear
    refine ⟨List.forall_mem_cons.mpr ⟨⟨rfl, hclear'⟩, hps⟩, fun o hw hns => ?_⟩
    have hns' : o.namespace = controlPlaneNamespace cp := by
      rw [hns]
      unfold controlPlaneNamespace
      rw [hspec]
    have hroute : o.key.1 ≠ .other "HTTPRoute" := fun hk => by
      have hkind : o.kind = .other "HTTPRoute" := hk
      simp [isWorkload, hkind] at hw
    rw [hw', has_workload hroute, hobjects o hw hns', List.exists_mem_cons_iff]
    exact or_comm

/-! ### What the passes of a history apply -/

theorem PassOver.entering_frame (p : PassOver) (sub : Sub) :
    (p.entering sub).metadata = p.cp.metadata ∧ (p.entering sub).spec = p.cp.spec :=
  p.env.entering_frame _ sub

theorem serviceDeployedInCluster_congr {a b : ControlPlane} (h : a.spec = b.spec) (svc : Service) :
    serviceDeployedInCluster a svc = serviceDeployedInCluster b svc := by
  unfold serviceDeployedInCluster serviceDefaults
  rw [h]

theorem controlPlaneNamespace_congr {a b : ControlPlane} (h : a.spec.clusterName = b.spec.clusterName) :
    controlPlaneNamespace a = controlPlaneNamespace b := by
  unfold controlPlaneNamespace
  rw [h]

theorem applies_service_iff {p : PassOver} (hclear : p.Clear) (svc : Service) {k}
    (hk : k = (buildDeployment p.cp svc).key ∨ k = (buildService p.cp svc).key) :
    p.Applies k ↔ serviceDeployedInCluster p.cp svc = true := by
  have hspec : ∀ sub, (p.entering sub).spec = p.cp.spec := fun sub => (p.entering_frame sub).2
  have hns : ∀ sub, controlPlaneNamespace (p.entering sub) = controlPlaneNamespace p.cp :=
    fun sub => controlPlaneNamespace_congr (by rw [hspec sub])
  have hk' : ∀ sub, k = (buildDeployment (p.entering sub) svc).key ∨
      k = (buildService (p.entering sub) svc).key := by
    intro sub
    unfold buildDeployment buildService objectIn at hk ⊢
    rw [hns sub]
    exact hk
  have hon := serviceDeployedInCluster_congr (hspec (serviceSub svc)) svc
  constructor
  · rintro ⟨sub, o, ho, rfl⟩
    have hw : isWorkload o = true := by
      rcases hk with hk | hk
      · have hkind : o.kind = .other "Deployment" := congrArg (·.1) hk
        simp [isWorkload, hkind]
      · have hkind : o.kind = .other "Service" := congrArg (·.1) hk
        simp [isWorkload, hkind]
    obtain rfl := sub_of_service_key (mem_workloads ho hw) (hk' sub)
    by_contra hoff
    rw [← hon, Bool.not_eq_true] at hoff
    unfold Program.applied at ho
    rw [acts_of_off hoff] at ho
    cases ho
  · intro h
    rw [← hon] at h
    obtain ⟨hd, hs⟩ := mem_applied_of_on h (hclear (serviceSub svc))
    rcases hk' (serviceSub svc) with hk | hk
    · exact ⟨serviceSub svc, _, hd, hk.symm⟩
    · exact ⟨serviceSub svc, _, hs, hk.symm⟩

theorem coreDHCPScheduled_entering (p : PassOver) :
    ((p.entering .coreDHCP).spec.services.coreDHCP.enabled &&
      probeGateReady (p.entering .coreDHCP) .provision &&
      (resolveConfig p.env.obs (p.entering .coreDHCP)).isOk) =
        coreDHCPScheduled p.env.obs p.cp := by
  obtain ⟨hm, hs⟩ := p.entering_frame .coreDHCP
  have hconfig : resolveConfig p.env.obs (p.entering .coreDHCP) = resolveConfig p.env.obs p.cp := by
    unfold resolveConfig renderCoreDHCPConfig coreDHCPValues DHCPValues.text coreDHCPConfigSourceRef
    rw [hm, hs]
  have hgate : probeGateReady (p.entering .coreDHCP) .provision = probeOpen p.env.obs p.cp := by
    unfold PassOver.entering
    rw [entering_coreDHCP, probeGateReady_done]
    have hspec : (p.env.entering (activated (observed p.cp)) .networkProbe).spec = p.cp.spec :=
      (p.entering_frame .networkProbe).2
    unfold probeOpen buildProbeDaemonSet objectIn probeReady eligibleNodes probeTargetConfig
      probeNetwork
    rw [hspec]
  rw [hs, hconfig, hgate]
  rfl

theorem applies_coreDHCP_iff (p : PassOver) :
    p.Applies (buildCoreDHCPDaemonSet p.cp).key ↔ coreDHCPScheduled p.env.obs p.cp = true := by
  have hkey : ∀ sub, (buildCoreDHCPDaemonSet p.cp).key =
      (buildCoreDHCPDaemonSet (p.entering sub)).key := by
    intro sub
    unfold buildCoreDHCPDaemonSet objectIn
    rw [controlPlaneNamespace_congr (congrArg _ (p.entering_frame sub).2)]
  rw [← coreDHCPScheduled_entering, ← mem_applied_coreDHCP, ← hkey]
  constructor
  · rintro ⟨sub, o, ho, hk⟩
    have hw : isWorkload o = true := by
      have hkind : o.kind = .other "DaemonSet" := congrArg (·.1) hk
      simp [isWorkload, hkind]
    obtain rfl := sub_of_coreDHCP_key (mem_workloads ho hw) (hk.trans (hkey sub))
    exact ⟨o, ho, hk⟩
  · rintro ⟨o, ho, hk⟩
    exact ⟨.coreDHCP, o, ho, hk⟩

/-- When the last pass does not do it, none has done it exactly when no earlier one has. -/
theorem none_iff_earlier {p : PassOver} {ps : List PassOver} {did : PassOver → Prop}
    {on : PassOver → Bool} (hdid : ∀ q ∈ p :: ps, (did q ↔ on q = true)) (hlast : on p = false) :
    (¬ ∃ q ∈ p :: ps, did q) ↔ ∀ q ∈ ps, on q = false := by
  constructor
  · intro hno q hq
    rw [← Bool.not_eq_true, ← hdid q (List.mem_cons_of_mem p hq)]
    exact fun h => hno ⟨q, List.mem_cons_of_mem p hq, h⟩
  · rintro hno ⟨q, hq, h⟩
    have hon := (hdid q hq).mp h
    rcases List.mem_cons.mp hq with rfl | hq
    · simp [hlast] at hon
    · simp [hno q hq] at hon

/-- **What is left of a service that is off.** After a pass that found CoreDHCP disabled its DaemonSet
is gone exactly when no earlier pass had scheduled it, and after a pass that found a service off its
Deployment and its Service are gone exactly when no earlier pass had found it on. -/
theorem switched_off_gone_iff {p : PassOver} {ps : List PassOver} {cp : ControlPlane} {w : World}
    (h : History (p :: ps) cp w) :
    (p.cp.spec.services.coreDHCP.enabled = false →
      (w.objects.has (buildCoreDHCPDaemonSet cp).key = false ↔
        ∀ q ∈ ps, coreDHCPScheduled q.env.obs q.cp = false)) ∧
    ∀ svc, serviceDeployedInCluster p.cp svc = false →
      ((w.objects.has (buildDeployment cp svc).key = false ∧
          w.objects.has (buildService cp svc).key = false) ↔
        ∀ q ∈ ps, serviceDeployedInCluster q.cp svc = false) := by
  obtain ⟨hps, hobjects⟩ := has_history h
  have hns : ∀ q ∈ p :: ps, controlPlaneNamespace q.cp = controlPlaneNamespace cp :=
    fun q hq => controlPlaneNamespace_congr (hps q hq).1
  refine ⟨fun hoff => ?_, fun svc hoff => ?_⟩
  · have happlies : ∀ q ∈ p :: ps, (q.Applies (buildCoreDHCPDaemonSet cp).key ↔
        coreDHCPScheduled q.env.obs q.cp = true) := fun q hq => by
      have hkey : (buildCoreDHCPDaemonSet cp).key = (buildCoreDHCPDaemonSet q.cp).key := by
        unfold buildCoreDHCPDaemonSet objectIn
        rw [hns q hq]
      rw [hkey, applies_coreDHCP_iff]
    have hlast : coreDHCPScheduled p.env.obs p.cp = false := by
      unfold coreDHCPScheduled
      rw [hoff]
      rfl
    rw [← Bool.not_eq_true, hobjects (buildCoreDHCPDaemonSet cp) rfl rfl,
      none_iff_earlier happlies hlast]
  · have happlies : ∀ k, k = (buildDeployment cp svc).key ∨ k = (buildService cp svc).key →
        ∀ q ∈ p :: ps, (q.Applies k ↔ serviceDeployedInCluster q.cp svc = true) :=
      fun k hk q hq => by
        refine applies_service_iff (hps q hq).2 svc ?_
        unfold buildDeployment buildService objectIn at hk ⊢
        rw [hns q hq]
        exact hk
    rw [← Bool.not_eq_true, ← Bool.not_eq_true, hobjects (buildDeployment cp svc) rfl rfl,
      hobjects (buildService cp svc) rfl rfl,
      none_iff_earlier (happlies _ (Or.inl rfl)) hoff,
      none_iff_earlier (happlies _ (Or.inr rfl)) hoff, and_self]

/-! ### A cluster that is switched off -/

/-- A cluster with SMD and CoreDHCP, or without. -/
def site (on : Bool) : ControlPlane where
  metadata :=
    { name := "alpha", «namespace» := "default", uid := "uid-alpha"
      finalizers := [clusterFinalizer] }
  spec :=
    { clusterName := "alpha"
      domain := "alpha.example.org"
      platform :=
        { vault := { address := "https://vault.example.org:8200" }
          objectStorage := { endpoint := "https://s3.example.org:10000" } }
      services :=
        { smd := { enabled := on }
          coreDHCP :=
            { enabled := on
              nodeSelector := GoMap.ofList [("openchami.org/alpha", "true")]
              leaseRanges :=
                [{ subnet := "10.1.0.0/24", start := "10.1.0.10", «end» := "10.1.0.99" }] } } }

/-- Names outside the cluster cannot be resolved, and the operator does without. -/
def quiet : Env where
  obs := { network := { bestEffortDNS := true } }
  perm := order_perm

theorem quiet_clear (on : Bool) :
    ∀ sub, (program quiet.op quiet.obs (Webhook.default (site on)) sub).Clear := by
  have hsubs : ∀ sub ∈ subs, (program quiet.op quiet.obs (Webhook.default (site on)) sub).Clear := by
    cases on <;> decide +kernel
  exact fun sub => hsubs sub (mem_subs sub)

/-- A quiet pass over the cluster has no error, whatever its status is. -/
theorem quiet_run (on : Bool) {cp : ControlPlane} (w : World)
    (hm : cp.metadata = (Webhook.default (site on)).metadata)
    (hs : cp.spec = (Webhook.default (site on)).spec) :
    pinnedElsewhere quiet.op (observed cp) = false ∧ ∃ longest cp' w',
      reconcileAll quiet.op (fullPass quiet (observed cp)) (observed cp) w = (.ok longest, cp', w') ∧
        cp'.metadata = cp.metadata ∧ cp'.spec = cp.spec := by
  have hpin : pinnedElsewhere quiet.op (observed cp) = false := by
    unfold pinnedElsewhere
    have hspec : (observed cp).spec = (Webhook.default (site on)).spec := hs
    rw [hspec]
    cases on <;> decide
  have hstops : quiet.Clear (observed cp) := fun sub => by
    obtain ⟨hm', hs'⟩ := quiet.entering_frame (activated (observed cp)) sub
    exact isStop_congr (hm.symm.trans hm'.symm) (hs.symm.trans hs'.symm) (quiet_clear on sub)
  obtain ⟨longest, ⟨cp', w'⟩, hrun⟩ :=
    @reconcileAll_served quiet rfl (fun _ => rfl) (observed cp) hpin hstops w
  obtain ⟨hm', hs', -, -⟩ :=
    reconcileAll_frame quiet.op (fullPass quiet (observed cp)) (observed cp) w
  rw [hrun] at hm' hs'
  exact ⟨hpin, longest, cp', w', hrun, hm', hs'⟩

theorem quiet_pass (on : Bool) {ps : List PassOver} {cp : ControlPlane} {w : World}
    (h : History ps cp w) (hm : cp.metadata = (Webhook.default (site on)).metadata)
    (hs : cp.spec = (Webhook.default (site on)).spec) :
    ∃ cp' w', History (⟨quiet, cp⟩ :: ps) cp' w' ∧ cp'.metadata = cp.metadata ∧
      cp'.spec = cp.spec := by
  obtain ⟨hpin, longest, cp', w', hrun, hm', hs'⟩ := quiet_run on w hm hs
  exact ⟨cp', w', .passed h quiet rfl hpin hrun, hm', hs'⟩

theorem site_created (on : Bool) : History [] (Webhook.default (site on)) {} :=
  .created (some []) (by cases on <;> decide) (by cases on <;> decide +kernel) rfl
    (fun o ho => absurd ho (Store.not_mem_empty o))

/-- A cluster that never had SMD and CoreDHCP has nothing of them. -/
theorem switched_off_gone_site : ∃ cp₁ cp w,
    History [⟨quiet, cp₁⟩, ⟨quiet, Webhook.default (site false)⟩] cp w ∧
    w.objects.has (buildCoreDHCPDaemonSet cp).key = false ∧
    w.objects.has (buildDeployment cp .smd).key = false ∧
    w.objects.has (buildService cp .smd).key = false := by
  obtain ⟨cp₁, w₁, h₁, hm₁, hs₁⟩ := quiet_pass false (site_created false) rfl rfl
  obtain ⟨cp, w, h, -, -⟩ := quiet_pass false h₁ hm₁ hs₁
  obtain ⟨hdhcp, hservices⟩ := switched_off_gone_iff h
  have hsmd := (hservices .smd ((serviceDeployedInCluster_congr hs₁ .smd).trans (by decide))).mpr
    (List.forall_mem_singleton.mpr (by decide))
  exact ⟨cp₁, cp, w, h, (hdhcp (by rw [hs₁]; decide)).mpr
    (List.forall_mem_singleton.mpr (by decide)), hsmd.1, hsmd.2⟩

theorem schemaValid_status (cp : ControlPlane) (st : ControlPlaneStatus) :
    schemaValid { cp with status := st } = schemaValid cp := rfl

theorem validateUpdate_status (listing : Option (List ControlPlane)) (old cp : ControlPlane)
    (st : ControlPlaneStatus) :
    Webhook.validateUpdate listing old (Webhook.default { cp with status := st }) =
      Webhook.validateUpdate listing old (Webhook.default cp) := rfl

theorem site_updated {on : Bool} {ps : List PassOver} {cp : ControlPlane} {w : World}
    (h : History ps cp w) (hm : cp.metadata = (Webhook.default (site on)).metadata)
    (hs : cp.spec = (Webhook.default (site on)).spec) :
    History ps (Webhook.default { site false with status := cp.status }) w := by
  have hkey : planeKey { site false with status := cp.status } = planeKey cp := by
    unfold planeKey
    rw [hm]
    rfl
  have huid : (site false).metadata.uid = cp.metadata.uid := by
    rw [hm]
    rfl
  have hadm : (Webhook.validateUpdate (some []) cp
      (Webhook.default { site false with status := cp.status })).2 = none := by
    have hold : Webhook.validateUpdate (some []) cp (Webhook.default (site false)) =
        Webhook.validateUpdate (some []) (Webhook.default (site on)) (Webhook.default (site false)) := by
      unfold Webhook.validateUpdate
      rw [hs]
    rw [validateUpdate_status, hold]
    cases on <;> decide +kernel
  exact .updated h (some []) hkey huid
    ((schemaValid_status (site false) cp.status).trans (by decide)) hadm rfl

/-- A cluster that had SMD and CoreDHCP for one pass keeps them. -/
theorem switched_off_remains : ∃ p ps cp w, History (p :: ps) cp w ∧
    p.cp.spec.services.coreDHCP.enabled = false ∧ serviceDeployedInCluster p.cp .smd = false ∧
    w.objects.has (buildCoreDHCPDaemonSet cp).key = true ∧
    w.objects.has (buildDeployment cp .smd).key = true ∧
    w.objects.has (buildService cp .smd).key = true := by
  obtain ⟨cp₁, w₁, h₁, hm₁, hs₁⟩ := quiet_pass true (site_created true) rfl rfl
  obtain ⟨cp₂, w₂, h₂, -, -⟩ := quiet_pass false (site_updated h₁ hm₁ hs₁) rfl rfl
  obtain ⟨hps, hobjects⟩ := has_history h₂
  -- the first pass has applied them
  obtain ⟨hname, hclear⟩ := hps ⟨quiet, Webhook.default (site true)⟩ (by simp)
  have hns : controlPlaneNamespace cp₂ = controlPlaneNamespace (Webhook.default (site true)) :=
    (controlPlaneNamespace_congr hname).symm
  have hfirst : ∀ o : KubeObject, isWorkload o = true → o.namespace = controlPlaneNamespace cp₂ →
      PassOver.Applies ⟨quiet, Webhook.default (site true)⟩ o.key → w₂.objects.has o.key = true :=
    fun o hw ho happ => (hobjects o hw ho).mpr ⟨_, by simp, happ⟩
  have happlies : ∀ k, k = (buildDeployment cp₂ .smd).key ∨ k = (buildService cp₂ .smd).key →
      PassOver.Applies ⟨quiet, Webhook.default (site true)⟩ k := fun k hk => by
    refine (applies_service_iff hclear .smd ?_).mpr (by decide)
    unfold buildDeployment buildService objectIn at hk ⊢
    rw [hns] at hk
    exact hk
  have hdhcp : PassOver.Applies ⟨quiet, Webhook.default (site true)⟩
      (buildCoreDHCPDaemonSet cp₂).key := by
    have hk := (applies_coreDHCP_iff ⟨quiet, Webhook.default (site true)⟩).mpr (by decide +kernel)
    unfold buildCoreDHCPDaemonSet objectIn at hk ⊢
    rw [hns]
    exact hk
  exact ⟨_, _, cp₂, w₂, h₂, rfl, rfl, hfirst _ rfl rfl hdhcp,
    hfirst _ rfl rfl (happlies _ (Or.inl rfl)), hfirst _ rfl rfl (happlies _ (Or.inr rfl))⟩

end OpenchamiOperator.Controller
