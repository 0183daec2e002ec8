import OpenchamiOperator.Admin.DescribeGap
import OpenchamiOperator.Reconcilers.PodTemplates

/-! # The workloads of a pass

Which objects with pods a pass applies, and which images their containers run when the images are
pinned.

* `workload_of_applied`: the Deployments, DaemonSets and CronJobs that are applied are the known
  workloads, each applied by its own sub-reconciler and only when the specification asks for it.
* `pinned_iff`: when every one of them runs a tag that the specification names. -/

namespace OpenchamiOperator.Controller

open Lib Api Reconcilers Admin

/-! ### Applied workloads -/

/-- The kinds of the operator's objects that run pods. -/
def podKinds : List String := ["Deployment", "DaemonSet", "CronJob"]

def runsPods (o : KubeObject) : Prop := ∃ kind ∈ podKinds, o.kind = .other kind

theorem not_runsPods {o : KubeObject} {kind : String} (hkind : o.kind = .other kind)
    (h : kind ∉ podKinds) : ¬ runsPods o := by
  rintro ⟨kind', hmem, hkind'⟩
  rw [hkind] at hkind'
  cases hkind'
  exact h hmem

/-- The sub-reconciler of a workload. -/
def workloadSub : Workload → Sub
  | .service svc => serviceSub svc
  | .coreDHCP => .coreDHCP
  | .networkProbe => .networkProbe
  | .funicular => .funicular
  | .logqCompactor => .logqCompactor
  | .logqQuery => .logqQuery

/-- The specification asks for the workload. -/
def wanted (cp : ControlPlane) : Workload → Bool
  | .service svc => serviceDeployedInCluster cp svc
  | .coreDHCP => cp.spec.services.coreDHCP.enabled
  | .networkProbe => cp.spec.networkProbe.enabled
  | .funicular => cp.spec.logging.enabled && cp.spec.logging.image.isSome
  | .logqCompactor => compactorOn cp
  | .logqQuery => queryOn cp

section Applied

variable {op : Operator} {obs : Observed} {cp : ControlPlane}

/-- Only the sub-reconcilers of workloads describe objects with pods. -/
theorem sub_of_owner {o : KubeObject} {sub : Sub} (hk : runsPods o)
    (h : owner o.kind o.name = some sub) : ∃ w, sub = workloadSub w := by
  obtain ⟨kind, hmem, hkind⟩ := hk
  rw [hkind] at h
  unfold owner at h
  simp only [podKinds, List.mem_cons, List.not_mem_nil, or_false] at hmem
  rcases hmem with rfl | rfl | rfl
  · simp only [true_or, if_true] at h
    unfold serviceWriter at h
    split_ifs at h <;> cases h
    · exact ⟨.service .smd, rfl⟩
    · exact ⟨.service .tokensmith, rfl⟩
    · exact ⟨.service .bootService, rfl⟩
    · exact ⟨.service .metadataService, rfl⟩
    · exact ⟨.funicular, rfl⟩
    · exact ⟨.logqQuery, rfl⟩
  · simp only [String.reduceEq, or_self, if_false, if_true] at h
    split_ifs at h <;> cases h
    · exact ⟨.coreDHCP, rfl⟩
    · exact ⟨.funicular, rfl⟩
    · exact ⟨.networkProbe, rfl⟩
  · simp only [String.reduceEq, or_self, if_false] at h
    cases h
    exact ⟨.logqCompactor, rfl⟩

theorem not_runsPods_of_leftOut {o : KubeObject} (h : leftOut cp o) : ¬ runsPods o := by
  rcases h with h | rfl
  · exact not_runsPods h (by decide)
  · exact not_runsPods rfl (by decide)

theorem object_runsPods (cp : ControlPlane) (w : Workload) : runsPods (w.object cp) := by
  cases w with
  | service svc => exact ⟨"Deployment", by decide, rfl⟩
  | coreDHCP | networkProbe | funicular => exact ⟨"DaemonSet", by decide, rfl⟩
  | logqCompactor => exact ⟨"CronJob", by decide, rfl⟩
  | logqQuery => exact ⟨"Deployment", by decide, rfl⟩

/-- An object with pods that a call describes is that of its workload. -/
theorem object_of_described {isPrint : Char → Bool} {w : Workload} {objs : List KubeObject}
    {o : KubeObject} (h : describe isPrint cp (workloadSub w) = .ok objs) (ho : o ∈ objs)
    (hk : runsPods o) : o = w.object cp := by
  cases w with
  | service svc =>
    have hobjs : objs = describeService cp svc := by cases svc <;> exact (Except.ok.inj h).symm
    rw [hobjs, describeService] at ho
    rcases List.mem_append.mp ho with ho | ho
    · split_ifs at ho
      · obtain rfl := List.mem_singleton.mp ho
        exact absurd hk (not_runsPods rfl (by decide))
      · cases ho
    · simp only [List.mem_cons, List.not_mem_nil, or_false] at ho
      rcases ho with rfl | rfl | rfl
      · rfl
      · exact absurd hk (not_runsPods rfl (by decide))
      · exact absurd hk (not_runsPods rfl (by decide))
  | coreDHCP =>
    change describeCoreDHCP isPrint cp = .ok objs at h
    unfold describeCoreDHCP at h
    have hobjs : objs = [] ∨ objs = [buildCoreDHCPConfigMap cp, buildCoreDHCPDaemonSet cp] := by
      simp only at h
      split_ifs at h
      · exact Or.inl (Except.ok.inj h).symm
      · exact Or.inr (Except.ok.inj h).symm
      · cases hconfig : renderCoreDHCPConfig isPrint cp with
        | error e =>
          rw [hconfig] at h
          cases h
        | ok config =>
          rw [hconfig] at h
          exact Or.inr (Except.ok.inj h).symm
    rcases hobjs with rfl | rfl
    · cases ho
    · simp only [List.mem_cons, List.not_mem_nil, or_false] at ho
      rcases ho with rfl | rfl
      · exact absurd hk (not_runsPods rfl (by decide))
      · rfl
  | networkProbe =>
    obtain rfl : describeNetworkProbe cp = objs := Except.ok.inj h
    unfold describeNetworkProbe at ho
    split_ifs at ho
    · exact List.mem_singleton.mp ho
    · cases ho
  | funicular =>
    obtain rfl : describeFunicular cp = objs := Except.ok.inj h
    unfold describeFunicular at ho
    split_ifs at ho
    · exact List.mem_singleton.mp ho
    · cases ho
  | logqCompactor =>
    cases h
    split_ifs at ho
    · exact List.mem_singleton.mp ho
    · cases ho
  | logqQuery =>
    cases h
    split_ifs at ho
    · simp only [List.mem_cons, List.not_mem_nil, or_false] at ho
      rcases ho with rfl | rfl
      · rfl
      · exact absurd hk (not_runsPods rfl (by decide))
    · cases ho

/-- The specification asks for what a call describes and does not leave off. -/
theorem wanted_of_described {isPrint : Char → Bool} {w : Workload} {objs : List KubeObject}
    {o : KubeObject} (h : describe isPrint cp (workloadSub w) = .ok objs) (ho : o ∈ objs)
    (hon : switchedOn cp (workloadSub w) = true) : wanted cp w = true := by
  have hne : objs ≠ [] := List.ne_nil_of_mem ho
  cases w with
  | service svc => cases svc <;> exact hon
  | coreDHCP =>
    change describeCoreDHCP isPrint cp = .ok objs at h
    by_contra hoff
    have hnil : describeCoreDHCP isPrint cp = .ok [] := by
      have hdisabled : cp.spec.services.coreDHCP.enabled = false := Bool.eq_false_iff.mpr hoff
      unfold describeCoreDHCP
      simp [hdisabled]
    exact hne (Except.ok.inj (h.symm.trans hnil))
  | networkProbe =>
    cases h
    by_contra hoff
    exact hne (if_neg hoff)
  | funicular =>
    cases h
    have hlogs : cp.spec.logging.enabled = true := by
      by_contra hoff
      exact hne (if_neg hoff)
    exact Bool.and_eq_true_iff.mpr ⟨hlogs, hon⟩
  | logqCompactor =>
    cases h
    have hlogs : (cp.spec.logging.enabled && cp.spec.logging.compactorEnabled) = true := by
      by_contra hoff
      exact hne (if_neg hoff)
    exact Bool.and_eq_true_iff.mpr ⟨hlogs, hon⟩
  | logqQuery =>
    cases h
    have hlogs : (cp.spec.logging.enabled && cp.spec.logging.queryEnabled) = true := by
      by_contra hoff
      exact hne (if_neg hoff)
    exact Bool.and_eq_true_iff.mpr ⟨hlogs, hon⟩

theorem described_or (isPrint : Char → Bool) (cp : ControlPlane) (sub : Sub) :
    sub = .coreDHCP ∨ sub = .networkPolicies ∨ ∃ objs, describe isPrint cp sub = .ok objs := by
  cases sub with
  | coreDHCP => exact Or.inl rfl
  | networkPolicies => exact Or.inr (Or.inl rfl)
  | _ => exact Or.inr (Or.inr ⟨_, rfl⟩)

theorem workloadSub_injective : Function.Injective workloadSub := by
  rintro (svc | _) (svc' | _) h
  all_goals
    try cases svc
    all_goals
      try cases svc'
      all_goals first | rfl | cases h

/-- What a call applies it describes, or it is an extra object; the two calls whose description can
fail have their objects all the same. -/
theorem applied_cases {sub : Sub} {o : KubeObject} (ho : o ∈ (program op obs cp sub).applied) :
    (sub = .coreDHCP ∧ cp.spec.services.coreDHCP.enabled = true ∧
      o ∈ [buildCoreDHCPConfigMap cp, buildCoreDHCPDaemonSet cp]) ∨
    (sub = .networkPolicies ∧ ∃ ps, buildPolicies (some obs.network) cp = .ok ps ∧
      o ∈ ps.map policyObject) ∨
    (∃ objs, describe obs.isPrint cp sub = .ok objs ∧ (o ∈ objs ∨ o ∈ extraObjects cp)) := by
  rcases described_or obs.isPrint cp sub with rfl | rfl | ⟨objs, hobjs⟩
  · refine Or.inl ⟨rfl, ?_⟩
    change o ∈ (reconcileCoreDHCP obs cp).applied at ho
    rw [applied_reconcileCoreDHCP] at ho
    split_ifs at ho with hgates
    · rw [Bool.and_eq_true, Bool.and_eq_true] at hgates
      exact ⟨hgates.1.1, ho⟩
    · cases ho
  · refine Or.inr (Or.inl ⟨rfl, ?_⟩)
    obtain ⟨a, ha, hao⟩ := List.mem_filterMap.mp ho
    change a ∈ (reconcileNetworkPolicies obs.network cp).acts at ha
    unfold reconcileNetworkPolicies at ha
    split at ha
    · obtain rfl := List.mem_singleton.mp ha
      cases hao
    · rename_i ps hps
      rcases List.mem_append.mp ha with ha | ha
      · obtain ⟨p, hp, rfl⟩ := List.mem_map.mp ha
        cases hao
        exact ⟨ps, hps, List.mem_map_of_mem hp⟩
      · obtain rfl := List.mem_singleton.mp ha
        cases hao
  · refine Or.inr (Or.inr ⟨objs, hobjs, ?_⟩)
    obtain ⟨a, ha, hao⟩ := List.mem_filterMap.mp ho
    have hadds := program_adds hobjs a ha
    unfold Act.applied? at hao
    split at hao
    · obtain rfl := Option.some.inj hao
      exact adds_apply.mp hadds
    · cases hao

/-- **The workloads that are applied.** -/
theorem workload_of_applied {sub : Sub} {o : KubeObject} (ho : o ∈ (program op obs cp sub).applied)
    (hk : runsPods o) : ∃ w, sub = workloadSub w ∧ o = w.object cp ∧ wanted cp w = true := by
  rcases applied_cases ho with ⟨rfl, henabled, hmem⟩ | ⟨-, ps, -, hmem⟩ | ⟨objs, hobjs, hmem⟩
  · simp only [List.mem_cons, List.not_mem_nil, or_false] at hmem
    rcases hmem with rfl | rfl
    · exact absurd hk (not_runsPods rfl (by decide))
    · exact ⟨.coreDHCP, rfl, rfl, henabled⟩
  · obtain ⟨p, -, rfl⟩ := List.mem_map.mp hmem
    exact absurd hk (not_runsPods rfl (by decide))
  · have hon : switchedOn cp sub = true := by
      by_contra hoff
      rw [applied_of_off (Bool.eq_false_iff.mpr hoff)] at ho
      cases ho
    have hmem : o ∈ objs := hmem.resolve_right fun hextra =>
      not_runsPods_of_leftOut (leftOut_of_extra hextra) hk
    obtain ⟨w, rfl⟩ := sub_of_owner hk (owner_of_describe hobjs o hmem)
    exact ⟨w, rfl, object_of_described hobjs hmem hk, wanted_of_described hobjs hmem hon⟩

end Applied

/-! ### Pinned images -/

section Pinned

variable {cp : ControlPlane}

/-- The specification names a tag for the workload. -/
def Pinned (cp : ControlPlane) (w : Workload) : Prop :=
  overrideTag cp w.imageService ≠ "" ∨ cp.spec.images.pinned.getD w.imageService.name "" ≠ ""

/-- Every container of the workload runs the tag of the override, or else that of the pinned map. -/
def RunsPinned (obs : Observed) (cp : ControlPlane) (w : Workload) : Prop :=
  ∀ c ∈ (w.template obs cp).initContainers ++ (w.template obs cp).containers,
    ∃ tag, tag ≠ "" ∧ c.image = resolveRepository cp w.imageService ++ ":" ++ tag ∧
      (overrideTag cp w.imageService = tag ∨
        (overrideTag cp w.imageService = "" ∧
          cp.spec.images.pinned.get? w.imageService.name = some tag))

theorem resolveImage_fst (svc : ImageService) :
    (resolveImage cp svc).1 = resolveRepository cp svc ++ ":" ++ resolveTag cp svc := by
  unfold resolveImage
  cases perServiceImageOverride cp svc <;> rfl

theorem containers_template (obs : Observed) (cp : ControlPlane) (w : Workload) :
    (w.template obs cp).initContainers ++ (w.template obs cp).containers ≠ [] ∧
    ∀ c ∈ (w.template obs cp).initContainers ++ (w.template obs cp).containers,
      c.image = resolveRepository cp w.imageService ++ ":" ++ resolveTag cp w.imageService := by
  rw [← resolveImage_fst]
  cases w with
  | service svc =>
    cases svc <;> simp [Workload.template, smdTemplate, tokensmithTemplate, consumerTemplate,
      container, Workload.imageService]
  | _ => simp [Workload.template, container, Workload.imageService]

theorem runsPinned_iff {obs : Observed} (hstream : cp.spec.images.stream = .pinned) {w : Workload} :
    RunsPinned obs cp w ↔ Pinned cp w := by
  obtain ⟨hne, himage⟩ := containers_template obs cp w
  constructor
  · intro h
    obtain ⟨c, hc⟩ := List.exists_mem_of_ne_nil _ hne
    obtain ⟨tag, htag, -, hover | ⟨-, hpinned⟩⟩ := h c hc
    · exact Or.inl (by rwa [hover])
    · refine Or.inr ?_
      unfold GoMap.getD
      rw [hpinned]
      exact htag
  · intro h c hc
    rw [himage c hc]
    by_cases hover : overrideTag cp w.imageService = ""
    · have hpinned := h.resolve_left (not_not.mpr hover)
      have htag : resolveTag cp w.imageService =
          cp.spec.images.pinned.getD w.imageService.name "" := by
        unfold resolveTag resolveStreamTag
        rw [if_neg (not_not.mpr hover), hstream]
        exact if_pos hpinned
      refine ⟨_, by rwa [htag], rfl, Or.inr ⟨hover, ?_⟩⟩
      rw [htag]
      unfold GoMap.getD at hpinned ⊢
      cases hget : cp.spec.images.pinned.get? w.imageService.name with
      | none =>
        rw [hget] at hpinned
        exact absurd rfl hpinned
      | some tag => rfl
    · have htag : resolveTag cp w.imageService = overrideTag cp w.imageService := if_pos hover
      exact ⟨_, by rwa [htag], rfl, Or.inl htag.symm⟩

/-- Rule 11 of the webhook, for the workloads it knows. -/
theorem pinned_of_wanted {listing : Option (List ControlPlane)}
    (hadm : (Webhook.validate listing cp).2 = none) (hstream : cp.spec.images.stream = .pinned)
    {w : Workload} (hw : wanted cp w = true) (hcompactor : w ≠ .logqCompactor)
    (hquery : w ≠ .logqQuery) : Pinned cp w := by
  cases listing with
  | none => cases hadm
  | some stored =>
    obtain ⟨hown, -, -⟩ := Webhook.validationErrors_eq_nil.mp (Webhook.validate_admits.mp hadm)
    have himages : Webhook.validateImages cp.spec = [] := (List.append_eq_nil_iff.mp hown).2
    unfold Webhook.validateImages at himages
    simp only [Webhook.errIf_eq_nil, hstream, decide_true, Bool.true_and,
      decide_eq_false_iff_not, ne_eq, not_not, List.filter_eq_nil_iff] at himages
    have hneeded : w.imageService.name ∈ Webhook.enabledServicesForImagePinning cp.spec := by
      unfold Webhook.enabledServicesForImagePinning
      cases w with
      | service svc =>
        have henabled : (serviceDefaults cp svc).enabled = true := (Bool.and_eq_true_iff.mp hw).1
        cases svc <;>
          simp_all [Workload.imageService, ImageService.name, serviceDefaults, Service.name]
      | coreDHCP | networkProbe =>
        simp_all [Workload.imageService, ImageService.name, wanted]
      | funicular => simp_all [Workload.imageService, ImageService.name, wanted]
      | logqCompactor => exact absurd rfl hcompactor
      | logqQuery => exact absurd rfl hquery
    exact Or.inr (by simpa using himages _ hneeded)

end Pinned

/-- The status of a pass that has found the log bucket. -/
def bucketFound : ControlPlaneStatus :=
  { conditions := [⟨.logBucketReady, .true, Reason.ready, "", 0⟩], logBucket := "logs" }

/-- **When the pinned stream holds**: every object with pods that is applied, whatever the pass
finds, is a workload that runs a tag the specification names, exactly when the compactor and the
query service, which the webhook does not look at, have one. -/
theorem pinned_iff {listing : Option (List ControlPlane)} {cp : ControlPlane}
    (hadm : (Webhook.validate listing cp).2 = none) (hstream : cp.spec.images.stream = .pinned) :
    (∀ op obs st sub, ∀ o ∈ (program op obs { cp with status := st } sub).applied, runsPods o →
      ∃ w, sub = workloadSub w ∧ o = w.object cp ∧ RunsPinned obs cp w) ↔
      ∀ w ∈ [Workload.logqCompactor, .logqQuery], wanted cp w = true → Pinned cp w := by
  constructor
  · intro h w hw hwanted
    -- the pass that finds the log bucket ready applies both
    have happlied : w.object cp ∈
        (program {} {} { cp with status := bucketFound } (workloadSub w)).applied := by
      have hbucket : bucketFound.logBucket ≠ "" := by decide
      simp only [List.mem_cons, List.not_mem_nil, or_false] at hw
      rcases hw with rfl | rfl
      · exact @applied_logqCompactor { cp with status := bucketFound } hwanted rfl
      · exact @applied_logqQuery {} { cp with status := bucketFound } hwanted hbucket _
          List.mem_cons_self
    obtain ⟨w', hsub, -, hruns⟩ := h {} {} bucketFound _ _ happlied (object_runsPods cp w)
    rw [← workloadSub_injective hsub] at hruns
    exact (runsPinned_iff hstream).mp hruns
  · intro h op obs st sub o happlied hpods
    obtain ⟨w, hsub, ho, hwanted⟩ := workload_of_applied happlied hpods
    refine ⟨w, hsub, ho, (runsPinned_iff hstream).mpr ?_⟩
    by_cases hlogq : w ∈ [Workload.logqCompactor, .logqQuery]
    · exact h w hlogq hwanted
    · simp only [List.mem_cons, List.not_mem_nil, or_false, not_or] at hlogq
      exact pinned_of_wanted hadm hstream hwanted hlogq.1 hlogq.2

/-- A site that pins everything the webhook asks for, and lets the query service run from a
repository of its own. -/
def mirrored (tag : String) : ControlPlane where
  metadata := { name := "demo", «namespace» := "default" }
  spec :=
    { clusterName := "demo"
      domain := "demo.example.org"
      platform := { vault := { address := "https://vault.example.org:8200" } }
      services := { coreDHCP := { nodeSelector := GoMap.ofList [("role", "demo-dhcp")] } }
      logging :=
        { enabled := true
          queryEnabled := true
          queryImage := some { repository := "registry.example.org/logq-query", tag := tag } }
      images :=
        { stream := .pinned, pinned := GoMap.ofList [("funicular-collector", "v1.0.0")] } }
  status := {}

theorem pinned_mirrored :
    (Webhook.validate (some []) (mirrored "v1.2.0")).2 = none ∧
      ∀ op obs st sub,
        ∀ o ∈ (program op obs { mirrored "v1.2.0" with status := st } sub).applied, runsPods o →
          ∃ w, sub = workloadSub w ∧ o = w.object (mirrored "v1.2.0") ∧
            RunsPinned obs (mirrored "v1.2.0") w := by
  have hadm : (Webhook.validate (some []) (mirrored "v1.2.0")).2 = none := by decide
  refine ⟨hadm, (pinned_iff hadm rfl).mpr ?_⟩
  intro w hw hwanted
  simp only [List.mem_cons, List.not_mem_nil, or_false] at hw
  rcases hw with rfl | rfl
  · exact absurd hwanted (by decide)
  · exact Or.inl (by decide)

/-- Without a tag the query service falls back to the built-in one. -/
theorem fallback_mirrored :
    (Webhook.validate (some []) (mirrored "")).2 = none ∧
      Workload.logqQuery.object (mirrored "") ∈
        (program {} {} { mirrored "" with status := bucketFound } .logqQuery).applied ∧
      (Workload.logqQuery.template {} (mirrored "")).containers.map Container.image =
        ["registry.example.org/logq-query:pr-1"] := by
  decide

end OpenchamiOperator.Controller
