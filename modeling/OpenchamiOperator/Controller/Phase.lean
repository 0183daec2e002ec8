import OpenchamiOperator.Controller.Reconcile

/-! # The phase ladder

What `ComputeAndSetPhase` makes of the conditions, the services and the phase before, and whether it
says the same when it is asked again.

* `phase_ladder`: every rung in terms of the conditions and the services alone. The phase `Failed`
  also stays when no rung matches.
* `phase_stable_iff`: the phase settles after one computation, except that a `Degraded` caused by a
  service alone turns into `Provisioning`. -/

namespace OpenchamiOperator.Controller

open Lib Api Reconcilers Status

/-! ### The rungs -/

/-- The phase after `ComputeAndSetPhase`. -/
def phaseAfter (cp : ControlPlane) : ClusterPhase := (computeAndSetPhase cp).1.status.phase

/-- A condition is `False` with a reason that contains "Error". -/
def HasError (cp : ControlPlane) : Prop :=
  ∃ c ∈ cp.status.conditions, c.status = .false ∧ Strings.contains c.reason "Error" = true

/-- A condition that degrades the cluster whatever the phase was before. -/
def Degrading (cp : ControlPlane) : Prop :=
  ∃ c ∈ cp.status.conditions, c.status = .false ∧
    (c.type = .certificatesValid ∨
      (c.type = .networkProbeReady ∧ c.reason = Reason.noEligibleNodes) ∨
      (c.type = .magellanReady ∧ c.reason = Reason.notConfigured))

/-- An enabled service is missing or not ready. -/
def ServiceDown (cp : ControlPlane) : Prop :=
  ∃ name ∈ enabledServiceNames cp, serviceReady cp name = false

/-- A condition is `False` with a reason that contains "Provisioning". -/
def InProgress (cp : ControlPlane) : Prop :=
  ∃ c ∈ cp.status.conditions, c.status = .false ∧
    Strings.contains c.reason Reason.provisioning = true

/-- A condition is `False` with a reason that does not contain "Provisioning". -/
def Outage (cp : ControlPlane) : Prop :=
  ∃ c ∈ cp.status.conditions, c.status = .false ∧
    Strings.contains c.reason Reason.provisioning = false

/-- What selects `Degraded` once no condition is an error. -/
def DegradedCause (cp : ControlPlane) : Prop :=
  Degrading cp ∨ (cp.status.phase = .ready ∧ ServiceDown cp) ∨
    ((cp.status.phase = .ready ∨ cp.status.phase = .degraded) ∧ Outage cp)

/-- No rung is taken: a condition is `False`, but not for any of the reasons the ladder knows. -/
def NoRung (cp : ControlPlane) : Prop :=
  ¬ HasError cp ∧ ¬ DegradedCause cp ∧ ¬ InProgress cp ∧ ¬ ServiceDown cp ∧
    ∃ c ∈ cp.status.conditions, c.status = .false

section

variable (cp : ControlPlane)

instance : Decidable (HasError cp) :=
  inferInstanceAs (Decidable (∃ c ∈ cp.status.conditions, _))

instance : Decidable (Degrading cp) :=
  inferInstanceAs (Decidable (∃ c ∈ cp.status.conditions, _))

instance : Decidable (ServiceDown cp) :=
  inferInstanceAs (Decidable (∃ name ∈ enabledServiceNames cp, _))

instance : Decidable (InProgress cp) :=
  inferInstanceAs (Decidable (∃ c ∈ cp.status.conditions, _))

instance : Decidable (Outage cp) :=
  inferInstanceAs (Decidable (∃ c ∈ cp.status.conditions, _))

instance : Decidable (DegradedCause cp) := inferInstanceAs (Decidable (_ ∨ _))

instance : Decidable (NoRung cp) := inferInstanceAs (Decidable (_ ∧ _))

instance : Decidable (Healthy cp) := inferInstanceAs (Decidable (_ ∧ _))

end

theorem hasFailed_iff {cp : ControlPlane} :
    (walk cp.status.conditions).hasFailed = true ↔ HasError cp := by
  have h := walk_flag Walk.hasFailed (fun c => Strings.contains c.reason "Error") rfl ?_
    cp.status.conditions
  · rw [h, List.any_eq_true]
    simp [HasError]
  · intro w c
    unfold Walk.observe
    split_ifs with hc <;> simp_all

theorem hasProvisioning_iff {cp : ControlPlane} :
    (walk cp.status.conditions).hasProvisioning = true ↔ InProgress cp := by
  rw [walk_hasProvisioning, List.any_eq_true]
  simp [InProgress]

theorem hasRecoverableOutage_iff {cp : ControlPlane} :
    (walk cp.status.conditions).hasRecoverableOutage = true ↔ Outage cp := by
  rw [walk_hasRecoverableOutage, List.any_eq_true]
  simp [Outage]

theorem anyConditionFalse_iff {cp : ControlPlane} :
    (walk cp.status.conditions).anyConditionFalse = true ↔
      ∃ c ∈ cp.status.conditions, c.status = .false := by
  rw [walk_anyConditionFalse, List.any_eq_true]
  simp

theorem degrading_iff {cp : ControlPlane} :
    ((walk cp.status.conditions).hasDegradedCert = true ∨
      (walk cp.status.conditions).hasNoEligible = true ∨
      (walk cp.status.conditions).hasUnconfigured = true) ↔ Degrading cp := by
  have hcert := walk_flag Walk.hasDegradedCert (fun c => c.type = .certificatesValid) rfl
    (fun w c => by unfold Walk.observe; split_ifs with hc <;> simp_all) cp.status.conditions
  have hunconf := walk_flag Walk.hasUnconfigured
    (fun c => c.type = .magellanReady && c.reason = Reason.notConfigured) rfl
    (fun w c => by unfold Walk.observe; split_ifs with hc <;> simp_all) cp.status.conditions
  rw [hcert, hunconf, walk_hasNoEligible, List.any_eq_true, List.any_eq_true, List.any_eq_true]
  simp only [Bool.and_eq_true, decide_eq_true_eq, Degrading]
  constructor
  · rintro (⟨c, hc, hf, h⟩ | ⟨c, hc, hf, h⟩ | ⟨c, hc, hf, h⟩)
    · exact ⟨c, hc, hf, Or.inl h⟩
    · exact ⟨c, hc, hf, Or.inr (Or.inl h)⟩
    · exact ⟨c, hc, hf, Or.inr (Or.inr h)⟩
  · rintro ⟨c, hc, hf, h | h | h⟩
    · exact Or.inl ⟨c, hc, hf, h⟩
    · exact Or.inr (Or.inl ⟨c, hc, hf, h⟩)
    · exact Or.inr (Or.inr ⟨c, hc, hf, h⟩)

theorem allEnabledServicesReady_iff_not_down {cp : ControlPlane} :
    allEnabledServicesReady cp = true ↔ ¬ ServiceDown cp := by
  rw [allEnabledServicesReady_iff, ServiceDown]
  simp

/-- A regression is reported exactly when the phase was `Ready` and a service is down: the name that
is returned is never the empty text that stands for "none". -/
theorem regressed_iff {cp : ControlPlane} {previous : ClusterPhase} :
    detectServiceRegressions cp previous ≠ "" ↔ previous = .ready ∧ ServiceDown cp := by
  have hname : ∀ name ∈ enabledServiceNames cp, name ≠ "" := by
    intro name hmem
    obtain ⟨svc, -, rfl⟩ := List.mem_map.mp hmem
    cases svc <;> decide
  unfold detectServiceRegressions ServiceDown
  by_cases hready : previous = .ready
  · rw [if_neg (not_not.mpr hready)]
    cases hfind : (enabledServiceNames cp).find? fun name => !serviceReady cp name with
    | none =>
      rw [List.find?_eq_none] at hfind
      simpa [hready] using hfind
    | some name =>
      have hdown : serviceReady cp name = false := by simpa using List.find?_some hfind
      have hmem := List.mem_of_find?_eq_some hfind
      exact iff_of_true (hname name hmem) ⟨hready, name, hmem, hdown⟩
  · rw [if_pos hready]
    simp [hready]

theorem healthy_iff {cp : ControlPlane} : Healthy cp ↔
    (¬ ∃ c ∈ cp.status.conditions, c.status = .false) ∧ ¬ ServiceDown cp := by
  unfold Healthy ServiceDown
  simp

/-- **The ladder without its flags.** -/
theorem computePhase_eq (cp : ControlPlane) : computePhase cp =
    if HasError cp then .failed
    else if DegradedCause cp then .degraded
    else if InProgress cp ∨ ServiceDown cp then .provisioning
    else if Healthy cp then .ready
    else if cp.status.phase ≠ .unset then cp.status.phase
    else .provisioning := by
  have hservices : (!allEnabledServicesReady cp) = true ↔ ServiceDown cp := by
    rw [Bool.not_eq_true', Bool.eq_false_iff, ne_eq, allEnabledServicesReady_iff_not_down, not_not]
  have hconditions : (!(walk cp.status.conditions).anyConditionFalse) = true ↔
      ¬ ∃ c ∈ cp.status.conditions, c.status = .false := by
    rw [Bool.not_eq_true', Bool.eq_false_iff, ne_eq, anyConditionFalse_iff]
  unfold computePhase
  refine if_congr hasFailed_iff rfl (if_congr ?_ rfl (if_congr ?_ rfl (if_congr ?_ rfl rfl)))
  · rw [regressed_iff, hasRecoverableOutage_iff, DegradedCause, ← degrading_iff]
    tauto
  · rw [hasProvisioning_iff, hservices]
  · rw [hconditions, allEnabledServicesReady_iff_not_down, healthy_iff]

theorem computePhase_of_noRung {cp : ControlPlane} (h : NoRung cp) :
    computePhase cp = if cp.status.phase ≠ .unset then cp.status.phase else .provisioning := by
  obtain ⟨herror, hcause, hprogress, hdown, hfalse⟩ := h
  have hhealthy : ¬ Healthy cp := fun hh => (healthy_iff.mp hh).1 hfalse
  rw [computePhase_eq, if_neg herror, if_neg hcause, if_neg (not_or.mpr ⟨hprogress, hdown⟩),
    if_neg hhealthy]

theorem rung_cases (cp : ControlPlane) :
    (HasError cp ∧ computePhase cp = .failed) ∨
    (¬ HasError cp ∧ DegradedCause cp ∧ computePhase cp = .degraded) ∨
    (¬ HasError cp ∧ ¬ DegradedCause cp ∧ (InProgress cp ∨ ServiceDown cp) ∧
      computePhase cp = .provisioning) ∨
    (¬ HasError cp ∧ ¬ DegradedCause cp ∧ Healthy cp ∧ computePhase cp = .ready) ∨
    NoRung cp := by
  by_cases herror : HasError cp
  · exact Or.inl ⟨herror, by rw [computePhase_eq, if_pos herror]⟩
  by_cases hcause : DegradedCause cp
  · exact Or.inr (Or.inl ⟨herror, hcause, by rw [computePhase_eq, if_neg herror, if_pos hcause]⟩)
  by_cases hprov : InProgress cp ∨ ServiceDown cp
  · refine Or.inr (Or.inr (Or.inl ⟨herror, hcause, hprov, ?_⟩))
    rw [computePhase_eq, if_neg herror, if_neg hcause, if_pos hprov]
  obtain ⟨hprogress, hdown⟩ := not_or.mp hprov
  by_cases hfalse : ∃ c ∈ cp.status.conditions, c.status = .false
  · exact Or.inr (Or.inr (Or.inr (Or.inr ⟨herror, hcause, hprogress, hdown, hfalse⟩)))
  · have hhealthy : Healthy cp := healthy_iff.mpr ⟨hfalse, hdown⟩
    exact Or.inr (Or.inr (Or.inr (Or.inl ⟨herror, hcause, hhealthy,
      computePhase_ready_iff.mpr hhealthy⟩)))

/-- After `Ready` or `Degraded` a rung is always taken. -/
theorem NoRung.previous {cp : ControlPlane} (h : NoRung cp) :
    cp.status.phase ≠ .ready ∧ cp.status.phase ≠ .degraded := by
  obtain ⟨-, hcause, hprogress, -, c, hc, hfalse⟩ := h
  have hout : Outage cp := by
    refine ⟨c, hc, hfalse, Bool.eq_false_iff.mpr fun hp => ?_⟩
    exact hprogress ⟨c, hc, hfalse, hp⟩
  constructor
  · exact fun hready => hcause (Or.inr (Or.inr ⟨Or.inl hready, hout⟩))
  · exact fun hdeg => hcause (Or.inr (Or.inr ⟨Or.inr hdeg, hout⟩))

theorem failed_iff {cp : ControlPlane} :
    computePhase cp = .failed ↔ HasError cp ∨ (cp.status.phase = .failed ∧ NoRung cp) := by
  rcases rung_cases cp with ⟨he, h⟩ | ⟨he, hc, h⟩ | ⟨he, -, hp, h⟩ | ⟨he, -, hh, h⟩ | hno
  · exact iff_of_true h (Or.inl he)
  · refine iff_of_false (by rw [h]; decide) ?_
    exact not_or.mpr ⟨he, fun hk => hk.2.2.1 hc⟩
  · refine iff_of_false (by rw [h]; decide) ?_
    exact not_or.mpr ⟨he, fun hk => hp.elim hk.2.2.2.1 hk.2.2.2.2.1⟩
  · refine iff_of_false (by rw [h]; decide) ?_
    exact not_or.mpr ⟨he, fun hk => (healthy_iff.mp hh).1 hk.2.2.2.2.2⟩
  · rw [computePhase_of_noRung hno]
    cases hphase : cp.status.phase <;> simp [hno, hno.1]

theorem degraded_iff {cp : ControlPlane} :
    computePhase cp = .degraded ↔ ¬ HasError cp ∧ DegradedCause cp := by
  rcases rung_cases cp with ⟨he, h⟩ | ⟨he, hc, h⟩ | ⟨-, hc, -, h⟩ | ⟨-, hc, -, h⟩ | hno
  · exact iff_of_false (by rw [h]; decide) fun hk => hk.1 he
  · exact iff_of_true h ⟨he, hc⟩
  · exact iff_of_false (by rw [h]; decide) fun hk => hc hk.2
  · exact iff_of_false (by rw [h]; decide) fun hk => hc hk.2
  · have hprev := hno.previous
    rw [computePhase_of_noRung hno]
    cases hphase : cp.status.phase <;> simp_all [hno.2.1]

/-! ### The order of the conditions -/

def withConditions (cs : List Condition) (cp : ControlPlane) : ControlPlane :=
  { cp with status := { cp.status with conditions := cs } }

theorem observe_comm (w : Walk) (c d : Condition) :
    (w.observe c).observe d = (w.observe d).observe c := by
  unfold Walk.observe
  by_cases hc : c.status = .false <;> by_cases hd : d.status = .false
  · simp [hc, hd, Bool.or_right_comm]
  all_goals simp [hc, hd]

theorem walk_perm {cs ds : List Condition} (h : cs.Perm ds) : walk cs = walk ds := by
  refine h.foldl_eq' ?_ ({} : Walk)
  exact fun c _ d _ w => observe_comm w c d

theorem computePhase_perm {cp : ControlPlane} {cs : List Condition}
    (h : cs.Perm cp.status.conditions) : computePhase (withConditions cs cp) = computePhase cp := by
  have hwalk : walk (withConditions cs cp).status.conditions = walk cp.status.conditions :=
    walk_perm h
  unfold computePhase
  rw [hwalk]
  rfl

/-! ### `aggregateServicesReady` -/

theorem pending_eq_nil {p : Pass} {cp : ControlPlane} :
    (p.order.filter fun svc =>
      (serviceDefaults cp svc).enabled && !serviceReady cp svc.name).map Service.name = [] ↔
        allEnabledServicesReady cp = true := by
  have hmem : ∀ svc, svc ∈ p.order := by
    intro svc
    refine p.perm.mem_iff.mpr ?_
    cases svc <;> decide
  rw [List.map_eq_nil_iff, List.filter_eq_nil_iff, allEnabledServicesReady_iff]
  unfold enabledServiceNames
  constructor
  · intro h name hname
    obtain ⟨svc, hsvc, rfl⟩ := List.mem_map.mp hname
    have henabled := (List.mem_filter.mp hsvc).2
    have := h svc (hmem svc)
    simpa [henabled] using this
  · intro h svc _
    by_cases henabled : (serviceDefaults cp svc).enabled = true
    · have hready := h svc.name (List.mem_map.mpr ⟨svc, List.mem_filter.mpr
        ⟨by cases svc <;> decide, henabled⟩, rfl⟩)
      simp [hready]
    · simp [henabled]

theorem aggregate_cases (p : Pass) (cp : ControlPlane) :
    (¬ ServiceDown cp ∧ aggregateServicesReady p.order cp =
      cp.setCondition .servicesReady .true Reason.ready "all enabled services report Ready") ∨
    (ServiceDown cp ∧ ∃ message, aggregateServicesReady p.order cp =
      cp.setCondition .servicesReady .false Reason.provisioning message) := by
  unfold aggregateServicesReady
  simp only
  split_ifs with h
  · exact Or.inl ⟨allEnabledServicesReady_iff_not_down.mp (pending_eq_nil.mp h), rfl⟩
  · have hdown : ServiceDown cp := by
      by_contra hup
      exact h (pending_eq_nil.mpr (allEnabledServicesReady_iff_not_down.mpr hup))
    exact Or.inr ⟨hdown, _, rfl⟩

theorem servicesReady_iff (p : Pass) (cp : ControlPlane) :
    isStatusConditionTrue (aggregateServicesReady p.order cp).status.conditions .servicesReady =
        true ↔
      allEnabledServicesReady (aggregateServicesReady p.order cp) = true := by
  rcases aggregate_cases p cp with ⟨hup, h⟩ | ⟨hdown, message, h⟩
  · have hall : allEnabledServicesReady cp = true := allEnabledServicesReady_iff_not_down.mpr hup
    rw [h]
    refine iff_of_true ?_ hall
    simp [isStatusConditionTrue, ControlPlane.setCondition, findStatusCondition_set]
  · have hall : ¬ allEnabledServicesReady cp = true :=
      fun hk => allEnabledServicesReady_iff_not_down.mp hk hdown
    rw [h]
    refine iff_of_false ?_ hall
    simp [isStatusConditionTrue, ControlPlane.setCondition, findStatusCondition_set]

/-! ### The rungs of the ladder, one by one -/

/-- **The phase ladder.** `Failed` is an error among the conditions, or a `Failed` that no rung
replaces; the other phases depend on the conditions, the services and the phase before as listed, in
whatever order the conditions stand; and `ServicesReady` agrees with the reporter's own view of the
services. -/
theorem phase_ladder (cp : ControlPlane) :
    (phaseAfter cp = .failed ↔ HasError cp ∨ (cp.status.phase = .failed ∧ NoRung cp)) ∧
    (¬ HasError cp → (phaseAfter cp = .degraded ↔ DegradedCause cp)) ∧
    (¬ HasError cp → ¬ DegradedCause cp → (phaseAfter cp = .ready ↔ Healthy cp)) ∧
    (∀ cs, cs.Perm cp.status.conditions → phaseAfter (withConditions cs cp) = phaseAfter cp) ∧
    ∀ p : Pass,
      (isStatusConditionTrue (aggregateServicesReady p.order cp).status.conditions .servicesReady =
          true ↔
        allEnabledServicesReady (aggregateServicesReady p.order cp) = true) := by
  refine ⟨failed_iff, fun herror => ?_, fun _ _ => computePhase_ready_iff, ?_,
    fun p => servicesReady_iff p cp⟩
  · exact degraded_iff.trans (and_iff_right herror)
  · exact fun cs h => computePhase_perm h

/-- A control plane without services whose phase was `Failed`. Vault was in error and is unreachable
now. -/
def recovering : ControlPlane where
  metadata := {}
  spec := { clusterName := "demo" }
  status :=
    { phase := .failed
      conditions := [⟨.vaultConfigured, .false, Reason.unreachable, "", 0⟩] }

theorem phase_ladder_recovering :
    ¬ HasError recovering ∧ ¬ DegradedCause recovering ∧ phaseAfter recovering ≠ .degraded ∧
      (phaseAfter recovering = .ready ↔ Healthy recovering) := by
  have herror : ¬ HasError recovering := by decide
  have hcause : ¬ DegradedCause recovering := by decide
  obtain ⟨-, hdegraded, hready, -⟩ := phase_ladder recovering
  exact ⟨herror, hcause, mt (hdegraded herror).mp hcause, hready herror hcause⟩

/-- The error is gone, and the phase is still `Failed`. -/
theorem failed_without_error :
    ¬ (phaseAfter recovering = .failed ↔ HasError recovering) := by
  decide

/-! ### Asking again -/

/-- The object after one more `ComputeAndSetPhase`. -/
def rephased (cp : ControlPlane) : ControlPlane := (computeAndSetPhase cp).1

/-- A phase that is not `Ready`, or no service down, or another reason to be degraded. -/
def Settled (cp : ControlPlane) : Prop :=
  cp.status.phase = .ready → ServiceDown cp → HasError cp ∨ Degrading cp ∨ Outage cp

/-- What degrades the cluster when the phase has just been computed. -/
theorem degradedCause_rephased {cp : ControlPlane} : DegradedCause (rephased cp) ↔
    Degrading cp ∨ (computePhase cp = .ready ∧ ServiceDown cp) ∨
      ((computePhase cp = .ready ∨ computePhase cp = .degraded) ∧ Outage cp) :=
  Iff.rfl

/-- **One more computation.** Only the rung of the services reads a phase that the rung itself
replaces: after it, the service alone no longer counts. -/
theorem computePhase_rephased_iff {cp : ControlPlane} :
    computePhase (rephased cp) = computePhase cp ↔ Settled cp := by
  rcases rung_cases cp with ⟨he, h⟩ | ⟨he, hc, h⟩ | ⟨he, hc, hp, h⟩ | ⟨-, -, hh, h⟩ | hno
  · have hagain : HasError (rephased cp) := he
    refine iff_of_true ?_ fun _ _ => Or.inl he
    rw [h, failed_iff]
    exact Or.inl hagain
  · have hagain : ¬ HasError (rephased cp) := he
    rw [h, degraded_iff, and_iff_right hagain, degradedCause_rephased, h]
    constructor
    · rintro (hd | ⟨hr, -⟩ | ⟨-, ho⟩) _ _
      · exact Or.inr (Or.inl hd)
      · cases hr
      · exact Or.inr (Or.inr ho)
    · intro hs
      rcases hc with hd | ⟨hready, hdown⟩ | ⟨-, ho⟩
      · exact Or.inl hd
      · rcases hs hready hdown with hk | hd | ho
        · exact absurd hk he
        · exact Or.inl hd
        · exact Or.inr (Or.inr ⟨Or.inr rfl, ho⟩)
      · exact Or.inr (Or.inr ⟨Or.inr rfl, ho⟩)
  · have hagain : ¬ HasError (rephased cp) := he
    have hcause : ¬ DegradedCause (rephased cp) := by
      rw [degradedCause_rephased, h]
      rintro (hd | ⟨hr, -⟩ | ⟨hr | hr, -⟩)
      · exact hc (Or.inl hd)
      all_goals cases hr
    have hprogress : InProgress (rephased cp) ∨ ServiceDown (rephased cp) := hp
    refine iff_of_true ?_ fun hready hdown => absurd (Or.inr (Or.inl ⟨hready, hdown⟩)) hc
    rw [h, computePhase_eq, if_neg hagain, if_neg hcause, if_pos hprogress]
  · have hagain : Healthy (rephased cp) := hh
    refine iff_of_true ?_ fun _ hdown => absurd hdown (healthy_iff.mp hh).2
    rw [h, computePhase_ready_iff.mpr hagain]
  · obtain ⟨hnotReady, hnotDegraded⟩ := hno.previous
    have h := computePhase_of_noRung hno
    have hphase : computePhase cp ≠ .ready ∧ computePhase cp ≠ .degraded ∧
        computePhase cp ≠ .unset := by
      rw [h]
      cases hprev : cp.status.phase <;> simp_all
    obtain ⟨hr, hd, hu⟩ := hphase
    have hagain : NoRung (rephased cp) := by
      refine ⟨hno.1, ?_, hno.2.2.1, hno.2.2.2.1, hno.2.2.2.2⟩
      rw [degradedCause_rephased]
      rintro (hdeg | ⟨hk, -⟩ | ⟨hk | hk, -⟩)
      · exact hno.2.1 (Or.inl hdeg)
      · exact hr hk
      · exact hr hk
      · exact hd hk
    refine iff_of_true ?_ fun hready => absurd hready hnotReady
    rw [computePhase_of_noRung hagain]
    exact if_pos hu

/-- A settled object stays settled, so its phase stays for good. -/
theorem iterate_rephased {cp : ControlPlane} (hs : Settled cp) (n : ℕ) :
    rephased^[n + 1] cp = rephased cp := by
  have hfix : rephased (rephased cp) = rephased cp := by
    have hphase := computePhase_rephased_iff.mpr hs
    unfold rephased computeAndSetPhase at hphase ⊢
    simp only [hphase]
  induction n with
  | zero => rfl
  | succ n ih => rw [Function.iterate_succ_apply', ih, hfix]

/-- **When the phase is stable.** After `aggregateServicesReady`, a second `ComputeAndSetPhase`
leaves the phase of the first exactly when the object is settled, and then so does every further
one. -/
theorem phase_stable_iff (p : Pass) (cp : ControlPlane) :
    (phaseAfter (rephased (aggregateServicesReady p.order cp)) =
        phaseAfter (aggregateServicesReady p.order cp) ↔
      Settled (aggregateServicesReady p.order cp)) ∧
    ((∀ n, (rephased^[n + 1] (aggregateServicesReady p.order cp)).status.phase =
        phaseAfter (aggregateServicesReady p.order cp)) ↔
      Settled (aggregateServicesReady p.order cp)) := by
  refine ⟨computePhase_rephased_iff, fun h => ?_, fun hs n => ?_⟩
  · exact computePhase_rephased_iff.mp (h 1)
  · rw [iterate_rephased hs n]
    rfl

/-- A cluster that was `Ready` and whose only service is down now. -/
def dropped : ControlPlane where
  metadata := {}
  spec := { clusterName := "demo", services := { smd := { enabled := true } } }
  status := { phase := .ready }

/-- `Degraded` lasts for one computation. -/
theorem degraded_then_provisioning :
    phaseAfter (aggregateServicesReady ({} : Pass).order dropped) = .degraded ∧
      phaseAfter (rephased (aggregateServicesReady ({} : Pass).order dropped)) =
        .provisioning := by
  decide

end OpenchamiOperator.Controller
