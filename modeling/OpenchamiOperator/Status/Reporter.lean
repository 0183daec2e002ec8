import OpenchamiOperator.Lib.Strings
import OpenchamiOperator.Reconcilers.Helpers

/-! # The status reporter

`internal/status/reporter.go`: after a pass the reporter folds the conditions and the readiness of
the services into one phase.

* `walk_flag`: every flag the walk over the conditions gathers is a disjunction over them.
* `computePhase_ready_iff`: the phase is `Ready` exactly when no condition is `False` and every
  enabled service is ready, whatever the phase was before. -/

namespace OpenchamiOperator.Status

open Lib Api Reconcilers

/-! ### Services -/

/-- `enabledServiceNames`. -/
def enabledServiceNames (cp : ControlPlane) : List String :=
  ([Service.smd, .tokensmith, .bootService, .metadataService].filter fun svc =>
    (serviceDefaults cp svc).enabled).map Service.name

/-- The entry of a service exists and is ready. -/
def serviceReady (cp : ControlPlane) (name : String) : Bool :=
  (cp.status.services.get? name).any ServiceStatus.ready

/-- `detectServiceRegressions`. -/
def detectServiceRegressions (cp : ControlPlane) (previous : ClusterPhase) : String :=
  if previous ≠ .ready then ""
  else ((enabledServiceNames cp).find? fun name => !serviceReady cp name).getD ""

/-- `allEnabledServicesReady`. -/
def allEnabledServicesReady (cp : ControlPlane) : Bool :=
  (enabledServiceNames cp).all (serviceReady cp)

/-! ### The walk over the conditions -/

/-- What `ComputeAndSetPhase` gathers from the conditions. -/
structure Walk where
  hasFailed : Bool := false
  hasDegradedCert : Bool := false
  hasNoEligible : Bool := false
  hasUnconfigured : Bool := false
  hasProvisioning : Bool := false
  hasRecoverableOutage : Bool := false
  anyConditionFalse : Bool := false
deriving DecidableEq

/-- One iteration of the loop. -/
def Walk.observe (w : Walk) (c : Condition) : Walk :=
  if c.status ≠ .false then w
  else
    { hasFailed := w.hasFailed || Strings.contains c.reason "Error"
      hasDegradedCert := w.hasDegradedCert || c.type = .certificatesValid
      hasNoEligible := w.hasNoEligible ||
        (c.type = .networkProbeReady && c.reason = Reason.noEligibleNodes)
      hasUnconfigured := w.hasUnconfigured ||
        (c.type = .magellanReady && c.reason = Reason.notConfigured)
      hasProvisioning := w.hasProvisioning || Strings.contains c.reason Reason.provisioning
      hasRecoverableOutage := w.hasRecoverableOutage ||
        !Strings.contains c.reason Reason.provisioning
      anyConditionFalse := true }

def walk (cs : List Condition) : Walk := cs.foldl Walk.observe {}

/-- A flag that each iteration can only raise, and raises exactly on a `False` condition with `p`,
is raised in the end iff there is such a condition. -/
theorem walk_flag (flag : Walk → Bool) (p : Condition → Bool) (h0 : flag {} = false)
    (hstep : ∀ w c, flag (w.observe c) = (flag w || (c.status = .false && p c)))
    (cs : List Condition) : flag (walk cs) = cs.any fun c => c.status = .false && p c := by
  have hfold : ∀ (cs : List Condition) (w : Walk), flag (cs.foldl Walk.observe w) =
      (flag w || cs.any fun c => c.status = .false && p c) := by
    intro cs
    induction cs with
    | nil => intro w; simp
    | cons c cs ih =>
      intro w
      rw [List.foldl_cons, ih, hstep, List.any_cons, Bool.or_assoc]
  rw [walk, hfold, h0, Bool.false_or]

theorem walk_anyConditionFalse (cs : List Condition) :
    (walk cs).anyConditionFalse = cs.any fun c => c.status = .false := by
  have h := walk_flag Walk.anyConditionFalse (fun _ => true) rfl ?_ cs
  · simpa using h
  · intro w c
    unfold Walk.observe
    split_ifs with hc <;> simp_all

theorem walk_hasProvisioning (cs : List Condition) : (walk cs).hasProvisioning =
    cs.any fun c => c.status = .false && Strings.contains c.reason Reason.provisioning := by
  refine walk_flag Walk.hasProvisioning _ rfl ?_ cs
  intro w c
  unfold Walk.observe
  split_ifs with hc <;> simp_all

theorem walk_hasRecoverableOutage (cs : List Condition) : (walk cs).hasRecoverableOutage =
    cs.any fun c => c.status = .false && !Strings.contains c.reason Reason.provisioning := by
  refine walk_flag Walk.hasRecoverableOutage _ rfl ?_ cs
  intro w c
  unfold Walk.observe
  split_ifs with hc <;> simp_all

theorem walk_hasNoEligible (cs : List Condition) : (walk cs).hasNoEligible = cs.any fun c =>
    c.status = .false && (c.type = .networkProbeReady && c.reason = Reason.noEligibleNodes) := by
  refine walk_flag Walk.hasNoEligible _ rfl ?_ cs
  intro w c
  unfold Walk.observe
  split_ifs with hc <;> simp_all

/-- A `False` condition is either provisioning or an outage. -/
theorem anyConditionFalse_cases {cs : List Condition} (h : (walk cs).anyConditionFalse = true) :
    (walk cs).hasProvisioning = true ∨ (walk cs).hasRecoverableOutage = true := by
  rw [walk_anyConditionFalse, List.any_eq_true] at h
  obtain ⟨c, hc, hfalse⟩ := h
  rw [walk_hasProvisioning, walk_hasRecoverableOutage, List.any_eq_true, List.any_eq_true]
  by_cases hp : Strings.contains c.reason Reason.provisioning = true
  · exact Or.inl ⟨c, hc, by rw [hfalse, hp]; rfl⟩
  · exact Or.inr ⟨c, hc, by rw [hfalse, Bool.eq_false_iff.mpr hp]; rfl⟩

theorem walk_eq_empty {cs : List Condition} (h : ∀ c ∈ cs, c.status ≠ .false) : walk cs = {} := by
  have hfold : ∀ cs : List Condition, (∀ c ∈ cs, c.status ≠ .false) →
      ∀ w : Walk, cs.foldl Walk.observe w = w := by
    intro cs
    induction cs with
    | nil => intro _ w; rfl
    | cons c cs ih =>
      intro h w
      have hc : w.observe c = w := if_pos (h c (by simp))
      rw [List.foldl_cons, hc, ih fun d hd => h d (List.mem_cons_of_mem c hd)]
  exact hfold cs h {}

/-! ### The phase -/

/-- The ladder of `ComputeAndSetPhase`, highest precedence first. -/
def computePhase (cp : ControlPlane) : ClusterPhase :=
  let previous := cp.status.phase
  let regressed := detectServiceRegressions cp previous
  let w := walk cp.status.conditions
  let allServicesReady := allEnabledServicesReady cp
  let allConditionsTrue := !w.anyConditionFalse
  let wasReadyOrDegraded := previous = .ready ∨ previous = .degraded
  if w.hasFailed then .failed
  else if w.hasDegradedCert ∨ regressed ≠ "" ∨ w.hasNoEligible ∨ w.hasUnconfigured ∨
      wasReadyOrDegraded ∧ w.hasRecoverableOutage then .degraded
  else if w.hasProvisioning ∨ !allServicesReady then .provisioning
  else if allConditionsTrue ∧ allServicesReady then .ready
  else if previous ≠ .unset then previous
  else .provisioning

/-- The Warning events of `ComputeAndSetPhase`. -/
def phaseEvents (cp : ControlPlane) : List Event :=
  let regressed := detectServiceRegressions cp cp.status.phase
  (if regressed ≠ "" then
    [conditionEvent .warning "ServiceDegraded"
      ("service \"" ++ regressed ++ "\" transitioned Ready→NotReady")]
   else []) ++
  if (walk cp.status.conditions).hasNoEligible then
    [conditionEvent .warning Reason.noEligibleNodes
      "network probe found no eligible nodes; cluster is degraded"]
  else []

/-- `ComputeAndSetPhase`: the object with its phase, and the events it emits. -/
def computeAndSetPhase (cp : ControlPlane) : ControlPlane × List Event :=
  (⟨cp.metadata, cp.spec, { cp.status with phase := computePhase cp }⟩, phaseEvents cp)

/-- What the phase `Ready` is to mean: no condition is `False`, every enabled service is ready. -/
def Healthy (cp : ControlPlane) : Prop :=
  (∀ c ∈ cp.status.conditions, c.status ≠ .false) ∧
    ∀ name ∈ enabledServiceNames cp, serviceReady cp name = true

theorem allEnabledServicesReady_iff {cp : ControlPlane} : allEnabledServicesReady cp = true ↔
    ∀ name ∈ enabledServiceNames cp, serviceReady cp name = true := by
  unfold allEnabledServicesReady
  exact List.all_eq_true

theorem detectServiceRegressions_of_ready {cp : ControlPlane} {previous : ClusterPhase}
    (h : ∀ name ∈ enabledServiceNames cp, serviceReady cp name = true) :
    detectServiceRegressions cp previous = "" := by
  unfold detectServiceRegressions
  split_ifs
  · rfl
  · have hnone : (enabledServiceNames cp).find? (fun name => !serviceReady cp name) = none := by
      rw [List.find?_eq_none]
      intro name hname
      simp [h name hname]
    rw [hnone]
    rfl

theorem phaseEvents_eq_nil {cp : ControlPlane}
    (hreg : cp.status.phase = .ready → ∀ name ∈ enabledServiceNames cp, serviceReady cp name = true)
    (hno : ∀ c ∈ cp.status.conditions, ¬ (c.status = .false ∧ c.type = .networkProbeReady ∧
      c.reason = Reason.noEligibleNodes)) : phaseEvents cp = [] := by
  have hregressed : detectServiceRegressions cp cp.status.phase = "" := by
    by_cases hready : cp.status.phase = .ready
    · exact detectServiceRegressions_of_ready (hreg hready)
    · unfold detectServiceRegressions
      rw [if_pos hready]
  have heligible : (walk cp.status.conditions).hasNoEligible = false := by
    rw [walk_hasNoEligible, List.any_eq_false]
    intro c hc
    have := hno c hc
    simpa using this
  unfold phaseEvents
  simp [hregressed, heligible]

/-- **The ladder is exact for `Ready`**: the fall-back to the previous phase never keeps a stale
`Ready`, because a `False` condition is an outage or provisioning and both are caught above it. -/
theorem computePhase_ready_iff {cp : ControlPlane} : computePhase cp = .ready ↔ Healthy cp := by
  have hany : (walk cp.status.conditions).anyConditionFalse = false ↔
      ∀ c ∈ cp.status.conditions, c.status ≠ .false := by
    rw [walk_anyConditionFalse, List.any_eq_false]
    simp
  constructor
  · intro h
    unfold computePhase at h
    simp only at h
    split_ifs at h with hfail hdeg hprov hok hprev
    · rw [Bool.not_eq_true'] at hok
      exact ⟨hany.mp hok.1, allEnabledServicesReady_iff.mp hok.2⟩
    · -- the fall-back: a condition is False, so one of the rungs above would have been taken
      rw [not_or] at hprov
      have hsvc : allEnabledServicesReady cp = true := by simpa using hprov.2
      have hfalse : (walk cp.status.conditions).anyConditionFalse = true := by
        by_contra hne
        exact hok ⟨by simpa using hne, hsvc⟩
      rcases anyConditionFalse_cases hfalse with hp | ho
      · exact absurd hp hprov.1
      · exact absurd (Or.inr (Or.inr (Or.inr (Or.inr ⟨Or.inl h, ho⟩)))) hdeg
  · rintro ⟨hcond, hsvc⟩
    have hreg := @detectServiceRegressions_of_ready cp cp.status.phase hsvc
    have hall := allEnabledServicesReady_iff.mpr hsvc
    unfold computePhase
    simp [walk_eq_empty hcond, hreg, hall]

end OpenchamiOperator.Status
