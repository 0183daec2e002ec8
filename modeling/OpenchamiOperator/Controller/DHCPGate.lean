import OpenchamiOperator.Controller.SwitchedOff
import OpenchamiOperator.Lib.ServerSideApply
import OpenchamiOperator.Probe.Attestation

/-! # The gate of CoreDHCP

Two field managers write the DaemonSet of CoreDHCP: the operator itself, and one that only tightens
the node selector before a call looks at the probe and at the configuration. Here the requests of
`CoreDHCPReconciler.Reconcile` are followed into the fields of the DaemonSet and of the ConfigMap,
through passes in which any request can fail and between which others change the objects.

* `exists_progress`: how far a call can get, and what it has sent by then.
* `shows_after`: the fields followed here are those of the stored objects.
* `probed_node`: an open gate stands for a node that the same pass has listed.
* `coreDHCP_gated`: what every call keeps to, in every run. -/

namespace OpenchamiOperator.Controller

open Lib Api Reconcilers Probe

/-! ### The objects -/

def fieldManager : String := "openchami-operator"

def probeGateFieldManager : String := fieldManager ++ "-probe-gate"

/-- The fields of the DaemonSet: the node selector and the annotation of the pod template, and the
others by path. -/
inductive DaemonSetField where
  | nodeSelector
  | configHash
  | other (path : String)
deriving DecidableEq

inductive FieldValue where
  | selector (labels : GoMap String)
  | text (value : String)
deriving DecidableEq

abbrev DaemonSet := Managed DaemonSetField FieldValue String

/-- The node selector of the pods; a field that is not there is the empty map. -/
def podSelector (ds : DaemonSet) : GoMap String :=
  match ds.value .nodeSelector with
  | some (.selector labels) => labels
  | _ => .empty

/-- The data and the annotation of the mirrored ConfigMap. -/
structure DHCPConfigMap where
  data : String
  source : String
deriving DecidableEq

/-- The objects of CoreDHCP in a namespace. -/
structure DHCPObjects where
  configMap : Option DHCPConfigMap := none
  daemonSet : Option DaemonSet := none

/-- The objects of each namespace. -/
abbrev DHCPState := String → DHCPObjects

/-! ### The requests -/

/-- What the manifests take from elsewhere: `coreDHCPConfigHash`, and the other fields that
`buildDaemonSet` sets. -/
structure Manifests where
  configHash : String → String
  daemonSetFields : ControlPlane → String → Option String

section Requests

variable (man : Manifests) (obs : Observed) (cp : ControlPlane)

/-- The node selector of a specification. -/
def provisionSelector : GoMap String :=
  effectiveNodeSelector obs.isPrint obs.probeDigest cp .provision

/-- The body of the patch of `restrictExistingSelection`. -/
def selectorPatch : DaemonSetField → Option FieldValue
  | .nodeSelector => some (.selector (provisionSelector obs cp))
  | _ => none

/-- `buildDaemonSet`; an empty selector is not in the JSON. -/
def daemonSetConfig (configHash : String) : DaemonSetField → Option FieldValue
  | .nodeSelector =>
    if (provisionSelector obs cp).len = 0 then none
    else some (.selector (provisionSelector obs cp))
  | .configHash => some (.text configHash)
  | .other path => (man.daemonSetFields cp path).map .text

/-- An apply to the DaemonSet, which creates it if it is not there. -/
def applyDaemonSet (manager : String) (config : DaemonSetField → Option FieldValue)
    (s : DHCPState) : DHCPState :=
  let objects := s (controlPlaneNamespace cp)
  Function.update s (controlPlaneNamespace cp)
    { objects with daemonSet := some ((objects.daemonSet.getD {}).apply manager config) }

/-- The apply of `buildConfigMap`, which has all the fields. -/
def applyConfigMap (cm : DHCPConfigMap) (s : DHCPState) : DHCPState :=
  Function.update s (controlPlaneNamespace cp)
    { s (controlPlaneNamespace cp) with configMap := some cm }

/-- What a request of CoreDHCP makes of its objects. Nothing is applied before the configuration is
resolved. -/
def Effect.onDHCP (s : DHCPState) : Effect → DHCPState
  | .patch o =>
    if o = buildCoreDHCPDaemonSet cp then
      applyDaemonSet cp probeGateFieldManager (selectorPatch obs cp) s
    else s
  | .apply o =>
    match resolveConfig obs cp with
    | .error _ => s
    | .ok (data, source) =>
      if o = buildCoreDHCPConfigMap cp then applyConfigMap cp ⟨data, source⟩ s
      else if o = buildCoreDHCPDaemonSet cp then
        applyDaemonSet cp fieldManager (daemonSetConfig man obs cp (man.configHash data)) s
      else s
  | _ => s

end Requests

/-! ### Passes -/

/-- A pass over a control plane. -/
structure DHCPPass where
  env : Env
  cp : ControlPlane

namespace DHCPPass

variable (man : Manifests) (p : DHCPPass)

/-- The object in memory when CoreDHCP is called. -/
def object : ControlPlane := p.env.before (activated p.cp) .coreDHCP

def «namespace» : String := controlPlaneNamespace p.cp

/-- The pass gets to CoreDHCP: an error of an earlier sub-reconciler would have aborted it. -/
def calls : Bool :=
  !p.env.op.dryRun && !pinnedElsewhere p.env.op p.cp &&
    (subs.takeWhile (· ≠ .coreDHCP)).all fun sub =>
      ((fullPass p.env p.cp).runs sub).result.isOk

/-- The call returns nil. -/
def returns : Bool := ((fullPass p.env p.cp).runs .coreDHCP).result.isOk

/-- The requests of the call that reach the server. -/
def sent : List Effect :=
  Controller.sent (program p.env.op p.env.obs p.object .coreDHCP).acts (p.env.fates .coreDHCP)

/-- The objects after the pass. -/
def after (s : DHCPState) : DHCPState :=
  if p.calls then p.sent.foldl (Effect.onDHCP man p.env.obs p.object) s else s

/-- The read of the DaemonSet is answered with what is there. -/
def Reads (s : DHCPState) : Prop :=
  p.env.obs.coreDHCPExists = (s p.namespace).daemonSet.isSome

end DHCPPass

/-- The states of a run: passes over any control planes with any answers and fates, and between them
any changes by others that do not act as the manager of the gate. -/
inductive DHCPReachable (man : Manifests) : DHCPState → Prop
  | start : DHCPReachable man fun _ => {}
  | pass {s : DHCPState} (p : DHCPPass) (hs : DHCPReachable man s) (hreads : p.Reads s) :
      DHCPReachable man (p.after man s)
  | others {s s' : DHCPState} (hs : DHCPReachable man s)
      (h : ∀ ns ds', (s' ns).daemonSet = some ds' → ∀ f, probeGateFieldManager ∈ ds'.owners f →
        ∃ ds, (s ns).daemonSet = some ds ∧ probeGateFieldManager ∈ ds.owners f) :
      DHCPReachable man s'

/-! ### How far a call gets -/

/-- The requests of a list of actions that are not reads. -/
def requests (acts : List Act) : List Effect := (acts.filterMap Act.effect?).filter (· ≠ .none)

theorem requests_append (acts acts' : List Act) :
    requests (acts ++ acts') = requests acts ++ requests acts' := by
  unfold requests
  rw [List.filterMap_append, List.filter_append]

theorem foldl_requests {σ : Type} {f : σ → Effect → σ} (hf : ∀ x, f x .none = x) (x : σ)
    (l : List Effect) : (l.filter (· ≠ .none)).foldl f x = l.foldl f x := by
  rw [List.foldl_filter]
  congr 1
  funext y eff
  by_cases heff : eff = .none
  · subst heff
    exact (hf y).symm
  · exact if_pos (decide_eq_true heff)

section Calls

variable (man : Manifests) (obs : Observed) (cp : ControlPlane)

/-- The request of `restrictExistingSelection`. -/
def restriction : List Effect :=
  if obs.coreDHCPExists then [.patch (buildCoreDHCPDaemonSet cp)] else []

theorem requests_restrict : requests (restrictExistingSelection obs cp) = restriction obs cp := by
  unfold restrictExistingSelection restriction
  by_cases hexists : obs.coreDHCPExists = true
  · rw [if_pos hexists, if_pos hexists]
    rfl
  · rw [if_neg hexists, if_neg hexists]
    rfl

theorem requests_readConfigMapRef : requests (readConfigMapRef cp) = [] := by
  unfold readConfigMapRef
  rcases cp.spec.services.coreDHCP.configMapRef with _ | ref
  · rfl
  · rfl

theorem requests_reportDHCP (current : Option DaemonSetView) :
    requests (reportDHCP current).acts = [] := by
  unfold reportDHCP
  split_ifs
  · rfl
  · rfl

/-- The probe and the configuration let the call go on. -/
def Open : Prop :=
  probeGateReady cp .provision = true ∧ ∃ data source, resolveConfig obs cp = .ok (data, source)

/-- A call restricts the selector, and goes on only if the gate is open. -/
theorem requests_coreDHCP (henabled : cp.spec.services.coreDHCP.enabled = true) :
    (¬ Open obs cp ∧ requests (reconcileCoreDHCP obs cp).acts = restriction obs cp) ∨
      (Open obs cp ∧ requests (reconcileCoreDHCP obs cp).acts = restriction obs cp ++
        [.apply (buildCoreDHCPConfigMap cp), .apply (buildCoreDHCPDaemonSet cp)]) := by
  unfold reconcileCoreDHCP
  rw [if_neg (by simp [henabled])]
  rcases hgate : probeGateReady cp .provision with _ | _
  · refine Or.inl ⟨fun hopen => ?_, ?_⟩
    · cases hgate.symm.trans hopen.1
    · rw [if_pos (by simp), requests_append, requests_restrict]
      exact List.append_nil _
  · rw [if_neg (by simp)]
    rcases hresolve : resolveConfig obs cp with ⟨reason, message⟩ | ⟨data, source⟩
    · refine Or.inl ⟨fun ⟨_, data, source, hok⟩ => ?_, ?_⟩
      · cases hresolve.symm.trans hok
      · simp only [requests_append, requests_restrict, requests_readConfigMapRef, List.append_nil]
        exact List.append_nil _
    · refine Or.inr ⟨⟨hgate, data, source, hresolve⟩, ?_⟩
      simp only [requests_append, requests_restrict, requests_readConfigMapRef,
        requests_reportDHCP, List.append_nil]
      rfl

/-- Where a call can be when it ends. -/
inductive Progress where
  | begun
  | restricted
  | mirrored (data source : String)
  | deployed (data source : String)

namespace Progress

/-- What has reached the server by then. -/
def sent : Progress → List Effect
  | .begun => []
  | .restricted => restriction obs cp
  | .mirrored _ _ => restriction obs cp ++ [.apply (buildCoreDHCPConfigMap cp)]
  | .deployed _ _ => restriction obs cp ++
      [.apply (buildCoreDHCPConfigMap cp), .apply (buildCoreDHCPDaemonSet cp)]

/-- What the gate has let through. -/
def Allowed : Progress → Prop
  | .begun => True
  | .restricted => True
  | .mirrored data source | .deployed data source =>
    probeGateReady cp .provision = true ∧ resolveConfig obs cp = .ok (data, source)

/-- The objects once the selector is restricted. -/
def tightened (s : DHCPState) : DHCPState :=
  if obs.coreDHCPExists then applyDaemonSet cp probeGateFieldManager (selectorPatch obs cp) s else s

/-- The objects at the end of the call. -/
def state (s : DHCPState) : Progress → DHCPState
  | .begun => s
  | .restricted => tightened obs cp s
  | .mirrored data source => applyConfigMap cp ⟨data, source⟩ (tightened obs cp s)
  | .deployed data source =>
    applyDaemonSet cp fieldManager (daemonSetConfig man obs cp (man.configHash data))
      (applyConfigMap cp ⟨data, source⟩ (tightened obs cp s))

variable {man obs cp}

theorem foldl_restriction (s : DHCPState) :
    (restriction obs cp).foldl (Effect.onDHCP man obs cp) s = tightened obs cp s := by
  unfold restriction tightened
  by_cases hexists : obs.coreDHCPExists = true
  · rw [if_pos hexists, if_pos hexists, List.foldl_cons, List.foldl_nil]
    exact if_pos rfl
  · rw [if_neg hexists, if_neg hexists]
    rfl

/-- The requests that were sent make the state of their stage. -/
theorem foldl_sent {g : Progress} (hallowed : g.Allowed obs cp) (s : DHCPState) :
    (g.sent obs cp).foldl (Effect.onDHCP man obs cp) s = g.state man obs cp s := by
  have hmirror : ∀ {data source} (t : DHCPState), resolveConfig obs cp = .ok (data, source) →
      Effect.onDHCP man obs cp t (.apply (buildCoreDHCPConfigMap cp)) =
        applyConfigMap cp ⟨data, source⟩ t := by
    intro data source t hresolve
    simp only [Effect.onDHCP, hresolve]
    exact if_pos trivial
  have hdeploy : ∀ {data source} (t : DHCPState), resolveConfig obs cp = .ok (data, source) →
      Effect.onDHCP man obs cp t (.apply (buildCoreDHCPDaemonSet cp)) =
        applyDaemonSet cp fieldManager (daemonSetConfig man obs cp (man.configHash data)) t := by
    intro data source t hresolve
    have hne : buildCoreDHCPDaemonSet cp ≠ buildCoreDHCPConfigMap cp := by
      simp [buildCoreDHCPDaemonSet, buildCoreDHCPConfigMap, objectIn]
    simp only [Effect.onDHCP, hresolve]
    rw [if_neg hne]
    exact if_pos trivial
  cases g with
  | begun => rfl
  | restricted => exact foldl_restriction s
  | mirrored data source =>
    simp only [Progress.sent, List.foldl_append, foldl_restriction, List.foldl_cons, List.foldl_nil,
      hmirror _ hallowed.2]
    rfl
  | deployed data source =>
    simp only [Progress.sent, List.foldl_append, foldl_restriction, List.foldl_cons, List.foldl_nil,
      hmirror _ hallowed.2, hdeploy _ hallowed.2]
    rfl

/-- What is sent in order, and cut off anywhere, is what is sent up to some stage. -/
theorem exists_of_isPrefix (henabled : cp.spec.services.coreDHCP.enabled = true) {l : List Effect}
    (hl : l <+: requests (reconcileCoreDHCP obs cp).acts) :
    ∃ g : Progress, g.Allowed obs cp ∧ l = g.sent obs cp := by
  have hrestrict : l <+: restriction obs cp →
      ∃ g : Progress, g.Allowed obs cp ∧ l = g.sent obs cp := by
    intro hl
    unfold restriction at hl
    by_cases hexists : obs.coreDHCPExists = true
    · rw [if_pos hexists] at hl
      rcases List.prefix_cons_iff.mp hl with rfl | ⟨t, rfl, ht⟩
      · exact ⟨.begun, trivial, rfl⟩
      · refine ⟨.restricted, trivial, ?_⟩
        rw [List.prefix_nil.mp ht, Progress.sent, restriction, if_pos hexists]
    · rw [if_neg hexists] at hl
      exact ⟨.begun, trivial, List.prefix_nil.mp hl⟩
  rcases requests_coreDHCP obs cp henabled with ⟨-, heq⟩ | ⟨⟨hgate, data, source, hok⟩, heq⟩
  · exact hrestrict (heq ▸ hl)
  · rw [heq] at hl
    rcases List.prefix_or_prefix_of_prefix hl (List.prefix_append _ _) with hl' | ⟨t, rfl⟩
    · exact hrestrict hl'
    · have ht := (List.prefix_append_right_inj _).mp hl
      rcases List.prefix_cons_iff.mp ht with rfl | ⟨u, rfl, hu⟩
      · exact ⟨.restricted, trivial, List.append_nil _⟩
      · rcases List.prefix_cons_iff.mp hu with rfl | ⟨v, rfl, hv⟩
        · exact ⟨.mirrored data source, ⟨hgate, hok⟩, rfl⟩
        · rw [List.prefix_nil.mp hv]
          exact ⟨.deployed data source, ⟨hgate, hok⟩, rfl⟩

theorem configMap_mem_sent (g : Progress) :
    .apply (buildCoreDHCPConfigMap cp) ∈ g.sent obs cp ↔
      ∃ data source, g = .mirrored data source ∨ g = .deployed data source := by
  have hrestriction : .apply (buildCoreDHCPConfigMap cp) ∉ restriction obs cp := by
    unfold restriction
    split_ifs <;> simp
  cases g <;> simp [Progress.sent, hrestriction]

theorem daemonSet_mem_sent (g : Progress) :
    .apply (buildCoreDHCPDaemonSet cp) ∈ g.sent obs cp ↔
      ∃ data source, g = .deployed data source := by
  have hrestriction : .apply (buildCoreDHCPDaemonSet cp) ∉ restriction obs cp := by
    unfold restriction
    split_ifs <;> simp
  have hne : buildCoreDHCPDaemonSet cp ≠ buildCoreDHCPConfigMap cp := by
    simp [buildCoreDHCPDaemonSet, buildCoreDHCPConfigMap, objectIn]
  cases g <;> simp [Progress.sent, hrestriction, hne]

/-! ### The objects at a stage -/

section Stages

variable {s : DHCPState} {ns : String} (hns : controlPlaneNamespace cp = ns)

include hns in
theorem configMap_state (g : Progress) : (g.state man obs cp s ns).configMap = match g with
    | .begun | .restricted => (s ns).configMap
    | .mirrored data source | .deployed data source => some ⟨data, source⟩ := by
  subst hns
  have htightened : (tightened obs cp s (controlPlaneNamespace cp)).configMap =
      (s (controlPlaneNamespace cp)).configMap := by
    unfold tightened applyDaemonSet
    split_ifs
    · rw [Function.update_self]
    · rfl
  cases g with
  | begun => rfl
  | restricted => exact htightened
  | mirrored data source => simp [state, applyConfigMap]
  | deployed data source => simp [state, applyConfigMap, applyDaemonSet]

include hns in
theorem state_of_ne (g : Progress) {ns' : String} (hne : ns' ≠ ns) :
    g.state man obs cp s ns' = s ns' := by
  subst hns
  have htightened : tightened obs cp s ns' = s ns' := by
    unfold tightened applyDaemonSet
    split_ifs
    · exact Function.update_of_ne hne _ _
    · rfl
  cases g with
  | begun => rfl
  | restricted => exact htightened
  | mirrored data source =>
    simp only [state, applyConfigMap]
    rw [Function.update_of_ne hne, htightened]
  | deployed data source =>
    simp only [state, applyConfigMap, applyDaemonSet]
    rw [Function.update_of_ne hne, Function.update_of_ne hne, htightened]

variable (obs cp) in
/-- A DaemonSet with its selector restricted. -/
def tighten (ds : DaemonSet) : DaemonSet := ds.apply probeGateFieldManager (selectorPatch obs cp)

include hns in
theorem daemonSet_state (hreads : obs.coreDHCPExists = (s ns).daemonSet.isSome) (g : Progress) :
    (g.state man obs cp s ns).daemonSet = match g with
      | .begun => (s ns).daemonSet
      | .restricted | .mirrored _ _ => (s ns).daemonSet.map (tighten obs cp)
      | .deployed data _ => some ((((s ns).daemonSet.map (tighten obs cp)).getD {}).apply
          fieldManager (daemonSetConfig man obs cp (man.configHash data))) := by
  subst hns
  have htightened : (tightened obs cp s (controlPlaneNamespace cp)).daemonSet =
      (s (controlPlaneNamespace cp)).daemonSet.map (tighten obs cp) := by
    unfold tightened applyDaemonSet
    rcases hds : (s (controlPlaneNamespace cp)).daemonSet with _ | ds
    · rw [if_neg (by simp [hreads, hds]), hds]
      rfl
    · rw [if_pos (by simp [hreads, hds]), Function.update_self, hds]
      rfl
  cases g with
  | begun => rfl
  | restricted => exact htightened
  | mirrored data source => simp [state, applyConfigMap, htightened]
  | deployed data source => simp [state, applyConfigMap, applyDaemonSet, htightened]

end Stages

/-! ### The fields of the DaemonSet -/

theorem podSelector_congr {ds ds' : DaemonSet}
    (h : ds.value .nodeSelector = ds'.value .nodeSelector) : podSelector ds = podSelector ds' := by
  unfold podSelector
  rw [h]

theorem podSelector_tighten (ds : DaemonSet) :
    podSelector (tighten obs cp ds) = provisionSelector obs cp := by
  have hvalue : (tighten obs cp ds).value .nodeSelector =
      some (.selector (provisionSelector obs cp)) := Managed.value_apply_of_some rfl
  unfold podSelector
  rw [hvalue]

/-- The operator's own apply leaves an empty selector to the manager of the gate, which has sent it
as such. -/
theorem podSelector_deployed (o : Option DaemonSet) (configHash : String) :
    podSelector (((o.map (tighten obs cp)).getD {}).apply fieldManager
      (daemonSetConfig man obs cp configHash)) = provisionSelector obs cp := by
  by_cases hlen : (provisionSelector obs cp).len = 0
  · have hconfig : daemonSetConfig man obs cp configHash .nodeSelector = none := if_pos hlen
    rcases o with _ | ds
    · have hentries : (provisionSelector obs cp).entries = [] := List.eq_nil_of_length_eq_zero hlen
      have hempty : provisionSelector obs cp = .empty := GoMap.ext fun k => by
        unfold GoMap.get?
        rw [hentries]
        rfl
      rw [hempty]
      exact podSelector_congr (Managed.value_apply_of_notMem hconfig List.not_mem_nil)
    · have howner : probeGateFieldManager ∈ (tighten obs cp ds).owners .nodeSelector :=
        Managed.mem_owners_apply_self.mpr rfl
      have hkept := Managed.value_apply_of_owner hconfig howner
        (show probeGateFieldManager ≠ fieldManager by decide)
      exact (podSelector_congr hkept).trans (podSelector_tighten ds)
  · have hconfig : daemonSetConfig man obs cp configHash .nodeSelector =
        some (.selector (provisionSelector obs cp)) := if_neg hlen
    unfold podSelector
    rw [Managed.value_apply_of_some hconfig]

/-- The manager of the gate owns nothing but the selector. -/
def GateConfined (ds : DaemonSet) : Prop := ds.Confined probeGateFieldManager {.nodeSelector}

theorem selectorPatch_isSome {f : DaemonSetField} (h : (selectorPatch obs cp f).isSome) :
    f ∈ ({.nodeSelector} : Set DaemonSetField) := by
  cases f with
  | nodeSelector => rfl
  | _ => cases h

theorem gateConfined_tighten (ds : DaemonSet) : GateConfined (tighten obs cp ds) :=
  Managed.Confined.apply_self fun _ => selectorPatch_isSome

theorem gateConfined_deployed (o : Option DaemonSet) (configHash : String) :
    GateConfined (((o.map (tighten obs cp)).getD {}).apply fieldManager
      (daemonSetConfig man obs cp configHash)) := by
  have hbefore : GateConfined ((o.map (tighten obs cp)).getD {}) := by
    rcases o with _ | ds
    · intro f hf
      cases hf
    · exact gateConfined_tighten ds
  exact hbefore.apply_of_ne (by decide)

end Progress

end Calls

/-! ### A call in its pass -/

namespace DHCPPass

variable {man : Manifests} {p : DHCPPass}

/-- NetworkProbe is the last to be called before. -/
theorem object_eq : p.object =
    p.env.called (p.env.before (activated p.cp) .networkProbe) .networkProbe := by
  have hsubs : subs.takeWhile (· ≠ .coreDHCP) =
      subs.takeWhile (· ≠ .networkProbe) ++ [.networkProbe] := by decide
  unfold object Env.before
  rw [hsubs, List.foldl_append, List.foldl_cons, List.foldl_nil]

theorem sent_of_returns (h : p.returns = true) :
    p.sent = (reconcileCoreDHCP p.env.obs p.object).acts.filterMap Act.effect? := by
  have hcall : ∀ cp, (p.env.call cp .coreDHCP).result.isOk = true →
      Controller.sent (program p.env.op p.env.obs cp .coreDHCP).acts (p.env.fates .coreDHCP) =
        (reconcileCoreDHCP p.env.obs cp).acts.filterMap Act.effect? := by
    intro cp hok
    obtain ⟨n, hresult⟩ := exists_of_isOk hok
    exact sent_of_ok hresult
  exact hcall p.object h

theorem before_spec (p : DHCPPass) (sub : Sub) :
    (p.env.before (activated p.cp) sub).spec = p.cp.spec := by
  have hcalled : ∀ (l : List Sub) (cp : ControlPlane),
      (l.foldl p.env.called cp).spec = cp.spec := by
    intro l
    induction l with
    | nil => exact fun _ => rfl
    | cons sub rest ih =>
      intro cp
      obtain ⟨-, hs, -⟩ := writes_frame (p.env.call cp sub).writes cp
      exact (ih (p.env.called cp sub)).trans hs
  exact hcalled _ (activated p.cp)

theorem object_spec (p : DHCPPass) : p.object.spec = p.cp.spec := p.before_spec .coreDHCP

/-- **How far a call gets**: it stops at some stage that the gate has let it get to, and if it
returns nil, at one that ends the call. -/
theorem exists_progress (henabled : p.cp.spec.services.coreDHCP.enabled = true)
    (hcalls : p.calls = true) (s : DHCPState) : ∃ g : Progress,
      g.Allowed p.env.obs p.object ∧
      p.sent.filter (· ≠ .none) = g.sent p.env.obs p.object ∧
      p.after man s = g.state man p.env.obs p.object s ∧
      (p.returns = true → g = .restricted ∨ ∃ data source, g = .deployed data source) := by
  have henabled' : p.object.spec.services.coreDHCP.enabled = true := by
    rw [p.object_spec]
    exact henabled
  -- the requests among what was sent are those of a stage
  have hstage : ∃ g : Progress, g.Allowed p.env.obs p.object ∧
      p.sent.filter (· ≠ .none) = g.sent p.env.obs p.object ∧
      (p.returns = true → g = .restricted ∨ ∃ data source, g = .deployed data source) := by
    by_cases hreturns : p.returns = true
    · have hall : p.sent.filter (· ≠ .none) =
          requests (reconcileCoreDHCP p.env.obs p.object).acts := by
        rw [sent_of_returns hreturns]
        rfl
      rcases requests_coreDHCP p.env.obs p.object henabled' with
        ⟨-, heq⟩ | ⟨⟨hgate, data, source, hok⟩, heq⟩
      · exact ⟨.restricted, trivial, hall.trans heq, fun _ => Or.inl rfl⟩
      · exact ⟨.deployed data source, ⟨hgate, hok⟩, hall.trans heq, fun _ => Or.inr ⟨_, _, rfl⟩⟩
    · have hcut : p.sent.filter (· ≠ .none) <+:
          requests (reconcileCoreDHCP p.env.obs p.object).acts := (sent_isPrefix _ _).filter _
      obtain ⟨g, hallowed, hg⟩ := Progress.exists_of_isPrefix henabled' hcut
      exact ⟨g, hallowed, hg, fun h => absurd h hreturns⟩
  obtain ⟨g, hallowed, hg, hends⟩ := hstage
  refine ⟨g, hallowed, hg, ?_, hends⟩
  unfold after
  rw [if_pos hcalls, ← foldl_requests (fun _ => rfl), hg, Progress.foldl_sent hallowed]

theorem mem_sent {l : List Effect} (h : p.sent.filter (· ≠ .none) = l) {eff : Effect}
    (heff : eff ≠ .none) : eff ∈ p.sent ↔ eff ∈ l := by
  rw [← h, List.mem_filter]
  simp [heff]

end DHCPPass

/-! ### The probe of the same pass -/

/-- A call of NetworkProbe with the probe on ends with its verdict. -/
theorem lastWrite_networkProbe {obs : Observed} {cp : ControlPlane}
    (henabled : cp.spec.networkProbe.enabled = true) : ∃ st reason message,
      lastWrite (.condition .networkProbeReady) (reconcileNetworkProbe obs cp).writes =
        some (.condition .networkProbeReady st reason message) ∧
      (st = .true → probeReady obs cp = true) := by
  unfold reconcileNetworkProbe
  rw [if_neg (by simp [henabled])]
  split_ifs with hpods
  · exact ⟨.false, _, _, rfl, fun h => by cases h⟩
  · unfold reportProbe
    by_cases hready : probeReady obs cp = true
    · rw [if_pos hready]
      exact ⟨.true, _, _, rfl, fun _ => hready⟩
    · rw [if_neg hready]
      exact ⟨.false, _, _, rfl, fun h => by cases h⟩

/-- An eligible node carries every label of the selector. -/
theorem satisfies_of_eligible {obs : Observed} {cp : ControlPlane}
    (henabled : cp.spec.networkProbe.enabled = true)
    (h : eligibleNodes obs cp .provision ≠ []) :
    ∃ node ∈ obs.nodes, node.2.Satisfies (provisionSelector obs cp) := by
  obtain ⟨name, hname⟩ := List.exists_mem_of_ne_nil _ h
  unfold eligibleNodes at hname
  rw [List.mem_insertionSort, List.mem_map] at hname
  obtain ⟨node, hnode, -⟩ := hname
  rw [List.mem_filter] at hnode
  obtain ⟨hlisted, hlabels⟩ := hnode
  simp only [Bool.and_eq_true, decide_eq_true_eq] at hlabels
  obtain ⟨⟨hready, hrevision⟩, -⟩ := hlabels
  -- a label with a value that is not empty is there
  have hget : ∀ {k v : String}, v ≠ "" → node.2.getD k "" = v → node.2.get? k = some v := by
    intro k v hv hk
    unfold GoMap.getD at hk
    rcases hlabel : node.2.get? k with _ | w
    · rw [hlabel] at hk
      exact absurd hk.symm hv
    · rw [hlabel] at hk
      exact congrArg some hk
  exact ⟨node, hlisted, (satisfies_selector_iff henabled).mpr
    ⟨hget (by decide) hready, hget (NetworkProbe.hexString_ne_empty _) hrevision⟩⟩

/-- **An open gate stands for a node that the same pass has listed.** -/
theorem probed_node {env : Env} {cp : ControlPlane}
    (hok : (env.call cp .networkProbe).result.isOk = true)
    (henabled : cp.spec.networkProbe.enabled = true)
    (hgate : probeGateReady (env.called cp .networkProbe) .provision = true) :
    ∃ node ∈ env.obs.nodes, node.2.Satisfies (provisionSelector env.obs cp) := by
  have hdone : env.called cp .networkProbe = env.done cp .networkProbe := by
    obtain ⟨n, hresult⟩ := exists_of_isOk hok
    obtain ⟨-, -, hwrites, -⟩ := runActs_ok hresult
    exact congrArg (·.foldl StatusWrite.apply cp) hwrites
  obtain ⟨-, hspec⟩ := env.done_frame cp .networkProbe
  obtain ⟨st, reason, message, hlast, hst⟩ := @lastWrite_networkProbe env.obs cp henabled
  have hfind : findStatusCondition (env.done cp .networkProbe).status.conditions
      .networkProbeReady = some ⟨.networkProbeReady, st, reason, message, cp.metadata.generation⟩ := by
    have hread := @read_done env cp .networkProbe (.condition .networkProbeReady)
    have hprogram : (program env.op env.obs cp .networkProbe).writes =
        (reconcileNetworkProbe env.obs cp).writes := rfl
    rw [hprogram, hlast] at hread
    exact Option.map_injective (fun _ _ h => SlotValue.condition.inj h) hread
  rw [hdone] at hgate
  unfold probeGateReady probeTargetConfig probeNetwork at hgate
  rw [hspec, hfind, if_neg (by simp [henabled])] at hgate
  simp only [Option.any_some, Bool.and_eq_true, decide_eq_true_eq] at hgate
  obtain ⟨⟨⟨hstatus, -⟩, -⟩, hvalid⟩ := hgate
  have hready := hst hstatus
  -- a network that is not given has no valid target
  have hgiven : (probeNetwork cp .provision).isNone = false := by
    rcases hnetwork : cp.spec.networkProbe.provisionNetwork with _ | t
    · rw [hnetwork] at hvalid
      exact absurd hvalid (by decide)
    · unfold probeNetwork
      rw [hnetwork]
      rfl
  unfold probeReady at hready
  simp only [hgiven, Bool.false_or, Bool.and_eq_true, decide_eq_true_eq] at hready
  exact satisfies_of_eligible henabled hready.1.1.1

/-! ### Runs -/

section Runs

variable {man : Manifests} {p : DHCPPass}

theorem DHCPPass.controlPlaneNamespace_object (p : DHCPPass) :
    controlPlaneNamespace p.object = p.namespace := by
  unfold DHCPPass.namespace controlPlaneNamespace
  rw [p.object_spec]

theorem provisionSelector_congr {obs : Observed} {a b : ControlPlane} (h : a.spec = b.spec) :
    provisionSelector obs a = provisionSelector obs b := by
  unfold provisionSelector effectiveNodeSelector probeTargetConfig probeNetwork
  rw [h]

/-- A call with CoreDHCP disabled, or none at all, leaves everything as it is. -/
theorem DHCPPass.after_of_disabled (h : p.cp.spec.services.coreDHCP.enabled = false)
    (s : DHCPState) : p.after man s = s := by
  have hprogram : ∀ cp, cp.spec = p.cp.spec →
      Controller.sent (program p.env.op p.env.obs cp .coreDHCP).acts (p.env.fates .coreDHCP) =
        [] := by
    intro cp hspec
    have hacts : (program p.env.op p.env.obs cp .coreDHCP).acts = [] := by
      unfold program reconcileCoreDHCP
      rw [hspec, h]
      rfl
    rw [hacts]
    rfl
  have hsent : p.sent = [] := hprogram p.object p.object_spec
  unfold DHCPPass.after
  rw [hsent]
  exact ite_self s

/-- In every run the manager of the gate owns nothing but the selector of any DaemonSet. -/
theorem DHCPReachable.confined {s : DHCPState} (hs : DHCPReachable man s) :
    ∀ ns ds, (s ns).daemonSet = some ds → Progress.GateConfined ds := by
  induction hs with
  | start => exact fun _ _ h => by cases h
  | others hs h ih =>
    intro ns ds' hds' f hf
    obtain ⟨ds, hds, hf'⟩ := h ns ds' hds' f hf
    exact ih ns ds hds f hf'
  | @pass s p hs hreads ih =>
    intro ns ds hds
    by_cases hcalls : p.calls = true
    · rcases henabled : p.cp.spec.services.coreDHCP.enabled with _ | _
      · rw [p.after_of_disabled henabled] at hds
        exact ih ns ds hds
      · obtain ⟨g, -, -, hafter, -⟩ := @DHCPPass.exists_progress man p henabled hcalls s
        rw [hafter] at hds
        by_cases hns : ns = p.namespace
        · subst hns
          have hstate := @Progress.daemonSet_state man p.env.obs p.object s p.namespace
            p.controlPlaneNamespace_object hreads g
          rw [hstate] at hds
          cases g with
          | begun => exact ih _ ds hds
          | restricted | mirrored =>
            obtain ⟨ds₀, -, rfl⟩ := Option.map_eq_some_iff.mp hds
            exact Progress.gateConfined_tighten ds₀
          | deployed data source =>
            obtain rfl := Option.some.inj hds
            exact Progress.gateConfined_deployed _ _
        · rw [Progress.state_of_ne p.controlPlaneNamespace_object g hns] at hds
          exact ih ns ds hds
    · unfold DHCPPass.after at hds
      rw [if_neg hcalls] at hds
      exact ih ns ds hds

/-! ### The stored objects -/

/-- The fields are those of the objects that are stored. -/
def Shows (s : DHCPState) (objects : KubeObjects) : Prop := ∀ ns,
  ((s ns).configMap.isSome = true ↔
      objects.has (.other "ConfigMap", ns, "coredhcp-config") = true) ∧
    ((s ns).daemonSet.isSome = true ↔ objects.has (.other "DaemonSet", ns, "coredhcp") = true)

/-- The objects at a stage, from those at the start. -/
theorem Progress.foldl_onObjects {obs : Observed} {cp : ControlPlane} (g : Progress)
    (objects : KubeObjects) : (g.sent obs cp).foldl Effect.onObjects objects = match g with
      | .begun | .restricted => objects
      | .mirrored _ _ => objects.apply (buildCoreDHCPConfigMap cp)
      | .deployed _ _ =>
        (objects.apply (buildCoreDHCPConfigMap cp)).apply (buildCoreDHCPDaemonSet cp) := by
  have hrestriction : (restriction obs cp).foldl Effect.onObjects objects = objects := by
    unfold restriction
    split_ifs
    · rfl
    · rfl
  cases g with
  | begun => rfl
  | restricted => exact hrestriction
  | mirrored | deployed =>
    unfold Progress.sent
    rw [List.foldl_append, hrestriction]
    rfl

/-- **The fields follow the stored objects**: after a call the two show the same objects again. -/
theorem shows_after {s : DHCPState} {w : World} (hreads : p.Reads s)
    (henabled : p.cp.spec.services.coreDHCP.enabled = true) (hcalls : p.calls = true)
    (h : Shows s w.objects) :
    Shows (p.after man s) (((fullPass p.env p.cp).runs .coreDHCP).effect w).objects := by
  obtain ⟨g, -, hsent, hafter, -⟩ := @DHCPPass.exists_progress man p henabled hcalls s
  have hobjects : (((fullPass p.env p.cp).runs .coreDHCP).effect w).objects =
      (g.sent p.env.obs p.object).foldl Effect.onObjects w.objects := by
    have hcall : ∀ cp, ((p.env.call cp .coreDHCP).effect w).objects =
        (sent (program p.env.op p.env.obs cp .coreDHCP).acts (p.env.fates .coreDHCP)).foldl
          Effect.onObjects w.objects := fun cp => objects_runActs cp _ _ _ w
    have hruns : ∀ sub, (fullPass p.env p.cp).runs sub =
        p.env.call (p.env.before (activated p.cp) sub) sub := fun _ => rfl
    rw [← hsent, foldl_requests (fun _ => rfl), hruns, hcall]
    rfl
  have hcmKey : (buildCoreDHCPConfigMap p.object).key =
      (.other "ConfigMap", p.namespace, "coredhcp-config") := by
    rw [← p.controlPlaneNamespace_object]
    rfl
  have hdsKey : (buildCoreDHCPDaemonSet p.object).key =
      (.other "DaemonSet", p.namespace, "coredhcp") := by
    rw [← p.controlPlaneNamespace_object]
    rfl
  intro ns
  rw [hafter, hobjects, Progress.foldl_onObjects]
  obtain ⟨hcm, hds⟩ := h ns
  by_cases hns : ns = p.namespace
  · subst hns
    rw [Progress.configMap_state p.controlPlaneNamespace_object,
      Progress.daemonSet_state p.controlPlaneNamespace_object hreads]
    cases g with
    | begun => exact ⟨hcm, hds⟩
    | restricted => exact ⟨hcm, by simpa using hds⟩
    | mirrored data source =>
      simp only [Store.has_apply, hcmKey]
      exact ⟨by simp, by simpa using hds⟩
    | deployed data source =>
      simp only [Store.has_apply, hcmKey, hdsKey]
      exact ⟨by simp, by simp⟩
  · have hne : p.namespace ≠ ns := Ne.symm hns
    rw [Progress.state_of_ne p.controlPlaneNamespace_object g hns]
    cases g with
    | begun | restricted => exact ⟨hcm, hds⟩
    | mirrored | deployed =>
      simp only [Store.has_apply, hcmKey, hdsKey]
      exact ⟨by simpa [hne] using hcm, by simpa [hne] using hds⟩

/-! ### The gate -/

/-- What a DaemonSet has besides the node selector of its pods is left as it was. -/
def OnlySelectorChanged : Option DaemonSet → Option DaemonSet → Prop
  | none, none => True
  | some ds, some ds' =>
    ∀ f, f ≠ .nodeSelector → ds'.value f = ds.value f ∧ ds'.owners f = ds.owners f
  | _, _ => False

variable (man p) in
/-- What a call of CoreDHCP keeps to, on the objects `s` it finds.
`selects`: when it returns nil, a DaemonSet that is there selects the nodes of the specification.
`creates`: it creates a DaemonSet only with a resolved configuration, and only if the probe is off
or a node the pass has listed carries the labels of the selector.
`stops`, `keeps`: at a closed gate it does not get to the ConfigMap, and then leaves everything but
the selector as it was.
`hashes`: once it has applied the DaemonSet, the annotation is the hash of the ConfigMap. -/
structure DHCPGated (s : DHCPState) : Prop where
  selects : p.returns = true → ∀ ds, (p.after man s p.namespace).daemonSet = some ds →
    podSelector ds = provisionSelector p.env.obs p.cp
  creates : (s p.namespace).daemonSet = none → (p.after man s p.namespace).daemonSet ≠ none →
    (∃ data source, resolveConfig p.env.obs p.object = .ok (data, source)) ∧
      (p.cp.spec.networkProbe.enabled = false ∨
        ∃ node ∈ p.env.obs.nodes, node.2.Satisfies (provisionSelector p.env.obs p.cp))
  stops : ¬ Open p.env.obs p.object → .apply (buildCoreDHCPConfigMap p.object) ∉ p.sent
  keeps : .apply (buildCoreDHCPConfigMap p.object) ∉ p.sent →
    (p.after man s p.namespace).configMap = (s p.namespace).configMap ∧
      OnlySelectorChanged (s p.namespace).daemonSet (p.after man s p.namespace).daemonSet
  hashes : .apply (buildCoreDHCPDaemonSet p.object) ∈ p.sent →
    ∃ cm ds, (p.after man s p.namespace).configMap = some cm ∧
      (p.after man s p.namespace).daemonSet = some ds ∧
      resolveConfig p.env.obs p.object = .ok (cm.data, cm.source) ∧
      ds.value .configHash = some (.text (man.configHash cm.data))

theorem onlySelectorChanged_refl (o : Option DaemonSet) : OnlySelectorChanged o o := by
  rcases o with _ | ds
  · trivial
  · exact fun _ _ => ⟨rfl, rfl⟩

/-- The manager of the gate changes nothing but the selector. -/
theorem onlySelectorChanged_tighten {obs : Observed} {cp : ControlPlane} {o : Option DaemonSet}
    (h : ∀ ds, o = some ds → Progress.GateConfined ds) :
    OnlySelectorChanged o (o.map (Progress.tighten obs cp)) := by
  rcases o with _ | ds
  · trivial
  · intro f hf
    have hconfined := h ds rfl
    exact ⟨hconfined.value_apply (fun _ => Progress.selectorPatch_isSome) hf,
      hconfined.owners_apply (fun _ => Progress.selectorPatch_isSome) hf⟩

/-- A pass that gets to CoreDHCP has called NetworkProbe without an error. -/
theorem DHCPPass.probe_ok (hcalls : p.calls = true) :
    (p.env.call (p.env.before (activated p.cp) .networkProbe) .networkProbe).result.isOk =
      true := by
  unfold DHCPPass.calls at hcalls
  simp only [Bool.and_eq_true, List.all_eq_true] at hcalls
  exact hcalls.2 .networkProbe (by decide)

/-- **The gate of CoreDHCP**, at every call of every run. -/
theorem coreDHCP_gated {s : DHCPState} (hs : DHCPReachable man s) (hreads : p.Reads s)
    (henabled : p.cp.spec.services.coreDHCP.enabled = true) (hcalls : p.calls = true) :
    DHCPGated man p s := by
  obtain ⟨g, hallowed, hsent, hafter, hends⟩ := @DHCPPass.exists_progress man p henabled hcalls s
  have hds := @Progress.daemonSet_state man p.env.obs p.object s p.namespace
    p.controlPlaneNamespace_object hreads g
  have hcm := @Progress.configMap_state man p.env.obs p.object s p.namespace
    p.controlPlaneNamespace_object g
  have hselector := @provisionSelector_congr p.env.obs _ _ p.object_spec
  have happlied : .apply (buildCoreDHCPConfigMap p.object) ∈ p.sent ↔
      ∃ data source, g = .mirrored data source ∨ g = .deployed data source :=
    (p.mem_sent hsent (by simp)).trans (Progress.configMap_mem_sent g)
  have hdeployed : .apply (buildCoreDHCPDaemonSet p.object) ∈ p.sent ↔
      ∃ data source, g = .deployed data source :=
    (p.mem_sent hsent (by simp)).trans (Progress.daemonSet_mem_sent g)
  rw [← hafter] at hds hcm
  constructor
  case selects =>
    intro hreturns ds hafter
    rw [hds] at hafter
    rcases hends hreturns with rfl | ⟨data, source, rfl⟩
    · obtain ⟨ds₀, -, rfl⟩ := Option.map_eq_some_iff.mp hafter
      rw [Progress.podSelector_tighten, hselector]
    · obtain rfl := Option.some.inj hafter
      rw [Progress.podSelector_deployed, hselector]
  case creates =>
    intro hnone hsome
    rw [hds, hnone] at hsome
    cases g with
    | begun | restricted | mirrored => exact absurd rfl hsome
    | deployed data source =>
      obtain ⟨hgate, hresolve⟩ := hallowed
      refine ⟨⟨data, source, hresolve⟩, ?_⟩
      rcases hprobe : p.cp.spec.networkProbe.enabled with _ | _
      · exact Or.inl rfl
      · have hspec := p.before_spec .networkProbe
        rw [p.object_eq] at hgate
        have hnode := probed_node (p.probe_ok hcalls) (by rw [hspec, hprobe]) hgate
        rw [provisionSelector_congr hspec] at hnode
        exact Or.inr hnode
  case stops =>
    intro hclosed hmem
    obtain ⟨data, source, rfl | rfl⟩ := happlied.mp hmem
    · exact hclosed ⟨hallowed.1, data, source, hallowed.2⟩
    · exact hclosed ⟨hallowed.1, data, source, hallowed.2⟩
  case keeps =>
    intro hnot
    rw [hds, hcm]
    cases g with
    | begun => exact ⟨rfl, onlySelectorChanged_refl _⟩
    | restricted => exact ⟨rfl, onlySelectorChanged_tighten (hs.confined p.namespace)⟩
    | mirrored data source => exact absurd (happlied.mpr ⟨data, source, Or.inl rfl⟩) hnot
    | deployed data source => exact absurd (happlied.mpr ⟨data, source, Or.inr rfl⟩) hnot
  case hashes =>
    intro hmem
    obtain ⟨data, source, rfl⟩ := hdeployed.mp hmem
    exact ⟨⟨data, source⟩, _, hcm, hds, hallowed.2, Managed.value_apply_of_some rfl⟩

/-- A site that probes its provision network. -/
def probedSite : ControlPlane :=
  { Webhook.default (site true) with
    spec := { (Webhook.default (site true)).spec with
      networkProbe := { enabled := true, provisionNetwork := some { subnet := "10.1.0.0/16" } } } }

/-- A pass in which a pod of the probe runs, and one node is labelled. -/
def probedPass : DHCPPass where
  cp := probedSite
  env :=
    { obs :=
        { network := { bestEffortDNS := true }
          daemonSets := fun _ => some { numberReady := 1 }
          nodes := [("node-1", GoMap.ofList
            [("openchami.org/alpha-provision-network-ready", "true"),
             ("openchami.org/alpha-provision-probe-revision",
              "00000000000000000000000000000000")])] }
      perm := order_perm }

def plainManifests : Manifests where
  configHash := id
  daemonSetFields := fun _ _ => none

theorem coreDHCP_gated_probedPass : DHCPGated plainManifests probedPass (fun _ => {}) ∧
    (probedPass.after plainManifests (fun _ => {}) "openchami-alpha").daemonSet.isSome = true :=
  ⟨coreDHCP_gated .start rfl rfl (by decide +kernel), by decide +kernel⟩

end Runs

end OpenchamiOperator.Controller
