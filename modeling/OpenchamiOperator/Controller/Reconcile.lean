import OpenchamiOperator.Controller.Delete
import OpenchamiOperator.Status.Reporter

/-! # The reconcile loop

`Reconcile`, `reconcileAll` and `aggregateServicesReady` of
`internal/controller/openchamicontrolplane_controller.go`. A pass calls the sub-reconcilers in order
and stops at the first error; the status is patched in either case. What a sub-reconciler does in a
pass is an input of the model: the status entries it writes, its effect on the world outside the
control planes, and its result.

* `runSubs_frame`: the loop over the sub-reconcilers leaves the phase, the specification and the
  stored control planes alone.
* `runSubs_dryRun`: in dry-run mode it does nothing. -/

namespace OpenchamiOperator.Controller

open Lib Api Reconcilers Status

/-! ### Sub-reconcilers -/

/-- The sub-reconcilers of `reconcileAll`. -/
inductive Sub where
  | namespace
  | rbac
  | vault
  | bucket
  | database
  | serviceIdentity
  | smd
  | tokensmith
  | bootService
  | metadataService
  | networkProbe
  | coreDHCP
  | magellan
  | certificates
  | gateway
  | networkPolicies
  | topology
  | serviceMonitor
  | logBucket
  | funicular
  | logqCompactor
  | logqQuery
deriving DecidableEq, Repr

/-- The order in which `reconcileAll` calls them. -/
def subs : List Sub :=
  [.namespace, .rbac, .vault, .bucket, .database, .serviceIdentity, .smd, .tokensmith,
   .bootService, .metadataService, .networkProbe, .coreDHCP, .magellan, .certificates, .gateway,
   .networkPolicies, .topology, .serviceMonitor, .logBucket, .funicular, .logqCompactor, .logqQuery]

/-- The fields of the status that hold one text. -/
inductive StatusField where
  | namespace
  | vaultPathPrefix
  | topologyVersion
  | certExpiryTime
  | logBucket
deriving DecidableEq, Repr

def StatusField.set (f : StatusField) (value : String) (st : ControlPlaneStatus) :
    ControlPlaneStatus :=
  match f with
  | .namespace => { st with «namespace» := value }
  | .vaultPathPrefix => { st with vaultPathPrefix := value }
  | .topologyVersion => { st with topologyVersion := value }
  | .certExpiryTime => { st with certExpiryTime := value }
  | .logBucket => { st with logBucket := value }

/-- What a sub-reconciler writes into the status. -/
inductive StatusWrite where
  | condition (type : ConditionType) (status : ConditionStatus) (reason message : String)
  | service (name : String) (status : ServiceStatus)
  | gateway (status : Option GatewayStatus)
  | networkProbe (status : Option NetworkProbeStatus)
  | field (f : StatusField) (value : String)
deriving DecidableEq

def StatusWrite.apply (cp : ControlPlane) : StatusWrite → ControlPlane
  | .condition t s reason message => cp.setCondition t s reason message
  | .service name st =>
    { cp with status := { cp.status with services := cp.status.services.insert name st } }
  | .gateway g => { cp with status := { cp.status with gateway := g } }
  | .networkProbe p => { cp with status := { cp.status with networkProbe := p } }
  | .field f value => { cp with status := f.set value cp.status }

/-- One call of a sub-reconciler. -/
structure SubRun where
  writes : List StatusWrite := []
  effect : World → World := id
  result : Except OpError ℕ := .ok 0

/-- What the sub-reconcilers do in one pass, and the order in which Go's `range` goes through the
map of the enabled services. -/
structure Pass where
  runs : Sub → SubRun := fun _ => {}
  order : List Service := [.smd, .tokensmith, .bootService, .metadataService]
  perm : order.Perm [.smd, .tokensmith, .bootService, .metadataService] := by decide

/-! ### `reconcileAll` -/

/-- The loop over the sub-reconcilers. In dry-run mode `Describe` is called instead, which only
builds objects for the log. -/
def runSubs (op : Operator) (p : Pass) :
    List Sub → ControlPlane → World → ℕ → Except OpError ℕ × ControlPlane × World
  | [], cp, w, longest => (.ok longest, cp, w)
  | sub :: rest, cp, w, longest =>
    if op.dryRun then runSubs op p rest cp w longest
    else
      let cp' := (p.runs sub).writes.foldl StatusWrite.apply cp
      let w' := { (p.runs sub).effect w with
        controlPlanes := w.controlPlanes, statusLog := w.statusLog }
      match (p.runs sub).result with
      | .error e => (.error e, cp', w')
      | .ok requeue => runSubs op p rest cp' w' (max longest requeue)

/-- `aggregateServicesReady`. -/
def aggregateServicesReady (order : List Service) (cp : ControlPlane) : ControlPlane :=
  let pending := (order.filter fun svc =>
    (serviceDefaults cp svc).enabled && !serviceReady cp svc.name).map Service.name
  if pending = [] then
    cp.setCondition .servicesReady .true Reason.ready "all enabled services report Ready"
  else
    cp.setCondition .servicesReady .false Reason.provisioning
      ("waiting on services: [" ++ " ".intercalate pending ++ "]")

/-- The control plane is pinned to another version than this operator's. -/
def pinnedElsewhere (op : Operator) (cp : ControlPlane) : Bool :=
  cp.spec.operatorChannel = "pinned" && cp.spec.pinnedVersion ≠ op.version

def World.record (w : World) (cp : ControlPlane) (events : List Event) : World :=
  { w with events := w.events ++ events.map fun e => (planeKey cp, e) }

def activated (cp : ControlPlane) : ControlPlane :=
  cp.setCondition .reconcileActive .true Reason.ready "reconciliation is active"

/-- The object in memory after every sub-reconciler has succeeded, before the phase is computed. -/
def managed (op : Operator) (p : Pass) (cp : ControlPlane) : ControlPlane :=
  let aggregated := aggregateServicesReady p.order cp
  { aggregated with status := { aggregated.status with managedByVersion := op.version } }

/-- `reconcileAll`. -/
def reconcileAll (op : Operator) (p : Pass) (cp : ControlPlane) (w : World) :
    Except OpError ℕ × ControlPlane × World :=
  if pinnedElsewhere op cp then
    (.ok 0,
      cp.setCondition .reconcileActive .false Reason.versionPinned
        ("operator version " ++ op.version ++ " does not match pinned version " ++
          cp.spec.pinnedVersion),
      w.record cp [conditionEvent .normal Reason.versionPinned
        ("reconciliation suspended: pinned to version " ++ cp.spec.pinnedVersion)])
  else
    match runSubs op p subs (activated cp) w 0 with
    | (.error e, cp', w') => (.error e, cp', w')
    | (.ok longest, cp', w') =>
      if op.reporter then
        (.ok longest, (computeAndSetPhase (managed op p cp')).1,
          w'.record cp (computeAndSetPhase (managed op p cp')).2)
      else (.ok longest, managed op p cp', w')

/-! ### `Reconcile` -/

/-- The status patch: only the status changes, and the log keeps what was persisted. -/
def patchStatus (cp : ControlPlane) (w : World) : Except ApiError Unit × World :=
  match w.controlPlanes.get? (planeKey cp) with
  | none => (.error .notFound, w)
  | some stored =>
    let patched := { stored with status := cp.status }
    (.ok (), { w with
      controlPlanes := w.controlPlanes.apply patched
      statusLog := patched :: w.statusLog })

/-- The request that adds the finalizer. -/
def addFinalizer (cp : ControlPlane) : Prog World OpError Unit :=
  Prog.ignoring (fun _ => false) (fun e => ⟨"adding finalizer", e⟩)
    (Prog.request .failed
      (patchFinalizers (planeKey cp) (cp.metadata.finalizers ++ [clusterFinalizer])))

/-- The error of a status patch that failed after a pass with the result `r`. -/
def patchError (r : Except OpError ℕ) (cause : ApiError) : OpError :=
  match r with
  | .error e => ⟨"reconcile: " ++ e.context ++ "; status patch", cause⟩
  | .ok _ => ⟨"patching status", cause⟩

/-- `cp.Status.ObservedGeneration = cp.Generation`. -/
def observed (cp : ControlPlane) : ControlPlane :=
  { cp with status := { cp.status with observedGeneration := cp.metadata.generation } }

/-- A pass over a live control plane: everything in memory and outside, then the status patch. -/
def reconcilePass (op : Operator) (p : Pass) (cp : ControlPlane) : Prog World OpError ℕ :=
  ⟨fun n =>
    let r := reconcileAll op p (observed cp) n.state
    let patch := Prog.request (patchError r.1 .failed) fun w =>
      match patchStatus r.2.1 w with
      | (.ok (), w') => (r.1, w')
      | (.error e, w') => (.error (patchError r.1 e), w')
    patch.run ⟨r.2.2, n.fates⟩⟩

/-- The three paths of `Reconcile` once the object is read. -/
def reconcileFound (op : Operator) (p : Pass) (cp : ControlPlane) : Prog World OpError ℕ :=
  if cp.metadata.deletionTimestamp then do
    reconcileDelete op cp
    pure 0
  else if clusterFinalizer ∉ cp.metadata.finalizers then do
    addFinalizer cp
    pure 0
  else reconcilePass op p cp

/-- `Reconcile`; an object that is not there any more is no error. -/
def reconcile (op : Operator) (p : Pass) (k : String × String) : Prog World OpError ℕ := do
  let got ← Prog.request ⟨"", .failed⟩ fun w => (.ok (w.controlPlanes.get? k), w)
  match got with
  | none => pure 0
  | some cp => reconcileFound op p cp

/-- A call that does not find the object changes nothing; any other follows its path. -/
theorem reconcile_state (op : Operator) (p : Pass) (k : String × String) (n : Net World) :
    ((reconcile op p k).run n).2.state = n.state ∨
      ∃ cp fates, n.state.controlPlanes.get? k = some cp ∧
        ((reconcile op p k).run n).2.state =
          ((reconcileFound op p cp).run ⟨n.state, fates⟩).2.state := by
  rcases n with ⟨w, fates⟩
  have served : ∀ fs, (∃ got, (Prog.request (⟨"", .failed⟩ : OpError)
      (fun w : World => (Except.ok (w.controlPlanes.get? k), w))).run ⟨w, fates⟩ =
        (.ok got, ⟨w, fs⟩) ∧ got = w.controlPlanes.get? k) →
      ((reconcile op p k).run ⟨w, fates⟩).2.state = w ∨
        ∃ cp fates', w.controlPlanes.get? k = some cp ∧
          ((reconcile op p k).run ⟨w, fates⟩).2.state =
            ((reconcileFound op p cp).run ⟨w, fates'⟩).2.state := by
    rintro fs ⟨got, hrun, hgot⟩
    unfold reconcile
    rw [Prog.bind_run_ok hrun]
    rcases got with _ | cp
    · exact Or.inl rfl
    · exact Or.inr ⟨cp, fs, hgot.symm, rfl⟩
  rcases fates with _ | ⟨_ | _ | _, fs⟩
  · exact served [] ⟨_, rfl, rfl⟩
  · exact served fs ⟨_, rfl, rfl⟩
  · exact Or.inl rfl
  · exact Or.inl rfl

/-! ### What the loop leaves alone -/

theorem StatusWrite.apply_frame (x : StatusWrite) (cp : ControlPlane) :
    (x.apply cp).metadata = cp.metadata ∧ (x.apply cp).spec = cp.spec ∧
      (x.apply cp).status.phase = cp.status.phase := by
  cases x with
  | field f value => cases f <;> exact ⟨rfl, rfl, rfl⟩
  | _ => exact ⟨rfl, rfl, rfl⟩

theorem writes_frame : ∀ (xs : List StatusWrite) (cp : ControlPlane),
    (xs.foldl StatusWrite.apply cp).metadata = cp.metadata ∧
      (xs.foldl StatusWrite.apply cp).spec = cp.spec ∧
      (xs.foldl StatusWrite.apply cp).status.phase = cp.status.phase
  | [], _ => ⟨rfl, rfl, rfl⟩
  | x :: xs, cp => by
    obtain ⟨hm, hs, hp⟩ := writes_frame xs (x.apply cp)
    obtain ⟨hm', hs', hp'⟩ := x.apply_frame cp
    exact ⟨hm.trans hm', hs.trans hs', hp.trans hp'⟩

/-- The loop changes neither the identity nor the phase of the object in memory, and no stored
control plane. -/
theorem runSubs_frame (op : Operator) (p : Pass) : ∀ (l : List Sub) (cp : ControlPlane) (w : World)
    (longest : ℕ), (runSubs op p l cp w longest).2.1.metadata = cp.metadata ∧
      (runSubs op p l cp w longest).2.1.spec = cp.spec ∧
      (runSubs op p l cp w longest).2.1.status.phase = cp.status.phase ∧
      (runSubs op p l cp w longest).2.2.controlPlanes = w.controlPlanes ∧
      (runSubs op p l cp w longest).2.2.statusLog = w.statusLog
  | [], _, _, _ => ⟨rfl, rfl, rfl, rfl, rfl⟩
  | sub :: rest, cp, w, longest => by
    unfold runSubs
    obtain ⟨hm', hs', hp'⟩ := writes_frame (p.runs sub).writes cp
    split_ifs
    · exact runSubs_frame op p rest cp w longest
    · rcases (p.runs sub).result with e | requeue
      · exact ⟨hm', hs', hp', rfl, rfl⟩
      · obtain ⟨hm, hs, hp, hc, hl⟩ := runSubs_frame op p rest
          ((p.runs sub).writes.foldl StatusWrite.apply cp)
          { (p.runs sub).effect w with
            controlPlanes := w.controlPlanes, statusLog := w.statusLog } (max longest requeue)
        exact ⟨hm.trans hm', hs.trans hs', hp.trans hp', hc, hl⟩

theorem runSubs_dryRun {op : Operator} (hdry : op.dryRun = true) (p : Pass) :
    ∀ (l : List Sub) (cp : ControlPlane) (w : World) (longest : ℕ),
      runSubs op p l cp w longest = (.ok longest, cp, w)
  | [], _, _, _ => rfl
  | sub :: rest, cp, w, longest => by
    unfold runSubs
    rw [if_pos hdry]
    exact runSubs_dryRun hdry p rest cp w longest

theorem aggregateServicesReady_frame (order : List Service) (cp : ControlPlane) :
    (aggregateServicesReady order cp).metadata = cp.metadata ∧
      (aggregateServicesReady order cp).spec = cp.spec ∧
      (aggregateServicesReady order cp).status.phase = cp.status.phase ∧
      (aggregateServicesReady order cp).status.services = cp.status.services := by
  unfold aggregateServicesReady
  simp only
  split_ifs <;> exact ⟨rfl, rfl, rfl, rfl⟩

theorem reconcileAll_cases {op : Operator} {p : Pass} {cp : ControlPlane} {w : World}
    (hpin : pinnedElsewhere op cp = false) :
    (∃ e cp' w', runSubs op p subs (activated cp) w 0 = (.error e, cp', w') ∧
      reconcileAll op p cp w = (.error e, cp', w')) ∨
    ∃ longest cp' w', runSubs op p subs (activated cp) w 0 = (.ok longest, cp', w') ∧
      reconcileAll op p cp w = if op.reporter then
        (.ok longest, (computeAndSetPhase (managed op p cp')).1,
          w'.record cp (computeAndSetPhase (managed op p cp')).2)
      else (.ok longest, managed op p cp', w') := by
  unfold reconcileAll
  rw [hpin]
  rcases hrun : runSubs op p subs (activated cp) w 0 with ⟨e | longest, cp', w'⟩
  · exact Or.inl ⟨e, cp', w', rfl, rfl⟩
  · exact Or.inr ⟨longest, cp', w', rfl, rfl⟩

/-- A pass changes neither the identity of the object in memory nor any stored control plane. -/
theorem reconcileAll_frame (op : Operator) (p : Pass) (cp : ControlPlane) (w : World) :
    (reconcileAll op p cp w).2.1.metadata = cp.metadata ∧
      (reconcileAll op p cp w).2.1.spec = cp.spec ∧
      (reconcileAll op p cp w).2.2.controlPlanes = w.controlPlanes ∧
      (reconcileAll op p cp w).2.2.statusLog = w.statusLog := by
  by_cases hpin : pinnedElsewhere op cp = true
  · unfold reconcileAll
    rw [if_pos hpin]
    exact ⟨rfl, rfl, rfl, rfl⟩
  · obtain ⟨hm, hs, -, hc, hl⟩ := runSubs_frame op p subs (activated cp) w 0
    rcases reconcileAll_cases (p := p) (w := w) (by simpa using hpin) with
      ⟨e, cp', w', hrun, heq⟩ | ⟨longest, cp', w', hrun, heq⟩
    · rw [hrun] at hm hs hc hl
      rw [heq]
      exact ⟨hm, hs, hc, hl⟩
    · rw [hrun] at hm hs hc hl
      obtain ⟨hm', hs', -, -⟩ := aggregateServicesReady_frame p.order cp'
      rw [heq]
      split_ifs
      · exact ⟨hm'.trans hm, hs'.trans hs, hc, hl⟩
      · exact ⟨hm'.trans hm, hs'.trans hs, hc, hl⟩

/-- **What a pass leaves behind**, started on the stored control plane: the outcome of
`reconcileAll`, with the status persisted or, when the patch was lost, without. -/
theorem reconcilePass_state {op : Operator} {p : Pass} {cp : ControlPlane} {n : Net World}
    (hstored : n.state.controlPlanes.get? (planeKey cp) = some cp) :
    let r := reconcileAll op p (observed cp) n.state
    ((reconcilePass op p cp).run n).2.state = r.2.2 ∨
      ((reconcilePass op p cp).run n).2.state = { r.2.2 with
        controlPlanes := r.2.2.controlPlanes.apply r.2.1
        statusLog := r.2.1 :: r.2.2.statusLog } := by
  intro r
  obtain ⟨hm, hs, hc, -⟩ := reconcileAll_frame op p (observed cp) n.state
  have hkey : planeKey r.2.1 = planeKey cp := by
    unfold planeKey
    rw [hm]
    rfl
  have hget : r.2.2.controlPlanes.get? (planeKey r.2.1) = some cp := by
    rw [hc, hkey]
    exact hstored
  have hobj : ({ cp with status := r.2.1.status } : ControlPlane) = r.2.1 := by
    have hm' : cp.metadata = r.2.1.metadata := hm.symm
    have hs' : cp.spec = r.2.1.spec := hs.symm
    rw [hm', hs']
  have hpatch : patchStatus r.2.1 r.2.2 = (.ok (), { r.2.2 with
      controlPlanes := r.2.2.controlPlanes.apply r.2.1
      statusLog := r.2.1 :: r.2.2.statusLog }) := by
    unfold patchStatus
    rw [hget]
    simp only [hobj]
  have heffect : (match patchStatus r.2.1 r.2.2 with
      | (.ok (), w') => (r.1, w')
      | (.error e, w') => (.error (patchError r.1 e), w')).2 = { r.2.2 with
        controlPlanes := r.2.2.controlPlanes.apply r.2.1
        statusLog := r.2.1 :: r.2.2.statusLog } := by
    rw [hpatch]
  rcases n with ⟨w, _ | ⟨_ | _ | _, fates⟩⟩
  · exact Or.inr heffect
  · exact Or.inr heffect
  · exact Or.inl rfl
  · exact Or.inr heffect

end OpenchamiOperator.Controller
