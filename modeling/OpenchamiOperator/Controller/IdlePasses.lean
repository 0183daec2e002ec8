import OpenchamiOperator.Controller.Ownership

/-! # Passes in which nothing happens

The condition `ServicesReady` lists the services that are awaited in the order in which Go goes
through a map, and that order is another one in each pass. A changed message is a changed status,
and a changed status is an event that starts the next pass.

* `servicesCondition_completes`: what a pass that gets to its end leaves.
* `servicesCondition_stable_iff`: when a run of such passes leaves the condition alone. -/

namespace OpenchamiOperator.Controller

open Lib Api Status Reconcilers

/-- The services in the order of the source. -/
def serviceNames : List Service := [.smd, .tokensmith, .bootService, .metadataService]

/-- The orders in which Go may go through the map of the services. -/
abbrev ServiceOrder := { order : List Service // order.Perm serviceNames }

/-- What the condition shows: its status, its reason and its message. -/
def servicesCondition (cp : ControlPlane) : Option (ConditionStatus × String × String) :=
  (findStatusCondition cp.status.conditions .servicesReady).map fun c =>
    (c.status, c.reason, c.message)

/-! ### The verdict -/

/-- The services that are enabled and not ready. -/
def awaited (cp : ControlPlane) (ready : Service → Bool) (svc : Service) : Bool :=
  (serviceDefaults cp svc).enabled && !ready svc

theorem awaited_congr {a b : ControlPlane} {ready ready' : Service → Bool} (hspec : a.spec = b.spec)
    (hready : ∀ svc, ready svc = ready' svc) : awaited a ready = awaited b ready' := by
  funext svc
  unfold awaited serviceDefaults
  rw [hspec, hready]

/-- What the condition shows when the services are looked at in the given order. -/
def verdict (pending : Service → Bool) (order : List Service) : ConditionStatus × String × String :=
  if (order.filter pending).map Service.name = [] then
    (.true, Reason.ready, "all enabled services report Ready")
  else
    (.false, Reason.provisioning,
      "waiting on services: [" ++ " ".intercalate ((order.filter pending).map Service.name) ++ "]")

/-- One awaited service has only one place in the message. -/
theorem verdict_eq {pending : Service → Bool} {order order' : List Service}
    (hperm : order.Perm order') (hone : (order'.filter pending).length ≤ 1) :
    verdict pending order = verdict pending order' := by
  have hfilter : (order.filter pending).Perm (order'.filter pending) := hperm.filter pending
  have heq : order.filter pending = order'.filter pending := by
    rcases hlist : order'.filter pending with _ | ⟨svc, rest⟩
    · rw [hlist] at hfilter
      exact List.perm_nil.mp hfilter
    · have hrest : rest = [] := by
        rw [hlist, List.length_cons] at hone
        exact List.eq_nil_of_length_eq_zero (by omega)
      rw [hlist, hrest] at hfilter
      rw [List.perm_singleton.mp hfilter, hrest]
  unfold verdict
  rw [heq]

/-- Two awaited services can change places. -/
theorem verdict_ne {pending : Service → Bool} (htwo : 1 < (serviceNames.filter pending).length) :
    verdict pending serviceNames ≠ verdict pending serviceNames.reverse := by
  have hcases : ∀ a b c d : Bool,
      1 < (serviceNames.filter fun svc => if svc = .smd then a else if svc = .tokensmith then b
        else if svc = .bootService then c else d).length →
      verdict (fun svc => if svc = .smd then a else if svc = .tokensmith then b
        else if svc = .bootService then c else d) serviceNames ≠
      verdict (fun svc => if svc = .smd then a else if svc = .tokensmith then b
        else if svc = .bootService then c else d) serviceNames.reverse := by decide
  have hpending : pending = fun svc =>
      if svc = .smd then pending .smd else if svc = .tokensmith then pending .tokensmith
      else if svc = .bootService then pending .bootService else pending .metadataService := by
    funext svc
    cases svc <;> rfl
  rw [hpending] at htwo ⊢
  exact hcases _ _ _ _ htwo

theorem servicesCondition_aggregate (order : List Service) (cp : ControlPlane) :
    servicesCondition (aggregateServicesReady order cp) =
      some (verdict (awaited cp fun svc => serviceReady cp svc.name) order) := by
  unfold aggregateServicesReady verdict awaited servicesCondition
  simp only
  split_ifs <;> simp [ControlPlane.setCondition, findStatusCondition_set]

/-! ### Passes -/

/-- What happens in one pass, the order of the services apart. No sub-reconciler writes the
condition of all services. -/
structure IdleTurn where
  op : Operator
  runs : Sub → SubRun
  world : World
  quiet : ∀ sub, ∀ x ∈ (runs sub).writes, ∀ cp,
    servicesCondition (x.apply cp) = servicesCondition cp

/-- The pass gets to its end. -/
def IdleTurn.Completes (t : IdleTurn) (cp : ControlPlane) : Prop :=
  pinnedElsewhere t.op cp = false ∧
    (t.op.dryRun = true ∨ ∀ sub, ∃ requeue, (t.runs sub).result = .ok requeue)

/-- The object that a pass stores. -/
def IdleTurn.next (t : IdleTurn) (order : ServiceOrder) (cp : ControlPlane) : ControlPlane :=
  (reconcileAll t.op ⟨t.runs, order.1, order.2⟩ (observed cp) t.world).2.1

/-- The object after the first passes of a run. -/
def afterIdle (turns : ℕ → IdleTurn) (orders : ℕ → ServiceOrder) (cp : ControlPlane) :
    ℕ → ControlPlane
  | 0 => cp
  | n + 1 => (turns n).next (orders n) (afterIdle turns orders cp n)

section Passes

variable {t : IdleTurn} {order : ServiceOrder} {cp : ControlPlane}

theorem runSubs_keeps {op : Operator} {p : Pass} {Q : ControlPlane → Prop}
    (hwrite : ∀ sub, ∀ x ∈ (p.runs sub).writes, ∀ cp, Q cp → Q (x.apply cp)) :
    ∀ (l : List Sub) (cp : ControlPlane) (w : World) (longest : ℕ), Q cp →
      Q (runSubs op p l cp w longest).2.1
  | [], _, _, _, h => h
  | sub :: rest, cp, w, longest, h => by
    have hwrites : Q ((p.runs sub).writes.foldl StatusWrite.apply cp) :=
      List.foldlRecOn (p.runs sub).writes StatusWrite.apply h fun c hc x hx => hwrite sub x hx c hc
    unfold runSubs
    split_ifs
    · exact runSubs_keeps hwrite rest cp w longest h
    · rcases (p.runs sub).result with e | requeue
      · exact hwrites
      · exact runSubs_keeps hwrite rest _ _ _ hwrites

theorem servicesCondition_runSubs (l : List Sub) (cp : ControlPlane) (w : World) (longest : ℕ) :
    servicesCondition (runSubs t.op ⟨t.runs, order.1, order.2⟩ l cp w longest).2.1 =
      servicesCondition cp := by
  refine @runSubs_keeps t.op ⟨t.runs, order.1, order.2⟩
    (fun c => servicesCondition c = servicesCondition cp) ?_ l cp w longest rfl
  intro sub x hx c hc
  exact (t.quiet sub x hx c).trans hc

theorem servicesCondition_set_of_ne {type : ConditionType} (ht : type ≠ .servicesReady)
    (cp : ControlPlane) (st : ConditionStatus) (reason message : String) :
    servicesCondition (cp.setCondition type st reason message) = servicesCondition cp := by
  unfold servicesCondition ControlPlane.setCondition
  rw [findStatusCondition_set, if_neg ht]

theorem servicesCondition_activated (cp : ControlPlane) :
    servicesCondition (activated cp) = servicesCondition cp :=
  servicesCondition_set_of_ne (by decide) cp _ _ _

theorem runSubs_ok_iff {p : Pass} (hdry : t.op.dryRun = false) : ∀ {l : List Sub}
    {cp : ControlPlane} {w : World} {longest : ℕ},
    (∃ n r, runSubs t.op p l cp w longest = (.ok n, r)) ↔
      ∀ sub ∈ l, ∃ requeue, (p.runs sub).result = .ok requeue
  | [], cp, w, longest => by simp [runSubs]
  | sub :: rest, cp, w, longest => by
    unfold runSubs
    rw [if_neg (by rw [hdry]; decide), List.forall_mem_cons]
    rcases hresult : (p.runs sub).result with e | requeue
    · simp
    · have ih := @runSubs_ok_iff p hdry rest ((p.runs sub).writes.foldl StatusWrite.apply cp)
        { (p.runs sub).effect w with controlPlanes := w.controlPlanes, statusLog := w.statusLog }
        (max longest requeue)
      simpa using ih

theorem servicesCondition_interrupted (h : ¬ t.Completes cp) :
    servicesCondition (t.next order cp) = servicesCondition cp := by
  unfold IdleTurn.next
  by_cases hpin : pinnedElsewhere t.op (observed cp) = true
  · unfold reconcileAll
    rw [if_pos hpin]
    exact servicesCondition_set_of_ne (by decide) (observed cp) _ _ _
  · have hactive : pinnedElsewhere t.op (observed cp) = false := Bool.eq_false_iff.mpr hpin
    have hkept := @servicesCondition_runSubs t order subs (activated (observed cp)) t.world 0
    rcases @reconcileAll_cases t.op ⟨t.runs, order.1, order.2⟩ (observed cp) t.world hactive with
      ⟨e, cp', w', hrun, heq⟩ | ⟨longest, cp', w', hrun, -⟩
    · rw [heq]
      rw [hrun, servicesCondition_activated] at hkept
      exact hkept
    · refine absurd ⟨hactive, ?_⟩ h
      by_cases hdry : t.op.dryRun = true
      · exact Or.inl hdry
      · have hresults := (@runSubs_ok_iff t ⟨t.runs, order.1, order.2⟩ (Bool.eq_false_iff.mpr hdry)
          subs (activated (observed cp)) t.world 0).mp ⟨longest, _, hrun⟩
        exact Or.inr fun sub => hresults sub (mem_subs sub)

/-- A pass that gets to its end counts the services after the loop, and then changes neither the
entries nor the condition. -/
theorem next_of_completes (h : t.Completes cp) : ∃ longest cp' w',
    runSubs t.op ⟨t.runs, order.1, order.2⟩ subs (activated (observed cp)) t.world 0 =
      (.ok longest, cp', w') ∧
    servicesCondition (t.next order cp) = servicesCondition (aggregateServicesReady order.1 cp') ∧
    (t.next order cp).status.services = cp'.status.services := by
  have hactive : pinnedElsewhere t.op (observed cp) = false := h.1
  have hok : ∃ n r, runSubs t.op ⟨t.runs, order.1, order.2⟩ subs (activated (observed cp))
      t.world 0 = (.ok n, r) := by
    by_cases hdry : t.op.dryRun = true
    · exact ⟨_, _, runSubs_dryRun hdry _ subs _ _ _⟩
    · exact (runSubs_ok_iff (Bool.eq_false_iff.mpr hdry)).mpr fun sub _ => h.2.resolve_left hdry sub
  obtain ⟨n, r, hok⟩ := hok
  rcases @reconcileAll_cases t.op ⟨t.runs, order.1, order.2⟩ (observed cp) t.world hactive with
    ⟨e, cp', w', hrun, -⟩ | ⟨longest, cp', w', hrun, heq⟩
  · rw [hok] at hrun
    cases hrun
  · have hservices := (aggregateServicesReady_frame order.1 cp').2.2.2
    refine ⟨longest, cp', w', hrun, ?_⟩
    unfold IdleTurn.next
    rw [heq, ← hservices]
    split_ifs <;> exact ⟨rfl, rfl⟩

/-- **What a pass leaves that gets to its end**: the verdict over the entries it stores. -/
theorem servicesCondition_completes (h : t.Completes cp) :
    servicesCondition (t.next order cp) =
      some (verdict (awaited cp fun svc => serviceReady (t.next order cp) svc.name) order.1) := by
  obtain ⟨longest, cp', w', hrun, hcondition, hservices⟩ := @next_of_completes t order cp h
  have hspec : cp'.spec = cp.spec := by
    have hframe := (runSubs_frame t.op ⟨t.runs, order.1, order.2⟩ subs (activated (observed cp))
      t.world 0).2.1
    rw [hrun] at hframe
    exact hframe
  have hready : ∀ svc : Service,
      serviceReady cp' svc.name = serviceReady (t.next order cp) svc.name := by
    intro svc
    unfold serviceReady
    rw [hservices]
  rw [hcondition, servicesCondition_aggregate, awaited_congr hspec hready]

end Passes

/-! ### Runs -/

section Runs

variable {turns : ℕ → IdleTurn} {orders : ℕ → ServiceOrder} {cp : ControlPlane}

theorem spec_afterIdle : ∀ n, (afterIdle turns orders cp n).spec = cp.spec
  | 0 => rfl
  | n + 1 => by
    have ih := spec_afterIdle n
    exact (reconcileAll_frame _ _ _ _).2.1.trans ih

/-- What counts for a pass in a run is the specification, which stays. -/
theorem completes_afterIdle (t : IdleTurn) (n : ℕ) :
    t.Completes (afterIdle turns orders cp n) ↔ t.Completes cp := by
  unfold IdleTurn.Completes pinnedElsewhere
  rw [spec_afterIdle]

/-- In a run with unchanged entries a pass that gets to its end leaves the verdict over them. -/
theorem servicesCondition_afterIdle {ready : Service → Bool} {n : ℕ}
    (hready : ∀ svc : Service,
      serviceReady (afterIdle turns orders cp (n + 1)) svc.name = ready svc)
    (hcompletes : (turns n).Completes cp) :
    servicesCondition (afterIdle turns orders cp (n + 1)) =
      some (verdict (awaited cp ready) (orders n).1) := by
  have hpass := @servicesCondition_completes (turns n) (orders n) (afterIdle turns orders cp n)
    ((completes_afterIdle (turns n) n).mpr hcompletes)
  have hawaited : awaited (afterIdle turns orders cp n)
      (fun svc => serviceReady (afterIdle turns orders cp (n + 1)) svc.name) = awaited cp ready :=
    awaited_congr (spec_afterIdle n) hready
  rw [← hawaited]
  exact hpass

/-- **Waiting leaves the status alone** exactly when at most one service is awaited, or no later
pass gets to its end. -/
theorem servicesCondition_stable_iff (turns : ℕ → IdleTurn) (cp : ControlPlane)
    (ready : Service → Bool)
    (hfirst : (turns 0).Completes cp)
    (hready : ∀ orders n (svc : Service),
      serviceReady (afterIdle turns orders cp (n + 1)) svc.name = ready svc) :
    (∀ orders n, servicesCondition (afterIdle turns orders cp (n + 1)) =
      servicesCondition (afterIdle turns orders cp 1)) ↔
    (serviceNames.filter (awaited cp ready)).length ≤ 1 ∨ ∀ n, ¬ (turns (n + 1)).Completes cp := by
  have hverdict : ∀ orders n, (turns n).Completes cp →
      servicesCondition (afterIdle turns orders cp (n + 1)) =
        some (verdict (awaited cp ready) (orders n).1) :=
    fun orders n => servicesCondition_afterIdle (hready orders n)
  constructor
  · intro h
    by_contra hnot
    rw [not_or, not_le] at hnot
    obtain ⟨htwo, hlater⟩ := hnot
    obtain ⟨n, hn⟩ := not_forall_not.mp hlater
    -- the first pass takes the services in one order, all others in the reverse one
    let orders : ℕ → ServiceOrder := fun m =>
      if m = 0 then ⟨serviceNames, List.Perm.refl _⟩
      else ⟨serviceNames.reverse, List.reverse_perm _⟩
    have hlast := h orders (n + 1)
    rw [hverdict orders (n + 1) hn, hverdict orders 0 hfirst] at hlast
    exact verdict_ne htwo (Option.some.inj hlast).symm
  · rintro hcases orders n
    induction n with
    | zero => rfl
    | succ n ih =>
      by_cases hn : (turns (n + 1)).Completes cp
      · rcases hcases with hone | hnone
        · rw [hverdict orders (n + 1) hn, hverdict orders 0 hfirst,
            verdict_eq (orders (n + 1)).2 hone, verdict_eq (orders 0).2 hone]
        · exact absurd hn (hnone n)
      · have hkept := @servicesCondition_interrupted (turns (n + 1)) (orders (n + 1))
          (afterIdle turns orders cp (n + 1)) ((completes_afterIdle _ _).not.mpr hn)
        exact hkept.trans ih

end Runs

/-! ### A cluster that is starting up -/

/-- A pass in which the listed services report that they are not ready, and nothing else is
written. -/
def startingUp (reporting : List Service) : IdleTurn where
  op := {}
  runs sub :=
    { writes := (reporting.filter (serviceSub · = sub)).map fun svc =>
        .service svc.name { message := "waiting for pods" } }
  world := {}
  quiet := by
    intro sub x hx cp
    obtain ⟨svc, -, rfl⟩ := List.mem_map.mp hx
    rfl

theorem startingUp_completes (reporting : List Service) {cp : ControlPlane}
    (hchannel : cp.spec.operatorChannel = "") : (startingUp reporting).Completes cp := by
  refine ⟨?_, Or.inr fun sub => ⟨0, rfl⟩⟩
  unfold pinnedElsewhere
  rw [hchannel]
  rfl

/-- While the services start up none of them gets ready. -/
theorem startingUp_not_ready {reporting : List Service} {order : ServiceOrder} {cp : ControlPlane}
    (hchannel : cp.spec.operatorChannel = "") (h : ∀ name, serviceReady cp name = false) :
    ∀ name, serviceReady ((startingUp reporting).next order cp) name = false := by
  obtain ⟨longest, cp', w', hrun, -, hservices⟩ :=
    @next_of_completes (startingUp reporting) order cp (startingUp_completes reporting hchannel)
  have hloop : ∀ name, serviceReady cp' name = false := by
    have hkeeps := @runSubs_keeps (startingUp reporting).op
      ⟨(startingUp reporting).runs, order.1, order.2⟩ (fun c => ∀ name, serviceReady c name = false)
      (by
        intro sub x hx c hc name
        obtain ⟨svc, -, rfl⟩ := List.mem_map.mp hx
        have hname := hc name
        unfold serviceReady at hname ⊢
        simp only [StatusWrite.apply, GoMap.get?_insert]
        split_ifs
        · rfl
        · exact hname)
      subs (activated (observed cp)) (startingUp reporting).world 0 h
    rw [hrun] at hkeeps
    exact hkeeps
  intro name
  have hname := hloop name
  unfold serviceReady at hname ⊢
  rw [hservices]
  exact hname

/-- A control plane with some of the services. -/
def withServices (smd tokensmith : Bool) : ControlPlane where
  metadata := { name := "alpha", «namespace» := "default", uid := "uid-alpha" }
  spec :=
    { clusterName := "alpha"
      services := { smd := { enabled := smd }, tokensmith := { enabled := tokensmith } } }

/-- SMD starts up alone. -/
def oneStarting (orders : ℕ → ServiceOrder) : ℕ → ControlPlane :=
  afterIdle (fun _ => startingUp [.smd]) orders (withServices true false)

/-- SMD and tokensmith start up. -/
def twoStarting (orders : ℕ → ServiceOrder) : ℕ → ControlPlane :=
  afterIdle (fun _ => startingUp [.smd, .tokensmith]) orders (withServices true true)

theorem servicesCondition_stable_one :
    (serviceNames.filter (awaited (withServices true false) fun _ => false)).length ≤ 1 ∧
    ∀ (orders : ℕ → ServiceOrder) (n : ℕ),
      servicesCondition (oneStarting orders (n + 1)) =
        servicesCondition (oneStarting orders 1) := by
  have hready : ∀ (orders : ℕ → ServiceOrder) (n : ℕ) (name : String),
      serviceReady (oneStarting orders n) name = false := by
    intro orders n
    induction n with
    | zero => exact fun _ => rfl
    | succ n ih =>
      have hchannel : (oneStarting orders n).spec.operatorChannel = "" := by
        rw [oneStarting, spec_afterIdle]
        rfl
      exact startingUp_not_ready hchannel ih
  have hone :
      (serviceNames.filter (awaited (withServices true false) fun _ => false)).length ≤ 1 := by
    decide
  exact ⟨hone, (servicesCondition_stable_iff (fun _ => startingUp [.smd]) (withServices true false)
    (fun _ => false) (startingUp_completes _ rfl)
    fun orders n svc => hready orders (n + 1) svc.name).mpr (Or.inl hone)⟩

/-- Two services that start up change places in the message. -/
theorem servicesCondition_flips : ∃ orders : ℕ → ServiceOrder,
    (twoStarting orders 2).spec = (twoStarting orders 1).spec ∧
    (twoStarting orders 2).status.services = (twoStarting orders 1).status.services ∧
    servicesCondition (twoStarting orders 1) =
      some (.false, "Provisioning", "waiting on services: [smd tokensmith]") ∧
    servicesCondition (twoStarting orders 2) =
      some (.false, "Provisioning", "waiting on services: [tokensmith smd]") := by
  refine ⟨fun n => if n = 0 then ⟨serviceNames, List.Perm.refl _⟩
    else ⟨serviceNames.reverse, List.reverse_perm _⟩, ?_⟩
  decide +kernel

end OpenchamiOperator.Controller
