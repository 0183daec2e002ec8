import OpenchamiOperator.Controller.Reconcile

/-! # Sub-reconcilers as lists of actions

Once its reads are answered, a sub-reconciler sends its requests and writes its part of the status in
a fixed order, and stops at the first request that fails. So a call is a list of actions, and what
becomes of it a function of the fates of its requests.

* `runActs_ok`: a call that returns without an error has done all its actions.
* `runActs_served`: when every request is served, it does return.
* `has_acts`: which objects are there afterwards.
* `sent_isPrefix`, `sent_of_ok`: which of its requests reach the server.
* `shared_runActs`: what these make of the objects and of Vault. -/

namespace OpenchamiOperator.Controller

open Lib Api Reconcilers

/-! ### Actions -/

/-- What a request changes: nothing if it reads, or if no call modelled here looks at what it
changes. `patch` sets a field of an object that is there, under a field manager of its own. -/
inductive Effect where
  | none
  | apply (o : KubeObject)
  | patch (o : KubeObject)
  | delete (k : KubeKind × String × String)
  | ensureSecret (path : String) (overwrite : Bool)
deriving DecidableEq

/-- The effect of a request of the reconciler of `cp`. -/
def Effect.run (cp : ControlPlane) (w : World) : Effect → World
  | .none => w
  | .apply o => { w with objects := w.objects.apply o }
  | .patch _ => w
  | .delete k => { w with objects := w.objects.delete k }
  | .ensureSecret path overwrite => { w with
      vault := w.vault.ensureSecret path overwrite
      kvWrites := if w.vault.ensures path overwrite then w.kvWrites ++ [(cp.metadata.uid, path)]
        else w.kvWrites }

/-- One action. A request comes with the context of its error, and with what is written and recorded
when it fails; `stop` is an error of the reconciler's own. -/
inductive Act where
  | write (x : StatusWrite)
  | event (e : Event)
  | request (effect : Effect) (context : String) (writes : List StatusWrite := [])
      (events : List Event := [])
  | stop (e : OpError) (writes : List StatusWrite := []) (events : List Event := [])
deriving DecidableEq

/-- The text of an error. The server's part of it is not known here. -/
def errorText (context : String) : String := context ++ ": request failed"

/-- A call: its actions, and the delay in seconds after which it asks to be called again. -/
structure Program where
  acts : List Act := []
  requeueAfter : ℕ := 0

/-- What becomes of a call. -/
def runActs (cp : ControlPlane) (requeueAfter : ℕ) : List Act → List Fate → SubRun
  | [], _ => { result := .ok requeueAfter }
  | .write x :: acts, fates =>
    let r := runActs cp requeueAfter acts fates
    { r with writes := x :: r.writes }
  | .event e :: acts, fates =>
    let r := runActs cp requeueAfter acts fates
    { r with effect := fun w => r.effect (w.record cp [e]) }
  | .stop e writes events :: _, _ =>
    { writes := writes, effect := fun w => w.record cp events, result := .error e }
  | .request _ context writes events :: _, .lost :: _ =>
    { writes := writes
      effect := fun w => w.record cp events
      result := .error ⟨context, .failed⟩ }
  | .request eff context writes events :: _, .late :: _ =>
    { writes := writes
      effect := fun w => (eff.run cp w).record cp events
      result := .error ⟨context, .failed⟩ }
  | .request eff _ _ _ :: acts, fates =>
    let r := runActs cp requeueAfter acts fates.tail
    { r with effect := fun w => r.effect (eff.run cp w) }

def Program.run (p : Program) (cp : ControlPlane) (fates : List Fate) : SubRun :=
  runActs cp p.requeueAfter p.acts fates

/-! ### Calls without an error -/

theorem exists_of_isOk {ε α : Type} {r : Except ε α} (h : r.isOk = true) : ∃ a, r = .ok a := by
  cases r with
  | error e => cases h
  | ok a => exact ⟨a, rfl⟩

def Act.write? : Act → Option StatusWrite
  | .write x => some x
  | _ => none

/-- The object an action applies. -/
def Act.applied? : Act → Option KubeObject
  | .request (.apply o) _ _ _ => some o
  | _ => none

def Act.isStop : Act → Bool
  | .stop _ _ _ => true
  | _ => false

/-- The program comes to no error of its own. -/
abbrev Program.Clear (p : Program) : Prop := ∀ a ∈ p.acts, a.isStop = false

/-- The effect of an action that goes through. -/
def Act.run (cp : ControlPlane) (w : World) : Act → World
  | .event e => w.record cp [e]
  | .request eff _ _ _ => eff.run cp w
  | _ => w

/-- The entries a call without an error writes into the status. -/
def Program.writes (p : Program) : List StatusWrite := p.acts.filterMap Act.write?

/-- The objects a call without an error applies. -/
def Program.applied (p : Program) : List KubeObject := p.acts.filterMap Act.applied?

section Lists

variable (acts : List Act) (x : StatusWrite) (e : Event) (eff : Effect) (context : String)
  (writes : List StatusWrite) (events : List Event) (o : KubeObject)

@[simp] theorem writes_cons_write :
    (Act.write x :: acts).filterMap Act.write? = x :: acts.filterMap Act.write? := rfl

@[simp] theorem writes_cons_event :
    (Act.event e :: acts).filterMap Act.write? = acts.filterMap Act.write? := rfl

@[simp] theorem writes_cons_request :
    (Act.request eff context writes events :: acts).filterMap Act.write? =
      acts.filterMap Act.write? := rfl

@[simp] theorem applied_cons_apply :
    (Act.request (.apply o) context writes events :: acts).filterMap Act.applied? =
      o :: acts.filterMap Act.applied? := rfl

@[simp] theorem applied_cons_none :
    (Act.request .none context writes events :: acts).filterMap Act.applied? =
      acts.filterMap Act.applied? := rfl

@[simp] theorem applied_cons_write :
    (Act.write x :: acts).filterMap Act.applied? = acts.filterMap Act.applied? := rfl

@[simp] theorem applied_cons_event :
    (Act.event e :: acts).filterMap Act.applied? = acts.filterMap Act.applied? := rfl

end Lists

/-- **A call that returns without an error has done all its actions.** -/
theorem runActs_ok {cp : ControlPlane} {requeueAfter longest : ℕ} : ∀ {acts : List Act}
    {fates : List Fate}, (runActs cp requeueAfter acts fates).result = .ok longest →
      longest = requeueAfter ∧ (∀ a ∈ acts, a.isStop = false) ∧
        (runActs cp requeueAfter acts fates).writes = acts.filterMap Act.write? ∧
        ∀ w, (runActs cp requeueAfter acts fates).effect w = acts.foldl (Act.run cp) w := by
  intro acts
  induction acts with
  | nil =>
    intro fates h
    cases h
    exact ⟨rfl, by simp, rfl, fun _ => rfl⟩
  | cons a acts ih =>
    intro fates h
    cases a with
    | write x =>
      obtain ⟨hlongest, hstop, hwrites, heffect⟩ := @ih fates h
      exact ⟨hlongest, List.forall_mem_cons.mpr ⟨rfl, hstop⟩, congrArg (x :: ·) hwrites, heffect⟩
    | event e =>
      obtain ⟨hlongest, hstop, hwrites, heffect⟩ := @ih fates h
      exact ⟨hlongest, List.forall_mem_cons.mpr ⟨rfl, hstop⟩, hwrites, fun w => heffect _⟩
    | stop e writes events => cases h
    | request eff context writes events =>
      -- the request was served, now or because no fate was left
      have served : ∀ fs, (runActs cp requeueAfter acts fs).result = .ok longest →
          longest = requeueAfter ∧
            (∀ a ∈ Act.request eff context writes events :: acts, a.isStop = false) ∧
            (runActs cp requeueAfter acts fs).writes =
              (Act.request eff context writes events :: acts).filterMap Act.write? ∧
            ∀ w, (runActs cp requeueAfter acts fs).effect (eff.run cp w) =
              (Act.request eff context writes events :: acts).foldl (Act.run cp) w := by
        intro fs hfs
        obtain ⟨hlongest, hstop, hwrites, heffect⟩ := @ih fs hfs
        exact ⟨hlongest, List.forall_mem_cons.mpr ⟨rfl, hstop⟩, hwrites, fun w => heffect _⟩
      rcases fates with _ | ⟨_ | _ | _, fs⟩
      · exact served [] h
      · exact served fs h
      · cases h
      · cases h

/-- When every request is served, a call without a `stop` returns. -/
theorem runActs_served (cp : ControlPlane) (requeueAfter : ℕ) : ∀ {acts : List Act},
    (∀ a ∈ acts, a.isStop = false) → (runActs cp requeueAfter acts []).result = .ok requeueAfter
  | [], _ => rfl
  | a :: acts, h => by
    obtain ⟨ha, hacts⟩ := List.forall_mem_cons.mp h
    cases a with
    | stop e writes events => cases ha
    | _ => exact @runActs_served cp requeueAfter acts hacts

/-- The key an action deletes. -/
def Act.deleted? : Act → Option (KubeKind × String × String)
  | .request (.delete k) _ _ _ => some k
  | _ => none

theorem has_acts {cp : ControlPlane} {k : KubeKind × String × String} : ∀ {acts : List Act} {w : World},
    (∀ a ∈ acts, a.deleted? ≠ some k) →
      ((acts.foldl (Act.run cp) w).objects.has k = true ↔
        w.objects.has k = true ∨ ∃ o ∈ acts.filterMap Act.applied?, o.key = k)
  | [], w, _ => by simp
  | a :: acts, w, h => by
    obtain ⟨ha, hacts⟩ := List.forall_mem_cons.mp h
    rw [List.foldl_cons, has_acts hacts]
    -- only `apply` and `delete` touch the objects
    cases a with
    | request eff context writes events =>
      cases eff with
      | apply o =>
        simp only [Act.run, Effect.run, Store.has_apply, List.filterMap_cons, Act.applied?,
          List.exists_mem_cons_iff]
        tauto
      | delete j =>
        have hne : j ≠ k := fun hjk => ha (congrArg some hjk)
        have hdelete : (w.objects.delete j).has k = true ↔ w.objects.has k = true := by
          simp only [Store.has_iff, Store.mem_delete]
          constructor
          · rintro ⟨o, ⟨ho, -⟩, hk⟩
            exact ⟨o, ho, hk⟩
          · rintro ⟨o, ho, hk⟩
            exact ⟨o, ⟨ho, fun hj => hne (hj.symm.trans hk)⟩, hk⟩
        simp only [Act.run, Effect.run, hdelete, List.filterMap_cons, Act.applied?]
      | _ => rfl
    | _ => rfl

theorem Act.run_frame (cp : ControlPlane) (w : World) (a : Act) :
    (a.run cp w).controlPlanes = w.controlPlanes ∧ (a.run cp w).statusLog = w.statusLog := by
  cases a with
  | request eff context writes events => cases eff <;> exact ⟨rfl, rfl⟩
  | _ => exact ⟨rfl, rfl⟩

/-! ### Requests that reach the server -/

/-- The effect of an action that is a request. -/
def Act.effect? : Act → Option Effect
  | .request eff _ _ _ => some eff
  | _ => none

/-- The effects of the requests that reach the server, in order. -/
def sent : List Act → List Fate → List Effect
  | [], _ => []
  | .write _ :: acts, fates => sent acts fates
  | .event _ :: acts, fates => sent acts fates
  | .stop _ _ _ :: _, _ => []
  | .request _ _ _ _ :: _, .lost :: _ => []
  | .request eff _ _ _ :: _, .late :: _ => [eff]
  | .request eff _ _ _ :: acts, fates => eff :: sent acts fates.tail

/-- A call sends its requests in order, up to the first that fails. -/
theorem sent_isPrefix : ∀ (acts : List Act) (fates : List Fate),
    sent acts fates <+: acts.filterMap Act.effect? := by
  intro acts
  induction acts with
  | nil => exact fun _ => List.nil_prefix
  | cons a acts ih =>
    intro fates
    cases a with
    | write x => exact ih fates
    | event e => exact ih fates
    | stop e writes events => exact List.nil_prefix
    | request eff context writes events =>
      have hcons : ∀ l, l <+: acts.filterMap Act.effect? →
          eff :: l <+: (Act.request eff context writes events :: acts).filterMap Act.effect? :=
        fun l hl => List.cons_prefix_cons.mpr ⟨rfl, hl⟩
      rcases fates with _ | ⟨_ | _ | _, fs⟩
      · exact hcons _ (ih [])
      · exact hcons _ (ih fs)
      · exact List.nil_prefix
      · exact hcons _ List.nil_prefix

theorem sent_of_ok {cp : ControlPlane} {requeueAfter longest : ℕ} : ∀ {acts : List Act}
    {fates : List Fate}, (runActs cp requeueAfter acts fates).result = .ok longest →
      sent acts fates = acts.filterMap Act.effect? := by
  intro acts
  induction acts with
  | nil => exact fun _ => rfl
  | cons a acts ih =>
    intro fates h
    cases a with
    | write x => exact @ih fates h
    | event e => exact @ih fates h
    | stop e writes events => cases h
    | request eff context writes events =>
      rcases fates with _ | ⟨_ | _ | _, fs⟩
      · exact congrArg (eff :: ·) (@ih [] h)
      · exact congrArg (eff :: ·) (@ih fs h)
      · cases h
      · cases h

/-! ### Objects and secrets -/

/-- What requests change outside the control planes: the Kubernetes objects, and the secrets in
Vault. -/
structure Shared where
  objects : KubeObjects
  vault : Vault.Kv

def World.shared (w : World) : Shared := ⟨w.objects, w.vault⟩

/-- What a request makes of the objects. -/
def Effect.onObjects (objects : KubeObjects) : Effect → KubeObjects
  | .apply o => objects.apply o
  | .delete k => objects.delete k
  | _ => objects

/-- What it makes of the secrets. -/
def Effect.onVault (kv : Vault.Kv) : Effect → Vault.Kv
  | .ensureSecret path overwrite => kv.ensureSecret path overwrite
  | _ => kv

def Effect.onShared (s : Shared) (eff : Effect) : Shared :=
  ⟨eff.onObjects s.objects, eff.onVault s.vault⟩

theorem Effect.shared_run (cp : ControlPlane) (w : World) (eff : Effect) :
    (eff.run cp w).shared = eff.onShared w.shared := by
  cases eff <;> rfl

/-- A call makes of them what its requests that reached the server make of them. -/
theorem shared_runActs (cp : ControlPlane) (requeueAfter : ℕ) : ∀ (acts : List Act)
    (fates : List Fate) (w : World), ((runActs cp requeueAfter acts fates).effect w).shared =
      (sent acts fates).foldl Effect.onShared w.shared := by
  intro acts
  induction acts with
  | nil => exact fun _ _ => rfl
  | cons a acts ih =>
    intro fates w
    cases a with
    | write x => exact ih fates w
    | event e => exact ih fates _
    | stop e writes events => rfl
    | request eff context writes events =>
      have hshared := eff.shared_run cp w
      have hserved : ∀ fs, ((runActs cp requeueAfter acts fs).effect (eff.run cp w)).shared =
          (sent acts fs).foldl Effect.onShared (eff.onShared w.shared) := fun fs => by
        rw [ih fs, hshared]
      rcases fates with _ | ⟨_ | _ | _, fs⟩
      · exact hserved []
      · exact hserved fs
      · rfl
      · exact hshared

theorem objects_foldl (effs : List Effect) (s : Shared) :
    (effs.foldl Effect.onShared s).objects = effs.foldl Effect.onObjects s.objects :=
  (List.foldl_hom Shared.objects fun _ _ => rfl).symm

theorem objects_runActs (cp : ControlPlane) (requeueAfter : ℕ) (acts : List Act)
    (fates : List Fate) (w : World) : ((runActs cp requeueAfter acts fates).effect w).objects =
      (sent acts fates).foldl Effect.onObjects w.objects :=
  (congrArg Shared.objects (shared_runActs cp requeueAfter acts fates w)).trans (objects_foldl _ _)

end OpenchamiOperator.Controller
