import Mathlib.Logic.Function.Basic
import Mathlib.Logic.Relation
import Mathlib.Data.Set.Defs

/-! # Programs that run side by side on one remote state

A program sends requests, one after the other, and decides by the answer how to go on (`Proc`). A
request may fail; it may then have taken effect or not, and the program cannot tell. The remote state
is shared: between two requests of one program any number of requests of others may be served.

* `Sends`, `Starts`, `Step`: the steps of a pool of programs; every order of the requests, and every
  way in which they can fail, is a run.
* `Always`: a program keeps a promise about what its requests do to the state (`guar`) and keeps an
  assertion true, as long as the others change the state in an agreed way only (`rely`).
* `always_run`: what holds for each program alone, assuming what the others promise, holds in every
  state of a run; `guar_of_sends`: and every step keeps the promise of its program.
* `Keeps`: the rules for putting programs with errors together.
* `Eval`: a program that runs alone, from its beginning to its end. -/

namespace OpenchamiOperator.Lib.Interaction

open Relation

/-- A program with requests `Req`, answers `Resp` and a result in `α`. After a request that fails it
goes on as `k none`. -/
inductive Proc (Req : Type) (Resp : Req → Type) (α : Type) where
  | done (a : α)
  | ask (r : Req) (k : Option (Resp r) → Proc Req Resp α)

namespace Proc

variable {Req : Type} {Resp : Req → Type} {α β : Type}

/-- One program after another. -/
def bind : Proc Req Resp α → (α → Proc Req Resp β) → Proc Req Resp β
  | done a, f => f a
  | ask r k, f => ask r fun x => bind (k x) f

instance : Monad (Proc Req Resp) where
  pure := done
  bind := bind

/-- Send a request; when it fails the program stops with the error `e`. -/
def send {ε : Type} (r : Req) (e : ε) : ExceptT ε (Proc Req Resp) (Resp r) :=
  ExceptT.mk (ask r fun x => done (x.elim (.error e) .ok))

/-- One call for each element of a list, until one fails. -/
def forEach {ε : Type} (f : β → ExceptT ε (Proc Req Resp) Unit) :
    List β → ExceptT ε (Proc Req Resp) Unit
  | [] => pure ()
  | b :: l => do
    f b
    forEach f l

/-- The same program with another error. -/
def mapError {ε ε' : Type} (f : ε → ε') (x : ExceptT ε (Proc Req Resp) α) :
    ExceptT ε' (Proc Req Resp) α :=
  ExceptT.mk (x.run.bind fun r => done (r.mapError f))

end Proc

/-- A request and its answer, `none` when it failed. -/
structure Exchange (Req : Type) (Resp : Req → Type) where
  request : Req
  answer : Option (Resp request)

section Pool

variable {Req : Type} {Resp : Req → Type} {α σ ι : Type}

/-- The remote state, what is left of each program, and what each has exchanged so far. -/
structure Pool (Req : Type) (Resp : Req → Type) (α σ ι : Type) where
  state : σ
  procs : ι → Proc Req Resp α
  logs : ι → List (Exchange Req Resp)

variable (serve : (r : Req) → σ → Resp r → σ → Prop)
  (allowed : ι → List (Exchange Req Resp) → Exchange Req Resp → Prop)
  (programs : ι → Set (Proc Req Resp α))

/-- What one exchange does to the state: a request that is answered has taken effect, one that failed
may have. -/
inductive Effect (s : σ) : Exchange Req Resp → σ → Prop where
  | served {r : Req} {x : Resp r} {s' : σ} (h : serve r s x s') : Effect s ⟨r, some x⟩ s'
  | late {r : Req} {x : Resp r} {s' : σ} (h : serve r s x s') : Effect s ⟨r, none⟩ s'
  | lost {r : Req} : Effect s ⟨r, none⟩ s

variable [DecidableEq ι]

/-- The program `i` makes the exchange `e`. -/
def Sends (c : Pool Req Resp α σ ι) (i : ι) (e : Exchange Req Resp) (c' : Pool Req Resp α σ ι) :
    Prop :=
  ∃ k s', c.procs i = .ask e.request k ∧ allowed i (c.logs i) e ∧ Effect serve c.state e s' ∧
    c' = ⟨s', Function.update c.procs i (k e.answer), Function.update c.logs i (c.logs i ++ [e])⟩

/-- The program `i` is followed by `p`. -/
def Pool.start (c : Pool Req Resp α σ ι) (i : ι) (p : Proc Req Resp α) : Pool Req Resp α σ ι :=
  ⟨c.state, Function.update c.procs i p, Function.update c.logs i []⟩

/-- A program that has ended is followed by another one. -/
def Starts (c : Pool Req Resp α σ ι) (i : ι) (c' : Pool Req Resp α σ ι) : Prop :=
  ∃ a, ∃ p ∈ programs i, c.procs i = .done a ∧ c' = c.start i p

/-- A step of the pool, in which only `allowed` exchanges happen. -/
def Step (c c' : Pool Req Resp α σ ι) : Prop :=
  (∃ i e, Sends serve allowed c i e c') ∨ ∃ i, Starts programs c i c'

/-- The next request of the program `i` is served, by a server that answers every request. -/
def Pool.turn (answer : (r : Req) → σ → Resp r × σ) (c : Pool Req Resp α σ ι) (i : ι) :
    Pool Req Resp α σ ι :=
  match c.procs i with
  | .done _ => c
  | .ask r k =>
    ⟨(answer r c.state).2, Function.update c.procs i (k (some (answer r c.state).1)),
      Function.update c.logs i (c.logs i ++ [⟨r, some (answer r c.state).1⟩])⟩

variable {serve allowed programs}

theorem run_start {c : Pool Req Resp α σ ι} {i : ι} {a : α} {p : Proc Req Resp α}
    (hp : p ∈ programs i) (hdone : c.procs i = .done a) :
    ReflTransGen (Step serve allowed programs) c (c.start i p) :=
  .single (.inr ⟨i, a, p, hp, hdone, rfl⟩)

theorem run_turn {answer : (r : Req) → σ → Resp r × σ}
    (hanswer : ∀ r s, serve r s (answer r s).1 (answer r s).2) {c : Pool Req Resp α σ ι} {i : ι}
    (hallowed : ∀ r, allowed i (c.logs i) ⟨r, some (answer r c.state).1⟩) :
    ReflTransGen (Step serve allowed programs) c (c.turn answer i) := by
  unfold Pool.turn
  split
  · exact .refl
  · rename_i r k hproc
    exact .single (.inl ⟨i, ⟨r, _⟩, k, _, hproc, hallowed r, .served (hanswer r _), rfl⟩)

end Pool

/-! ### One program among others -/

section Always

variable {Req : Type} {Resp : Req → Type} {α σ : Type}

section Defs

variable (serve : (r : Req) → σ → Resp r → σ → Prop)
  (allowed : List (Exchange Req Resp) → Exchange Req Resp → Prop) (rely : σ → σ → Prop)
  (guar : List (Exchange Req Resp) → Exchange Req Resp → σ → σ → Prop)
  (Q : List (Exchange Req Resp) → Proc Req Resp α → σ → Prop)

/-- From now on: whenever the others have changed the state as agreed, `Q` holds, and the next
exchange keeps the promise and leads on to such a program. -/
def Always : Proc Req Resp α → List (Exchange Req Resp) → σ → Prop
  | .done a, l, s => ∀ s', rely s s' → Q l (.done a) s'
  | .ask r k, l, s => ∀ s', rely s s' → Q l (.ask r k) s' ∧
      ∀ x s'', Effect serve s' ⟨r, x⟩ s'' → allowed l ⟨r, x⟩ →
        guar l ⟨r, x⟩ s' s'' ∧ Always (k x) (l ++ [⟨r, x⟩]) s''

end Defs

variable {serve : (r : Req) → σ → Resp r → σ → Prop}
  {allowed : List (Exchange Req Resp) → Exchange Req Resp → Prop} {rely : σ → σ → Prop}
  {guar : List (Exchange Req Resp) → Exchange Req Resp → σ → σ → Prop}
  {Q : List (Exchange Req Resp) → Proc Req Resp α → σ → Prop} {p : Proc Req Resp α}
  {l : List (Exchange Req Resp)} {s s' : σ}

/-- What the others do leaves it as it is. -/
theorem Always.of_rely (htrans : ∀ a b c, rely a b → rely b c → rely a c)
    (h : Always serve allowed rely guar Q p l s) (hs : rely s s') :
    Always serve allowed rely guar Q p l s' := by
  cases p with
  | done a => exact fun t ht => h t (htrans _ _ _ hs ht)
  | ask r k => exact fun t ht => h t (htrans _ _ _ hs ht)

theorem Always.now (hrefl : ∀ a, rely a a) (h : Always serve allowed rely guar Q p l s) :
    Q l p s := by
  cases p with
  | done a => exact h s (hrefl s)
  | ask r k => exact (h s (hrefl s)).1

theorem Always.mono {Q' : List (Exchange Req Resp) → Proc Req Resp α → σ → Prop}
    (hQ : ∀ l p s, Q l p s → Q' l p s) : ∀ {p : Proc Req Resp α} {l : List (Exchange Req Resp)}
    {s : σ}, Always serve allowed rely guar Q p l s → Always serve allowed rely guar Q' p l s
  | .done _, _, _, h => fun t ht => hQ _ _ _ (h t ht)
  | .ask _ _, _, _, h => fun t ht => ⟨hQ _ _ _ (h t ht).1, fun x u hu hallowed =>
      ⟨((h t ht).2 x u hu hallowed).1, ((h t ht).2 x u hu hallowed).2.mono hQ⟩⟩

end Always

/-! ### Programs with errors

Requests that fail end a program with an error, so what is asserted after a part of a program is
asserted for the case that it succeeds. -/

section Keeps

variable {Req : Type} {Resp : Req → Type} {α β ε σ : Type}

/-- `post` holds at the end. -/
def Ends (post : List (Exchange Req Resp) → α → σ → Prop) :
    List (Exchange Req Resp) → Proc Req Resp α → σ → Prop :=
  fun l p s => ∀ a, p = .done a → post l a s

/-- Started where `pre` holds the program keeps its promise, and if it succeeds `post` holds. -/
def Keeps (serve : (r : Req) → σ → Resp r → σ → Prop) (rely : σ → σ → Prop)
    (guar : List (Exchange Req Resp) → Exchange Req Resp → σ → σ → Prop)
    (pre : List (Exchange Req Resp) → σ → Prop) (x : ExceptT ε (Proc Req Resp) α)
    (post : α → List (Exchange Req Resp) → σ → Prop) : Prop :=
  ∀ l s, pre l s → Always serve (fun _ _ => True) rely guar
    (Ends fun l r s => ∀ a, r = .ok a → post a l s) x.run l s

/-- An assertion that what the others do leaves true. -/
def Stable (rely : σ → σ → Prop) (pre : List (Exchange Req Resp) → σ → Prop) : Prop :=
  ∀ l s s', pre l s → rely s s' → pre l s'

variable {serve : (r : Req) → σ → Resp r → σ → Prop} {rely : σ → σ → Prop}
  {guar : List (Exchange Req Resp) → Exchange Req Resp → σ → σ → Prop}

theorem ends_ask {post : List (Exchange Req Resp) → α → σ → Prop} {l : List (Exchange Req Resp)}
    {r : Req} {k : Option (Resp r) → Proc Req Resp α} {s : σ} : Ends post l (.ask r k) s := by
  intro a ha
  cases ha

theorem Always.bind {allowed : List (Exchange Req Resp) → Exchange Req Resp → Prop}
    {post : List (Exchange Req Resp) → α → σ → Prop} {post' : List (Exchange Req Resp) → β → σ → Prop}
    (hrefl : ∀ a, rely a a) {f : α → Proc Req Resp β}
    (hf : ∀ a l s, post l a s → Always serve allowed rely guar (Ends post') (f a) l s) :
    ∀ (p : Proc Req Resp α) (l : List (Exchange Req Resp)) (s : σ),
      Always serve allowed rely guar (Ends post) p l s →
      Always serve allowed rely guar (Ends post') (p.bind f) l s
  | .done a, l, s, h => hf a l s (h s (hrefl s) a rfl)
  | .ask r k, l, s, h => by
    intro t ht
    obtain ⟨-, hnext⟩ := h t ht
    refine ⟨ends_ask, fun x u hu hallowed => ?_⟩
    obtain ⟨hguar, hrest⟩ := hnext x u hu hallowed
    exact ⟨hguar, Always.bind hrefl hf (k x) _ u hrest⟩

variable {pre : List (Exchange Req Resp) → σ → Prop} {x : ExceptT ε (Proc Req Resp) α}
  {post : α → List (Exchange Req Resp) → σ → Prop}

theorem Keeps.bind (hrefl : ∀ a, rely a a) {f : α → ExceptT ε (Proc Req Resp) β}
    {post' : β → List (Exchange Req Resp) → σ → Prop} (hx : Keeps serve rely guar pre x post)
    (hf : ∀ a, Keeps serve rely guar (post a) (f a) post') :
    Keeps serve rely guar pre (x >>= f) post' := by
  intro l s hpre
  refine Always.bind hrefl (fun r l s hpost => ?_) x.run l s (hx l s hpre)
  cases r with
  | error e => exact fun t _ a ha b hb => by cases ha; cases hb
  | ok a => exact hf a l s (hpost a rfl)

theorem Keeps.pure {pre : List (Exchange Req Resp) → σ → Prop} {a : α} (hstable : Stable rely pre)
    (h : ∀ l s, pre l s → post a l s) :
    Keeps serve rely guar pre (Pure.pure a : ExceptT ε (Proc Req Resp) α) post := by
  rintro l s hpre t ht _ ⟨⟩ _ ⟨⟩
  exact h l t (hstable l s t hpre ht)

theorem Keeps.throw {e : ε} :
    Keeps serve rely guar pre (MonadExcept.throw e : ExceptT ε (Proc Req Resp) α) post := by
  rintro l s _ t _ _ ⟨⟩ _ h
  cases h

theorem Keeps.send {r : Req} {e : ε} {post : Resp r → List (Exchange Req Resp) → σ → Prop}
    (hstable : Stable rely pre) (hstable' : ∀ y, Stable rely (post y))
    (hguar : ∀ l s x s', pre l s → Effect serve s ⟨r, x⟩ s' → guar l ⟨r, x⟩ s s')
    (hpost : ∀ l s y s', pre l s → serve r s y s' → post y (l ++ [⟨r, some y⟩]) s') :
    Keeps serve rely guar pre (Proc.send r e : ExceptT ε (Proc Req Resp) (Resp r)) post := by
  intro l s hpre t ht
  have hpre' := hstable l s t hpre ht
  refine ⟨ends_ask, fun x u hu _ => ⟨hguar l t x u hpre' hu, ?_⟩⟩
  rintro v hv _ ⟨⟩ y hy
  cases hu with
  | served h =>
    cases hy
    exact hstable' _ _ u v (hpost l t _ u hpre' h) hv
  | late h => cases hy
  | lost => cases hy

theorem Keeps.conseq {pre' : List (Exchange Req Resp) → σ → Prop}
    {post' : α → List (Exchange Req Resp) → σ → Prop} (h : Keeps serve rely guar pre x post)
    (hpre : ∀ l s, pre' l s → pre l s) (hpost : ∀ a l s, post a l s → post' a l s) :
    Keeps serve rely guar pre' x post' := by
  intro l s hs
  exact Always.mono (fun l p s hends r hr a ha => hpost a l s (hends r hr a ha)) (h l s (hpre l s hs))

theorem Keeps.mapError (hrefl : ∀ a, rely a a) (hstable : ∀ a, Stable rely (post a)) {ε' : Type}
    (h : Keeps serve rely guar pre x post) (f : ε → ε') :
    Keeps serve rely guar pre (Proc.mapError f x) post := by
  intro l s hpre
  refine Always.bind hrefl (fun r l s hpost => ?_) x.run l s (h l s hpre)
  rintro t ht _ ⟨⟩ a ha
  cases r with
  | error e => cases ha
  | ok b =>
    cases ha
    exact hstable a l s t (hpost a rfl) ht

/-- The rule for a loop: `pre` is its invariant. -/
theorem Keeps.forEach (hrefl : ∀ a, rely a a) (hstable : Stable rely pre)
    {f : β → ExceptT ε (Proc Req Resp) Unit} :
    ∀ {l : List β}, (∀ b ∈ l, Keeps serve rely guar pre (f b) fun _ => pre) →
      Keeps serve rely guar pre (Proc.forEach f l) fun _ => pre
  | [], _ => Keeps.pure hstable fun _ _ h => h
  | _ :: _, h => Keeps.bind hrefl (h _ List.mem_cons_self) fun _ =>
      Keeps.forEach hrefl hstable fun b hb => h b (List.mem_cons_of_mem _ hb)

/-- What has been exchanged stays exchanged. -/
theorem Always.mem_log {allowed : List (Exchange Req Resp) → Exchange Req Resp → Prop}
    {post : List (Exchange Req Resp) → α → σ → Prop} {e : Exchange Req Resp} :
    ∀ {p : Proc Req Resp α} {l : List (Exchange Req Resp)} {s : σ}, e ∈ l →
      Always serve allowed rely guar (Ends post) p l s →
      Always serve allowed rely guar (Ends fun l a s => post l a s ∧ e ∈ l) p l s
  | .done _, _, _, he, h => fun t ht a ha => ⟨h t ht a ha, he⟩
  | .ask _ _, _, _, he, h => fun t ht => ⟨ends_ask, fun x u hu hallowed =>
      ⟨((h t ht).2 x u hu hallowed).1,
        ((h t ht).2 x u hu hallowed).2.mem_log (List.mem_append_left _ he)⟩⟩

/-- The rule for what has been exchanged before. -/
theorem Keeps.mem_log (h : Keeps serve rely guar pre x post) (e : Exchange Req Resp) :
    Keeps serve rely guar (fun l s => pre l s ∧ e ∈ l) x fun a l s => post a l s ∧ e ∈ l := by
  rintro l s ⟨hpre, he⟩
  exact Always.mono (fun _ _ _ hends r hr a ha => ⟨(hends r hr).1 a ha, (hends r hr).2⟩)
    ((h l s hpre).mem_log he)

end Keeps

/-! ### All programs of a pool -/

section Run

variable {Req : Type} {Resp : Req → Type} {α σ ι : Type} [DecidableEq ι]
  {serve : (r : Req) → σ → Resp r → σ → Prop}
  {allowed : ι → List (Exchange Req Resp) → Exchange Req Resp → Prop}
  {programs : ι → Set (Proc Req Resp α)} {rely : ι → σ → σ → Prop}
  {guar : ι → List (Exchange Req Resp) → Exchange Req Resp → σ → σ → Prop}
  {Q : ι → List (Exchange Req Resp) → Proc Req Resp α → σ → Prop}

/-- Every program of the pool is on its way. -/
def AllAlways (serve : (r : Req) → σ → Resp r → σ → Prop)
    (allowed : ι → List (Exchange Req Resp) → Exchange Req Resp → Prop) (rely : ι → σ → σ → Prop)
    (guar : ι → List (Exchange Req Resp) → Exchange Req Resp → σ → σ → Prop)
    (Q : ι → List (Exchange Req Resp) → Proc Req Resp α → σ → Prop) (c : Pool Req Resp α σ ι) : Prop :=
  ∀ i, Always serve (allowed i) (rely i) (guar i) (Q i) (c.procs i) (c.logs i) c.state

/-- What the programs agree on: the order in which the others act does not matter, and what one of
them promises is what the others rely on. -/
structure Agreement (rely : ι → σ → σ → Prop)
    (guar : ι → List (Exchange Req Resp) → Exchange Req Resp → σ → σ → Prop) : Prop where
  refl : ∀ i s, rely i s s
  trans : ∀ i a b c, rely i a b → rely i b c → rely i a c
  others : ∀ i j, i ≠ j → ∀ l e s s', guar i l e s s' → rely j s s'

/-- One step of a program, and where it leads. -/
theorem guar_of_sends (hagree : Agreement rely guar) {c c' : Pool Req Resp α σ ι}
    (hc : AllAlways serve allowed rely guar Q c) {i : ι} {e : Exchange Req Resp}
    (h : Sends serve allowed c i e c') :
    guar i (c.logs i) e c.state c'.state ∧ AllAlways serve allowed rely guar Q c' := by
  obtain ⟨k, s', hproc, hallowed, heffect, rfl⟩ := h
  have hi := hc i
  rw [hproc] at hi
  obtain ⟨hguar, hnext⟩ := (hi c.state (hagree.refl i _)).2 e.answer s' heffect hallowed
  refine ⟨hguar, fun j => ?_⟩
  by_cases hj : j = i
  · subst hj
    simpa using hnext
  · have hj' := (hc j).of_rely (hagree.trans j) (hagree.others i j (Ne.symm hj) _ _ _ _ hguar)
    simpa [Function.update_of_ne hj] using hj'

/-- **What each program keeps true alone is true in every state of a run.** -/
theorem always_run (hagree : Agreement rely guar)
    (hstarts : ∀ i, ∀ p ∈ programs i, ∀ s, Always serve (allowed i) (rely i) (guar i) (Q i) p [] s)
    {c c' : Pool Req Resp α σ ι} (hc : AllAlways serve allowed rely guar Q c)
    (hrun : ReflTransGen (Step serve allowed programs) c c') :
    AllAlways serve allowed rely guar Q c' := by
  induction hrun with
  | refl => exact hc
  | tail _ hstep ih =>
    rcases hstep with ⟨i, e, hsends⟩ | ⟨i, a, p, hp, -, rfl⟩
    · exact (guar_of_sends hagree ih hsends).2
    · intro j
      by_cases hj : j = i
      · subst hj
        simpa [Pool.start] using hstarts j p hp _
      · simpa [Pool.start, Function.update_of_ne hj] using ih j

end Run

/-! ### A program that runs alone -/

section Eval

variable {Req : Type} {Resp : Req → Type} {α β ε ε' σ : Type}

/-- The program, started in a state, makes the exchanges of a log and ends with a result in another
state, with nobody else in between. -/
inductive Eval (serve : (r : Req) → σ → Resp r → σ → Prop) :
    Proc Req Resp α → σ → List (Exchange Req Resp) → α → σ → Prop where
  | done (a : α) (s : σ) : Eval serve (.done a) s [] a s
  | ask {r : Req} {k : Option (Resp r) → Proc Req Resp α} {s s' s'' : σ} {x : Option (Resp r)}
      {log : List (Exchange Req Resp)} {a : α} (heffect : Effect serve s ⟨r, x⟩ s')
      (hrest : Eval serve (k x) s' log a s'') : Eval serve (.ask r k) s (⟨r, x⟩ :: log) a s''

/-- The run in which every request is served, by a server that answers every request. -/
def Proc.serveAll (answer : (r : Req) → σ → Resp r × σ) :
    Proc Req Resp α → σ → List (Exchange Req Resp) × α × σ
  | .done a, s => ([], a, s)
  | .ask r k, s =>
    let rest := serveAll answer (k (some (answer r s).1)) (answer r s).2
    (⟨r, some (answer r s).1⟩ :: rest.1, rest.2)

theorem eval_serveAll {serve : (r : Req) → σ → Resp r → σ → Prop}
    {answer : (r : Req) → σ → Resp r × σ}
    (hanswer : ∀ r s, serve r s (answer r s).1 (answer r s).2) :
    ∀ (p : Proc Req Resp α) (s : σ), Eval serve p s (p.serveAll answer s).1
      (p.serveAll answer s).2.1 (p.serveAll answer s).2.2
  | .done a, s => .done a s
  | .ask _ _, s => .ask (.served (hanswer _ s)) (eval_serveAll hanswer _ _)

/-- Every request the program can send, whatever the answers, is of the kind `ok`. -/
def Only (ok : Req → Prop) : Proc Req Resp α → Prop
  | .done _ => True
  | .ask r k => ok r ∧ ∀ x, Only ok (k x)

variable {serve : (r : Req) → σ → Resp r → σ → Prop} {s s' : σ}
  {log : List (Exchange Req Resp)}

theorem Eval.bind_inv {f : α → Proc Req Resp β} {b : β} :
    ∀ {p : Proc Req Resp α} {s : σ} {log : List (Exchange Req Resp)},
      Eval serve (p.bind f) s log b s' →
      ∃ a s₁ l₁ l₂, Eval serve p s l₁ a s₁ ∧ Eval serve (f a) s₁ l₂ b s' ∧ log = l₁ ++ l₂
  | .done a, s, log, h => ⟨a, s, [], log, .done a s, h, rfl⟩
  | .ask r k, s, _, .ask heffect hrest => by
    obtain ⟨a, s₁, l₁, l₂, h₁, h₂, rfl⟩ := Eval.bind_inv hrest
    exact ⟨a, s₁, _ :: l₁, l₂, .ask heffect h₁, h₂, rfl⟩

/-- A program with errors, after another one: the first has failed, or both have run. -/
theorem Eval.except_bind_inv {x : ExceptT ε (Proc Req Resp) α} {f : α → ExceptT ε (Proc Req Resp) β}
    {r : Except ε β} (h : Eval serve (x >>= f).run s log r s') :
    (∃ e, r = .error e ∧ Eval serve x.run s log (.error e) s') ∨
    ∃ a s₁ l₁ l₂, Eval serve x.run s l₁ (.ok a) s₁ ∧ Eval serve (f a).run s₁ l₂ r s' ∧
      log = l₁ ++ l₂ := by
  obtain ⟨a, s₁, l₁, l₂, h₁, h₂, rfl⟩ := Eval.bind_inv h
  cases a with
  | error e =>
    cases h₂
    exact Or.inl ⟨e, rfl, by rwa [List.append_nil]⟩
  | ok a => exact Or.inr ⟨a, s₁, l₁, l₂, h₁, h₂, rfl⟩

theorem Eval.ok_bind_inv {x : ExceptT ε (Proc Req Resp) α} {f : α → ExceptT ε (Proc Req Resp) β}
    {b : β} (h : Eval serve (x >>= f).run s log (.ok b) s') :
    ∃ a s₁ l₁ l₂, Eval serve x.run s l₁ (.ok a) s₁ ∧ Eval serve (f a).run s₁ l₂ (.ok b) s' ∧
      log = l₁ ++ l₂ := by
  rcases h.except_bind_inv with ⟨e, he, -⟩ | h
  · cases he
  · exact h

theorem Eval.pure_inv {a : α} {r : Except ε α}
    (h : Eval serve (pure a : ExceptT ε (Proc Req Resp) α).run s log r s') :
    r = .ok a ∧ s' = s ∧ log = [] := by
  cases h
  exact ⟨rfl, rfl, rfl⟩

theorem Eval.throw_inv {e : ε} {r : Except ε α}
    (h : Eval serve (throw e : ExceptT ε (Proc Req Resp) α).run s log r s') :
    r = .error e ∧ s' = s ∧ log = [] := by
  cases h
  exact ⟨rfl, rfl, rfl⟩

theorem Eval.send_inv {q : Req} {e : ε} {r : Except ε (Resp q)}
    (h : Eval serve (Proc.send q e : ExceptT ε (Proc Req Resp) (Resp q)).run s log r s') :
    ∃ x, Effect serve s ⟨q, x⟩ s' ∧ r = x.elim (.error e) .ok ∧ log = [⟨q, x⟩] := by
  cases h with
  | ask heffect hrest =>
    cases hrest
    exact ⟨_, heffect, rfl, rfl⟩

theorem Eval.ok_send_inv {q : Req} {e : ε} {y : Resp q}
    (h : Eval serve (Proc.send q e : ExceptT ε (Proc Req Resp) (Resp q)).run s log (.ok y) s') :
    serve q s y s' ∧ log = [⟨q, some y⟩] := by
  obtain ⟨x, heffect, hr, rfl⟩ := h.send_inv
  cases heffect with
  | served h =>
    cases hr
    exact ⟨h, rfl⟩
  | late => cases hr
  | lost => cases hr

theorem Eval.mapError_inv {f : ε → ε'} {x : ExceptT ε (Proc Req Resp) α} {r : Except ε' α}
    (h : Eval serve (Proc.mapError f x).run s log r s') :
    ∃ r', Eval serve x.run s log r' s' ∧ r = r'.mapError f := by
  obtain ⟨a, s₁, l₁, l₂, h₁, h₂, rfl⟩ := Eval.bind_inv h
  cases h₂
  exact ⟨a, by rwa [List.append_nil], rfl⟩

theorem Eval.ok_mapError_inv {f : ε → ε'} {x : ExceptT ε (Proc Req Resp) α} {a : α}
    (h : Eval serve (Proc.mapError f x).run s log (.ok a) s') : Eval serve x.run s log (.ok a) s' := by
  obtain ⟨r', hr', hr⟩ := h.mapError_inv
  cases r' with
  | error e => cases hr
  | ok b =>
    cases hr
    exact hr'

/-! The requests a program can send. -/

section Only

variable {ok : Req → Prop}

theorem Only.bind {f : α → Proc Req Resp β} (hf : ∀ a, Only ok (f a)) :
    ∀ {p : Proc Req Resp α}, Only ok p → Only ok (p.bind f)
  | .done a, _ => hf a
  | .ask _ _, h => ⟨h.1, fun x => Only.bind hf (h.2 x)⟩

theorem Only.except_bind {x : ExceptT ε (Proc Req Resp) α} {f : α → ExceptT ε (Proc Req Resp) β}
    (hx : Only ok x.run) (hf : ∀ a, Only ok (f a).run) : Only ok (x >>= f).run := by
  refine Only.bind (fun r => ?_) hx
  cases r with
  | error e => exact trivial
  | ok a => exact hf a

theorem Only.send {q : Req} (hq : ok q) (e : ε) :
    Only ok (Proc.send q e : ExceptT ε (Proc Req Resp) (Resp q)).run :=
  ⟨hq, fun _ => trivial⟩

theorem Only.mapError {x : ExceptT ε (Proc Req Resp) α} (hx : Only ok x.run) (f : ε → ε') :
    Only ok (Proc.mapError f x).run := by
  refine Only.bind (fun r => ?_) hx
  exact trivial

theorem Only.forEach {f : β → ExceptT ε (Proc Req Resp) Unit} :
    ∀ {l : List β}, (∀ b ∈ l, Only ok (f b).run) → Only ok (Proc.forEach f l).run
  | [], _ => trivial
  | _ :: _, h => Only.except_bind (h _ List.mem_cons_self) fun _ =>
      Only.forEach fun b hb => h b (List.mem_cons_of_mem _ hb)

theorem Eval.mem_log_of_only {p : Proc Req Resp α} {a : α} (h : Eval serve p s log a s')
    (honly : Only ok p) : ∀ e ∈ log, ok e.request := by
  induction h with
  | done a s =>
    intro e he
    cases he
  | ask heffect hrest ih =>
    intro e he
    rcases List.mem_cons.mp he with rfl | he
    · exact honly.1
    · exact ih (honly.2 _) e he

/-- What every request of the kind `ok` leaves alone, the program leaves alone. -/
theorem Eval.frame {γ : Type} (view : σ → γ) {p : Proc Req Resp α} {a : α}
    (h : Eval serve p s log a s') (honly : Only ok p)
    (hview : ∀ r s x s', ok r → serve r s x s' → view s' = view s) : view s' = view s := by
  induction h with
  | done a s => rfl
  | ask heffect hrest ih =>
    rw [ih (honly.2 _)]
    cases heffect with
    | served hserve => exact hview _ _ _ _ honly.1 hserve
    | late hserve => exact hview _ _ _ _ honly.1 hserve
    | lost => rfl

end Only

end Eval

end OpenchamiOperator.Lib.Interaction
