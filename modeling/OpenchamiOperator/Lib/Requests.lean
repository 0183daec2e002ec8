import Mathlib.Data.List.Basic

/-! # Programs that send requests which may fail

A program reads and changes a remote state of type `σ` by sending requests, one after the other, and
stops at the first error it does not handle. What becomes of each request is decided in advance by a
list of fates, so that a theorem about every list of fates is a theorem about every way the requests
can fail:

* `served`: the request takes effect and is answered;
* `lost`: the caller sees an error and nothing has happened;
* `late`: the request takes effect, but the caller sees an error (a timeout after the write).

Requests beyond the end of the list are served, so `[]` is the run without failures.

`Triple P x Q E`: started in a state with `P`, the program `x` ends with a value `a` in a state with
`Q a`, or with an error `e` in a state with `E e`. The rules follow the program: `Triple.bind`,
`Triple.request`, `Triple.forEach`, …. `forEach_request_state` says in which states a loop of
requests can stop: after the effects of the first `effects` of them. -/

namespace OpenchamiOperator.Lib

/-- What becomes of one request. -/
inductive Fate where
  | served
  | lost
  | late
deriving DecidableEq, Repr

/-- A remote state and the fates of the requests to come. -/
structure Net (σ : Type) where
  state : σ
  fates : List Fate

/-- A program over a remote state `σ` with errors `ε` and values `α`. -/
structure Prog (σ ε α : Type) where
  run : Net σ → Except ε α × Net σ

namespace Prog

variable {σ ε α β : Type}

instance : Monad (Prog σ ε) where
  pure a := ⟨fun n => (.ok a, n)⟩
  bind x f := ⟨fun n =>
    match x.run n with
    | (.ok a, n') => (f a).run n'
    | (.error e, n') => (.error e, n')⟩

/-- Stop with the error `e`. -/
def fail (e : ε) : Prog σ ε α := ⟨fun n => (.error e, n)⟩

/-- Send one request. The function gives the answer and the new state; the answer may itself be an
error (for instance `NotFound`). A request that is not served fails with `failed`. -/
def request (failed : ε) (f : σ → Except ε α × σ) : Prog σ ε α := ⟨fun n =>
  match n.fates with
  | [] => ((f n.state).1, ⟨(f n.state).2, []⟩)
  | .served :: fs => ((f n.state).1, ⟨(f n.state).2, fs⟩)
  | .lost :: fs => (.error failed, ⟨n.state, fs⟩)
  | .late :: fs => (.error failed, ⟨(f n.state).2, fs⟩)⟩

/-- Run `f` on the elements of a list, stopping at the first error. -/
def forEach : List β → (β → Prog σ ε Unit) → Prog σ ε Unit
  | [], _ => pure ()
  | b :: l, f => f b >>= fun _ => forEach l f

/-- Run `x`; an error satisfying `p` counts as success (`client.IgnoreNotFound`), any other error is
passed on as `wrap e`. -/
def ignoring {ε' : Type} (p : ε → Bool) (wrap : ε → ε') (x : Prog σ ε Unit) : Prog σ ε' Unit :=
  ⟨fun n =>
    match x.run n with
    | (.ok (), n') => (.ok (), n')
    | (.error e, n') => if p e then (.ok (), n') else (.error (wrap e), n')⟩

/-- Run `x` on a part of a larger state. -/
def zoom {τ : Type} (get : τ → σ) (set : σ → τ → τ) (x : Prog σ ε α) : Prog τ ε α :=
  ⟨fun n =>
    let r := x.run ⟨get n.state, n.fates⟩
    (r.1, ⟨set r.2.state n.state, r.2.fates⟩)⟩

theorem pure_run (a : α) (n : Net σ) : (pure a : Prog σ ε α).run n = (.ok a, n) := rfl

theorem bind_run_ok {x : Prog σ ε α} {f : α → Prog σ ε β} {n m : Net σ} {a : α}
    (h : x.run n = (.ok a, m)) : (x >>= f).run n = (f a).run m := by
  simp only [bind, h]

theorem bind_run_error {x : Prog σ ε α} {f : α → Prog σ ε β} {n m : Net σ} {e : ε}
    (h : x.run n = (.error e, m)) : (x >>= f).run n = (.error e, m) := by
  simp only [bind, h]

/-! ### Pre- and postconditions -/

/-- From a state with `P`, `x` ends with a value in a state with `Q`, or with an error in a state
with `E`. -/
def Triple (P : σ → Prop) (x : Prog σ ε α) (Q : α → σ → Prop) (E : ε → σ → Prop) : Prop :=
  ∀ n : Net σ, P n.state →
    (∀ a m, x.run n = (.ok a, m) → Q a m.state) ∧ ∀ e m, x.run n = (.error e, m) → E e m.state

/-- `x` keeps `I`, whether it succeeds or fails. -/
def Keeps (I : σ → Prop) (x : Prog σ ε α) : Prop := Triple I x (fun _ => I) fun _ => I

theorem Triple.pure {P : σ → Prop} {Q : α → σ → Prop} {E : ε → σ → Prop} {a : α}
    (h : ∀ s, P s → Q a s) : Triple P (pure a : Prog σ ε α) Q E := by
  intro n hn
  refine ⟨fun b m hb => ?_, fun e m he => ?_⟩
  · cases hb; exact h _ hn
  · cases he

theorem Triple.bind {P : σ → Prop} {R : α → σ → Prop} {Q : β → σ → Prop} {E : ε → σ → Prop}
    {x : Prog σ ε α} {f : α → Prog σ ε β} (hx : Triple P x R E) (hf : ∀ a, Triple (R a) (f a) Q E) :
    Triple P (x >>= f) Q E := by
  intro n hn
  obtain ⟨hok, herr⟩ := hx n hn
  rcases hxn : x.run n with ⟨e | a, m⟩
  · rw [bind_run_error hxn]
    refine ⟨fun b m' hb => (by cases hb), fun e' m' he => ?_⟩
    cases he
    exact herr e m hxn
  · rw [bind_run_ok hxn]
    exact hf a m (hok a m hxn)

theorem Triple.conseq {P P' : σ → Prop} {Q Q' : α → σ → Prop} {E E' : ε → σ → Prop}
    {x : Prog σ ε α} (h : Triple P' x Q' E') (hP : ∀ s, P s → P' s) (hQ : ∀ a s, Q' a s → Q a s)
    (hE : ∀ e s, E' e s → E e s) : Triple P x Q E := by
  intro n hn
  obtain ⟨hok, herr⟩ := h n (hP _ hn)
  exact ⟨fun a m ha => hQ _ _ (hok a m ha), fun e m he => hE _ _ (herr e m he)⟩

/-- A request: its answer when it is served, and the error `failed` with and without its effect. -/
theorem Triple.request {P : σ → Prop} {Q : α → σ → Prop} {E : ε → σ → Prop} {failed : ε}
    {f : σ → Except ε α × σ} (hok : ∀ s a, P s → (f s).1 = .ok a → Q a (f s).2)
    (herr : ∀ s e, P s → (f s).1 = .error e → E e (f s).2)
    (hlost : ∀ s, P s → E failed s) (hlate : ∀ s, P s → E failed (f s).2) :
    Triple P (request failed f) Q E := by
  rintro ⟨s, fates⟩ hn
  have served : ∀ fs, (∀ a m, ((f s).1, (⟨(f s).2, fs⟩ : Net σ)) = (.ok a, m) → Q a m.state) ∧
      ∀ e m, ((f s).1, (⟨(f s).2, fs⟩ : Net σ)) = (.error e, m) → E e m.state := by
    intro fs
    refine ⟨fun a m ha => ?_, fun e m he => ?_⟩
    · obtain ⟨h1, rfl⟩ := Prod.mk.inj ha
      exact hok _ _ hn h1
    · obtain ⟨h1, rfl⟩ := Prod.mk.inj he
      exact herr _ _ hn h1
  rcases fates with _ | ⟨_ | _ | _, fs⟩
  · exact served []
  · exact served fs
  · refine ⟨fun a m ha => (by cases ha), fun e m he => ?_⟩
    cases he
    exact hlost _ hn
  · refine ⟨fun a m ha => (by cases ha), fun e m he => ?_⟩
    cases he
    exact hlate _ hn

/-- A loop, with an invariant that knows the elements still to come. -/
theorem Triple.forEach {I : List β → σ → Prop} {E : ε → σ → Prop} {f : β → Prog σ ε Unit} :
    ∀ {l : List β}, (∀ b l', b :: l' <:+ l → Triple (I (b :: l')) (f b) (fun _ => I l') E) →
      Triple (I l) (forEach l f) (fun _ => I []) E
  | [], _ => Triple.pure fun _ h => h
  | b :: l, h =>
    Triple.bind (h b l (List.suffix_refl _)) fun _ =>
      Triple.forEach fun b' l' hs => h b' l' (hs.trans (List.suffix_cons b l))

theorem Triple.ignoring {ε' : Type} {P : σ → Prop} {Q : σ → Prop} {E : ε → σ → Prop}
    {E' : ε' → σ → Prop} {p : ε → Bool} {wrap : ε → ε'} {x : Prog σ ε Unit}
    (hx : Triple P x (fun _ => Q) E) (hign : ∀ e s, p e = true → E e s → Q s)
    (herr : ∀ e s, p e = false → E e s → E' (wrap e) s) :
    Triple P (ignoring p wrap x) (fun _ => Q) E' := by
  intro n hn
  obtain ⟨hok, hfail⟩ := hx n hn
  rcases hxn : x.run n with ⟨e | a, m⟩
  · have he := hfail e m hxn
    simp only [Prog.ignoring, hxn]
    split_ifs with hp
    · refine ⟨fun a m' h => ?_, fun e' m' h => (by cases h)⟩
      cases h
      exact hign e _ hp he
    · refine ⟨fun a m' h => (by cases h), fun e' m' h => ?_⟩
      cases h
      exact herr e _ (by simpa using hp) he
  · simp only [Prog.ignoring, hxn]
    refine ⟨fun a m' h => ?_, fun e' m' h => (by cases h)⟩
    cases h
    exact hok a m hxn

/-- A precondition that does not depend on the state is a hypothesis. -/
theorem Triple.assume {p : Prop} {P : σ → Prop} {Q : α → σ → Prop} {E : ε → σ → Prop}
    {x : Prog σ ε α} (h : p → Triple P x Q E) : Triple (fun s => p ∧ P s) x Q E :=
  fun n hn => h hn.1 n hn.2

/-- It is enough to argue from each start state. -/
theorem Triple.ofStates {P : σ → Prop} {Q : α → σ → Prop} {E : ε → σ → Prop} {x : Prog σ ε α}
    (h : ∀ s₀, P s₀ → Triple (fun s => s = s₀) x Q E) : Triple P x Q E :=
  fun n hn => h n.state hn n rfl

/-- The frame rule: what `x` does to its part of the state is seen in the larger state, and an `R`
that does not look at that part stays. -/
theorem Triple.zoom {τ : Type} {get : τ → σ} {set : σ → τ → τ} {P : σ → Prop} {Q : α → σ → Prop}
    {E : ε → σ → Prop} {x : Prog σ ε α} (hx : Triple P x Q E) (hget : ∀ s t, get (set s t) = s)
    {R : τ → Prop} (hR : ∀ s t, R t → R (set s t)) :
    Triple (fun t => P (get t) ∧ R t) (zoom get set x) (fun a t => Q a (get t) ∧ R t)
      fun e t => E e (get t) ∧ R t := by
  intro n hn
  obtain ⟨hok, herr⟩ := hx ⟨get n.state, n.fates⟩ hn.1
  refine ⟨fun a m h => ?_, fun e m h => ?_⟩
  · obtain ⟨h1, rfl⟩ := Prod.mk.inj h
    refine ⟨?_, hR _ _ hn.2⟩
    rw [hget]
    exact hok a _ (Prod.ext h1 rfl)
  · obtain ⟨h1, rfl⟩ := Prod.mk.inj h
    refine ⟨?_, hR _ _ hn.2⟩
    rw [hget]
    exact herr e _ (Prod.ext h1 rfl)

theorem Keeps.request {I : σ → Prop} {failed : ε} {f : σ → Except ε α × σ}
    (h : ∀ s, I s → I (f s).2) : Keeps I (request failed f) :=
  Triple.request (fun s _ hs _ => h s hs) (fun s _ hs _ => h s hs) (fun _ hs => hs) h

theorem Keeps.pure {I : σ → Prop} (a : α) : Keeps I (Pure.pure a : Prog σ ε α) :=
  Triple.pure fun _ h => h

theorem Keeps.bind {I : σ → Prop} {x : Prog σ ε α} {f : α → Prog σ ε β} (hx : Keeps I x)
    (hf : ∀ a, Keeps I (f a)) : Keeps I (x >>= f) :=
  Triple.bind hx hf

theorem Keeps.forEach {I : σ → Prop} {l : List β} {f : β → Prog σ ε Unit}
    (h : ∀ b ∈ l, Keeps I (f b)) : Keeps I (forEach l f) :=
  Triple.forEach (I := fun _ => I) fun b _ hs => h b (hs.subset (by simp))

theorem Keeps.ignoring {ε' : Type} {I : σ → Prop} {p : ε → Bool} {wrap : ε → ε'}
    {x : Prog σ ε Unit} (h : Keeps I x) : Keeps I (ignoring p wrap x) :=
  Triple.ignoring h (fun _ _ _ hs => hs) fun _ _ _ hs => hs

theorem Keeps.state {I : σ → Prop} {x : Prog σ ε α} (h : Keeps I x) (n : Net σ)
    (hn : I n.state) : I (x.run n).2.state := by
  obtain ⟨hok, herr⟩ := h n hn
  rcases hxn : x.run n with ⟨e | a, m⟩
  · exact herr e m hxn
  · exact hok a m hxn

/-! ### Runs without failures -/

/-- Without failed requests, `x` ends with a value. -/
def Succeeds (x : Prog σ ε α) : Prop := ∀ s, ∃ a t, x.run ⟨s, []⟩ = (.ok a, ⟨t, []⟩)

theorem Succeeds.pure (a : α) : Succeeds (Pure.pure a : Prog σ ε α) := fun s => ⟨a, s, rfl⟩

theorem Succeeds.request {failed : ε} {f : σ → Except ε α × σ} (h : ∀ s, ∃ a, (f s).1 = .ok a) :
    Succeeds (request failed f) := by
  intro s
  obtain ⟨a, ha⟩ := h s
  exact ⟨a, (f s).2, Prod.ext ha rfl⟩

theorem Succeeds.bind {x : Prog σ ε α} {f : α → Prog σ ε β} (hx : Succeeds x)
    (hf : ∀ a, Succeeds (f a)) : Succeeds (x >>= f) := by
  intro s
  obtain ⟨a, t, hxs⟩ := hx s
  obtain ⟨b, u, hfa⟩ := hf a t
  exact ⟨b, u, by rw [bind_run_ok hxs, hfa]⟩

theorem Succeeds.forEach {f : β → Prog σ ε Unit} :
    ∀ {l : List β}, (∀ b ∈ l, Succeeds (f b)) → Succeeds (forEach l f)
  | [], _ => Succeeds.pure ()
  | b :: l, h =>
    (h b (by simp)).bind fun _ => Succeeds.forEach fun b' hb' => h b' (List.mem_cons_of_mem b hb')

/-- Without failed requests, the only errors left are those that count as success. -/
theorem Succeeds.ignoring {ε' : Type} {p : ε → Bool} {wrap : ε → ε'} {failed : ε}
    {f : σ → Except ε Unit × σ} (h : ∀ s e, (f s).1 = .error e → p e = true) :
    Succeeds (ignoring p wrap (Prog.request failed f)) := by
  intro s
  have hrun : (Prog.request failed f).run ⟨s, []⟩ = ((f s).1, ⟨(f s).2, []⟩) := rfl
  refine ⟨(), (f s).2, ?_⟩
  rcases hfs : (f s).1 with e | a
  · rw [hfs] at hrun
    simp only [Prog.ignoring, hrun, h s e hfs, if_true]
  · rw [hfs] at hrun
    simp only [Prog.ignoring, hrun]

/-! ### What an outcome says about the requests -/

/-- With a value every request that was sent has been served; with an error of the kind `fault` the
last one has not. -/
def Honest (fault : ε → Prop) (x : Prog σ ε α) : Prop := ∀ n : Net σ,
  (∀ a m, x.run n = (.ok a, m) →
    ∃ sent, n.fates = sent ++ m.fates ∧ ∀ f ∈ sent, f = .served) ∧
  ∀ e m, x.run n = (.error e, m) → fault e →
    ∃ sent f, n.fates = sent ++ f :: m.fates ∧ f ≠ .served

section Honest

variable {fault : ε → Prop}

theorem Honest.pure (a : α) : Honest fault (Pure.pure a : Prog σ ε α) := by
  refine fun n => ⟨fun b m h => ?_, fun e m h => by cases h⟩
  cases h
  exact ⟨[], rfl, by simp⟩

theorem Honest.fail {e : ε} (h : ¬ fault e) : Honest fault (Prog.fail e : Prog σ ε α) := by
  refine fun n => ⟨fun a m ha => (by cases ha), fun e' m he hf => ?_⟩
  cases he
  exact absurd hf h

/-- The error of an answer is not a fault. -/
theorem Honest.request {failed : ε} {f : σ → Except ε α × σ}
    (h : ∀ s e, (f s).1 = .error e → ¬ fault e) : Honest fault (request failed f) := by
  rintro ⟨s, fates⟩
  rcases fates with _ | ⟨fate, fs⟩
  · refine ⟨fun a m ha => ?_, fun e m he hf => ?_⟩
    · obtain ⟨-, rfl⟩ := Prod.mk.inj ha
      exact ⟨[], rfl, by simp⟩
    · exact absurd hf (h s e (Prod.mk.inj he).1)
  · cases fate with
    | served =>
      refine ⟨fun a m ha => ?_, fun e m he hf => ?_⟩
      · obtain ⟨-, rfl⟩ := Prod.mk.inj ha
        exact ⟨[.served], rfl, by simp⟩
      · exact absurd hf (h s e (Prod.mk.inj he).1)
    | lost =>
      refine ⟨fun a m ha => (by cases ha), fun e m he _ => ?_⟩
      cases he
      exact ⟨[], .lost, rfl, by decide⟩
    | late =>
      refine ⟨fun a m ha => (by cases ha), fun e m he _ => ?_⟩
      cases he
      exact ⟨[], .late, rfl, by decide⟩

theorem Honest.bind {x : Prog σ ε α} {f : α → Prog σ ε β} (hx : Honest fault x)
    (hf : ∀ a, Honest fault (f a)) : Honest fault (x >>= f) := by
  intro n
  obtain ⟨hok, herr⟩ := hx n
  rcases hxn : x.run n with ⟨e | a, m⟩
  · rw [bind_run_error hxn]
    refine ⟨fun b m' hb => (by cases hb), fun e' m' he hfault => ?_⟩
    cases he
    exact herr e m hxn hfault
  · rw [bind_run_ok hxn]
    obtain ⟨sent, hsent, hserved⟩ := hok a m hxn
    obtain ⟨hok', herr'⟩ := hf a m
    refine ⟨fun b m' hb => ?_, fun e m' he hfault => ?_⟩
    · obtain ⟨sent', hsent', hserved'⟩ := hok' b m' hb
      refine ⟨sent ++ sent', by rw [hsent, hsent', List.append_assoc], fun g hg => ?_⟩
      rcases List.mem_append.mp hg with hg | hg
      · exact hserved g hg
      · exact hserved' g hg
    · obtain ⟨sent', g, hsent', hg⟩ := herr' e m' he hfault
      exact ⟨sent ++ sent', g, by rw [hsent, hsent', List.append_assoc], hg⟩

theorem Honest.forEach {f : β → Prog σ ε Unit} :
    ∀ {l : List β}, (∀ b ∈ l, Honest fault (f b)) → Honest fault (forEach l f)
  | [], _ => Honest.pure ()
  | b :: l, h =>
    (h b (by simp)).bind fun _ => Honest.forEach fun b' hb' => h b' (List.mem_cons_of_mem b hb')

/-- With all requests served there is no fault. -/
theorem Honest.not_fault {x : Prog σ ε α} (hx : Honest fault x) {n m : Net σ} {e : ε}
    (hserved : ∀ f ∈ n.fates, f = .served) (he : x.run n = (.error e, m)) : ¬ fault e := by
  intro hfault
  obtain ⟨sent, f, hfates, hf⟩ := (hx n).2 e m he hfault
  exact hf (hserved f (by rw [hfates]; simp))

end Honest

/-! ### Loops of requests -/

/-- How many of `m` requests in a row take effect, when the first one that fails is the last. -/
def effects : List Fate → ℕ → ℕ
  | _, 0 => 0
  | [], m + 1 => m + 1
  | .served :: fs, m + 1 => effects fs m + 1
  | .lost :: _, _ + 1 => 0
  | .late :: _, _ + 1 => 1

theorem effects_nil (m : ℕ) : effects [] m = m := by cases m <;> rfl

/-- **Where a loop of requests can stop**: in the state after the effects of the first `effects`
elements. -/
theorem forEach_request_state (failed : β → ε) (g : β → σ → σ) : ∀ (l : List β) (n : Net σ),
    ((forEach l fun b => request (failed b) fun s => (.ok (), g b s)).run n).2.state =
      (l.take (effects n.fates l.length)).foldl (fun s b => g b s) n.state
  | [], n => by simp [forEach, pure_run]
  | b :: l, ⟨s, fs⟩ => by
    have ih := forEach_request_state failed g l
    rcases fs with _ | ⟨_ | _ | _, fs⟩
    · rw [forEach, bind_run_ok (a := ()) (m := ⟨g b s, []⟩) rfl, ih]
      simp [effects_nil]
    · rw [forEach, bind_run_ok (a := ()) (m := ⟨g b s, fs⟩) rfl, ih]
      simp [effects]
    · rw [forEach, bind_run_error (e := failed b) (m := ⟨s, fs⟩) rfl]
      simp [effects]
    · rw [forEach, bind_run_error (e := failed b) (m := ⟨g b s, fs⟩) rfl]
      simp [effects]

end Prog

end OpenchamiOperator.Lib
