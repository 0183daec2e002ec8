import OpenchamiOperator.Vault.Protocol

/-! # One issuer for all control planes

All control planes that share a Vault share one OIDC provider. `ensureOIDCProvider` reads it, writes
it and reads it back, and Vault offers nothing to do that in one step, so the calls of several control
planes interleave.

* `trimSlashes_vaultOIDCIssuerBase`: a base issuer has no slash at its end, so the issuer a call
  expects is what Vault reports after the call has written.
* `expectedOIDCProviderIssuer_eq_vaultOIDCProviderURL`: it is also what tokensmith expects.
* `always_ensureOIDCProvider`: one call among others, as long as nobody changes a provider that is
  there.
* `issuer_never_flips`: if the calls that find no provider ask for one base issuer, the issuer of the
  provider never changes, the calls that ask for another issuer are refused before they write, and the
  others succeed. -/

namespace OpenchamiOperator.Vault

open Lib Strings Api Interaction Reconcilers Relation

/-! ### The issuer a call expects -/

theorem trimSlashes_of_getLast? {s : String} (h : s.toList.getLast? ≠ some '/') :
    trimSlashes s = s := by
  have hhead : s.toList.reverse.head? ≠ some '/' := by rwa [List.head?_reverse]
  have hkeep : s.toList.reverse.dropWhile (· = '/') = s.toList.reverse := by
    cases hrev : s.toList.reverse with
    | nil => rfl
    | cons c l =>
      have hc : c ≠ '/' := by
        rintro rfl
        exact hhead (by rw [hrev]; rfl)
      rw [List.dropWhile_cons_of_neg (by simpa using hc)]
  unfold trimSlashes
  rw [hkeep, List.reverse_reverse, String.ofList_toList]

theorem getLast?_trimSlashes (s : String) : (trimSlashes s).toList.getLast? ≠ some '/' := by
  unfold trimSlashes
  rw [String.toList_ofList, List.getLast?_reverse]
  intro h
  have hdrop := List.head?_dropWhile_not (fun c => decide (c = '/')) s.toList.reverse
  rw [h] at hdrop
  simp at hdrop

/-- A base issuer is a scheme and a host, or has lost the slashes at its end. -/
theorem getLast?_vaultOIDCIssuerBase (cp : ControlPlane) :
    (vaultOIDCIssuerBase cp).toList.getLast? ≠ some '/' := by
  unfold vaultOIDCIssuerBase
  extract_lets issuer source
  split
  · exact getLast?_trimSlashes _
  · rename_i u hu
    split_ifs with hempty
    · exact getLast?_trimSlashes _
    · have hhost : u.host.toList ≠ [] := by
        rw [ne_eq, String.toList_eq_nil_iff]
        exact (not_or.mp hempty).2
      rw [String.toList_append, List.getLast?_append_of_ne_nil _ hhost]
      intro hlast
      exact Url.slash_not_mem_host hu (List.mem_of_getLast? hlast)

theorem trimSlashes_vaultOIDCIssuerBase (cp : ControlPlane) :
    trimSlashes (vaultOIDCIssuerBase cp) = vaultOIDCIssuerBase cp :=
  trimSlashes_of_getLast? (getLast?_vaultOIDCIssuerBase cp)

/-- **Tokensmith compares with what Vault reports.** The provider has one name and one path on both
sides, and the trimming of the client finds nothing to trim in a base issuer. -/
theorem expectedOIDCProviderIssuer_eq_vaultOIDCProviderURL (cp : ControlPlane) :
    expectedOIDCProviderIssuer (vaultOIDCIssuerBase cp) = vaultOIDCProviderURL cp := by
  have hpath : providerPath = "/v1/identity/oidc/provider/openchami" := by decide
  unfold expectedOIDCProviderIssuer vaultOIDCProviderURL
  rw [trimSlashes_vaultOIDCIssuerBase, hpath]

/-- The issuer that a call of the control plane expects to be reported. -/
def expectedIssuer (cp : ControlPlane) : String :=
  expectedOIDCProviderIssuer (oidcConfig cp).issuerURL

/-- What a call writes is reported as what it expects. -/
theorem expectedIssuer_eq (cp : ControlPlane) :
    expectedIssuer cp = (oidcConfig cp).issuerURL ++ providerPath := by
  unfold expectedIssuer expectedOIDCProviderIssuer oidcConfig
  rw [trimSlashes_vaultOIDCIssuerBase]

theorem append_providerPath_ne_empty (base : String) : base ++ providerPath ≠ "" := by
  intro h
  have hlists : base.toList ++ providerPath.toList = [] := by
    rw [← String.toList_append, h]
    rfl
  exact absurd (List.append_eq_nil_iff.mp hlists).2 (by decide)

/-! ### The three requests of a call -/

/-- The call after the read-back. -/
def afterReadback (cfg : OIDCConfig) :
    Option (Option (Option String)) → Proc Request Resp (Except VaultError Unit)
  | none => .done (.error (.wrapped "reading back oidc provider \"openchami\"" .library))
  | some readback => .done (verifyIssuer readback (expectedOIDCProviderIssuer cfg.issuerURL))

/-- The call after the write. -/
def afterWrite (cfg : OIDCConfig) : Option Unit → Proc Request Resp (Except VaultError Unit)
  | none => .done (.error (.wrapped "configuring oidc provider \"openchami\"" .library))
  | some _ => .ask .readOIDCProvider (afterReadback cfg)

/-- The call after the first read. -/
def afterRead (cfg : OIDCConfig) :
    Option (Option (Option String)) → Proc Request Resp (Except VaultError Unit)
  | none => .done (.error (.wrapped "reading oidc provider \"openchami\"" .library))
  | some existing =>
    match conflictingIssuer existing (expectedOIDCProviderIssuer cfg.issuerURL) with
    | some current =>
      .done (.error (.issuerConflict current (expectedOIDCProviderIssuer cfg.issuerURL)))
    | none => .ask (.writeOIDCProvider cfg.issuerURL cfg.scopesSupported) (afterWrite cfg)

theorem run_ensureOIDCProvider (cfg : OIDCConfig) :
    (ensureOIDCProvider cfg).run = .ask .readOIDCProvider (afterRead cfg) := by
  unfold ensureOIDCProvider
  rw [run_request_bind]
  refine congrArg (Proc.ask Request.readOIDCProvider) (funext fun x => ?_)
  cases x with
  | none => rfl
  | some existing =>
    simp only [Option.elim_some, afterRead]
    cases conflictingIssuer existing (expectedOIDCProviderIssuer cfg.issuerURL) with
    | some current => rfl
    | none =>
      rw [run_request_bind]
      refine congrArg (Proc.ask (Request.writeOIDCProvider _ _)) (funext fun y => ?_)
      cases y with
      | none => rfl
      | some _ =>
        simp only [Option.elim_some, afterWrite]
        rw [run_request_bind]
        refine congrArg (Proc.ask Request.readOIDCProvider) (funext fun z => ?_)
        cases z <;> rfl

/-! ### One call among others -/

/-- What happens to the provider: nothing, or it is created with the base issuer `base`. -/
def IssuerKept (base : String) (s s' : Remote) : Prop :=
  s'.provider = s.provider ∨ (s.provider = none ∧ s'.provider = some (base ++ providerPath))

section IssuerKept

variable {base : String} {s s' s'' : Remote}

theorem IssuerKept.refl (base : String) (s : Remote) : IssuerKept base s s := Or.inl rfl

theorem IssuerKept.of_some (h : IssuerKept base s s') {q : String} (hq : s.provider = some q) :
    s'.provider = some q := by
  rcases h with h | ⟨hnone, -⟩
  · rw [h, hq]
  · rw [hq] at hnone
    cases hnone

theorem IssuerKept.trans (h : IssuerKept base s s') (h' : IssuerKept base s' s'') :
    IssuerKept base s s'' := by
  rcases h with h | ⟨hnone, hsome⟩
  · unfold IssuerKept at h' ⊢
    rwa [h] at h'
  · exact Or.inr ⟨hnone, h'.of_some hsome⟩

/-- An issuer that is reported is not empty. -/
theorem IssuerKept.ne_empty (h : IssuerKept base s s') (hs : s.provider ≠ some "") :
    s'.provider ≠ some "" := by
  rcases h with h | ⟨-, hsome⟩
  · rwa [h]
  · rw [hsome]
    intro hempty
    exact append_providerPath_ne_empty base (Option.some.inj hempty)

end IssuerKept

/-- A first read that finds no provider belongs to a call that asks for `base`. -/
def FirstRead (cp : ControlPlane) (base : String) (log : List (Exchange Request Resp))
    (e : Exchange Request Resp) : Prop :=
  log = [] → e = ⟨.readOIDCProvider, some none⟩ → (oidcConfig cp).issuerURL = base

/-- The first read of the call saw the issuer `q`. -/
def Saw (log : List (Exchange Request Resp)) (q : String) : Prop :=
  log.head? = some ⟨.readOIDCProvider, some (some (some q))⟩

/-- What holds of a call at any time: if its first read saw another issuer than it asks for, it has
ended with the conflict, and the read was its only request; if the provider has the issuer it asks for
and no request has failed, it ends with success, after three requests at the latest. -/
structure CallSettles (cp : ControlPlane) (log : List (Exchange Request Resp))
    (p : Proc Request Resp (Except VaultError Unit)) (s : Remote) : Prop where
  refused : ∀ q, Saw log q → q ≠ expectedIssuer cp →
    p = .done (.error (.issuerConflict q (expectedIssuer cp))) ∧
      log = [⟨.readOIDCProvider, some (some (some q))⟩]
  accepted : s.provider = some (expectedIssuer cp) → (∀ e ∈ log, e.answer.isSome = true) →
    (∀ r, p = .done r → r = .ok ()) ∧ (log.length = 3 → p = .done (.ok ())) ∧ log.length ≤ 3

section Call

variable {cp : ControlPlane} {base : String} {log : List (Exchange Request Resp)} {s : Remote}

/-- The promises of a call and of the others. -/
abbrev CallAlways (cp : ControlPlane) (base : String) :=
  @Always Request Resp (Except VaultError Unit) Remote serve (FirstRead cp base) (IssuerKept base)
    (fun _ _ => IssuerKept base) (CallSettles cp)

theorem callSettles_of_failed (hsaw : ∀ q, Saw log q → q = expectedIssuer cp)
    {e : Exchange Request Resp} (he : e ∈ log) (hfailed : e.answer.isSome = false)
    {p : Proc Request Resp (Except VaultError Unit)} : CallSettles cp log p s := by
  refine ⟨fun q hq hne => absurd (hsaw q hq) hne, fun _ hall => ?_⟩
  have := hall e he
  rw [hfailed] at this
  cases this

/-- A call that still has requests to send. -/
theorem callSettles_ask (hsaw : ∀ q, Saw log q → q = expectedIssuer cp) (hlength : log.length ≤ 2)
    {r : Request} {k : Option (Resp r) → Proc Request Resp (Except VaultError Unit)} :
    CallSettles cp log (.ask r k) s := by
  refine ⟨fun q hq hne => absurd (hsaw q hq) hne, fun _ _ => ⟨?_, ?_, ?_⟩⟩
  · intro r hr
    cases hr
  · intro h3
    omega
  · omega

theorem saw_append (hlog : log ≠ []) {e : Exchange Request Resp} {q : String} :
    Saw (log ++ [e]) q ↔ Saw log q := by
  unfold Saw
  rw [List.head?_append_of_ne_nil _ hlog]

theorem effect_read {x : Option (Option (Option String))} {s' : Remote}
    (h : Effect serve s ⟨.readOIDCProvider, x⟩ s') :
    s' = s ∧ ∀ y, x = some y → y = s.provider.map some := by
  cases h with
  | served h =>
    refine ⟨h.2, fun y hy => ?_⟩
    cases hy
    exact h.1
  | late h => exact ⟨h.2, fun y hy => by cases hy⟩
  | lost => exact ⟨rfl, fun y hy => by cases hy⟩

theorem effect_write {issuer : String} {scopes : List String} {x : Option Unit} {s' : Remote}
    (h : Effect serve s ⟨.writeOIDCProvider issuer scopes, x⟩ s') :
    s'.provider = some (issuer ++ providerPath) ∨ (x = none ∧ s' = s) := by
  cases h with
  | served h =>
    left
    rw [show s' = _ from h]
  | late h =>
    left
    rw [show s' = _ from h]
  | lost => exact Or.inr ⟨rfl, rfl⟩

/-- The read-back sees what was written. -/
theorem always_afterWrite (hlength : log.length = 2) (hsaw : ∀ q, Saw log q → q = expectedIssuer cp)
    (hs : s.provider = some (expectedIssuer cp)) :
    CallAlways cp base (.ask .readOIDCProvider (afterReadback (oidcConfig cp))) log s := by
  have hlog : log ≠ [] := by
    rintro rfl
    cases hlength
  intro t ht
  have htprovider := ht.of_some hs
  refine ⟨callSettles_ask hsaw (by omega), fun x u hu _ => ?_⟩
  obtain ⟨rfl, hanswer⟩ := effect_read hu
  refine ⟨IssuerKept.refl _ _, ?_⟩
  have hsaw' : ∀ q, Saw (log ++ [⟨.readOIDCProvider, x⟩]) q → q = expectedIssuer cp :=
    fun q hq => hsaw q ((saw_append hlog).mp hq)
  cases x with
  | none => exact fun v _ => callSettles_of_failed hsaw' List.mem_concat_self rfl
  | some readback =>
    have hreadback := hanswer readback rfl
    rw [htprovider] at hreadback
    have hok : verifyIssuer readback (expectedIssuer cp) = .ok () := by
      have hne : expectedIssuer cp ≠ "" := by
        rw [expectedIssuer_eq]
        exact append_providerPath_ne_empty _
      rw [hreadback]
      simp [verifyIssuer, hne]
    have hdone : afterReadback (oidcConfig cp) (some readback) = .done (.ok ()) :=
      congrArg Proc.done hok
    rw [hdone]
    refine fun v _ => ⟨fun q hq hne => absurd (hsaw' q hq) hne, fun _ _ => ⟨?_, fun _ => rfl, ?_⟩⟩
    · intro r hr
      cases hr
      rfl
    · rw [List.length_append, hlength]
      simp

/-- A call that may write creates the provider its issuer belongs to, or leaves it as it is. -/
theorem always_write (hlength : log.length = 1) (hsaw : ∀ q, Saw log q → q = expectedIssuer cp)
    (hs : s.provider = some (expectedIssuer cp) ∨
      ((oidcConfig cp).issuerURL = base ∧ s.provider = none)) :
    CallAlways cp base (.ask (.writeOIDCProvider (oidcConfig cp).issuerURL
      (oidcConfig cp).scopesSupported) (afterWrite (oidcConfig cp))) log s := by
  have hlog : log ≠ [] := by
    rintro rfl
    cases hlength
  intro t ht
  -- the others may have created the provider meanwhile, with the same issuer
  have htprovider : t.provider = some (expectedIssuer cp) ∨
      ((oidcConfig cp).issuerURL = base ∧ t.provider = none) := by
    rcases hs with hs | ⟨hbase, hs⟩
    · exact Or.inl (ht.of_some hs)
    · rcases ht with ht | ⟨-, ht⟩
      · exact Or.inr ⟨hbase, ht.trans hs⟩
      · exact Or.inl (by rw [ht, expectedIssuer_eq, hbase])
  refine ⟨callSettles_ask hsaw (by omega), fun x u hu _ => ?_⟩
  have hsaw' : ∀ q, Saw (log ++ [⟨.writeOIDCProvider (oidcConfig cp).issuerURL
      (oidcConfig cp).scopesSupported, x⟩]) q → q = expectedIssuer cp :=
    fun q hq => hsaw q ((saw_append hlog).mp hq)
  have hkept : IssuerKept base t u := by
    rcases effect_write hu with hu | ⟨-, rfl⟩
    · rcases htprovider with htprovider | ⟨hbase, hnone⟩
      · exact Or.inl (by rw [hu, htprovider, expectedIssuer_eq])
      · exact Or.inr ⟨hnone, by rw [hu, hbase]⟩
    · exact IssuerKept.refl _ _
  refine ⟨hkept, ?_⟩
  cases x with
  | none => exact fun v _ => callSettles_of_failed hsaw' List.mem_concat_self rfl
  | some y =>
    have huprovider : u.provider = some (expectedIssuer cp) := by
      rcases effect_write hu with hu | ⟨hfailed, -⟩
      · rw [hu, expectedIssuer_eq]
      · cases hfailed
    exact always_afterWrite (by rw [List.length_append, hlength]; rfl) hsaw' huprovider

/-- **One call among others.** -/
theorem always_ensureOIDCProvider (hs : s.provider ≠ some "") :
    CallAlways cp base (ensureOIDCProvider (oidcConfig cp)).run [] s := by
  rw [run_ensureOIDCProvider]
  intro t ht
  have hne := ht.ne_empty hs
  refine ⟨callSettles_ask (fun q hq => by cases hq) (by simp), fun x u hu hfirst => ?_⟩
  obtain ⟨rfl, hanswer⟩ := effect_read hu
  refine ⟨IssuerKept.refl _ _, ?_⟩
  cases x with
  | none =>
    exact fun v _ => callSettles_of_failed (fun q hq => by cases hq) (List.mem_singleton_self _) rfl
  | some existing =>
    have hexisting := hanswer existing rfl
    cases hprovider : u.provider with
    | none =>
      rw [hprovider] at hexisting
      obtain rfl : existing = none := hexisting
      exact always_write rfl (fun q hq => by cases hq) (Or.inr ⟨hfirst rfl rfl, hprovider⟩)
    | some q =>
      rw [hprovider] at hexisting
      obtain rfl : existing = some (some q) := hexisting
      have hq : q ≠ "" := by
        rintro rfl
        exact hne hprovider
      have hsaw : ∀ q', Saw ([] ++ [⟨.readOIDCProvider, some (some (some q))⟩]) q' → q' = q := by
        intro q' hq'
        cases hq'
        rfl
      by_cases hsame : q = expectedIssuer cp
      · have hgo : conflictingIssuer (some (some q)) (expectedIssuer cp) = none := by
          simp [conflictingIssuer, hsame]
        have hafter : afterRead (oidcConfig cp) (some (some (some q))) =
            .ask (.writeOIDCProvider (oidcConfig cp).issuerURL (oidcConfig cp).scopesSupported)
              (afterWrite (oidcConfig cp)) := by
          unfold afterRead
          unfold expectedIssuer at hgo
          simp only [hgo]
        rw [hafter]
        exact always_write rfl (fun q' hq' => (hsaw q' hq').trans hsame)
          (Or.inl (by rw [hprovider, hsame]))
      · have hstop : conflictingIssuer (some (some q)) (expectedIssuer cp) = some q := by
          simp [conflictingIssuer, hsame, hq]
        have hafter : afterRead (oidcConfig cp) (some (some (some q))) =
            .done (.error (.issuerConflict q (expectedIssuer cp))) := by
          unfold afterRead
          unfold expectedIssuer at hstop ⊢
          simp only [hstop]
        rw [hafter]
        refine fun v hv => ⟨fun q' hq' _ => ?_, fun hv' _ => ?_⟩
        · obtain rfl := hsaw q' hq'
          exact ⟨rfl, rfl⟩
        · have hsees := hv.of_some hprovider
          rw [hv'] at hsees
          exact absurd (Option.some.inj hsees).symm hsame

end Call

/-! ### All calls -/

/-- What the calls agree on: a provider that is there stays as it is. -/
theorem agreement_issuerKept (ι : Type) (base : String) :
    @Agreement Request Resp Remote ι (fun _ => IssuerKept base) fun _ _ _ => IssuerKept base where
  refl _ := IssuerKept.refl base
  trans _ _ _ _ := IssuerKept.trans
  others _ _ _ _ _ _ _ h := h

section Calls

variable {ι : Type} [DecidableEq ι]

/-- The calls of the control planes, none of which has sent a request yet. -/
def starting (calls : ι → ControlPlane) (s : Remote) :
    Pool Request Resp (Except VaultError Unit) Remote ι :=
  ⟨s, fun i => (ensureOIDCProvider (oidcConfig (calls i))).run, fun _ => []⟩

/-- A step of one of the calls. -/
abbrev CallStep (calls : ι → ControlPlane) (base : String) :
    Pool Request Resp (Except VaultError Unit) Remote ι →
    Pool Request Resp (Except VaultError Unit) Remote ι → Prop :=
  Step serve (fun i => FirstRead (calls i) base) fun _ => ∅

variable {calls : ι → ControlPlane} {base : String} {s₀ : Remote}
  {c c' : Pool Request Resp (Except VaultError Unit) Remote ι}

/-- In every reachable state each call is on its way. -/
theorem allAlways_of_run (hs₀ : s₀.provider ≠ some "")
    (hrun : ReflTransGen (CallStep calls base) (starting calls s₀) c) :
    AllAlways serve (fun i => FirstRead (calls i) base) (fun _ => IssuerKept base)
      (fun _ _ _ => IssuerKept base) (fun i => CallSettles (calls i)) c :=
  always_run (agreement_issuerKept ι base) (fun _ _ hp => hp.elim)
    (fun _ => always_ensureOIDCProvider hs₀) hrun

/-- A run changes the provider as one call does. -/
theorem issuerKept_of_run (hc : AllAlways serve (fun i => FirstRead (calls i) base)
      (fun _ => IssuerKept base) (fun _ _ _ => IssuerKept base) (fun i => CallSettles (calls i)) c)
    (hrun : ReflTransGen (CallStep calls base) c c') : IssuerKept base c.state c'.state := by
  induction hrun with
  | refl => exact IssuerKept.refl _ _
  | tail hrun hstep ih =>
    have hbefore := always_run (agreement_issuerKept ι base) (fun _ _ hp => hp.elim) hc hrun
    rcases hstep with ⟨i, e, hsends⟩ | ⟨i, a, p, hp, -⟩
    · exact ih.trans (guar_of_sends (agreement_issuerKept ι base) hbefore hsends).1
    · exact hp.elim

/-- **The shared issuer never flips.** Whatever the order of the requests and whichever of them fail:
if the calls whose first read finds no provider ask for one base issuer, a provider that is there keeps
its issuer; a call whose first read sees another issuer than it asks for has ended with the conflict
and has sent no other request; and a call that asks for the issuer of the provider, and whose requests
succeed, ends with success. -/
theorem issuer_never_flips (hs₀ : s₀.provider ≠ some "")
    (hrun : ReflTransGen (CallStep calls base) (starting calls s₀) c) :
    (∀ c', ReflTransGen (CallStep calls base) c c' →
      ∀ q, c.state.provider = some q → c'.state.provider = some q) ∧
    ∀ i, CallSettles (calls i) (c.logs i) (c.procs i) c.state := by
  have hc := allAlways_of_run hs₀ hrun
  exact ⟨fun c' hrun' q hq => (issuerKept_of_run hc hrun').of_some hq,
    fun i => (hc i).now (IssuerKept.refl base)⟩

end Calls

/-- A control plane that asks for an issuer. -/
def issuing (issuer : String) : ControlPlane where
  metadata := {}
  spec := { clusterName := "alpha", platform := { vault := { oidcIssuer := issuer } } }
  status := {}

/-- Two control planes that disagree about the issuer. -/
def disagreeing : Bool → ControlPlane
  | false => issuing "https://vault.example.org"
  | true => issuing "https://other.example.org/"

theorem firstRead_of_provider {cp : ControlPlane} {base : String}
    {log : List (Exchange Request Resp)} {s : Remote} (h : s.provider ≠ none) (r : Request) :
    FirstRead cp base log ⟨r, some (answer r s).1⟩ := by
  intro _ he
  obtain rfl : r = .readOIDCProvider := congrArg Exchange.request he
  have hnone : s.provider.map some = none := by
    simpa [answer] using he
  exact absurd (Option.map_eq_none_iff.mp hnone) h

/-- The first of the two reads, writes and reads back; then the second reads. -/
def oneAfterTheOther : Pool Request Resp (Except VaultError Unit) Remote Bool :=
  [false, false, false, true].foldl (Pool.turn answer) (starting disagreeing {})

theorem run_oneAfterTheOther : ReflTransGen (CallStep disagreeing "https://vault.example.org")
    (starting disagreeing {}) oneAfterTheOther := by
  have hfirst : ∀ log e, FirstRead (disagreeing false) "https://vault.example.org" log e :=
    fun _ _ _ _ => by decide
  have hturn : ∀ c, ReflTransGen (CallStep disagreeing "https://vault.example.org") c
      (c.turn answer false) := fun c => run_turn serve_answer fun _ => hfirst _ _
  show ReflTransGen _ _ (((((starting disagreeing {}).turn answer false).turn answer false).turn
    answer false).turn answer true)
  refine (((hturn _).trans (hturn _)).trans (hturn _)).trans (run_turn serve_answer ?_)
  exact firstRead_of_provider (by decide +kernel)

theorem issuer_never_flips_disagreeing :
    oneAfterTheOther.state.provider =
      some "https://vault.example.org/v1/identity/oidc/provider/openchami" ∧
    oneAfterTheOther.procs false = .done (.ok ()) ∧
    oneAfterTheOther.procs true = .done (.error (.issuerConflict
      "https://vault.example.org/v1/identity/oidc/provider/openchami"
      "https://other.example.org/v1/identity/oidc/provider/openchami")) := by
  have hfalse : expectedIssuer (disagreeing false) =
      "https://vault.example.org/v1/identity/oidc/provider/openchami" := by decide +kernel
  have htrue : expectedIssuer (disagreeing true) =
      "https://other.example.org/v1/identity/oidc/provider/openchami" := by decide +kernel
  have hprovider : oneAfterTheOther.state.provider =
      some "https://vault.example.org/v1/identity/oidc/provider/openchami" := by decide +kernel
  obtain ⟨-, hcalls⟩ := issuer_never_flips (by decide) run_oneAfterTheOther
  have haccepted := (hcalls false).accepted (by rw [hprovider, hfalse]) (by decide +kernel)
  have hrefused := (hcalls true).refused
    "https://vault.example.org/v1/identity/oidc/provider/openchami" (by rfl) (by rw [htrue]; decide)
  rw [htrue] at hrefused
  exact ⟨hprovider, haccepted.2.1 (by decide +kernel), hrefused.1⟩

end OpenchamiOperator.Vault
