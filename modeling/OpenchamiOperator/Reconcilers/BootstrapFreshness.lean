import OpenchamiOperator.Reconcilers.BootstrapToken

/-! # The age of a bootstrap token

One call of `provisionBootstrapToken` of `internal/reconcilers/tokensmith_bootstrap.go` on the
Secret that the API server stores, at one reading of the clock. Times are in nanoseconds; that
`time.Since` stops at the ends of its range does not matter to a comparison with half an hour.

* `provisionBootstrapToken_cases`: the two ways in which a call succeeds.
* `keepsCurrentToken_iff`: from which Secrets every successful call leads to one with a current token
  and no token is minted in vain. -/

namespace OpenchamiOperator.Reconcilers.BootstrapToken

open Lib Lib.JsonDecode Api

/-- What a call asks the clock. -/
def clock (now : ℤ) : Observed := { now, parseTime := Rfc3339.parse }

/-- The answers to the requests of a call: an error of `Get` other than that there is no Secret, the
pods, the command in a pod, and an error of `Patch`. -/
structure Answers where
  getErr : Option String := none
  pods : Except String (List (String × String))
  exec : String → List String → ExecAnswer
  patchErr : Option String := none

/-- What a call leaves: the stored Secret, whether the command that mints a token has run, and the
error that is returned. -/
structure Provisioned where
  secret : Option SecretView
  minted : Bool
  err : Option String

/-- The Secret after it has been applied: the API server merges `stringData` into the data. -/
def applySecret (stored : Option SecretView) (now : ℤ) (token : String) : SecretView :=
  let secret := stored.getD {}
  { data := secret.data.insert "token" token
    annotations := secret.annotations.insert bootstrapTokenMintedAt (Rfc3339.format now) }

def provisionBootstrapToken (quoted jsonError : List Char → String) (cp : ControlPlane)
    (spec : BootstrapTokenSpec) (now : ℤ) (answers : Answers) (stored : Option SecretView) :
    Provisioned :=
  match answers.getErr with
  | some err =>
    ⟨stored, false, some ("reading " ++ spec.subject ++ " bootstrap-token Secret: " ++ err)⟩
  | none =>
    if stored.any (isBootstrapTokenFresh (clock now)) then ⟨stored, false, none⟩
    else
      let minted := (pickTokensmithPod cp answers.pods).isOk
      match mintBootstrapTokenViaExec quoted jsonError cp spec answers.pods answers.exec with
      | .error err =>
        ⟨stored, minted, some ("minting " ++ spec.subject ++ " bootstrap token: " ++ err)⟩
      | .ok token =>
        match answers.patchErr with
        | some err =>
          ⟨stored, minted, some ("applying " ++ spec.subject ++ " bootstrap-token Secret: " ++ err)⟩
        | none => ⟨some (applySecret stored now token), minted, none⟩

/-! ### What a Secret says -/

/-- The time in the annotation. -/
def mintedAt (s : SecretView) : Option ℤ :=
  Rfc3339.parse (s.annotations.getD bootstrapTokenMintedAt "")

/-- A stored Secret with a token, perhaps an empty one, and the time in its annotation. -/
def Stamped (secret : Option SecretView) (token : String) (t : ℤ) : Prop :=
  ∃ s ∈ secret, s.data.get? "token" = some token ∧ mintedAt s = some t

/-- **A current token**: some text, minted at a time that is not later than now and not longer ago
than the refresh age. -/
def HoldsCurrentToken (now : ℤ) (secret : Option SecretView) : Prop :=
  ∃ token t, Stamped secret token t ∧ token ≠ "" ∧ t ≤ now ∧ now - bootstrapTokenRefreshAge ≤ t

theorem Stamped.unique {secret : Option SecretView} {token token' : String} {t t' : ℤ}
    (h : Stamped secret token t) (h' : Stamped secret token' t') : token = token' ∧ t = t' := by
  obtain ⟨s, hs, htoken, ht⟩ := h
  obtain ⟨s', hs', htoken', ht'⟩ := h'
  obtain rfl := Option.mem_unique hs hs'
  exact ⟨Option.some.inj (htoken.symm.trans htoken'), Option.some.inj (ht.symm.trans ht')⟩

/-- A Secret counts as fresh by its stamp alone: the token may be empty, the stamp yet to come. -/
theorem any_isBootstrapTokenFresh_iff {now : ℤ} {stored : Option SecretView} :
    stored.any (isBootstrapTokenFresh (clock now)) = true ↔
      ∃ token t, Stamped stored token t ∧ now - t < bootstrapTokenRefreshAge := by
  have hone : ∀ s : SecretView, isBootstrapTokenFresh (clock now) s = true ↔
      ∃ token t, (s.data.get? "token" = some token ∧ mintedAt s = some t) ∧
        now - t < bootstrapTokenRefreshAge := by
    intro s
    have hempty : Rfc3339.parse "" = none := by decide
    unfold isBootstrapTokenFresh mintedAt
    generalize s.annotations.getD bootstrapTokenMintedAt "" = stamp
    show (_ && (_ && (Rfc3339.parse stamp).any fun t =>
      now - t < bootstrapTokenRefreshAge)) = true ↔ _
    by_cases hstamp : stamp = ""
    · simp [hstamp, hempty]
    · rcases Rfc3339.parse stamp with _ | t <;> simp [hstamp, Option.isSome_iff_exists]
  unfold Stamped
  rcases stored with _ | s
  · simp
  · simpa using hone s

/-! ### A call -/

section Call
variable {quoted jsonError : List Char → String} {cp : ControlPlane} {spec : BootstrapTokenSpec}
  {now : ℤ} {answers : Answers} {stored : Option SecretView}

theorem mint_ne_empty {token : String}
    (h : mintBootstrapTokenViaExec quoted jsonError cp spec answers.pods answers.exec = .ok token) :
    token ≠ "" := by
  unfold mintBootstrapTokenViaExec at h
  simp only [bind, Except.bind] at h
  split at h
  · cases h
  · split at h
    · cases h
    · exact readBootstrapToken_ne_empty h

/-- **How a call succeeds**: it leaves a Secret that counts as fresh, or mints a token and applies
it. -/
theorem provisionBootstrapToken_cases
    (h : (provisionBootstrapToken quoted jsonError cp spec now answers stored).err = none) :
    (stored.any (isBootstrapTokenFresh (clock now)) = true ∧
      (provisionBootstrapToken quoted jsonError cp spec now answers stored).secret = stored) ∨
    (stored.any (isBootstrapTokenFresh (clock now)) = false ∧ ∃ token, token ≠ "" ∧
      (provisionBootstrapToken quoted jsonError cp spec now answers stored).secret =
        some (applySecret stored now token)) := by
  unfold provisionBootstrapToken at h ⊢
  split at h
  · cases h
  · by_cases hfresh : stored.any (isBootstrapTokenFresh (clock now)) = true
    · exact .inl ⟨hfresh, by rw [if_pos hfresh]⟩
    · refine .inr ⟨Bool.eq_false_of_not_eq_true hfresh, ?_⟩
      rw [if_neg hfresh] at h ⊢
      split at h
      · cases h
      · split at h
        · cases h
        · rename_i token htoken _ _
          exact ⟨token, mint_ne_empty htoken, rfl⟩

theorem provisionBootstrapToken_fresh (hget : answers.getErr = none)
    (h : stored.any (isBootstrapTokenFresh (clock now)) = true) :
    provisionBootstrapToken quoted jsonError cp spec now answers stored =
      ⟨stored, false, none⟩ := by
  unfold provisionBootstrapToken
  rw [hget]
  exact if_pos h

theorem minted_eq_false_of_fresh (h : stored.any (isBootstrapTokenFresh (clock now)) = true) :
    (provisionBootstrapToken quoted jsonError cp spec now answers stored).minted = false := by
  unfold provisionBootstrapToken
  split
  · rfl
  · rw [if_pos h]

/-- The plan of a pass applies the Secret wherever a call mints a token. -/
theorem applying_mem_of_minted {obs : Observed} {svc : Service}
    (hparse : obs.parseTime = Rfc3339.parse)
    (h : (provisionBootstrapToken quoted jsonError cp spec obs.now answers
      (obs.secrets (secretName cp (svc.name ++ "-bootstrap-token")))).minted = true) :
    applying ("provisioning service bootstrap tokens: " ++ "applying " ++ svc.name ++
        " bootstrap-token Secret")
      (objectIn cp "Secret" (secretName cp (svc.name ++ "-bootstrap-token"))) ∈
      Reconcilers.provisionBootstrapToken obs cp svc := by
  have hclock : isBootstrapTokenFresh obs = isBootstrapTokenFresh (clock obs.now) := by
    funext s
    unfold isBootstrapTokenFresh clock
    rw [hparse]
  by_cases hfresh : (obs.secrets (secretName cp (svc.name ++ "-bootstrap-token"))).any
      (isBootstrapTokenFresh (clock obs.now)) = true
  · rw [minted_eq_false_of_fresh hfresh] at h
    cases h
  · unfold Reconcilers.provisionBootstrapToken
    dsimp only
    rw [hclock, if_neg hfresh]
    simp

theorem mintedAt_applySecret (token : String) :
    mintedAt (applySecret stored now token) = Rfc3339.parse (Rfc3339.format now) := by
  simp [mintedAt, applySecret, GoMap.getD, GoMap.get?_insert]

/-- What has been applied now is current, if the year of now can be written with four digits. -/
theorem holdsCurrentToken_applySecret {token : String} (htoken : token ≠ "")
    (hyear : 0 ≤ Rfc3339.year now ∧ Rfc3339.year now ≤ 9999) :
    HoldsCurrentToken now (some (applySecret stored now token)) := by
  have hstamp : mintedAt (applySecret stored now token) =
      some (now / Rfc3339.second * Rfc3339.second) := by
    rw [mintedAt_applySecret, Rfc3339.parse_format, if_pos hyear]
  have hdata : (applySecret stored now token).data.get? "token" = some token := by
    simp [applySecret, GoMap.get?_insert]
  refine ⟨token, _, ⟨_, rfl, hdata, hstamp⟩, htoken, ?_⟩
  unfold bootstrapTokenRefreshAge Rfc3339.second
  omega

end Call

/-- Answers with which every call succeeds. -/
def willing : Answers where
  pods := .ok [("tokensmith-0", "Running")]
  exec _ _ := { stdout := tokenObject "abc".toList ++ [] }

section Willing
variable {quoted jsonError : List Char → String} {cp : ControlPlane} {spec : BootstrapTokenSpec}
  {now : ℤ} {stored : Option SecretView}

theorem mint_willing :
    mintBootstrapTokenViaExec quoted jsonError cp spec willing.pods willing.exec = .ok "abc" := by
  have hread : readBootstrapToken quoted jsonError ([] ++ (tokenObject "abc".toList ++ [])) =
      .ok (String.ofList "abc".toList) := by
    have htext := text_tokenObject (content_of_all (s := "abc".toList) (by decide)) []
    refine (readBootstrapToken_banner (fun c hc => absurd hc List.not_mem_nil) htext
      (by decide)).mpr ⟨List.not_mem_nil, htext.mono (by decide), ?_, ?_⟩
    · simp [Storable, Value.isStringOrNull]
    · exact ⟨[], "bootstrap_token".toList, "abc".toList, [], rfl, by decide, rfl, by simp⟩
  exact hread

/-- With willing answers a stale Secret is replaced. -/
theorem provisionBootstrapToken_willing
    (hstale : stored.any (isBootstrapTokenFresh (clock now)) = false) :
    provisionBootstrapToken quoted jsonError cp spec now willing stored =
      ⟨some (applySecret stored now "abc"), true, none⟩ := by
  unfold provisionBootstrapToken
  simp only [hstale, mint_willing]
  rfl

end Willing

/-! ### Before and after -/

/-- Every call at a time that returns no error leaves a current token, and none mints a token where a
current one was. -/
def KeepsCurrentToken (quoted jsonError : List Char → String) (cp : ControlPlane)
    (spec : BootstrapTokenSpec) (now : ℤ) (stored : Option SecretView) : Prop :=
  ∀ answers, let after := provisionBootstrapToken quoted jsonError cp spec now answers stored
    (after.err = none → HoldsCurrentToken now after.secret) ∧
      (HoldsCurrentToken now stored → after.minted = false)

section Keeps
variable {quoted jsonError : List Char → String} {cp : ControlPlane} {spec : BootstrapTokenSpec}
  {now : ℤ} {stored : Option SecretView}

/-- A Secret that counts as fresh is left as it is. -/
theorem keepsCurrentToken_iff_of_fresh
    (hfresh : stored.any (isBootstrapTokenFresh (clock now)) = true) :
    KeepsCurrentToken quoted jsonError cp spec now stored ↔ HoldsCurrentToken now stored := by
  constructor
  · intro hkeeps
    have hafter := (hkeeps willing).1
    rw [provisionBootstrapToken_fresh rfl hfresh] at hafter
    exact hafter rfl
  · intro hcurrent answers
    refine ⟨fun hnone => ?_, fun _ => minted_eq_false_of_fresh hfresh⟩
    rcases provisionBootstrapToken_cases hnone with ⟨-, hsecret⟩ | ⟨hstale, -⟩
    · rw [hsecret]
      exact hcurrent
    · rw [hfresh] at hstale
      cases hstale

/-- For any other Secret a token is minted, and its stamp has to be read again. -/
theorem keepsCurrentToken_iff_of_stale
    (hstale : stored.any (isBootstrapTokenFresh (clock now)) = false) :
    KeepsCurrentToken quoted jsonError cp spec now stored ↔
      ¬ HoldsCurrentToken now stored ∧ 0 ≤ Rfc3339.year now ∧ Rfc3339.year now ≤ 9999 := by
  constructor
  · intro hkeeps
    obtain ⟨hafter, hbefore⟩ := hkeeps willing
    rw [provisionBootstrapToken_willing hstale] at hafter hbefore
    constructor
    · intro hcurrent
      cases hbefore hcurrent
    · by_contra hyear
      obtain ⟨token, t, ⟨s, hs, -, ht⟩, -⟩ := hafter rfl
      obtain rfl := Option.some.inj hs
      rw [mintedAt_applySecret, Rfc3339.parse_format, if_neg hyear] at ht
      cases ht
  · rintro ⟨hcurrent, hyear⟩ answers
    refine ⟨fun hnone => ?_, fun hcurrent' => absurd hcurrent' hcurrent⟩
    rcases provisionBootstrapToken_cases hnone with ⟨hfresh, -⟩ | ⟨-, token, htoken, hsecret⟩
    · rw [hfresh] at hstale
      cases hstale
    · rw [hsecret]
      exact holdsCurrentToken_applySecret htoken hyear

/-- **When calls keep a current token**: if and only if

* a stored token is not stamped later than now, an empty one is not stamped within the refresh age,
  and another one is not stamped exactly the refresh age ago;
* the year of now has at most four digits, or the stored token is stamped within the refresh age. -/
theorem keepsCurrentToken_iff :
    KeepsCurrentToken quoted jsonError cp spec now stored ↔
      (∀ token t, Stamped stored token t →
        t ≤ now ∧ (token = "" → bootstrapTokenRefreshAge ≤ now - t) ∧
          (token ≠ "" → now - t ≠ bootstrapTokenRefreshAge)) ∧
      ((0 ≤ Rfc3339.year now ∧ Rfc3339.year now ≤ 9999) ∨
        ∃ token t, Stamped stored token t ∧ now - t < bootstrapTokenRefreshAge) := by
  have hage : 0 < bootstrapTokenRefreshAge := by decide
  by_cases hfresh : stored.any (isBootstrapTokenFresh (clock now)) = true
  · rw [keepsCurrentToken_iff_of_fresh hfresh]
    obtain ⟨token, t, hstamped, hyoung⟩ := any_isBootstrapTokenFresh_iff.mp hfresh
    constructor
    · rintro ⟨token', t', hstamped', htoken, hpast, hrecent⟩
      obtain ⟨rfl, rfl⟩ := hstamped.unique hstamped'
      refine ⟨fun token' t' hstamped' => ?_, .inr ⟨token, t, hstamped, hyoung⟩⟩
      obtain ⟨rfl, rfl⟩ := hstamped.unique hstamped'
      exact ⟨hpast, fun hempty => absurd hempty htoken, fun _ => by omega⟩
    · rintro ⟨hstored, -⟩
      obtain ⟨hpast, hempty, -⟩ := hstored token t hstamped
      refine ⟨token, t, hstamped, fun htoken => ?_, hpast, by omega⟩
      have hold := hempty htoken
      omega
  · rw [keepsCurrentToken_iff_of_stale (Bool.eq_false_of_not_eq_true hfresh)]
    rw [any_isBootstrapTokenFresh_iff] at hfresh
    constructor
    · rintro ⟨hcurrent, hyear⟩
      refine ⟨fun token t hstamped => ?_, .inl hyear⟩
      have hold : bootstrapTokenRefreshAge ≤ now - t := by
        by_contra hyoung
        exact hfresh ⟨token, t, hstamped, by omega⟩
      refine ⟨by omega, fun _ => hold, fun htoken heq => ?_⟩
      exact hcurrent ⟨token, t, hstamped, htoken, by omega, by omega⟩
    · rintro ⟨hstored, hyear⟩
      refine ⟨?_, hyear.resolve_right hfresh⟩
      rintro ⟨token, t, hstamped, htoken, hpast, hrecent⟩
      have hexact := (hstored token t hstamped).2.2 htoken
      exact hfresh ⟨token, t, hstamped, by omega⟩

end Keeps

/-- A stamp of the year 2099 counts as fresh. -/
theorem not_keepsCurrentToken_future :
    let now := Rfc3339.date 2026 5 12 0 0 0 0
    let stored : SecretView :=
      { data := .ofList [("token", "abc")]
        annotations := .ofList [(bootstrapTokenMintedAt, "2099-01-01T00:00:00Z")] }
    let after := provisionBootstrapToken (fun _ => "") (fun _ => "") {} bootServiceBootstrap now
      willing (some stored)
    after.err = none ∧ after.secret = some stored ∧ ¬ HoldsCurrentToken now after.secret := by
  intro now stored after
  have hstamped : Stamped (some stored) "abc" (Rfc3339.date 2099 1 1 0 0 0 0) :=
    ⟨stored, rfl, by decide, by decide +kernel⟩
  have hfresh := any_isBootstrapTokenFresh_iff.mpr
    ⟨"abc", _, hstamped, (by decide +kernel : now - _ < bootstrapTokenRefreshAge)⟩
  have hafter : after = ⟨some stored, false, none⟩ := provisionBootstrapToken_fresh rfl hfresh
  rw [hafter]
  refine ⟨rfl, rfl, ?_⟩
  rintro ⟨token, t, hstamped', -, hpast, -⟩
  obtain rfl := (hstamped.unique hstamped').2
  exact absurd hpast (by decide +kernel)

end OpenchamiOperator.Reconcilers.BootstrapToken
