import OpenchamiOperator.Reconcilers.VaultCalls

/-! # The credentials of the AppRole

With the AppRole method the Vault Secrets Operator logs in with a RoleID, which a call of the
reconciler writes to the `VaultAuth`, and a secret-id, which it keeps in a Secret together with the
RoleID it was generated for. Between the calls the AppRole may be created anew, and the Secret may be
deleted or its secret-id be cleared.

* `eval_reconcile`: what a call does to the Secret and the `VaultAuth`.
* `generatedFor_of_history`: in every history a secret-id was generated for the RoleID next to it.
* `bound_iff`: after a call that succeeds the three parts belong together exactly when Vault's answer
  to the role-id read has a RoleID in it; without one the call reports success all the same. -/

namespace OpenchamiOperator.Reconcilers.VaultReconciler

open Lib Strings Api Controller Vault Interaction Relation

/-! ### Requests apart from the credentials -/

/-- The request is one of those by which the credentials are made up. -/
def makesCredentials : Request → Bool
  | .readRoleID _ => true
  | .generateSecretID _ => true
  | r => appliesSecret r

/-- The request has nothing to do with the Secret. -/
def Later (r : Request) : Prop := makesCredentials r = false

/-- The request has nothing to do with the Secret or the `VaultAuth`. -/
def Apart (r : Request) : Prop := makesCredentials r = false ∧ appliesAuth r = false

theorem appliesSecret_of_later {r : Request} (h : Later r) : appliesSecret r = false := by
  cases r with
  | applySecret => exact h
  | _ => rfl

/-! ### The parts of a call that are apart -/

theorem apart_request {r : Request} (hr : Apart r) (context : String) :
    Only Apart (request r context).run :=
  Only.send hr _

theorem apart_ensureSecret (path : String) (data : GoMap String) (overwrite : Bool) :
    Only Apart (ensureSecret path data overwrite).run := by
  unfold ensureSecret
  split_ifs
  · exact apart_request ⟨by rfl, by rfl⟩ _
  · refine Only.except_bind (apart_request ⟨by rfl, by rfl⟩ _) fun existing => ?_
    cases existing with
    | some _ => exact trivial
    | none => exact apart_request ⟨by rfl, by rfl⟩ _

theorem apart_isReachable : Only Apart isReachable.run := by
  refine Only.except_bind (apart_request ⟨by rfl, by rfl⟩ _) fun isSealed => ?_
  split_ifs
  · exact trivial
  · exact trivial

theorem apart_ensureKVMount (mount : String) : Only Apart (ensureKVMount mount).run := by
  refine Only.except_bind (apart_request ⟨by rfl, by rfl⟩ _) fun mounts => ?_
  split_ifs
  · exact trivial
  · exact Only.send ⟨by rfl, by rfl⟩ _

theorem apart_randomData : ∀ keys : List String, Only Apart (randomData keys).run
  | [] => trivial
  | _ :: keys => Only.except_bind (apart_request ⟨by rfl, by rfl⟩ _) fun _ =>
      Only.except_bind (apart_randomData keys) fun _ => trivial

theorem apart_ensureClusterSecrets (paths : VaultPaths) :
    Only Apart (ensureClusterSecrets paths).run := by
  refine Only.except_bind (Only.forEach fun spec _ => ?_) fun _ => Only.forEach fun seed _ => ?_
  · unfold ensureRoleSecret
    split
    · exact trivial
    · exact Only.except_bind (apart_request ⟨by rfl, by rfl⟩ _) fun _ =>
        (apart_ensureSecret _ _ _).mapError _
  · exact Only.except_bind (apart_randomData _) fun _ => (apart_ensureSecret _ _ _).mapError _

theorem apart_ensureOIDCProvider (cfg : OIDCConfig) : Only Apart (ensureOIDCProvider cfg).run := by
  refine Only.except_bind (apart_request ⟨by rfl, by rfl⟩ _) fun existing => ?_
  split
  · exact trivial
  · refine Only.except_bind (apart_request ⟨by rfl, by rfl⟩ _) fun _ => ?_
    exact Only.except_bind (apart_request ⟨by rfl, by rfl⟩ _) fun _ => trivial

theorem apart_ensureOIDCConfig (clusterName : String) (cfg : OIDCConfig) :
    Only Apart (ensureOIDCConfig clusterName cfg).run := by
  refine Only.except_bind (apart_request ⟨by rfl, by rfl⟩ _) fun _ => ?_
  refine Only.except_bind (apart_ensureOIDCProvider cfg) fun _ => ?_
  refine Only.except_bind (apart_request ⟨by rfl, by rfl⟩ _) fun _ => ?_
  refine Only.except_bind (apart_request ⟨by rfl, by rfl⟩ _) fun _ => ?_
  refine Only.except_bind (apart_request ⟨by rfl, by rfl⟩ _) fun resp => ?_
  cases resp with
  | none => exact trivial
  | some client =>
    dsimp only
    split_ifs
    · exact trivial
    · refine Only.except_bind (apart_request ⟨by rfl, by rfl⟩ _) fun cliResp => ?_
      cases cliResp with
      | none => exact trivial
      | some cli =>
        dsimp only
        split_ifs
        · exact trivial
        · exact trivial

theorem apart_ensureOIDC (cp : ControlPlane) (paths : VaultPaths) :
    Only Apart (ensureOIDC cp paths).run := by
  unfold ensureOIDC
  split_ifs
  · refine Only.except_bind ((apart_ensureOIDCConfig _ _).mapError _) fun creds => ?_
    refine Only.except_bind ((apart_ensureSecret _ _ _).mapError _) fun _ => ?_
    split_ifs
    · exact (apart_ensureSecret _ _ _).mapError _
    · exact trivial
  · exact trivial

/-! ### What a log tells -/

/-- The RoleID in an answer to the role-id read; `some none` when Vault has answered without one. -/
def roleIDAnswer : Exchange Request Resp → Option (Option String)
  | ⟨.readRoleID _, some (some id)⟩ => some id
  | _ => none

/-- The RoleID that Vault reported in a call. -/
def reported (log : List (Exchange Request Resp)) : Option (Option String) :=
  log.findSome? roleIDAnswer

/-- Vault generated the secret-id in a call. -/
def Generated (role id : String) (log : List (Exchange Request Resp)) : Prop :=
  ⟨.generateSecretID role, some (some (some id))⟩ ∈ log

/-- A secret-id is asked for. -/
def asksSecretID : Request → Bool
  | .generateSecretID _ => true
  | _ => false

/-- No secret-id was asked for in a call. -/
def NoNewSecretID (log : List (Exchange Request Resp)) : Prop :=
  ∀ e ∈ log, asksSecretID e.request = false

section Logs

variable {log log' : List (Exchange Request Resp)}

theorem roleIDAnswer_of_later {e : Exchange Request Resp} (h : Later e.request) :
    roleIDAnswer e = none := by
  obtain ⟨r, x⟩ := e
  cases r with
  | readRoleID => cases h
  | _ => rfl

theorem reported_of_later (h : ∀ e ∈ log, Later e.request) : reported log = none := by
  unfold reported
  rw [List.findSome?_eq_none_iff]
  exact fun e he => roleIDAnswer_of_later (h e he)

theorem reported_append (h : reported log = none) : reported (log ++ log') = reported log' := by
  unfold reported at h ⊢
  rw [List.findSome?_append, h, Option.none_or]

theorem reported_append_of_some {rid : Option String} (h : reported log = some rid) :
    reported (log ++ log') = some rid := by
  unfold reported at h ⊢
  rw [List.findSome?_append, h, Option.some_or]

theorem noNewSecretID_of_later (h : ∀ e ∈ log, Later e.request) : NoNewSecretID log := by
  rintro ⟨r, x⟩ he
  have hr := h _ he
  cases r with
  | generateSecretID => cases hr
  | _ => rfl

theorem NoNewSecretID.append (h : NoNewSecretID log) (h' : NoNewSecretID log') :
    NoNewSecretID (log ++ log') := by
  intro e he
  rcases List.mem_append.mp he with he | he
  · exact h e he
  · exact h' e he

end Logs

/-! ### What a call does about the secret-id -/

/-- Where the secret-id of the control plane is kept. -/
def secretKey (cp : ControlPlane) : String × String :=
  (controlPlaneNamespace cp, cp.spec.platform.vault.appRoleSecretRef.getD "")

/-- The secret-id that is there is kept. -/
structure KeptID (cp : ControlPlane) (roleID : String)
    (before after : String × String → Option BoundSecret) (log : List (Exchange Request Resp)) :
    Prop where
  usable : usable (before (secretKey cp)) roleID = true
  secrets : after = before
  quiet : NoNewSecretID log

/-- A new secret-id is stored together with the RoleID. -/
structure RenewedID (cp : ControlPlane) (roleID : String)
    (before after : String × String → Option BoundSecret) (log : List (Exchange Request Resp)) :
    Prop where
  unusable : usable (before (secretKey cp)) roleID = false
  secrets : ∃ id, id ≠ "" ∧ Generated (paths cp.spec.clusterName).appRoleServices id log ∧
    after = Function.update before (secretKey cp) (some ⟨some id, some roleID⟩)

section Call

variable {cp : ControlPlane} {roleID : String} {s s' : Remote} {log : List (Exchange Request Resp)}

theorem secrets_of_effect {r : Request} (hr : appliesSecret r = false) {x : Option (Resp r)}
    (h : Effect serve s ⟨r, x⟩ s') : s'.secrets = s.secrets := by
  cases h with
  | served h => exact (serve_frame h).2.1 hr
  | late h => exact (serve_frame h).2.1 hr
  | lost => rfl

theorem secrets_of_later {α : Type} {p : Proc Request Resp α} {a : α} (h : Eval serve p s log a s')
    (hp : Only Later p) : s'.secrets = s.secrets :=
  h.frame Remote.secrets hp fun _ _ _ _ hr hserve =>
    (serve_frame hserve).2.1 (appliesSecret_of_later hr)

theorem eval_generateSecretID {role : String} {r : Except VaultError String}
    (h : Eval serve (generateSecretID role).run s log r s') :
    s'.secrets = s.secrets ∧ ∀ id, r = .ok id → id ≠ "" → Generated role id log := by
  rcases h.except_bind_inv with ⟨e, rfl, herror⟩ | ⟨resp, s₁, l₁, l₂, h₁, h₂, rfl⟩
  · obtain ⟨x, heffect, -, -⟩ := herror.send_inv
    exact ⟨secrets_of_effect rfl heffect, fun id hid => by cases hid⟩
  · obtain ⟨hserve, rfl⟩ := h₁.ok_send_inv
    have hsecrets : s₁.secrets = s.secrets := (serve_frame hserve).2.1 rfl
    cases resp with
    | none =>
      obtain ⟨rfl, rfl, rfl⟩ := h₂.throw_inv
      exact ⟨hsecrets, fun id hid => by cases hid⟩
    | some answer =>
      obtain ⟨rfl, rfl, rfl⟩ := h₂.pure_inv
      refine ⟨hsecrets, fun id hid hne => ?_⟩
      cases answer with
      | none =>
        cases hid
        exact absurd rfl hne
      | some id' =>
        cases hid
        exact List.mem_cons_self

/-- What is done about the secret-id: nothing, and the call fails; or it is kept; or it is renewed. -/
theorem eval_ensureAppRoleSecretID {r : Except VaultError Unit}
    (h : Eval serve (ensureAppRoleSecretID cp (paths cp.spec.clusterName) roleID).run s log r s') :
    (s'.secrets = s.secrets ∧ r ≠ .ok ()) ∨ KeptID cp roleID s.secrets s'.secrets log ∨
      RenewedID cp roleID s.secrets s'.secrets log := by
  unfold ensureAppRoleSecretID at h
  extract_lets name ns at h
  split_ifs at h with hname
  · obtain ⟨rfl, rfl, -⟩ := h.throw_inv
    exact Or.inl ⟨rfl, fun h => by cases h⟩
  · rcases h.except_bind_inv with ⟨e, rfl, herror⟩ | ⟨existing, s₁, l₁, l₂, h₁, h₂, rfl⟩
    · obtain ⟨x, heffect, -, -⟩ := herror.send_inv
      exact Or.inl ⟨secrets_of_effect rfl heffect, fun h => by cases h⟩
    · obtain ⟨⟨hexisting, rfl⟩, rfl⟩ := h₁.ok_send_inv
      have husable : usable existing roleID = usable (s₁.secrets (secretKey cp)) roleID := by
        rw [hexisting]
        rfl
      split_ifs at h₂ with hkeep
      · obtain ⟨rfl, rfl, rfl⟩ := h₂.pure_inv
        refine Or.inr (Or.inl ⟨husable.symm.trans hkeep, rfl, ?_⟩)
        intro e he
        rw [List.append_nil, List.mem_singleton] at he
        rw [he]
        rfl
      · have hunusable : usable (s₁.secrets (secretKey cp)) roleID = false := by
          rw [← husable]
          simpa using hkeep
        rcases h₂.except_bind_inv with ⟨e, rfl, herror⟩ | ⟨secretID, s₂, l₃, l₄, h₃, h₄, rfl⟩
        · obtain ⟨r', hr', -⟩ := herror.mapError_inv
          exact Or.inl ⟨(eval_generateSecretID hr').1, fun h => by cases h⟩
        · obtain ⟨hsecrets, hgenerated⟩ := eval_generateSecretID h₃.ok_mapError_inv
          split_ifs at h₄ with hempty
          · obtain ⟨rfl, rfl, -⟩ := h₄.throw_inv
            exact Or.inl ⟨hsecrets, fun h => by cases h⟩
          · -- the Secret is applied; if that fails it may be stored all the same
            obtain ⟨x, heffect, rfl, rfl⟩ := h₄.send_inv
            have hrenewed : s'.secrets = Function.update s₂.secrets (secretKey cp)
                (some ⟨some secretID, some roleID⟩) → RenewedID cp roleID s₁.secrets s'.secrets
                  ([⟨.getSecret ns name, some existing⟩] ++ (l₃ ++
                    [⟨.applySecret ns name ⟨some secretID, some roleID⟩, x⟩])) := by
              intro hs'
              refine ⟨hunusable, secretID, hempty, ?_, by rw [hs', hsecrets]⟩
              exact List.mem_append_right _ (List.mem_append_left _ (hgenerated _ rfl hempty))
            cases heffect with
            | served h => exact Or.inr (Or.inr (hrenewed (by rw [show s' = _ from h]; rfl)))
            | late h => exact Or.inr (Or.inr (hrenewed (by rw [show s' = _ from h]; rfl)))
            | lost => exact Or.inl ⟨hsecrets, fun h => by cases h⟩

/-- The RoleID of a call is what Vault reported, and empty when it reported none. -/
theorem eval_ensureAppRole {role : String} {cfg : AppRoleConfig} {r : Except VaultError String}
    (h : Eval serve (ensureAppRole role cfg).run s log r s') :
    s'.secrets = s.secrets ∧ NoNewSecretID log ∧
      ∀ id, r = .ok id → ∃ rid, reported log = some rid ∧ id = rid.getD "" := by
  have honly : Only (fun r => appliesSecret r = false ∧ asksSecretID r = false)
      (ensureAppRole role cfg).run := by
    refine Only.except_bind (Only.send ⟨by rfl, by rfl⟩ _) fun _ => ?_
    refine Only.except_bind (Only.send ⟨by rfl, by rfl⟩ _) fun idResp => ?_
    cases idResp with
    | none => exact trivial
    | some id => exact trivial
  have hsecrets : s'.secrets = s.secrets :=
    h.frame Remote.secrets honly fun _ _ _ _ hr hserve => (serve_frame hserve).2.1 hr.1
  refine ⟨hsecrets, fun e he => (h.mem_log_of_only honly e he).2, ?_⟩
  rintro id rfl
  obtain ⟨_, s₁, l₁, l₂, h₁, h₂, rfl⟩ := h.ok_bind_inv
  obtain ⟨-, rfl⟩ := h₁.ok_send_inv
  obtain ⟨idResp, s₂, l₃, l₄, h₃, h₄, rfl⟩ := h₂.ok_bind_inv
  obtain ⟨-, rfl⟩ := h₃.ok_send_inv
  cases idResp with
  | none =>
    obtain ⟨hthrow, -⟩ := h₄.throw_inv
    cases hthrow
  | some rid =>
    obtain ⟨hid, -, -⟩ := h₄.pure_inv
    cases hid
    exact ⟨rid, rfl, rfl⟩

/-- The AppRole branch: the call fails before a secret-id is looked at or stored, or it does with the
secret-id what the reported RoleID asks for. -/
theorem eval_ensureServiceRole (hmethod : cp.spec.platform.vault.authMethod = .appRole)
    {r : Except VaultError String}
    (h : Eval serve (ensureServiceRole cp (paths cp.spec.clusterName)).run s log r s') :
    (s'.secrets = s.secrets ∧ ∀ a, r ≠ .ok a) ∨
    ∃ rid, reported log = some rid ∧ (∀ a, r = .ok a → a = rid.getD "") ∧
      (KeptID cp (rid.getD "") s.secrets s'.secrets log ∨
        RenewedID cp (rid.getD "") s.secrets s'.secrets log) := by
  unfold ensureServiceRole at h
  rw [hmethod] at h
  rcases h.except_bind_inv with ⟨e, rfl, herror⟩ | ⟨roleID, s₁, l₁, l₂, h₁, h₂, rfl⟩
  · obtain ⟨r', hr', -⟩ := herror.mapError_inv
    exact Or.inl ⟨(eval_ensureAppRole hr').1, fun a ha => by cases ha⟩
  · obtain ⟨hsecrets, hquiet, hreported⟩ := eval_ensureAppRole h₁.ok_mapError_inv
    obtain ⟨rid, hrid, rfl⟩ := hreported roleID rfl
    -- what is left is the secret-id, and the result
    have hrest : ∃ r', Eval serve (ensureAppRoleSecretID cp (paths cp.spec.clusterName)
        (rid.getD "")).run s₁ l₂ r' s' ∧ ∀ a, r = .ok a → r' = .ok () ∧ a = rid.getD "" := by
      rcases h₂.except_bind_inv with ⟨e, rfl, herror⟩ | ⟨_, s₂, l₃, l₄, h₃, h₄, rfl⟩
      · obtain ⟨r', hr', -⟩ := herror.mapError_inv
        exact ⟨r', hr', fun a ha => by cases ha⟩
      · obtain ⟨rfl, rfl, rfl⟩ := h₄.pure_inv
        rw [List.append_nil]
        refine ⟨_, h₃.ok_mapError_inv, fun a ha => ?_⟩
        cases ha
        exact ⟨rfl, rfl⟩
    obtain ⟨r', hr', hresult⟩ := hrest
    rw [← hsecrets]
    rcases eval_ensureAppRoleSecretID hr' with ⟨hsame, hfailed⟩ | hkept | hrenewed
    · exact Or.inl ⟨hsame, fun a ha => hfailed (hresult a ha).1⟩
    · refine Or.inr ⟨rid, reported_append_of_some hrid, fun a ha => (hresult a ha).2, Or.inl ?_⟩
      exact ⟨hkept.usable, hkept.secrets, hquiet.append hkept.quiet⟩
    · refine Or.inr ⟨rid, reported_append_of_some hrid, fun a ha => (hresult a ha).2, Or.inr ?_⟩
      obtain ⟨id, hid, hgenerated, hstored⟩ := hrenewed.secrets
      exact ⟨hrenewed.unusable, id, hid, List.mem_append_right _ hgenerated, hstored⟩

/-- The `VaultAuth` is stored as it was built. -/
theorem eval_applyVSOResources {appRoleID : String}
    (h : Eval serve (applyVSOResources cp (paths cp.spec.clusterName) appRoleID).run s log (.ok ())
      s') :
    s'.auths (controlPlaneNamespace cp, "openchami-" ++ cp.spec.clusterName) =
      some (buildVaultAuth cp appRoleID) := by
  obtain ⟨_, s₁, l₁, l₂, -, h₂, rfl⟩ := h.ok_bind_inv
  obtain ⟨_, s₂, l₃, l₄, h₃, h₄, rfl⟩ := h₂.ok_bind_inv
  obtain ⟨hserve, -⟩ := h₃.ok_send_inv
  have hauth : s₂.auths = Function.update s₁.auths
      ((buildVaultAuth cp appRoleID).«namespace», (buildVaultAuth cp appRoleID).name)
      (some (buildVaultAuth cp appRoleID)) := by
    rw [show s₂ = _ from hserve]
  -- the other objects are no VaultAuth
  have hrest : s'.auths = s₂.auths := by
    refine h₄.frame Remote.auths ?_
      fun r _ _ _ (hr : appliesAuth r = false) hserve => (serve_frame hserve).2.2 hr
    refine Only.forEach fun o ho => Only.send ?_ _
    obtain ⟨e, -, he⟩ := List.mem_filterMap.mp ho
    obtain ⟨vss, -, rfl⟩ := Option.map_eq_some_iff.mp he
    rfl
  have hname : ((buildVaultAuth cp appRoleID).«namespace», (buildVaultAuth cp appRoleID).name) =
      (controlPlaneNamespace cp, "openchami-" ++ cp.spec.clusterName) := by
    unfold buildVaultAuth
    split_ifs <;> rfl
  rw [hrest, hauth, hname, Function.update_self]

/-- What a call that succeeds has done, when Vault reported `rid`. -/
structure Configured (cp : ControlPlane) (s : Remote) (log : List (Exchange Request Resp))
    (s' : Remote) (rid : Option String) : Prop where
  reported : reported log = some rid
  secretID : KeptID cp (rid.getD "") s.secrets s'.secrets log ∨
    RenewedID cp (rid.getD "") s.secrets s'.secrets log
  auth : s'.auths (controlPlaneNamespace cp, "openchami-" ++ cp.spec.clusterName) =
    some (buildVaultAuth cp (rid.getD ""))

/-- What any call does to the Secrets. -/
def Attempted (cp : ControlPlane) (s : Remote) (log : List (Exchange Request Resp)) (s' : Remote) :
    Prop :=
  s'.secrets = s.secrets ∨ ∃ rid, reported log = some rid ∧
    RenewedID cp (rid.getD "") s.secrets s'.secrets log

theorem later_of_apart {α : Type} {p : Proc Request Resp α} (h : Only Apart p) : Only Later p := by
  induction p with
  | done a => exact trivial
  | ask r k ih => exact ⟨h.1.1, fun x => ih x (h.2 x)⟩

/-- What comes after the role: the OIDC clients and the objects. -/
theorem later_rest (cp : ControlPlane) (paths : VaultPaths) (appRoleID : String) :
    Only Later (ensureOIDC cp paths >>= fun _ => applyVSOResources cp paths appRoleID).run :=
  Only.except_bind (later_of_apart (apart_ensureOIDC cp paths)) fun _ =>
    Only.forEach fun _ _ => Only.send (by rfl) _

theorem eval_roleAndRest (hmethod : cp.spec.platform.vault.authMethod = .appRole)
    {r : Except VaultError Unit}
    (h : Eval serve (ensureServiceRole cp (paths cp.spec.clusterName) >>= fun appRoleID => do
      ensureOIDC cp (paths cp.spec.clusterName)
      applyVSOResources cp (paths cp.spec.clusterName) appRoleID).run s log r s') :
    Attempted cp s log s' ∧ (r = .ok () → ∃ rid, Configured cp s log s' rid) := by
  rcases h.except_bind_inv with ⟨e, rfl, herror⟩ | ⟨appRoleID, s₁, l₁, l₂, h₁, h₂, rfl⟩
  · refine ⟨?_, fun hr => by cases hr⟩
    rcases eval_ensureServiceRole hmethod herror with ⟨hsame, -⟩ | ⟨rid, hrid, -, hkept | hrenewed⟩
    · exact Or.inl hsame
    · exact Or.inl hkept.secrets
    · exact Or.inr ⟨rid, hrid, hrenewed⟩
  · have hsecrets := secrets_of_later h₂ (later_rest cp _ appRoleID)
    have hquiet := noNewSecretID_of_later (h₂.mem_log_of_only (later_rest cp _ appRoleID))
    rcases eval_ensureServiceRole hmethod h₁ with ⟨-, hfailed⟩ | ⟨rid, hrid, hid, hsecretID⟩
    · exact absurd rfl (hfailed appRoleID)
    · obtain rfl := hid appRoleID rfl
      have hsecretID' : KeptID cp (rid.getD "") s.secrets s'.secrets (l₁ ++ l₂) ∨
          RenewedID cp (rid.getD "") s.secrets s'.secrets (l₁ ++ l₂) := by
        rw [hsecrets]
        rcases hsecretID with hkept | hrenewed
        · exact Or.inl ⟨hkept.usable, hkept.secrets, hkept.quiet.append hquiet⟩
        · obtain ⟨id, hne, hgenerated, hstored⟩ := hrenewed.secrets
          exact Or.inr ⟨hrenewed.unusable, id, hne, List.mem_append_left _ hgenerated, hstored⟩
      refine ⟨?_, ?_⟩
      · rcases hsecretID' with hkept | hrenewed
        · exact Or.inl hkept.secrets
        · exact Or.inr ⟨rid, reported_append_of_some hrid, hrenewed⟩
      · rintro rfl
        obtain ⟨_, s₂, l₃, l₄, -, h₄, rfl⟩ := h₂.ok_bind_inv
        exact ⟨rid, reported_append_of_some hrid, hsecretID', eval_applyVSOResources h₄⟩

section Shift

variable {s₁ : Remote} {pre : List (Exchange Request Resp)}

/-! What happened before, and has nothing to do with the credentials, changes nothing about this. -/

theorem RenewedID.shift {rid : String} (h : RenewedID cp rid s₁.secrets s'.secrets log)
    (hsecrets : s₁.secrets = s.secrets) :
    RenewedID cp rid s.secrets s'.secrets (pre ++ log) := by
  rw [← hsecrets]
  obtain ⟨id, hne, hgenerated, hstored⟩ := h.secrets
  exact ⟨h.unusable, id, hne, List.mem_append_right _ hgenerated, hstored⟩

theorem Attempted.shift (h : Attempted cp s₁ log s') (hsecrets : s₁.secrets = s.secrets)
    (hpre : ∀ e ∈ pre, Later e.request) : Attempted cp s (pre ++ log) s' := by
  rcases h with hsame | ⟨rid, hrid, hrenewed⟩
  · exact Or.inl (hsame.trans hsecrets)
  · exact Or.inr ⟨rid, (reported_append (reported_of_later hpre)).trans hrid,
      hrenewed.shift hsecrets⟩

theorem Configured.shift {rid : Option String} (h : Configured cp s₁ log s' rid)
    (hsecrets : s₁.secrets = s.secrets) (hpre : ∀ e ∈ pre, Later e.request) :
    Configured cp s (pre ++ log) s' rid := by
  refine ⟨(reported_append (reported_of_later hpre)).trans h.reported, ?_, h.auth⟩
  rcases h.secretID with hkept | hrenewed
  · refine Or.inl ⟨?_, hkept.secrets.trans hsecrets, (noNewSecretID_of_later hpre).append hkept.quiet⟩
    rw [← hsecrets]
    exact hkept.usable
  · exact Or.inr (hrenewed.shift hsecrets)

end Shift

theorem eval_after_apart {α : Type} {x : Call α} {f : α → Call Unit} (hx : Only Apart x.run)
    (hf : ∀ {a s log r s'}, Eval serve (f a).run s log r s' →
      Attempted cp s log s' ∧ (r = .ok () → ∃ rid, Configured cp s log s' rid))
    {r : Except VaultError Unit} (h : Eval serve (x >>= f).run s log r s') :
    Attempted cp s log s' ∧ (r = .ok () → ∃ rid, Configured cp s log s' rid) := by
  rcases h.except_bind_inv with ⟨e, rfl, herror⟩ | ⟨a, s₁, l₁, l₂, h₁, h₂, rfl⟩
  · exact ⟨Or.inl (secrets_of_later herror (later_of_apart hx)), fun hr => by cases hr⟩
  · have hsecrets := secrets_of_later h₁ (later_of_apart hx)
    have hlater := h₁.mem_log_of_only (later_of_apart hx)
    obtain ⟨hattempted, hconfigured⟩ := hf h₂
    refine ⟨hattempted.shift hsecrets hlater, fun hr => ?_⟩
    obtain ⟨rid, hconf⟩ := hconfigured hr
    exact ⟨rid, hconf.shift hsecrets hlater⟩

theorem eval_configure (hmethod : cp.spec.platform.vault.authMethod = .appRole)
    {r : Except VaultError Unit} (h : Eval serve (configure cp).run s log r s') :
    Attempted cp s log s' ∧ (r = .ok () → ∃ rid, Configured cp s log s' rid) := by
  refine eval_after_apart ((apart_ensureKVMount _).mapError _) (fun {_ _ _ _ _} h => ?_) h
  refine eval_after_apart (apart_ensureClusterSecrets _) (fun {_ _ _ _ _} h => ?_) h
  refine eval_after_apart (Only.mapError (Only.send ⟨by rfl, by rfl⟩ _) _)
    (fun {_ _ _ _ _} h => ?_) h
  exact eval_roleAndRest hmethod h

/-- **A whole call.** Whatever its outcome, the Secrets are as before, or the Secret of the control
plane has a new secret-id next to the RoleID that was reported. -/
theorem eval_reconcile (hmethod : cp.spec.platform.vault.authMethod = .appRole) {hasClient : Bool}
    {outcome : Outcome} (h : Eval serve (reconcile hasClient cp) s log outcome s') :
    Attempted cp s log s' ∧ (outcome = .configured → ∃ rid, Configured cp s log s' rid) := by
  cases hasClient with
  | false =>
    cases h
    exact ⟨Or.inl rfl, fun h => by cases h⟩
  | true =>
    obtain ⟨r, s₁, l₁, l₂, h₁, h₂, rfl⟩ := Eval.bind_inv h
    have hsecrets := secrets_of_later h₁ (later_of_apart apart_isReachable)
    have hlater := h₁.mem_log_of_only (later_of_apart apart_isReachable)
    cases r with
    | error e =>
      cases h₂
      exact ⟨Or.inl hsecrets, fun h => by cases h⟩
    | ok _ =>
      obtain ⟨r, s₂, l₃, l₄, h₃, h₄, rfl⟩ := Eval.bind_inv h₂
      obtain ⟨hattempted, hconfigured⟩ := eval_configure hmethod h₃
      cases r with
      | error e =>
        cases h₄
        rw [List.append_nil]
        exact ⟨hattempted.shift hsecrets hlater, fun h => by cases h⟩
      | ok _ =>
        cases h₄
        rw [List.append_nil]
        refine ⟨hattempted.shift hsecrets hlater, fun _ => ?_⟩
        obtain ⟨rid, hconf⟩ := hconfigured rfl
        exact ⟨rid, hconf.shift hsecrets hlater⟩

end Call

/-! ### Histories -/

/-- What is stored, and what was exchanged in the calls so far. -/
structure History where
  remote : Remote
  calls : List (List (Exchange Request Resp))

/-- The secret-id was generated in a call in which Vault reported the RoleID. -/
def GeneratedFor (clusterName : String) (calls : List (List (Exchange Request Resp)))
    (id roleID : String) : Prop :=
  ∃ log ∈ calls, reported log = some (some roleID) ∧
    Generated (paths clusterName).appRoleServices id log

/-- What happens to a control plane with the AppRole method. -/
inductive Event (clusterName : String) : History → History → Prop where
  /-- A call, with any answers and failures. -/
  | call {h : History} {cp : ControlPlane} {hasClient : Bool} {log : List (Exchange Request Resp)}
      {outcome : Outcome} {s' : Remote} (hname : cp.spec.clusterName = clusterName)
      (hmethod : cp.spec.platform.vault.authMethod = .appRole)
      (heval : Eval serve (reconcile hasClient cp) h.remote log outcome s') :
      Event clusterName h ⟨s', h.calls ++ [log]⟩
  /-- A Secret is deleted. -/
  | deleted {h : History} (key : String × String) :
      Event clusterName h
        ⟨{ h.remote with secrets := Function.update h.remote.secrets key none }, h.calls⟩
  /-- The secret-id of a Secret is removed, or becomes empty. -/
  | cleared {h : History} {key : String × String} {secret : BoundSecret} {id : Option String}
      (hsecret : h.remote.secrets key = some secret) (hid : id.getD "" = "") :
      Event clusterName h ⟨{ h.remote with
        secrets := Function.update h.remote.secrets key (some { secret with id := id }) }, h.calls⟩
  /-- Anything that leaves the Secrets alone. An AppRole that is created anew shows in what Vault
  reports from then on, and Vault may report anything in every call. -/
  | other {h : History} {s' : Remote} (hsecrets : s'.secrets = h.remote.secrets) :
      Event clusterName h ⟨s', h.calls⟩

/-- At the beginning no Secret has a RoleID next to it. -/
def Fresh (h : History) : Prop :=
  ∀ key secret, h.remote.secrets key = some secret → secret.roleID = none

/-- A secret-id with a RoleID next to it was generated for it. -/
def Provenance (clusterName : String) (h : History) : Prop :=
  ∀ key id roleID, h.remote.secrets key = some ⟨some id, some roleID⟩ → id ≠ "" → roleID ≠ "" →
    GeneratedFor clusterName h.calls id roleID

theorem GeneratedFor.append {clusterName id roleID : String}
    {calls : List (List (Exchange Request Resp))} (h : GeneratedFor clusterName calls id roleID)
    (log : List (Exchange Request Resp)) : GeneratedFor clusterName (calls ++ [log]) id roleID := by
  obtain ⟨log', hlog', hgenerated⟩ := h
  exact ⟨log', List.mem_append_left _ hlog', hgenerated⟩

theorem generatedFor_of_renewed {cp : ControlPlane} {rid : Option String}
    {before after : String × String → Option BoundSecret} {log : List (Exchange Request Resp)}
    {id roleID : String} (hrid : reported log = some rid)
    (hrenewed : RenewedID cp (rid.getD "") before after log) (hne : roleID ≠ "")
    (hstored : after (secretKey cp) = some ⟨some id, some roleID⟩)
    (calls : List (List (Exchange Request Resp))) :
    GeneratedFor cp.spec.clusterName (calls ++ [log]) id roleID := by
  obtain ⟨id', -, hgenerated, hafter⟩ := hrenewed.secrets
  rw [hafter, Function.update_self] at hstored
  simp only [Option.some.injEq, BoundSecret.mk.injEq] at hstored
  obtain ⟨rfl, hroleID⟩ := hstored
  have hsome : rid = some roleID := by
    cases rid with
    | none => exact absurd hroleID.symm hne
    | some r => exact congrArg some hroleID
  exact ⟨log, List.mem_concat_self, by rw [hrid, hsome], hgenerated⟩

theorem provenance_step {clusterName : String} {h h' : History} (hevent : Event clusterName h h')
    (hprov : Provenance clusterName h) : Provenance clusterName h' := by
  intro key id roleID hstored hid hne
  cases hevent with
  | call hname hmethod heval =>
    rename_i cp hasClient log outcome s'
    subst hname
    rcases (eval_reconcile hmethod heval).1 with hsame | ⟨rid, hrid, hrenewed⟩
    · rw [hsame] at hstored
      exact (hprov key id roleID hstored hid hne).append log
    · by_cases hkey : key = secretKey cp
      · subst hkey
        exact generatedFor_of_renewed hrid hrenewed hne hstored h.calls
      · obtain ⟨id', -, -, hafter⟩ := hrenewed.secrets
        rw [hafter, Function.update_of_ne hkey] at hstored
        exact (hprov key id roleID hstored hid hne).append log
  | deleted key' =>
    by_cases hkey : key = key'
    · subst hkey
      simp at hstored
    · have hbefore := (Function.update_of_ne hkey none h.remote.secrets).symm.trans hstored
      exact hprov key id roleID hbefore hid hne
  | cleared hsecret hempty =>
    rename_i key' secret id'
    by_cases hkey : key = key'
    · subst hkey
      simp only [Function.update_self, Option.some.injEq, BoundSecret.mk.injEq] at hstored
      rw [hstored.1] at hempty
      exact absurd hempty hid
    · have hbefore := (Function.update_of_ne hkey (some { secret with id := id' })
        h.remote.secrets).symm.trans hstored
      exact hprov key id roleID hbefore hid hne
  | other hsecrets =>
    rw [hsecrets] at hstored
    exact hprov key id roleID hstored hid hne

/-- In every history a secret-id was generated for the RoleID next to it. -/
theorem generatedFor_of_history {clusterName : String} {h₀ h : History} (hfresh : Fresh h₀)
    (hhistory : ReflTransGen (Event clusterName) h₀ h) : Provenance clusterName h := by
  induction hhistory with
  | refl =>
    intro key id roleID hstored
    cases hfresh key _ hstored
  | tail _ hevent ih => exact provenance_step hevent ih

/-! ### The credentials belong together -/

/-- What should hold after a call that succeeds, when Vault reported `rid` in it: the Secret has a
secret-id that was generated for the RoleID next to it, this RoleID and that of the `VaultAuth` are what
was reported, and a secret-id that was there for this RoleID was kept. -/
structure CredentialsBound (cp : ControlPlane) (h : History) (log : List (Exchange Request Resp))
    (s' : Remote) (rid : Option String) : Prop where
  secret : ∃ id roleID, s'.secrets (secretKey cp) = some ⟨some id, some roleID⟩ ∧ id ≠ "" ∧
    GeneratedFor cp.spec.clusterName (h.calls ++ [log]) id roleID ∧ rid = some roleID
  auth : ∃ auth roleID, s'.auths
      (controlPlaneNamespace cp, "openchami-" ++ cp.spec.clusterName) = some auth ∧
    auth.login = .appRole roleID (secretKey cp).2 ∧ rid = some roleID
  kept : ∀ id roleID, h.remote.secrets (secretKey cp) = some ⟨some id, some roleID⟩ → id ≠ "" →
    rid = some roleID → NoNewSecretID log

theorem usable_iff {secret : BoundSecret} {roleID : String} (hne : roleID ≠ "") :
    usable (some secret) roleID = true ↔ ∃ id, id ≠ "" ∧ secret = ⟨some id, some roleID⟩ := by
  obtain ⟨id, bound⟩ := secret
  simp only [usable, Bool.and_eq_true, decide_eq_true_eq, BoundSecret.mk.injEq]
  constructor
  · rintro ⟨⟨hid, hbound⟩, -⟩
    cases id with
    | none => exact absurd rfl hid
    | some id =>
      cases bound with
      | none => exact absurd hbound.symm hne
      | some bound => exact ⟨id, hid, rfl, congrArg some hbound⟩
  · rintro ⟨id', hid', rfl, rfl⟩
    exact ⟨⟨hid', rfl⟩, hne⟩

theorem login_buildVaultAuth {cp : ControlPlane}
    (hmethod : cp.spec.platform.vault.authMethod = .appRole) (appRoleID : String) :
    (buildVaultAuth cp appRoleID).login = .appRole
      (if appRoleID = "" then (paths cp.spec.clusterName).appRoleServices else appRoleID)
      (secretKey cp).2 := by
  unfold buildVaultAuth
  rw [if_pos hmethod]
  rfl

/-- A call succeeds only at its very end. -/
theorem eq_configured {isPrint : Char → Bool} {cp : ControlPlane} {outcome : Outcome}
    {reason message : String} (h : StatusWrite.condition .vaultConfigured .true reason message ∈
      outcome.writes isPrint cp) : outcome = .configured := by
  cases outcome with
  | configured => rfl
  | noClient => simp [Outcome.writes] at h
  | unreachable e => simp [Outcome.writes] at h
  | failed e => simp [Outcome.writes, vaultFailed] at h

section Bound

variable {cp : ControlPlane} {h : History} {log : List (Exchange Request Resp)} {s' : Remote}

/-- With a RoleID in the answer everything is as it should be. -/
theorem credentialsBound_of_reported (hprov : Provenance cp.spec.clusterName h)
    (hmethod : cp.spec.platform.vault.authMethod = .appRole) {roleID : String} (hne : roleID ≠ "")
    (hconf : Configured cp h.remote log s' (some roleID)) :
    CredentialsBound cp h log s' (some roleID) := by
  have hsecretID : KeptID cp roleID h.remote.secrets s'.secrets log ∨
      RenewedID cp roleID h.remote.secrets s'.secrets log := hconf.secretID
  refine ⟨?_, ⟨_, roleID, hconf.auth, ?_, rfl⟩, ?_⟩
  · rcases hsecretID with hkept | hrenewed
    · have husable := hkept.usable
      cases hsecret : h.remote.secrets (secretKey cp) with
      | none =>
        rw [hsecret] at husable
        cases husable
      | some secret =>
        rw [hsecret] at husable
        obtain ⟨id, hid, rfl⟩ := (usable_iff hne).mp husable
        refine ⟨id, roleID, by rw [hkept.secrets, hsecret], hid, ?_, rfl⟩
        exact (hprov _ id roleID hsecret hid hne).append log
    · obtain ⟨id, hid, -, hafter⟩ := hrenewed.secrets
      have hstored : s'.secrets (secretKey cp) = some ⟨some id, some roleID⟩ := by
        rw [hafter, Function.update_self]
      exact ⟨id, roleID, hstored, hid,
        generatedFor_of_renewed hconf.reported hrenewed hne hstored h.calls, rfl⟩
  · have hlogin := login_buildVaultAuth hmethod roleID
    rw [if_neg hne] at hlogin
    exact hlogin
  · rintro id _ hsecret hid ⟨⟩
    have husable : usable (h.remote.secrets (secretKey cp)) roleID = true := by
      rw [hsecret]
      exact (usable_iff hne).mpr ⟨id, hid, rfl⟩
    rcases hsecretID with hkept | hrenewed
    · exact hkept.quiet
    · have hunusable := hrenewed.unusable
      rw [husable] at hunusable
      cases hunusable

/-- Without one the name of the role stands in the `VaultAuth`. -/
theorem ne_empty_of_credentialsBound (hmethod : cp.spec.platform.vault.authMethod = .appRole)
    {rid : Option String} (hconf : Configured cp h.remote log s' rid)
    (hbound : CredentialsBound cp h log s' rid) : ∃ roleID, rid = some roleID ∧ roleID ≠ "" := by
  obtain ⟨auth, roleID, hauth, hlogin, rfl⟩ := hbound.auth
  refine ⟨roleID, rfl, ?_⟩
  rintro rfl
  have hstored := hconf.auth
  rw [hauth] at hstored
  have hplaceholder := login_buildVaultAuth hmethod ""
  have hsame : auth = buildVaultAuth cp "" := Option.some.inj hstored
  rw [if_pos rfl, ← hsame, hlogin] at hplaceholder
  have hname : (paths cp.spec.clusterName).appRoleServices = "" := by
    injection hplaceholder with h _
    exact h.symm
  have hlength := congrArg (fun s => s.toList.length) hname
  simp [paths] at hlength

/-- **The credentials of the AppRole belong together exactly when Vault reports a RoleID.** In every
history, after every call that returns without an error and reports `VaultConfigured`: the Secret, its
annotation and the `VaultAuth` are bound to the RoleID Vault reported in that call, and a secret-id that
was bound to it is kept, exactly when the answer to the role-id read has a RoleID that is a string and
not empty. -/
theorem bound_iff {clusterName : String} {h₀ : History} (hfresh : Fresh h₀)
    (hhistory : ReflTransGen (Event clusterName) h₀ h) (hname : cp.spec.clusterName = clusterName)
    (hmethod : cp.spec.platform.vault.authMethod = .appRole) {hasClient : Bool} {outcome : Outcome}
    (hcall : Eval serve (reconcile hasClient cp) h.remote log outcome s')
    {isPrint : Char → Bool} {reason message : String}
    (htrue : StatusWrite.condition .vaultConfigured .true reason message ∈
      outcome.writes isPrint cp) :
    ∃ rid, reported log = some rid ∧
      (CredentialsBound cp h log s' rid ↔ ∃ roleID, rid = some roleID ∧ roleID ≠ "") := by
  subst hname
  obtain ⟨rid, hconf⟩ := (eval_reconcile hmethod hcall).2 (eq_configured htrue)
  refine ⟨rid, hconf.reported, ne_empty_of_credentialsBound hmethod hconf, ?_⟩
  rintro ⟨roleID, rfl, hne⟩
  exact credentialsBound_of_reported (generatedFor_of_history hfresh hhistory) hmethod hne hconf

end Bound

/-- A control plane with the AppRole method. -/
def appRoleSite : ControlPlane where
  metadata := {}
  spec := { clusterName := "alpha"
            platform := { vault := { authMethod := .appRole
                                     appRoleSecretRef := some "vault-approle" } } }
  status := {}

/-- Two calls, every request of which is answered. -/
def firstCall : List (Exchange Request Resp) × Outcome × Remote :=
  (reconcile true appRoleSite).serveAll answer {}

def secondCall : List (Exchange Request Resp) × Outcome × Remote :=
  (reconcile true appRoleSite).serveAll answer firstCall.2.2

def afterFirst : History := ⟨firstCall.2.2, [firstCall.1]⟩

/-- The second call keeps the secret-id of the first. -/
theorem bound_iff_secondCall : secondCall.2.1 = .configured ∧
    CredentialsBound appRoleSite afterFirst secondCall.1 secondCall.2.2 (some "role-id") ∧
    NoNewSecretID secondCall.1 := by
  have houtcome : secondCall.2.1 = .configured := by decide +kernel
  have hreported : reported secondCall.1 = some (some "role-id") := by decide +kernel
  have hstored : afterFirst.remote.secrets (secretKey appRoleSite) =
      some ⟨some "secret-id", some "role-id"⟩ := by decide +kernel
  have hfresh : Fresh ⟨{}, []⟩ := fun _ _ h => by cases h
  have hfirst : Eval serve (reconcile true appRoleSite) {} firstCall.1 firstCall.2.1 firstCall.2.2 :=
    eval_serveAll serve_answer _ _
  have hhistory : ReflTransGen (Event "alpha") ⟨{}, []⟩ afterFirst := .single (.call rfl rfl hfirst)
  have hcall : Eval serve (reconcile true appRoleSite) afterFirst.remote secondCall.1 secondCall.2.1
      secondCall.2.2 := eval_serveAll serve_answer _ _
  have htrue : StatusWrite.condition .vaultConfigured .true Reason.ready
      "Vault paths, policies, and VSO resources configured" ∈
        secondCall.2.1.writes (fun _ => true) appRoleSite := by
    rw [houtcome]
    exact List.mem_cons_self
  obtain ⟨rid, hrid, hiff⟩ := bound_iff hfresh hhistory rfl rfl hcall htrue
  rw [hreported] at hrid
  cases hrid
  have hbound := hiff.mpr ⟨"role-id", rfl, by decide⟩
  exact ⟨houtcome, hbound, hbound.kept _ _ hstored (by decide) rfl⟩

/-- A server whose answer to the role-id read has no RoleID. -/
def answerWithoutRoleID : (r : Request) → (s : Remote) → Resp r × Remote
  | .readRoleID _, s => (some none, s)
  | r, s => answer r s

theorem serve_answerWithoutRoleID (r : Request) (s : Remote) :
    serve r s (answerWithoutRoleID r s).1 (answerWithoutRoleID r s).2 := by
  cases r with
  | readRoleID => exact rfl
  | _ => exact serve_answer _ s

/-- Two calls, one after the other, with that server. -/
def unbound : List (Exchange Request Resp) × Outcome × Remote :=
  (reconcile true appRoleSite).serveAll answerWithoutRoleID {}

def unboundAgain : List (Exchange Request Resp) × Outcome × Remote :=
  (reconcile true appRoleSite).serveAll answerWithoutRoleID unbound.2.2

/-- Vault reports no RoleID. Both calls succeed, the `VaultAuth` logs in with the name of the role, and
the second call generates another secret-id. -/
theorem not_bound_without_roleID :
    Eval serve (reconcile true appRoleSite) {} unbound.1 .configured unbound.2.2 ∧
    Eval serve (reconcile true appRoleSite) unbound.2.2 unboundAgain.1 .configured unboundAgain.2.2 ∧
    reported unbound.1 = some none ∧
    (unbound.2.2.auths ("openchami-alpha", "openchami-alpha")).map VaultAuth.login =
      some (.appRole "openchami-alpha-services" "vault-approle") ∧
    unbound.2.2.secrets ("openchami-alpha", "vault-approle") = some ⟨some "secret-id", some ""⟩ ∧
    (unboundAgain.1.any fun e => asksSecretID e.request) = true ∧
    ¬ CredentialsBound appRoleSite ⟨{}, []⟩ unbound.1 unbound.2.2 none := by
  have houtcome : unbound.2.1 = .configured := by decide +kernel
  have houtcome' : unboundAgain.2.1 = .configured := by decide +kernel
  have hcall : Eval serve (reconcile true appRoleSite) {} unbound.1 unbound.2.1 unbound.2.2 :=
    eval_serveAll serve_answerWithoutRoleID _ _
  have hcall' : Eval serve (reconcile true appRoleSite) unbound.2.2 unboundAgain.1 unboundAgain.2.1
      unboundAgain.2.2 := eval_serveAll serve_answerWithoutRoleID _ _
  rw [houtcome] at hcall
  rw [houtcome'] at hcall'
  refine ⟨hcall, hcall', by decide +kernel, by decide +kernel, by decide +kernel, by decide +kernel,
    ?_⟩
  intro hbound
  obtain ⟨_, _, -, -, -, hnone⟩ := hbound.secret
  cases hnone

end OpenchamiOperator.Reconcilers.VaultReconciler
