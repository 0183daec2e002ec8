import OpenchamiOperator.Controller.VaultIsolation
import OpenchamiOperator.Reconcilers.VaultCalls

/-! # Credentials in Vault are stable and confined

A call of the Vault reconciler makes up new random values each time, and writes them only where it
found nothing. Calls of several control planes interleave, and any request may fail, with or without
having taken effect.

* `Promise`: what a call for a cluster does to the secrets, and which names it writes to.
* `always_reconcile`: a call keeps its promise as long as the others leave the cluster's directory
  alone, which is what they promise (`agreement_promise`).
* `credentials_stable`: in every run the credentials of a cluster stay what they were when first
  written, those of tokensmith's client change to what Vault answered for this client only, and no
  call writes to what belongs to another cluster. -/

namespace OpenchamiOperator.Reconcilers.VaultReconciler

open Lib Strings Api Admission Controller Vault Interaction Relation

/-! ### What belongs to a cluster -/

/-- The secret lies below `openchami/<clusterName>/`. -/
def Under (clusterName : String) (key : String × String) : Prop :=
  hasPrefix (key.1 ++ "/" ++ key.2) (secretDirectory clusterName) = true

theorem eq_of_under {a b : String} (ha : '/' ∉ a.toList) (hb : '/' ∉ b.toList)
    {key : String × String} (hkey : Under a key) (hkey' : Under b key) : a = b :=
  eq_of_common_directory ha hb hkey hkey' hkey hkey

/-- The request writes a policy, a role, a key or a client with a name of the cluster. -/
def Names (clusterName : String) : Request → Prop
  | .putPolicy name _ => name = (paths clusterName).policyServices
  | .writeAppRole name _ => name = (paths clusterName).appRoleServices
  | .generateSecretID name => name = (paths clusterName).appRoleServices
  | .writeKubernetesRole name _ => name = (paths clusterName).k8sRoleServices
  | .writeOIDCKey name => name = oidcKeyName clusterName
  | .writeOIDCClient name _ => name ∈ oidcClientNames clusterName
  | _ => False

/-- A name belongs to one cluster. -/
theorem eq_of_names {a b : String} {r : Request} (ha : Names a r) (hb : Names b r) : a = b := by
  have hrole : ∀ {name : String}, name = (paths a).policyServices →
      name = (paths b).policyServices → a = b := fun h h' => eq_of_policyServices (h.symm.trans h')
  cases r with
  | putPolicy => exact hrole ha hb
  | writeAppRole => exact hrole ha hb
  | generateSecretID => exact hrole ha hb
  | writeKubernetesRole => exact hrole ha hb
  | writeOIDCKey => exact eq_of_oidcKeyName (ha.symm.trans hb)
  | writeOIDCClient => exact eq_of_oidcClientNames ha hb
  | _ => exact ha.elim

/-- The request writes below the directory of the cluster, or to one of its names, or to nothing that
belongs to a cluster. -/
def Confined (clusterName : String) : Request → Prop
  | .kvPut mount path _ => Under clusterName (mount, path)
  | .putPolicy name hcl => Names clusterName (.putPolicy name hcl)
  | .writeAppRole name cfg => Names clusterName (.writeAppRole name cfg)
  | .generateSecretID name => Names clusterName (.generateSecretID name)
  | .writeKubernetesRole name cfg => Names clusterName (.writeKubernetesRole name cfg)
  | .writeOIDCKey name => Names clusterName (.writeOIDCKey name)
  | .writeOIDCClient name client => Names clusterName (.writeOIDCClient name client)
  | _ => True

theorem eq_of_confined {a b : String} {r : Request} (ha : Confined a r) (hb : Names b r) : a = b := by
  cases r with
  | putPolicy => exact (eq_of_names hb ha).symm
  | writeAppRole => exact (eq_of_names hb ha).symm
  | generateSecretID => exact (eq_of_names hb ha).symm
  | writeKubernetesRole => exact (eq_of_names hb ha).symm
  | writeOIDCKey => exact (eq_of_names hb ha).symm
  | writeOIDCClient => exact (eq_of_names hb ha).symm
  | _ => exact hb.elim

/-! ### The promise of a call -/

/-- What Vault answered for tokensmith's client, as it is stored. -/
def storedClient (reply : ClientReply) : GoMap String :=
  clientData (reply.clientID.getD "") (reply.clientSecret.getD "")

/-- Vault has answered the call with the credentials `data` of the cluster's tokensmith client. -/
def Answered (clusterName : String) (log : List (Exchange Request Resp)) (data : GoMap String) :
    Prop :=
  ∃ reply, data = storedClient reply ∧
    ⟨.readOIDCClient (tokensmithClientName clusterName), some (some reply)⟩ ∈ log

/-- A secret is written where there was none, or to one of the two paths of the OIDC clients, to that
of tokensmith only with what Vault has answered. -/
def MayPut (clusterName : String) (log : List (Exchange Request Resp)) (s : Remote)
    (key : String × String) (data : GoMap String) : Prop :=
  s.kv key = none ∨ key = splitKVPath (paths clusterName).cliOIDC ∨
    (key = splitKVPath (paths clusterName).tokensmithOIDC ∧ Answered clusterName log data)

/-- What an exchange of a call for the cluster does. -/
structure Promise (clusterName : String) (log : List (Exchange Request Resp))
    (e : Exchange Request Resp) (s s' : Remote) : Prop where
  confined : Confined clusterName e.request
  kv : s'.kv = s.kv ∨ ∃ key data, Under clusterName key ∧ MayPut clusterName log s key data ∧
    s'.kv = Function.update s.kv key (some data)

/-- What a call for the cluster relies on: nobody else writes below its directory. -/
def LeftAlone (clusterName : String) (s s' : Remote) : Prop :=
  ∀ key, Under clusterName key → s'.kv key = s.kv key

theorem LeftAlone.refl (clusterName : String) (s : Remote) : LeftAlone clusterName s s :=
  fun _ _ => rfl

theorem LeftAlone.trans {clusterName : String} {s s' s'' : Remote} (h : LeftAlone clusterName s s')
    (h' : LeftAlone clusterName s' s'') : LeftAlone clusterName s s'' :=
  fun key hkey => (h' key hkey).trans (h key hkey)

theorem leftAlone_of_promise {a b : String} (ha : '/' ∉ a.toList) (hb : '/' ∉ b.toList) (hne : a ≠ b)
    {log : List (Exchange Request Resp)} {e : Exchange Request Resp} {s s' : Remote}
    (h : Promise a log e s s') : LeftAlone b s s' := by
  intro key hkey
  rcases h.kv with hkv | ⟨key', data, hunder, -, hkv⟩
  · rw [hkv]
  · have hother : key ≠ key' := by
      rintro rfl
      exact hne (eq_of_under ha hb hunder hkey)
    rw [hkv, Function.update_of_ne hother]

/-! ### The parts of a call -/

section Parts

variable {name : String}

/-- A part of a call for the cluster, started where `pre` holds. -/
abbrev Part {α : Type} (name : String) (pre : List (Exchange Request Resp) → Remote → Prop)
    (x : Call α) (post : α → List (Exchange Request Resp) → Remote → Prop) : Prop :=
  Keeps serve (LeftAlone name) (Promise name) pre x post

/-- A part of a call that keeps the promise wherever it is started. -/
abbrev Fine {α : Type} (name : String) (x : Call α) : Prop :=
  Part name (fun _ _ => True) x fun _ _ _ => True

theorem Fine.bind {α β : Type} {x : Call α} {f : α → Call β} (hx : Fine name x)
    (hf : ∀ a, Fine name (f a)) : Fine name (x >>= f) :=
  Keeps.bind (LeftAlone.refl name) hx hf

theorem Fine.pure {α : Type} (a : α) : Fine name (pure a : Call α) :=
  Keeps.pure (fun _ _ _ h _ => h) fun _ _ h => h

theorem Fine.throw {α : Type} (e : VaultError) : Fine name (throw e : Call α) := Keeps.throw

theorem Fine.mapError {α : Type} {x : Call α} (hx : Fine name x) (f : VaultError → VaultError) :
    Fine name (Proc.mapError f x) :=
  Keeps.mapError (LeftAlone.refl name) (fun _ _ _ _ h _ => h) hx f

theorem Fine.forEach {β : Type} {f : β → Call Unit} {l : List β} (h : ∀ b ∈ l, Fine name (f b)) :
    Fine name (Proc.forEach f l) :=
  Keeps.forEach (LeftAlone.refl name) (fun _ _ _ h _ => h) h

/-- What an exchange of a request does that writes no secret. -/
theorem promise_of_not_putsKV {r : Request} (hput : putsKV r = false) (hr : Confined name r)
    {log : List (Exchange Request Resp)} {x : Option (Resp r)} {s s' : Remote}
    (h : Effect serve s ⟨r, x⟩ s') : Promise name log ⟨r, x⟩ s s' := by
  refine ⟨hr, Or.inl ?_⟩
  cases h with
  | served h => exact (serve_frame h).1 hput
  | late h => exact (serve_frame h).1 hput
  | lost => rfl

/-- A request that writes no secret; its answer is in the log. -/
theorem part_send {r : Request} (hput : putsKV r = false) (hr : Confined name r) (e : VaultError) :
    Part name (fun _ _ => True) (Proc.send r e) fun y log _ => ⟨r, some y⟩ ∈ log :=
  Keeps.send (fun _ _ _ h _ => h) (fun _ _ _ _ h _ => h)
    (fun _ _ _ _ _ h => promise_of_not_putsKV hput hr h) fun _ _ _ _ _ _ => List.mem_concat_self

theorem fine_send {r : Request} (hput : putsKV r = false) (hr : Confined name r) (e : VaultError) :
    Fine name (Proc.send r e) :=
  (part_send hput hr e).conseq (fun _ _ h => h) fun _ _ _ _ => trivial

theorem fine_request {r : Request} (hput : putsKV r = false) (hr : Confined name r)
    (context : String) : Fine name (request r context) :=
  fine_send hput hr _

/-- The write of a secret, where it may be written. -/
theorem part_putSecret {path : String} {data : GoMap String}
    {pre : List (Exchange Request Resp) → Remote → Prop} (hunder : Under name (splitKVPath path))
    (hstable : Stable (LeftAlone name) pre)
    (hmay : ∀ log s, pre log s → MayPut name log s (splitKVPath path) data) :
    Part name pre (putSecret path data) fun _ _ _ => True := by
  refine Keeps.send hstable (fun _ _ _ _ h _ => h) ?_ fun _ _ _ _ _ _ => trivial
  intro log s x s' hpre heffect
  refine ⟨hunder, ?_⟩
  have hput : ∀ y, serve (.kvPut (splitKVPath path).1 (splitKVPath path).2 data) s y s' →
      s'.kv = Function.update s.kv (splitKVPath path) (some data) := by
    intro y h
    rw [show s' = _ from h]
  cases heffect with
  | served h => exact Or.inr ⟨_, data, hunder, hmay log s hpre, hput _ h⟩
  | late h => exact Or.inr ⟨_, data, hunder, hmay log s hpre, hput _ h⟩
  | lost => exact Or.inl rfl

/-- **What is there is not overwritten.** Between the read and the write nobody else writes to the
path. -/
theorem fine_ensureSecret {path : String} (hunder : Under name (splitKVPath path))
    (data : GoMap String) : Fine name (ensureSecret path data false) := by
  have hstable : Stable (LeftAlone name) fun (_ : List (Exchange Request Resp)) (s : Remote) =>
      s.kv (splitKVPath path) = none := by
    intro _ s s' h hleft
    rw [hleft _ hunder, h]
  have hread : Part name (fun _ _ => True) (request (.kvGet (splitKVPath path).1 (splitKVPath path).2)
      ("checking existing secret " ++ path)) fun existing _ s =>
        existing = none → s.kv (splitKVPath path) = none := by
    refine Keeps.send (fun _ _ _ h _ => h) ?_ ?_ ?_
    · intro existing log s s' h hleft hnone
      exact hstable log s s' (h hnone) hleft
    · intro _ _ _ _ _ heffect
      exact promise_of_not_putsKV (by rfl) (by exact trivial) heffect
    · rintro _ s existing s' - ⟨hexisting, rfl⟩ hnone
      exact hexisting.symm.trans hnone
  refine Keeps.bind (LeftAlone.refl name) hread fun existing => ?_
  cases existing with
  | some _ => exact (Fine.pure ()).conseq (fun _ _ _ => trivial) fun _ _ _ _ => trivial
  | none =>
    exact (part_putSecret hunder hstable fun _ _ h => Or.inl h).conseq (fun _ _ h => h rfl)
      fun _ _ _ _ => trivial

theorem fine_ensureKVMount (mount : String) : Fine name (ensureKVMount mount) := by
  refine Fine.bind (fine_request (by rfl) (by exact trivial) _) fun mounts => ?_
  split_ifs
  · exact Fine.pure ()
  · exact fine_send (by rfl) (by exact trivial) _

/-! ### Paths -/

theorem splitKVPath_cluster (name rest : String) :
    splitKVPath ("openchami/" ++ name ++ rest) = ("openchami", name ++ rest) := by
  rw [String.append_assoc, show ("openchami/" : String) = "openchami" ++ "/" from rfl,
    String.append_assoc]
  exact splitKVPath_append (by decide) _

theorem under_splitKVPath (name rest : String) :
    Under name (splitKVPath ("openchami/" ++ name ++ ("/" ++ rest))) := by
  unfold Under secretDirectory
  rw [splitKVPath_cluster, hasPrefix_iff]
  refine ⟨rest, ?_⟩
  show "openchami" ++ "/" ++ (name ++ ("/" ++ rest)) = "openchami/" ++ name ++ "/" ++ rest
  rw [show ("openchami/" : String) = "openchami" ++ "/" from rfl]
  simp only [String.append_assoc]

/-- The paths that are seeded. -/
theorem under_of_vaultPathByRole {role path : String}
    (h : vaultPathByRole (paths name) role = some path) : Under name (splitKVPath path) := by
  unfold vaultPathByRole at h
  split_ifs at h
  · cases h
    exact under_splitKVPath name "db/smd"
  · cases h
    exact under_splitKVPath name "db/boot-service"

theorem under_of_mem_seeds {seed : String × List String} (h : seed ∈ seeds (paths name)) :
    Under name (splitKVPath seed.1) := by
  simp only [seeds, List.mem_cons, List.not_mem_nil, or_false] at h
  rcases h with rfl | rfl | rfl
  · exact under_splitKVPath name "s3/versitygw"
  · exact under_splitKVPath name "s3/logs"
  · exact under_splitKVPath name "oidc/tokensmith-client"

/-! ### The rest of a call -/

theorem fine_ensureRoleSecret (spec : DbRoleSpec) : Fine name (ensureRoleSecret (paths name) spec) := by
  unfold ensureRoleSecret
  cases hpath : vaultPathByRole (paths name) spec.role with
  | none => exact Fine.throw _
  | some path =>
    refine Fine.bind (fine_request (by rfl) (by exact trivial) _) fun password => ?_
    exact (fine_ensureSecret (under_of_vaultPathByRole hpath) _).mapError _

theorem fine_randomData : ∀ keys : List String, Fine name (randomData keys)
  | [] => Fine.pure _
  | _ :: keys => Fine.bind (fine_request (by rfl) (by exact trivial) _) fun _ =>
      Fine.bind (fine_randomData keys) fun _ => Fine.pure _

theorem fine_ensureSeed {seed : String × List String} (h : seed ∈ seeds (paths name)) :
    Fine name (ensureSeed seed) :=
  Fine.bind (fine_randomData _) fun _ => (fine_ensureSecret (under_of_mem_seeds h) _).mapError _

theorem fine_ensureClusterSecrets : Fine name (ensureClusterSecrets (paths name)) :=
  Fine.bind (Fine.forEach fun spec _ => fine_ensureRoleSecret spec) fun _ =>
    Fine.forEach fun _ hseed => fine_ensureSeed hseed

theorem fine_ensureAppRole (cfg : AppRoleConfig) :
    Fine name (ensureAppRole (paths name).appRoleServices cfg) := by
  refine Fine.bind (fine_request (by rfl) (by exact rfl) _) fun _ => ?_
  refine Fine.bind (fine_request (by rfl) (by exact trivial) _) fun idResp => ?_
  cases idResp with
  | none => exact Fine.throw _
  | some id => exact Fine.pure _

theorem fine_generateSecretID : Fine name (generateSecretID (paths name).appRoleServices) := by
  refine Fine.bind (fine_request (by rfl) (by exact rfl) _) fun resp => ?_
  cases resp with
  | none => exact Fine.throw _
  | some id => exact Fine.pure _

theorem fine_ensureAppRoleSecretID (cp : ControlPlane) (roleID : String) :
    Fine name (ensureAppRoleSecretID cp (paths name) roleID) := by
  unfold ensureAppRoleSecretID
  extract_lets secret ns
  split_ifs
  · exact Fine.throw _
  · refine Fine.bind (fine_request (by rfl) (by exact trivial) _) fun existing => ?_
    split_ifs
    · exact Fine.pure _
    · refine Fine.bind (fine_generateSecretID.mapError _) fun secretID => ?_
      split_ifs
      · exact Fine.throw _
      · exact fine_request (by rfl) (by exact trivial) _

theorem fine_ensureServiceRole (cp : ControlPlane) : Fine name (ensureServiceRole cp (paths name)) := by
  unfold ensureServiceRole
  split
  · refine Fine.bind ((fine_ensureAppRole _).mapError _) fun roleID => ?_
    exact Fine.bind ((fine_ensureAppRoleSecretID cp roleID).mapError _) fun _ => Fine.pure _
  · refine Fine.bind (Fine.mapError ?_ _) fun _ => Fine.pure _
    exact fine_request (by rfl) (by exact rfl) _

theorem fine_ensureOIDCProvider (cfg : OIDCConfig) : Fine name (ensureOIDCProvider cfg) := by
  refine Fine.bind (fine_request (by rfl) (by exact trivial) _) fun existing => ?_
  split
  · exact Fine.throw _
  · refine Fine.bind (fine_request (by rfl) (by exact trivial) _) fun _ => ?_
    refine Fine.bind (fine_request (by rfl) (by exact trivial) _) fun readback => ?_
    cases verifyIssuer readback (expectedOIDCProviderIssuer cfg.issuerURL) with
    | error e => exact Fine.throw e
    | ok _ => exact Fine.pure _

theorem fine_applyVSOResources (cp : ControlPlane) (paths : VaultPaths) (appRoleID : String) :
    Fine name (applyVSOResources cp paths appRoleID) :=
  Fine.forEach fun _ _ => fine_request (by rfl) (by exact trivial) _

/-- **The credentials that are handed out are those Vault answered with.** -/
theorem part_ensureOIDCConfig (cfg : OIDCConfig) :
    Part name (fun _ _ => True) (ensureOIDCConfig name cfg) fun creds log _ =>
      Answered name log (clientData creds.clientID creds.clientSecret) := by
  unfold ensureOIDCConfig
  extract_lets keyName clientName cliName
  refine Keeps.bind (LeftAlone.refl name) (fine_request (by rfl) (by exact rfl) _) fun _ => ?_
  refine Keeps.bind (LeftAlone.refl name) (fine_ensureOIDCProvider cfg) fun _ => ?_
  refine Keeps.bind (LeftAlone.refl name)
    (fine_request (by rfl) (by exact List.mem_cons_self) _) fun _ => ?_
  refine Keeps.bind (LeftAlone.refl name)
    (fine_request (by rfl) (by exact List.mem_cons_of_mem _ List.mem_cons_self) _) fun _ => ?_
  refine Keeps.bind (LeftAlone.refl name) (part_send (by rfl) (by exact trivial) _) fun resp => ?_
  cases resp with
  | none => exact Keeps.throw
  | some client =>
    dsimp only
    split_ifs
    · exact Keeps.throw
    · have hread : Part name (fun log _ => ⟨.readOIDCClient clientName, some (some client)⟩ ∈ log)
          (request (.readOIDCClient cliName) "reading public CLI oidc client") fun _ log _ =>
            True ∧ ⟨.readOIDCClient clientName, some (some client)⟩ ∈ log :=
        ((fine_request (by rfl) (by exact trivial) _).mem_log _).conseq
          (fun _ _ h => ⟨trivial, h⟩) fun _ _ _ h => h
      refine Keeps.bind (LeftAlone.refl name) hread fun cliResp => ?_
      cases cliResp with
      | none => exact Keeps.throw
      | some cli =>
        dsimp only
        split_ifs
        · exact Keeps.throw
        · exact Keeps.pure (fun _ _ _ h _ => h) fun _ _ h => ⟨client, rfl, h.2⟩

theorem fine_ensureOIDC {cp : ControlPlane} (hname : cp.spec.clusterName = name) :
    Fine name (ensureOIDC cp (paths name)) := by
  unfold ensureOIDC
  subst hname
  split_ifs
  · refine Keeps.bind (LeftAlone.refl _) ((part_ensureOIDCConfig _).mapError (LeftAlone.refl _)
      (fun _ _ _ _ h _ => h) _) fun creds => ?_
    have htokensmith : Part cp.spec.clusterName (fun log _ => Answered cp.spec.clusterName log
        (clientData creds.clientID creds.clientSecret)) (ensureSecret
          (paths cp.spec.clusterName).tokensmithOIDC (clientData creds.clientID creds.clientSecret)
          true) fun _ _ _ => True :=
      part_putSecret (under_splitKVPath _ "oidc/tokensmith-client") (fun _ _ _ h _ => h)
        fun _ _ h => Or.inr (Or.inr ⟨rfl, h⟩)
    refine Keeps.bind (LeftAlone.refl _) (htokensmith.mapError (LeftAlone.refl _)
      (fun _ _ _ _ h _ => h) _) fun _ => ?_
    split_ifs
    · refine Fine.mapError ?_ _
      exact part_putSecret (under_splitKVPath _ "oidc/cli-client") (fun _ _ _ h _ => h)
        fun _ _ _ => Or.inr (Or.inl rfl)
    · exact Fine.pure _
  · exact Fine.pure _

theorem fine_configure {cp : ControlPlane} (hname : cp.spec.clusterName = name) :
    Fine name (configure cp) := by
  subst hname
  refine Fine.bind ((fine_ensureKVMount _).mapError _) fun _ => ?_
  refine Fine.bind fine_ensureClusterSecrets fun _ => ?_
  refine Fine.bind (Fine.mapError (fine_send (by rfl) (by exact rfl) _) _) fun _ => ?_
  refine Fine.bind (fine_ensureServiceRole cp) fun appRoleID => ?_
  exact Fine.bind (fine_ensureOIDC rfl) fun _ => fine_applyVSOResources cp _ appRoleID

/-- **One call among others.** -/
theorem always_reconcile {cp : ControlPlane} (hname : cp.spec.clusterName = name) (hasClient : Bool)
    (s : Remote) : Always serve (fun _ _ => True) (LeftAlone name) (Promise name)
      (fun _ _ _ => True) (reconcile hasClient cp) [] s := by
  have hdone : ∀ (o : Outcome) (log : List (Exchange Request Resp)) (s : Remote),
      Always serve (fun _ _ => True) (LeftAlone name) (Promise name)
        (Ends fun _ _ _ => True) (.done o) log s := fun _ _ _ _ _ _ _ => trivial
  have hreachable : Fine name isReachable := by
    refine Fine.bind (fine_request (by rfl) (by exact trivial) _) fun isSealed => ?_
    split_ifs
    · exact Fine.throw _
    · exact Fine.pure _
  refine Always.mono (fun _ _ _ _ => trivial) (Q := Ends fun _ _ _ => True) ?_
  cases hasClient with
  | false => exact hdone _ _ _
  | true =>
    refine Always.bind (LeftAlone.refl name) (fun r log s _ => ?_) _ _ _ (hreachable [] s trivial)
    cases r with
    | error e => exact hdone _ _ _
    | ok _ =>
      refine Always.bind (LeftAlone.refl name) (fun r log s _ => ?_) _ _ _
        (fine_configure hname log s trivial)
      cases r with
      | error e => exact hdone _ _ _
      | ok _ => exact hdone _ _ _

end Parts

/-! ### All calls -/

/-- The paths of the credentials that are never overwritten. -/
def fixedPaths (clusterName : String) : List String :=
  [(paths clusterName).dbSMDCredentials, (paths clusterName).dbBootServiceCredentials,
   (paths clusterName).s3Credentials, (paths clusterName).logCredentials]

theorem under_of_mem_fixedPaths {clusterName path : String} (h : path ∈ fixedPaths clusterName) :
    Under clusterName (splitKVPath path) := by
  simp only [fixedPaths, List.mem_cons, List.not_mem_nil, or_false] at h
  rcases h with rfl | rfl | rfl | rfl
  · exact under_splitKVPath clusterName "db/smd"
  · exact under_splitKVPath clusterName "db/boot-service"
  · exact under_splitKVPath clusterName "s3/versitygw"
  · exact under_splitKVPath clusterName "s3/logs"

/-- None of them is a path of an OIDC client. -/
theorem oidc_of_mem_fixedPaths {clusterName path : String} (h : path ∈ fixedPaths clusterName) :
    splitKVPath path ≠ splitKVPath (paths clusterName).cliOIDC ∧
      splitKVPath path ≠ splitKVPath (paths clusterName).tokensmithOIDC := by
  have hne : ∀ {rest rest' : String}, rest ≠ rest' →
      splitKVPath ("openchami/" ++ clusterName ++ rest) ≠
        splitKVPath ("openchami/" ++ clusterName ++ rest') := by
    intro rest rest' hrest hsplit
    rw [splitKVPath_cluster, splitKVPath_cluster] at hsplit
    exact hrest ((String.append_right_inj _).mp (Prod.mk.inj hsplit).2)
  simp only [fixedPaths, List.mem_cons, List.not_mem_nil, or_false] at h
  rcases h with rfl | rfl | rfl | rfl
  all_goals exact ⟨hne (by decide), hne (by decide)⟩

section Runs

variable {ι : Type}

/-- The calls for a control plane. Its spec may change from call to call, but not its name. -/
def calls (name : ι → String) (i : ι) : Set (Proc Request Resp Outcome) :=
  { p | ∃ hasClient cp, cp.spec.clusterName = name i ∧ p = reconcile hasClient cp }

/-- No call is running. -/
def idle (s : Remote) : Pool Request Resp Outcome Remote ι := ⟨s, fun _ => .done .noClient, fun _ => []⟩

/-- What the calls agree on: each writes below the directory of its own cluster. -/
theorem agreement_promise {name : ι → String} (hinj : Function.Injective name)
    (hname : ∀ i, clusterNamePattern (name i) = true) :
    Agreement (fun i => LeftAlone (name i)) fun i => Promise (name i) where
  refl i := LeftAlone.refl (name i)
  trans _ _ _ _ := LeftAlone.trans
  others i j hij _ _ _ _ h := leftAlone_of_promise (slash_not_mem_of_name (hname i))
    (slash_not_mem_of_name (hname j)) (fun h => hij (hinj h)) h

/-- Every call is on its way. -/
abbrev Underway (name : ι → String) (c : Pool Request Resp Outcome Remote ι) : Prop :=
  AllAlways serve (fun _ _ _ => True) (fun i => LeftAlone (name i)) (fun i => Promise (name i))
    (fun _ _ _ _ => True) c

theorem underway_idle (name : ι → String) (s : Remote) :
    Underway name (idle s) := fun _ _ _ => trivial

variable [DecidableEq ι] {name : ι → String} {s₀ : Remote}
  {c c' : Pool Request Resp Outcome Remote ι}

/-- A request of one of the calls, or the start of a call. -/
abbrev VaultStep (name : ι → String) :
    Pool Request Resp Outcome Remote ι → Pool Request Resp Outcome Remote ι → Prop :=
  Step serve (fun _ _ _ => True) (calls name)

theorem underway_of_run (hinj : Function.Injective name)
    (hname : ∀ i, clusterNamePattern (name i) = true) (hc : Underway name c)
    (hrun : ReflTransGen (VaultStep name) c c') : Underway name c' := by
  refine always_run (agreement_promise hinj hname) ?_ hc hrun
  rintro i p ⟨hasClient, cp, hcp, rfl⟩ s
  exact always_reconcile hcp hasClient s

/-- One step: what is stored below the directory of a cluster stays, unless it is the path of an OIDC
client, and tokensmith's client changes to what Vault has answered. -/
theorem kv_of_step (hinj : Function.Injective name)
    (hname : ∀ i, clusterNamePattern (name i) = true) (hc : Underway name c)
    (hstep : VaultStep name c c') {i : ι} {key : String × String} (hkey : Under (name i) key)
    {data : GoMap String} (hdata : c.state.kv key = some data) :
    c'.state.kv key = some data ∨ key = splitKVPath (paths (name i)).cliOIDC ∨
      (key = splitKVPath (paths (name i)).tokensmithOIDC ∧
        ∃ data', Answered (name i) (c.logs i) data' ∧ c'.state.kv key = some data') := by
  have hagree := agreement_promise hinj hname
  rcases hstep with ⟨j, e, hsends⟩ | ⟨j, a, p, hp, -, rfl⟩
  · have hpromise := (guar_of_sends hagree hc hsends).1
    by_cases hij : j = i
    · subst hij
      rcases hpromise.kv with hkv | ⟨key', data', hunder, hmay, hkv⟩
      · exact Or.inl (by rw [hkv, hdata])
      · by_cases hsame : key = key'
        · subst hsame
          have hnew : c'.state.kv key = some data' := by rw [hkv, Function.update_self]
          rcases hmay with hnone | hcli | ⟨htokensmith, hanswered⟩
          · rw [hdata] at hnone
            cases hnone
          · exact Or.inr (Or.inl hcli)
          · exact Or.inr (Or.inr ⟨htokensmith, data', hanswered, hnew⟩)
        · exact Or.inl (by rw [hkv, Function.update_of_ne hsame, hdata])
    · have hleft := hagree.others j i hij _ _ _ _ hpromise
      exact Or.inl (by rw [hleft key hkey, hdata])
  · exact Or.inl hdata

/-- The same for the credentials that are never overwritten, over a whole run. -/
theorem kv_of_run (hinj : Function.Injective name)
    (hname : ∀ i, clusterNamePattern (name i) = true) (hc : Underway name c)
    (hrun : ReflTransGen (VaultStep name) c c') {i : ι} {path : String}
    (hpath : path ∈ fixedPaths (name i)) {data : GoMap String}
    (hdata : c.state.kv (splitKVPath path) = some data) :
    c'.state.kv (splitKVPath path) = some data := by
  induction hrun with
  | refl => exact hdata
  | tail hrun hstep ih =>
    have hbefore := underway_of_run hinj hname hc hrun
    have hunder := under_of_mem_fixedPaths hpath
    obtain ⟨hcli, htokensmith⟩ := oidc_of_mem_fixedPaths hpath
    rcases kv_of_step hinj hname hbefore hstep hunder ih with h | h | ⟨h, -⟩
    · exact h
    · exact absurd h hcli
    · exact absurd h htokensmith

/-- **Credentials in Vault are stable and confined.** In every run of calls for control planes with
different names, one call at a time for each of them, in which any request may fail: what is stored at
the two database paths, the S3 path and the log path of a control plane never changes again; what is
stored for its tokensmith client changes only to the credentials that Vault has answered for this
client in the running call; and a call writes secrets below `openchami/<clusterName>/` only, and no
policy, role, key or client that is named after another control plane. -/
theorem credentials_stable (hinj : Function.Injective name)
    (hname : ∀ i, clusterNamePattern (name i) = true)
    (hrun : ReflTransGen (VaultStep name) (idle s₀) c) :
    (∀ c', ReflTransGen (VaultStep name) c c' → ∀ i, ∀ path ∈ fixedPaths (name i), ∀ data,
      c.state.kv (splitKVPath path) = some data → c'.state.kv (splitKVPath path) = some data) ∧
    (∀ c', VaultStep name c c' → ∀ i data,
      c.state.kv (splitKVPath (paths (name i)).tokensmithOIDC) = some data →
      c'.state.kv (splitKVPath (paths (name i)).tokensmithOIDC) = some data ∨
      ∃ data', Answered (name i) (c.logs i) data' ∧
        c'.state.kv (splitKVPath (paths (name i)).tokensmithOIDC) = some data') ∧
    ∀ c' i e, Sends serve (fun _ _ _ => True) c i e c' →
      (∀ mount path data, e.request = .kvPut mount path data → Under (name i) (mount, path)) ∧
      ∀ j, Names (name j) e.request → j = i := by
  have hc := underway_of_run hinj hname (underway_idle name s₀) hrun
  refine ⟨fun c' hrun' i path hpath data => kv_of_run hinj hname hc hrun' hpath, ?_, ?_⟩
  · intro c' hstep i data hdata
    have hunder := under_splitKVPath (name i) "oidc/tokensmith-client"
    rcases kv_of_step hinj hname hc hstep hunder hdata with h | h | ⟨-, h⟩
    · exact Or.inl h
    · have hsplit := (splitKVPath_cluster (name i) "/oidc/tokensmith-client").symm.trans
        (h.trans (splitKVPath_cluster (name i) "/oidc/cli-client"))
      exact absurd ((String.append_right_inj _).mp (Prod.mk.inj hsplit).2) (by decide)
    · exact Or.inr h
  · intro c' i e hsends
    have hconfined := (guar_of_sends (agreement_promise hinj hname) hc hsends).1.confined
    refine ⟨fun mount path data he => ?_, fun j hj => hinj (eq_of_confined hconfined hj).symm⟩
    rw [he] at hconfined
    exact hconfined

end Runs

/-- Two control planes; the name of one begins with that of the other. -/
def planes : Bool → ControlPlane
  | false => { metadata := {}, spec := { clusterName := "alpha" }, status := {} }
  | true => { metadata := {}, spec := { clusterName := "alpha-2" }, status := {} }

/-- A call for each of them has begun, and their requests are served in turn. -/
def sideBySide : Pool Request Resp Outcome Remote Bool :=
  [false, true, false, true, false, true, false, true, false, true, false, true].foldl
    (Pool.turn answer)
    (((idle {}).start false (reconcile true (planes false))).start true (reconcile true (planes true)))

theorem run_sideBySide :
    ReflTransGen (VaultStep fun i => (planes i).spec.clusterName) (idle {}) sideBySide := by
  have hturns : ∀ (l : List Bool) (c : Pool Request Resp Outcome Remote Bool),
      ReflTransGen (VaultStep fun i => (planes i).spec.clusterName) c
        (l.foldl (Pool.turn answer) c) := by
    intro l
    induction l with
    | nil => exact fun _ => .refl
    | cons i l ih => exact fun c => (run_turn serve_answer fun _ => trivial).trans (ih _)
  have hcall : ∀ i, reconcile true (planes i) ∈ calls (fun i => (planes i).spec.clusterName) i :=
    fun i => ⟨true, planes i, rfl, rfl⟩
  exact ((run_start (hcall false) rfl).trans (run_start (hcall true) rfl)).trans (hturns _ _)

/-- The password of the database stays, whatever the two calls and later ones do. -/
theorem credentials_stable_sideBySide :
    ∃ data, sideBySide.state.kv ("openchami", "alpha/db/smd") = some data ∧
      ∀ c', ReflTransGen (VaultStep fun i => (planes i).spec.clusterName) sideBySide c' →
        c'.state.kv ("openchami", "alpha/db/smd") = some data := by
  have hinj : Function.Injective fun i => (planes i).spec.clusterName := by
    intro i j
    revert i j
    decide
  obtain ⟨hfixed, -⟩ := credentials_stable hinj (by decide) run_sideBySide
  have hdata : sideBySide.state.kv ("openchami", "alpha/db/smd") =
      some (.ofList [("username", "smd"), ("password", "00")]) := by decide +kernel
  exact ⟨_, hdata, fun c' hrun => hfixed c' hrun false _ List.mem_cons_self _ hdata⟩

end OpenchamiOperator.Reconcilers.VaultReconciler
