import OpenchamiOperator.Lib.JsonBrackets
import OpenchamiOperator.Lib.JsonFields
import OpenchamiOperator.Reconcilers.Services

/-! # The bootstrap tokens of the consumers

`mintBootstrapTokenViaExec` and `provisionBootstrapToken` of
`internal/reconcilers/tokensmith_bootstrap.go`, with the answers of the API server and of the
command in the pod as inputs. A byte of the command's output is the character with its number.

* `readBootstrapToken_banner`: text in front of the command's JSON object makes reading fail as soon
  as it has a brace. -/

namespace OpenchamiOperator.Reconcilers

open Lib Lib.JsonDecode Api

/-! ### Minting -/

/-- `bootstrapTokenSpec`. -/
structure BootstrapTokenSpec where
  secretSuffix : String
  subject : String
  scopes : String
  appName : String

def bootServiceBootstrap : BootstrapTokenSpec where
  secretSuffix := "boot-service-bootstrap-token"
  subject := "boot-service"
  scopes := "node:read,node:write"
  appName := "boot-service"

def metadataServiceBootstrap : BootstrapTokenSpec where
  secretSuffix := "metadata-service-bootstrap-token"
  subject := "metadata-service"
  scopes := "node:read,group:read"
  appName := "metadata-service"

/-- What `execInPod` returns. -/
structure ExecAnswer where
  stdout : List Char
  stderr : List Char := []
  err : Option String := none

section Mint

/-! The verb `%q` for bytes and the text of an error of `encoding/json` only go into messages. -/

variable (quoted : List Char → String) (jsonError : List Char → String)

/-- The token in the output of the command: what `encoding/json` reads from the first brace on. -/
def readBootstrapToken (stdout : List Char) : Except String String :=
  let json := stdout.dropWhile (· ≠ '{')
  if json = [] then
    .error ("no JSON in tokensmith bootstrap-token create output: " ++ quoted stdout)
  else
    match unmarshalField "bootstrap_token" json with
    | none =>
      .error ("parsing bootstrap-token create JSON: " ++ jsonError json ++ " (raw=" ++
        quoted stdout ++ ")")
    | some token =>
      if token = [] then
        .error ("bootstrap-token create returned empty bootstrap_token field: " ++ quoted stdout)
      else .ok (String.ofList token)

/-- The command line, with the constants of the source. -/
def bootstrapTokenArgs (spec : BootstrapTokenSpec) : List String :=
  ["/usr/local/bin/tokensmith", "bootstrap-token", "create", "--subject", spec.subject,
   "--audience", "hsm", "--scopes", spec.scopes, "--ttl", "1h", "--refresh-ttl", "24h",
   "--output-format", "json", "--bootstrap-store", "/var/lib/tokensmith/bootstrap-tokens"]

/-- `pickTokensmithPod`, for the names and phases of the pods that were listed. -/
def pickTokensmithPod (cp : ControlPlane) (pods : Except String (List (String × String))) :
    Except String String :=
  match pods with
  | .error err => .error ("listing tokensmith pods: " ++ err)
  | .ok pods =>
    match pods.find? fun pod => pod.2 = "Running" with
    | some pod => .ok pod.1
    | none => .error ("no Running tokensmith pod found in " ++ controlPlaneNamespace cp)

def mintBootstrapTokenViaExec (cp : ControlPlane) (spec : BootstrapTokenSpec)
    (pods : Except String (List (String × String))) (exec : String → List String → ExecAnswer) :
    Except String String := do
  let pod ← pickTokensmithPod cp pods
  let args := bootstrapTokenArgs spec
  let answer := exec pod args
  match answer.err with
  | some err =>
    .error ("exec [" ++ " ".intercalate (args.map fun arg => quoted arg.toList) ++
      "] in tokensmith pod " ++ pod ++ ": " ++ err ++ " (stderr=" ++ quoted answer.stderr ++ ")")
  | none => readBootstrapToken quoted jsonError answer.stdout

end Mint

/-! ### The output of the command -/

section Banner
variable {quoted : List Char → String} {jsonError : List Char → String}

/-- Between braces, and then only white space, the text is determined. -/
theorem braces_append_inj {u u' a a' : List Char} (ha : Blank a) (ha' : Blank a')
    (h : u ++ '}' :: a = u' ++ '}' :: a') : u = u' := by
  have hone : ∀ {u u' a a' : List Char}, Blank a → u ++ '}' :: a = u' ++ '}' :: a' →
      u'.length ≤ u.length := by
    intro u u' a a' ha h
    by_contra hlt
    -- the brace after the longer text would stand in the white space after the shorter one
    rcases List.append_eq_append_iff.mp h with ⟨l, rfl, hl⟩ | ⟨l, rfl, -⟩
    · rcases l with _ | ⟨c, l⟩
      · simp at hlt
      · have hbrace : '}' ∈ a := by
          rw [(List.cons.inj hl).2]
          simp
        exact absurd (ha _ hbrace) (by decide)
    · simp at hlt
  have hlength : u.length = u'.length := Nat.le_antisymm (hone ha' h.symm) (hone ha h)
  exact (List.append_inj h hlength).1

theorem readBootstrapToken_eq_ok_iff {stdout : List Char} {token : List Char} (htoken : token ≠ []) :
    readBootstrapToken quoted jsonError stdout = .ok (String.ofList token) ↔
      unmarshalField "bootstrap_token" (stdout.dropWhile (· ≠ '{')) = some token := by
  have hnil : unmarshalField "bootstrap_token" [] = none := by decide
  unfold readBootstrapToken
  generalize stdout.dropWhile (· ≠ '{') = json
  by_cases hjson : json = []
  · simp [hjson, hnil]
  · simp only [hjson, if_false]
    rcases unmarshalField "bootstrap_token" json with _ | field
    · simp
    · by_cases hfield : field = []
      · simp [hfield, Ne.symm htoken]
      · simp only [hfield, if_false, Except.ok.injEq, Option.some.injEq]
        exact ⟨fun h => String.ofList_injective h, fun h => by rw [h]⟩

theorem readBootstrapToken_ne_empty {stdout : List Char} {token : String}
    (h : readBootstrapToken quoted jsonError stdout = .ok token) : token ≠ "" := by
  unfold readBootstrapToken at h
  dsimp only at h
  split at h
  · cases h
  · split at h
    · cases h
    · split at h
      · cases h
      · rename_i field _ hfield
        obtain rfl := Except.ok.inj h
        intro hempty
        exact hfield (String.ofList_eq_empty_iff.mp hempty)

/-- A field is left with a text only if the document is an object. -/
theorem members_of_unmarshalField {name : String} {data token : List Char} (htoken : token ≠ [])
    (h : unmarshalField name data = some token) :
    ∃ members, parse data = some (.object members) ∧ decodeField name members = some token := by
  unfold unmarshalField at h
  split at h
  · exact ⟨_, ‹_›, h⟩
  · exact absurd (Option.some.inj h).symm htoken
  · cases h

/-- **Text in front of the object.** The command prints a banner, an object and white space. The
token is read if and only if no brace is in the banner, the object is not nested too deep for
`encoding/json`, and the members that name the field up to case can be stored and end with the token
as the last string. -/
theorem readBootstrapToken_banner {d : ℕ} {banner object space token : List Char}
    {members : List (List Char × Value)} (hspace : Blank space)
    (hobject : Text d (.object members) (object ++ space) space) (htoken : token ≠ []) :
    readBootstrapToken quoted jsonError (banner ++ (object ++ space)) =
        .ok (String.ofList token) ↔
      '{' ∉ banner ∧ Text maxNestingDepth (.object members) (object ++ space) space ∧
        Storable "bootstrap_token" members ∧ LastString "bootstrap_token" members token := by
  obtain ⟨t, htext, -, -, hbraces⟩ := hobject.balanced
  obtain ⟨u, rfl, hu⟩ := hbraces members rfl
  obtain rfl : object = '{' :: (u ++ ['}']) := List.append_cancel_right htext
  rw [readBootstrapToken_eq_ok_iff htoken]
  have hdrop : ∀ {front rest : List Char}, '{' ∉ front →
      (front ++ '{' :: rest).dropWhile (· ≠ '{') = '{' :: rest := by
    intro front rest hfront
    rw [List.dropWhile_append_of_pos, List.dropWhile_cons_of_neg (by simp)]
    intro c hc
    have hne : c ≠ '{' := fun heq => hfront (heq ▸ hc)
    simpa using hne
  by_cases hbanner : '{' ∈ banner
  · -- reading starts in the banner, so that the object is a proper suffix of another one
    simp only [hbanner, not_true, false_and, iff_false]
    intro hread
    obtain ⟨front, back, rfl, hfront⟩ := List.eq_append_cons_of_mem hbanner
    have hshift : front ++ '{' :: back ++ ('{' :: (u ++ ['}']) ++ space) =
        front ++ '{' :: (back ++ '{' :: (u ++ '}' :: space)) := by simp
    rw [hshift, hdrop hfront] at hread
    obtain ⟨members', hparse, -⟩ := members_of_unmarshalField htoken hread
    obtain ⟨r, htext', hr⟩ := text_of_parse hparse
    rw [skipSpace, List.dropWhile_cons_of_neg (by decide)] at htext'
    obtain ⟨t', hwhole, -, -, hbraces'⟩ := htext'.balanced
    obtain ⟨u', rfl, hu'⟩ := hbraces' members' rfl
    have hends : (back ++ '{' :: u) ++ '}' :: space = u' ++ '}' :: r := by
      simpa using hwhole
    have hsuffix : '{' :: (u' ++ ['}']) = ('{' :: back) ++ '{' :: (u ++ ['}']) := by
      rw [← braces_append_inj hspace hr hends]
      simp
    cases eq_nil_of_suffix hu' hu hsuffix
  · have hjson : (banner ++ ('{' :: (u ++ ['}']) ++ space)).dropWhile (· ≠ '{') =
        '{' :: (u ++ ['}']) ++ space := hdrop hbanner
    rw [hjson, ← decodeField_eq_some_iff htoken]
    constructor
    · intro hread
      obtain ⟨members', hparse, hfield⟩ := members_of_unmarshalField htoken hread
      obtain ⟨r, htext', hr⟩ := text_of_parse hparse
      have hskip : skipSpace ('{' :: (u ++ ['}']) ++ space) = '{' :: (u ++ ['}']) ++ space :=
        List.dropWhile_cons_of_neg (by decide)
      rw [hskip] at htext'
      obtain ⟨t', hwhole, -, -, hbraces'⟩ := htext'.balanced
      obtain ⟨u', rfl, hu'⟩ := hbraces' members' rfl
      have hends : u ++ '}' :: space = u' ++ '}' :: r := by
        simpa using hwhole
      obtain rfl := braces_append_inj hspace hr hends
      obtain rfl : space = r := by simpa using hends
      obtain ⟨rfl⟩ : Value.object members' = .object members :=
        htext'.unique hobject hspace.follow
      exact ⟨hbanner, htext', hfield⟩
    · rintro ⟨-, htext', hfield⟩
      unfold unmarshalField
      rw [parse_of_text htext' hspace]
      exact hfield

/-- **The token of the last object.** For an output that is a banner, an object and white space,
minting returns the member `bootstrap_token` of the object, if that is a string with some text, if
and only if no brace is in the banner, the object is nested at most ten thousand deep, and no member
whose name differs in case only gets in the way. -/
theorem mintBootstrapTokenViaExec_eq_ok_iff (quoted jsonError : List Char → String)
    (cp : ControlPlane) (spec : BootstrapTokenSpec)
    (pods : Except String (List (String × String))) (exec : String → List String → ExecAnswer)
    {pod : String} (hpod : pickTokensmithPod cp pods = .ok pod)
    {d : ℕ} {banner object space raw : List Char} {members : List (List Char × Value)}
    (hstdout : (exec pod (bootstrapTokenArgs spec)).stdout = banner ++ (object ++ space))
    (hran : (exec pod (bootstrapTokenArgs spec)).err = none)
    (hspace : Blank space) (hobject : Text d (.object members) (object ++ space) space)
    (_hmember : member? "bootstrap_token" members = some (.string raw))
    (hnonempty : unquote raw ≠ []) :
    mintBootstrapTokenViaExec quoted jsonError cp spec pods exec =
        .ok (String.ofList (unquote raw)) ↔
      '{' ∉ banner ∧ Text maxNestingDepth (.object members) (object ++ space) space ∧
        Storable "bootstrap_token" members ∧
        LastString "bootstrap_token" members (unquote raw) := by
  have hmint : mintBootstrapTokenViaExec quoted jsonError cp spec pods exec =
      readBootstrapToken quoted jsonError (banner ++ (object ++ space)) := by
    unfold mintBootstrapTokenViaExec
    rw [hpod]
    simp only [bind, Except.bind, hstdout, hran]
  rw [hmint]
  exact readBootstrapToken_banner hspace hobject hnonempty

/-- An object with no other member. -/
def tokenObject (raw : List Char) : List Char :=
  '{' :: '"' :: ("bootstrap_token".toList ++ '"' :: ':' :: '"' :: (raw ++ ['"', '}']))

theorem content_of_all {s : List Char}
    (h : (s.all fun c => c ≠ '"' && c ≠ '\\' && 32 ≤ c.toNat) = true) : Content s := by
  induction s with
  | nil => exact .nil
  | cons c s ih =>
    rw [List.all_cons, Bool.and_eq_true] at h
    obtain ⟨hc, hs⟩ := h
    simp only [Bool.and_eq_true, decide_eq_true_eq] at hc
    exact .plain hc.1.1 hc.1.2 hc.2 (ih hs)

theorem text_tokenObject {raw : List Char} (h : Content raw) (space : List Char) :
    Text 1 (.object [("bootstrap_token".toList, .string raw)]) (tokenObject raw ++ space) space := by
  have hnil : Blank [] := fun c hc => absurd hc List.not_mem_nil
  have hvalue : Text 0 (.string raw) ('"' :: (raw ++ '"' :: '}' :: space)) ([] ++ '}' :: space) :=
    .string h
  have hname : Content "bootstrap_token".toList := content_of_all (by decide)
  have hall := Text.object hnil (.last hname hnil hnil hvalue hnil)
  simpa [tokenObject] using hall

/-- A banner without braces. -/
theorem mintBootstrapTokenViaExec_banner :
    mintBootstrapTokenViaExec (fun _ => "") (fun _ => "") {} bootServiceBootstrap
      (.ok [("tokensmith-0", "Running")])
      (fun _ _ => { stdout := "tokensmith v1\n".toList ++ (tokenObject "abc".toList ++ ['\n'])
                    stderr := "minting\n".toList }) =
      .ok (String.ofList (unquote "abc".toList)) :=
  (mintBootstrapTokenViaExec_eq_ok_iff (fun _ => "") (fun _ => "") {} bootServiceBootstrap
    (.ok [("tokensmith-0", "Running")]) _ rfl rfl rfl (by simp [Blank, isSpace])
    (text_tokenObject (content_of_all (by decide)) ['\n']) rfl (by decide)).mpr
    ⟨by decide, (text_tokenObject (content_of_all (by decide)) ['\n']).mono (by decide),
      by simp [Storable, Value.isStringOrNull],
      [], "bootstrap_token".toList, "abc".toList, [], rfl, by decide, rfl, by simp⟩

/-- The token is there, but reading starts at the brace of the banner. -/
theorem mintBootstrapTokenViaExec_brace :
    mintBootstrapTokenViaExec (fun _ => "") (fun _ => "invalid character") {} bootServiceBootstrap
      (.ok [("tokensmith-0", "Running")])
      (fun _ _ => { stdout := "tokensmith \x7bv1\x7d\n".toList ++
        (tokenObject "abc".toList ++ ['\n']) }) =
      .error "parsing bootstrap-token create JSON: invalid character (raw=)" := by
  decide +kernel

end Banner

end OpenchamiOperator.Reconcilers
