import OpenchamiOperator.Lib.Strings

/-! # The names of a cluster in Vault

`Paths` of `internal/vault/paths.go`, and the names that `EnsureOIDCConfig` of
`internal/vault/client_vault.go` makes up. All of them contain the name of the cluster, and differ
when it does.

* `eq_of_nested`: the prefix of one cluster is not a directory above that of another.
* `eq_of_oidcClientNames`: an OIDC client belongs to one cluster. -/

namespace OpenchamiOperator.Vault

open Lib Strings

/-- `VaultPaths`. -/
structure VaultPaths where
  kvMount : String
  secretPrefix : String
  dbSMDCredentials : String
  dbBootServiceCredentials : String
  s3Credentials : String
  logCredentials : String
  tokensmithOIDC : String
  cliOIDC : String
  policyServices : String
  appRoleServices : String
  k8sRoleServices : String
deriving DecidableEq

/-- `Paths`. -/
def paths (clusterName : String) : VaultPaths :=
  let pre := "openchami/" ++ clusterName
  let role := "openchami-" ++ clusterName ++ "-services"
  { kvMount := "openchami"
    secretPrefix := pre
    dbSMDCredentials := pre ++ "/db/smd"
    dbBootServiceCredentials := pre ++ "/db/boot-service"
    s3Credentials := pre ++ "/s3/versitygw"
    logCredentials := pre ++ "/s3/logs"
    tokensmithOIDC := pre ++ "/oidc/tokensmith-client"
    cliOIDC := pre ++ "/oidc/cli-client"
    policyServices := role
    appRoleServices := role
    k8sRoleServices := role }

/-- `keyName` in `EnsureOIDCConfig`. -/
def oidcKeyName (clusterName : String) : String := "openchami-" ++ clusterName

/-- `clientName` and `cliClientName` in `EnsureOIDCConfig`. -/
def oidcClientNames (clusterName : String) : List String :=
  ["openchami-" ++ clusterName ++ "-tokensmith", "openchami-" ++ clusterName ++ "-cli"]

/-- `p` is `q`, or a directory above `q`. -/
def Nested (p q : String) : Prop := hasPrefix (q ++ "/") (p ++ "/") = true

instance (p q : String) : Decidable (Nested p q) := inferInstanceAs (Decidable (_ = true))

/-! ### What the names tell -/

theorem eq_of_nested {a b : String} (ha : '/' ∉ a.toList) (hb : '/' ∉ b.toList)
    (h : Nested (paths a).secretPrefix (paths b).secretPrefix) : a = b := by
  have hdir : ∀ c : String, (paths c).secretPrefix ++ "/" = "openchami/" ++ (c ++ "/") := fun c =>
    String.append_assoc
  unfold Nested at h
  rw [hdir, hdir] at h
  obtain ⟨t, ht⟩ := hasPrefix_iff.mp h
  rw [String.append_assoc, String.append_right_inj] at ht
  -- both names end at the first slash
  have hcut : cut '/' (b ++ String.singleton '/' ++ "") = (b, some "") := by
    rw [String.append_assoc]
    exact cut_append hb ""
  have hcut' : cut '/' (a ++ String.singleton '/' ++ t) = (a, some t) := by
    rw [String.append_assoc]
    exact cut_append ha t
  have hsame : b ++ String.singleton '/' ++ "" = a ++ String.singleton '/' ++ t := by
    rw [String.append_empty]
    exact ht
  rw [hsame, hcut'] at hcut
  exact (Prod.mk.inj hcut).1

theorem eq_of_policyServices {a b : String}
    (h : (paths a).policyServices = (paths b).policyServices) : a = b :=
  (String.append_right_inj _).mp ((String.append_left_inj _).mp h)

theorem eq_of_oidcKeyName {a b : String} (h : oidcKeyName a = oidcKeyName b) : a = b :=
  (String.append_right_inj _).mp h

theorem eq_of_oidcClientNames {a b x : String} (ha : x ∈ oidcClientNames a)
    (hb : x ∈ oidcClientNames b) : a = b := by
  have hform : ∀ {c : String}, x ∈ oidcClientNames c →
      ∃ s ∈ ["-tokensmith", "-cli"], x = "openchami-" ++ c ++ s := by
    intro c hc
    rcases List.mem_cons.mp hc with hx | hx
    · exact ⟨_, by simp, hx⟩
    · exact ⟨_, by simp, List.mem_singleton.mp hx⟩
  obtain ⟨s, hs, hxs⟩ := hform ha
  obtain ⟨t, ht, hxt⟩ := hform hb
  exact (affix_inj (by decide) hs ht (hxs.symm.trans hxt)).1

end OpenchamiOperator.Vault
