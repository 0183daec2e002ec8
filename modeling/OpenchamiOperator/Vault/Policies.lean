import OpenchamiOperator.Lib.VaultPolicy
import OpenchamiOperator.Vault.Paths

/-! # The policy of a cluster

`internal/vault/policies.go`: the policy by which the services of a cluster read its secrets.

* `rules_servicesPolicy`: how Vault reads the text.
* `grants_read_iff`: what may be read under it. -/

namespace OpenchamiOperator.Vault

open Lib Strings VaultPolicy

/-- `ServicesPolicy`. -/
def servicesPolicy (clusterName : String) : String :=
  let p := paths clusterName
  "\npath \"" ++ p.kvMount ++ "/data/" ++ clusterName ++
  "/*\" \x7b\n  capabilities = [\"read\"]\n\x7d\n\npath \"" ++ p.kvMount ++ "/metadata/" ++
  clusterName ++
  "/*\" \x7b\n  capabilities = [\"read\", \"list\"]\n\x7d\n\npath \"" ++
  "pki/issue/openchami-services" ++ "\" \x7b\n  capabilities = [\"create\", \"update\"]\n\x7d\n"

/-- The KV v2 paths of the cluster's secrets, and of what is known about them. -/
def dataDir (clusterName : String) : String := "openchami/data/" ++ clusterName ++ "/"

def metadataDir (clusterName : String) : String := "openchami/metadata/" ++ clusterName ++ "/"

section Text

variable (read : List Char) (out : List Token)

/-- The tokens of a block up to its capabilities, in reverse. -/
def blockTokens (path : List Char) : List Token :=
  .symbol '[' :: .symbol '=' :: .word "capabilities".toList :: .symbol '\x7b' :: .text path :: out

theorem foldl_readBlock :
    "/*\" \x7b\n  capabilities = [\"read\"]\n\x7d\n\npath \"".toList.foldl step
      (some (.text read, out)) =
    some (.text [], .word "path".toList :: .symbol '\x7d' :: .symbol ']' :: .text "read".toList ::
      blockTokens out ('*' :: '/' :: read).reverse) := by
  rfl

theorem foldl_listBlock :
    "/*\" \x7b\n  capabilities = [\"read\", \"list\"]\n\x7d\n\npath \"".toList.foldl step
      (some (.text read, out)) =
    some (.text [], .word "path".toList :: .symbol '\x7d' :: .symbol ']' :: .text "list".toList ::
      .symbol ',' :: .text "read".toList :: blockTokens out ('*' :: '/' :: read).reverse) := by
  rfl

theorem foldl_issueBlock :
    "\" \x7b\n  capabilities = [\"create\", \"update\"]\n\x7d\n".toList.foldl step
      (some (.text read, out)) =
    some (.idle, .symbol '\x7d' :: .symbol ']' :: .text "update".toList :: .symbol ',' ::
      .text "create".toList :: blockTokens out read.reverse) := by
  rfl

end Text

theorem ofList_glob (dir name : String) :
    String.ofList ('*' :: '/' :: (name.toList.reverse ++ dir.toList.reverse)).reverse =
      dir ++ name ++ "/" ++ "*" := by
  refine String.toList_inj.mp ?_
  simp

/-- The tokens of the policy, for the paths of its first two blocks. -/
def policyTokens (dataPath metadataPath : List Char) : List Token :=
  [.word "path".toList, .text dataPath, .symbol '\x7b', .word "capabilities".toList, .symbol '=',
   .symbol '[', .text "read".toList, .symbol ']', .symbol '\x7d',
   .word "path".toList, .text metadataPath, .symbol '\x7b', .word "capabilities".toList,
   .symbol '=', .symbol '[', .text "read".toList, .symbol ',', .text "list".toList, .symbol ']',
   .symbol '\x7d',
   .word "path".toList, .text "pki/issue/openchami-services".toList, .symbol '\x7b',
   .word "capabilities".toList, .symbol '=', .symbol '[', .text "create".toList, .symbol ',',
   .text "update".toList, .symbol ']', .symbol '\x7d']

theorem tokens_servicesPolicy {clusterName : String}
    (h : ∀ c ∈ clusterName.toList, plain c = true) :
    tokens (servicesPolicy clusterName) = some (policyTokens
      ('*' :: '/' :: (clusterName.toList.reverse ++ "openchami/data/".toList.reverse)).reverse
      ('*' :: '/' :: (clusterName.toList.reverse ++
        "openchami/metadata/".toList.reverse)).reverse) := by
  have hbefore : "/data/".toList.foldl step ("openchami".toList.foldl step
      ("\npath \"".toList.foldl step (some (.idle, [])))) =
        some (.text "openchami/data/".toList.reverse, [.word "path".toList]) := by decide
  have hdir : "/metadata/".toList.reverse ++ ("openchami".toList.reverse ++ []) =
      "openchami/metadata/".toList.reverse := by decide
  have hissue : ("pki/issue/openchami-services".toList.reverse ++ []).reverse =
      "pki/issue/openchami-services".toList := by decide
  have hmount : (paths clusterName).kvMount = "openchami" := rfl
  unfold tokens servicesPolicy
  simp only [String.toList_append, List.foldl_append]
  rw [hmount, hbefore, foldl_step_plain _ _ _ h, foldl_readBlock,
    foldl_step_plain _ "openchami".toList _ (List.all_eq_true.mp (by decide)),
    foldl_step_plain _ "/metadata/".toList _ (List.all_eq_true.mp (by decide)),
    foldl_step_plain _ _ _ h, hdir, foldl_listBlock,
    foldl_step_plain _ "pki/issue/openchami-services".toList _ (List.all_eq_true.mp (by decide)),
    foldl_issueBlock, hissue]
  simp only [blockTokens, policyTokens, List.reverse_cons, List.reverse_nil, List.nil_append,
    List.cons_append]

theorem rulesFrom_policyTokens (dataPath metadataPath : List Char) :
    rulesFrom .top (policyTokens dataPath metadataPath) = some
      [⟨String.ofList dataPath, ["read"]⟩, ⟨String.ofList metadataPath, ["read", "list"]⟩,
       ⟨"pki/issue/openchami-services", ["create", "update"]⟩] := by
  unfold policyTokens
  simp only [rulesFrom]
  simp

theorem rules_servicesPolicy {clusterName : String}
    (h : ∀ c ∈ clusterName.toList, plain c = true) :
    rules (servicesPolicy clusterName) = some
      [⟨dataDir clusterName ++ "*", ["read"]⟩, ⟨metadataDir clusterName ++ "*", ["read", "list"]⟩,
       ⟨"pki/issue/openchami-services", ["create", "update"]⟩] := by
  unfold rules
  rw [tokens_servicesPolicy h, Option.bind_some, rulesFrom_policyTokens, ofList_glob, ofList_glob]
  rfl

theorem grants_read_iff {clusterName path : String}
    (h : ∀ c ∈ clusterName.toList, plain c = true) :
    grants (servicesPolicy clusterName) "read" path = true ↔
      hasPrefix path (dataDir clusterName) = true ∨
        hasPrefix path (metadataDir clusterName) = true := by
  unfold grants
  rw [rules_servicesPolicy h]
  simp [covers_glob]

/-- A name without slashes ends at the first slash after it. -/
theorem eq_of_hasPrefix_dir {pre a b rest : String} (ha : '/' ∉ a.toList) (hb : '/' ∉ b.toList)
    (h : hasPrefix (pre ++ (b ++ ("/" ++ rest))) (pre ++ a ++ "/") = true) : a = b := by
  obtain ⟨t, ht⟩ := hasPrefix_iff.mp h
  rw [String.append_assoc, String.append_assoc, String.append_right_inj] at ht
  have hcut : cut '/' (b ++ ("/" ++ rest)) = (b, some rest) := cut_append hb rest
  have hcut' : cut '/' (a ++ ("/" ++ t)) = (a, some t) := cut_append ha t
  rw [ht, hcut'] at hcut
  exact (Prod.mk.inj hcut).1

/-- **What the policy of `c` opens of the secrets of `d`.** -/
theorem grants_secret_iff {c d rest : String} (hc : ∀ x ∈ c.toList, plain x = true)
    (hcs : '/' ∉ c.toList) (hds : '/' ∉ d.toList) :
    grants (servicesPolicy c) "read" ("openchami/data/" ++ (d ++ ("/" ++ rest))) = true ↔
      c = d := by
  rw [grants_read_iff hc]
  constructor
  · rintro (h | h)
    · exact eq_of_hasPrefix_dir hcs hds h
    · -- the two directories differ after "openchami/"
      exfalso
      unfold metadataDir hasPrefix at h
      simp at h
  · rintro rfl
    refine Or.inl (hasPrefix_iff.mpr ⟨rest, ?_⟩)
    unfold dataDir
    simp only [String.append_assoc]

end OpenchamiOperator.Vault
