import OpenchamiOperator.Api.Admission
import OpenchamiOperator.Controller.Delete

/-! # Deletions and other control planes

What a deletion takes with it is named after the cluster, or by the specification in the case of the
buckets. Admission keeps the names of the clusters apart, and their pattern keeps one name from
reaching into the directory of another.

* `disjoint_directories`: the Vault directories of two clusters have nothing in common.
* `deletion_isolated`: any run of deletions of one control plane leaves the other's things alone, as
  far as the buckets are not also named by the first. -/

namespace OpenchamiOperator.Controller

open Lib Strings Api Reconcilers Admission Relation

/-! ### Names -/

theorem slash_not_mem_of_schema {cp : ControlPlane} (h : schemaValid cp = true) :
    '/' ∉ cp.spec.clusterName.toList := by
  intro hmem
  exact absurd (mem_of_clusterNamePattern (schemaValid_iff.mp h).1 '/' hmem) (by decide)

/-- A path lies in the directory of one cluster at most. -/
theorem disjoint_directories {a b : ControlPlane} (ha : schemaValid a = true)
    (hb : schemaValid b = true) (hne : a.spec.clusterName ≠ b.spec.clusterName) {s : Vault.Secret}
    (hs : s.Under "openchami" (a.spec.clusterName ++ "/")) :
    ¬ s.Under "openchami" (b.spec.clusterName ++ "/") := by
  intro hs'
  obtain ⟨t, ht⟩ := hasPrefix_iff.mp hs.2
  obtain ⟨t', ht'⟩ := hasPrefix_iff.mp hs'.2
  have hcut := cut_append (slash_not_mem_of_schema ha) t
  have hcut' := cut_append (slash_not_mem_of_schema hb) t'
  rw [← String.append_assoc] at hcut hcut'
  have heq : a.spec.clusterName ++ String.singleton '/' ++ t =
      b.spec.clusterName ++ String.singleton '/' ++ t' := ht.symm.trans ht'
  rw [heq, hcut'] at hcut
  exact hne (Prod.mk.inj hcut).1.symm

theorem namespace_ne {a b : ControlPlane} (h : a.spec.clusterName ≠ b.spec.clusterName) :
    controlPlaneNamespace a ≠ controlPlaneNamespace b :=
  fun heq => h ((String.append_right_inj _).mp heq)

theorem roleName_ne {a b : ControlPlane} (h : a.spec.clusterName ≠ b.spec.clusterName) :
    networkProbeRoleName a ≠ networkProbeRoleName b :=
  fun heq => h ((String.append_right_inj _).mp ((String.append_left_inj _).mp heq))

/-! ### What belongs to a control plane -/

/-- The cluster-scoped objects of a control plane: its namespace and its two roles. -/
def ownKeys (cp : ControlPlane) : List (KubeKind × String × String) :=
  [(.namespace, "", controlPlaneNamespace cp), (.clusterRole, "", networkProbeRoleName cp),
   (.clusterRoleBinding, "", networkProbeRoleName cp)]

/-- Between `w` and `w'`, everything that belongs to `b` is the same, except for buckets that `a`
names as well. -/
structure Isolated (a b : ControlPlane) (w w' : World) : Prop where
  objects : ∀ k ∈ ownKeys b, w'.objects.get? k = w.objects.get? k
  secrets : ∀ s : Vault.Secret, s.Under "openchami" (b.spec.clusterName ++ "/") →
    (s ∈ w'.vault.secrets ↔ s ∈ w.vault.secrets)
  buckets : ∀ name, name = bootBucketName b ∨ name = logBucketName b →
    name ≠ bootBucketName a → name ≠ logBucketName a → w'.s3.get? name = w.s3.get? name

theorem Isolated.refl (a b : ControlPlane) (w : World) : Isolated a b w w :=
  ⟨fun _ _ => rfl, fun _ _ => Iff.rfl, fun _ _ _ _ => rfl⟩

/-! ### Calls and runs -/

/-- The state of a run: `b` has lost nothing, and the object at the key of `a`, if it is still there,
has the specification of `a`. -/
structure DeletionInv (a b : ControlPlane) (w₀ w : World) : Prop where
  isolated : Isolated a b w₀ w
  spec : ∀ cp, w.controlPlanes.get? (planeKey a) = some cp → cp.spec = a.spec

section Calls
variable {a b cp : ControlPlane} {w₀ : World}

/-- A request about cluster objects that are not those of `b`. -/
theorem DeletionInv.of_frame {w w' : World} (h : DeletionInv a b w₀ w)
    (hplanes : w'.controlPlanes = w.controlPlanes) (hvault : w'.vault = w.vault)
    (hs3 : w'.s3 = w.s3) (hobjects : ∀ k ∈ ownKeys b, w'.objects.get? k = w.objects.get? k) :
    DeletionInv a b w₀ w' := by
  refine ⟨⟨fun k hk => (hobjects k hk).trans (h.isolated.objects k hk), ?_, ?_⟩, ?_⟩
  · rw [hvault]
    exact h.isolated.secrets
  · rw [hs3]
    exact h.isolated.buckets
  · rw [hplanes]
    exact h.spec

/-- The names a deletion uses come from the specification. -/
theorem names_of_spec (h : cp.spec = a.spec) :
    controlPlaneNamespace cp = controlPlaneNamespace a ∧
      networkProbeRoleName cp = networkProbeRoleName a ∧ bootBucketName cp = bootBucketName a ∧
      logBucketName cp = logBucketName a ∧ cp.spec.clusterName = a.spec.clusterName := by
  unfold controlPlaneNamespace networkProbeRoleName bootBucketName logBucketName
  rw [h]
  exact ⟨rfl, rfl, rfl, rfl, rfl⟩

/-- **One call** for `a`, wherever it stops. -/
theorem reconcileDelete_isolated (hsa : schemaValid a = true) (hsb : schemaValid b = true)
    (hne : a.spec.clusterName ≠ b.spec.clusterName) (hspec : cp.spec = a.spec) {op : Operator} :
    Prog.Keeps (DeletionInv a b w₀) (reconcileDelete op cp) := by
  obtain ⟨hns, hrole, hboot, hlog, hname⟩ := names_of_spec hspec
  refine reconcileDelete_keeps (fun w h => ?_) (fun kv w h hkv => ?_) (fun bucket hb bs w h hbs => ?_)
    (fun kind hkind w h => ?_) fun fs w h => ?_
  · obtain ⟨hc, -, hv, hs, -⟩ := deleteNamespace_frame (controlPlaneNamespace cp) w
    refine h.of_frame hc hv hs fun k hk => get?_deleteNamespace ?_
    rintro rfl
    rw [hns] at hk
    simp [ownKeys, namespace_ne hne] at hk
  · refine ⟨⟨h.isolated.objects, fun s hs => ?_, h.isolated.buckets⟩, h.spec⟩
    rw [← h.isolated.secrets s hs, hname] at *
    have hnot := fun hu => disjoint_directories hsa hsb hne hu hs
    exact ⟨fun hmem => hkv.1 s hmem, fun hmem => hkv.2 s hmem hnot⟩
  · refine ⟨⟨h.isolated.objects, h.isolated.secrets, fun name hn hna hnl => ?_⟩, h.spec⟩
    rw [← h.isolated.buckets name hn hna hnl]
    refine hbs.get? ?_
    rcases hb with rfl | rfl
    · rw [hboot]; exact hna
    · rw [hlog]; exact hnl
  · obtain ⟨hc, -, hv, hs, -⟩ := deleteClusterObject_frame kind (networkProbeRoleName cp) w
    refine h.of_frame hc hv hs fun k hk => get?_deleteClusterObject ?_
    rintro rfl
    rw [hrole] at hk
    rcases hkind with rfl | rfl
    · simp [ownKeys, roleName_ne hne] at hk
    · simp [ownKeys, roleName_ne hne] at hk
  · obtain ⟨ho, -, hv, hs, -⟩ := patchFinalizers_frame (planeKey cp) fs w
    refine ⟨⟨by rw [ho]; exact h.isolated.objects, by rw [hv]; exact h.isolated.secrets,
      by rw [hs]; exact h.isolated.buckets⟩, fun c hc => ?_⟩
    obtain ⟨stored, fs', hstored, rfl⟩ := get?_patchFinalizers hc
    exact h.spec stored hstored

theorem DeletionInv.calls (hsa : schemaValid a = true) (hsb : schemaValid b = true)
    (hne : a.spec.clusterName ≠ b.spec.clusterName) : ∀ (calls : List DeleteCall) {w : World},
      DeletionInv a b w₀ w → DeletionInv a b w₀ (afterDeletes (planeKey a) w calls)
  | [], _, h => h
  | c :: calls, w, h => by
    refine DeletionInv.calls hsa hsb hne calls ?_
    unfold afterDelete
    rcases hget : w.controlPlanes.get? (planeKey a) with _ | cp
    · exact h
    · exact (reconcileDelete_isolated hsa hsb hne (h.spec cp hget)).state ⟨w, c.fates⟩ h

end Calls

/-- **Deletion isolation.** For two members of a set admitted one request after another: any run of
deletions of the first, with either annotation, any failures and any clients, leaves the namespace,
the secrets and the roles of the second untouched, and each of its buckets that the first does not
name. -/
theorem deletion_isolated {s : ControlPlanes}
    (hs : ReflTransGen (Admitted fun _ _ => True) Store.empty s) {a b : ControlPlane} (ha : a ∈ s)
    (hb : b ∈ s) (hab : a ≠ b) {w : World}
    (hspec : ∀ cp, w.controlPlanes.get? (planeKey a) = some cp → cp.spec = a.spec)
    (calls : List DeleteCall) : Isolated a b w (afterDeletes (planeKey a) w calls) := by
  have hsound := sound_run hs
  have hkey : planeKey a ≠ planeKey b := fun hk => hab (Store.eq_of_key_eq ha hb hk)
  have hne := hsound.names a ha b hb hkey
  have hinv : DeletionInv a b w (afterDeletes (planeKey a) w calls) :=
    DeletionInv.calls (hsound.schema a ha) (hsound.schema b hb) hne calls
      ⟨Isolated.refl a b w, hspec⟩
  exact hinv.isolated

/-- A control plane that keeps its boot images in a bucket with a name of its owner's choice. -/
def sharing (name : String) : ControlPlane where
  metadata :=
    { name := name
      «namespace» := "default"
      annotations := GoMap.ofList [(annotationCleanupS3, "true")]
      finalizers := [clusterFinalizer] }
  spec :=
    { clusterName := name
      domain := name ++ ".example.org"
      platform :=
        { vault := { address := "https://vault.example.org:8200" }
          objectStorage := { bucket := "site-images" } }
      services :=
        { coreDHCP := { nodeSelector := GoMap.ofList [("openchami.org/" ++ name, "true")] } } }

def sharingA : ControlPlane := withUid "uid-a" (Webhook.default (sharing "a"))

def sharingB : ControlPlane := withUid "uid-b" (Webhook.default (sharing "b"))

def sharingStored : ControlPlanes := (Store.empty.apply sharingA).apply sharingB

theorem sharing_admitted :
    ReflTransGen (Admitted fun _ _ => True) Store.empty sharingStored := by
  have hfirst : Admitted (fun _ _ => True) Store.empty (Store.empty.apply sharingA) :=
    @Admitted.create _ _ (sharing "a") "uid-a"
      (by decide) (by decide) (by decide) (by decide) (Or.inl rfl) (by decide) trivial
  have hsecond : Admitted (fun _ _ => True) (Store.empty.apply sharingA) sharingStored :=
    @Admitted.create _ _ (sharing "b") "uid-b"
      (by decide) (by decide) (by decide) (by decide) (Or.inl rfl) (by decide) trivial
  exact (ReflTransGen.single hfirst).tail hsecond

theorem sharingA_mem : sharingA ∈ sharingStored :=
  Store.mem_apply.mpr (Or.inr ⟨Store.mem_apply.mpr (Or.inl rfl), by decide⟩)

theorem sharingB_mem : sharingB ∈ sharingStored := Store.mem_apply.mpr (Or.inl rfl)

/-- Both are stored; the images of both are in one bucket. -/
def sharingWorld : World where
  controlPlanes := sharingStored
  vault := ⟨[⟨"openchami", "b/db/credentials", by decide⟩]⟩
  s3 := Store.empty.apply ⟨"site-images", [⟨"b/kernel", false⟩]⟩

theorem deletion_isolated_sharing :
    Isolated sharingA sharingB sharingWorld
      (afterDeletes (planeKey sharingA) sharingWorld [⟨{}, []⟩]) :=
  deletion_isolated sharing_admitted sharingA_mem sharingB_mem (by decide)
    (fun cp hcp => by
      have hget : sharingWorld.controlPlanes.get? (planeKey sharingA) = some sharingA :=
        Store.get?_eq_some_iff.mpr ⟨sharingA_mem, rfl⟩
      rw [hget, Option.some.injEq] at hcp
      rw [← hcp]) [⟨{}, []⟩]

/-- Deleting the first control plane deletes the bucket of the second. -/
theorem shared_bucket_deleted :
    ReflTransGen (Admitted fun _ _ => True) Store.empty sharingStored ∧
      sharingA ∈ sharingStored ∧ sharingB ∈ sharingStored ∧ sharingA ≠ sharingB ∧
      sharingWorld.controlPlanes = sharingStored ∧
      sharingWorld.s3.has (bootBucketName sharingB) = true ∧
      (afterDeletes (planeKey sharingA) sharingWorld [⟨{}, []⟩]).s3.has
        (bootBucketName sharingB) = false :=
  ⟨sharing_admitted, sharingA_mem, sharingB_mem, by decide, rfl, by decide, by decide⟩

end OpenchamiOperator.Controller
