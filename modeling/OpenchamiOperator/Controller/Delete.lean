import OpenchamiOperator.Controller.World

/-! # Deleting a control plane

`reconcileDelete` of `internal/controller/openchamicontrolplane_controller.go`: the finalizer keeps
the object until everything that was asked to go has gone. Each step may fail, and the next call then
starts from the beginning.

* `reconcileDelete_triple`: a call that ends without an error has cleaned up; one that ends with an
  error has cleaned up or left the control planes alone.
* `released_cleaned`: over any run of calls, the finalizer goes only after the clean-up. -/

namespace OpenchamiOperator.Controller

open Lib Api Reconcilers

/-! ### The call -/

def clusterFinalizer : String := "openchami.org/cluster-protection"
def annotationCleanupVault : String := "openchami.org/cleanup-vault"
def annotationCleanupS3 : String := "openchami.org/cleanup-s3"
def annotationOptInTrue : String := "true"

/-- `cp.Annotations[name] == annotationOptInTrue`. -/
def optedIn (cp : ControlPlane) (name : String) : Bool :=
  cp.metadata.annotations.getD name "" = annotationOptInTrue

/-- The name shared by the ClusterRole and the ClusterRoleBinding of the network probe. -/
def networkProbeRoleName (cp : ControlPlane) : String :=
  "openchami-" ++ cp.spec.clusterName ++ "-network-probe"

/-- The directory of the cluster in Vault, with its mount. -/
def vaultPrefix (cp : ControlPlane) : String := "openchami/" ++ cp.spec.clusterName ++ "/"

/-- A delete request to the API server; `NotFound` is no error. -/
def deleting (context : String) (f : World → Except ApiError Unit × World) :
    Prog World OpError Unit :=
  Prog.ignoring isNotFound (fun e => ⟨context, e⟩) (Prog.request .failed f)

/-- The step that wipes Vault, if asked to and possible. -/
def cleanupVault (op : Operator) (cp : ControlPlane) : Prog World OpError Unit :=
  if optedIn cp annotationCleanupVault && op.vaultClient then
    wrapping "deleting vault paths" (onVault (Vault.deleteClusterPaths (vaultPrefix cp)))
  else pure ()

/-- The step that deletes the two buckets, if asked to and possible. -/
def cleanupS3 (op : Operator) (cp : ControlPlane) : Prog World OpError Unit :=
  if optedIn cp annotationCleanupS3 && op.s3Client then do
    wrapping "deleting s3 bucket" (onS3 (S3.deleteBucket (bootBucketName cp)))
    wrapping "deleting log s3 bucket" (onS3 (S3.deleteBucket (logBucketName cp)))
  else pure ()

/-- The patch that takes the finalizer off. -/
def removeFinalizer (cp : ControlPlane) : Prog World OpError Unit :=
  Prog.ignoring (fun _ => false) (fun e => ⟨"removing finalizer", e⟩)
    (Prog.request .failed
      (patchFinalizers (planeKey cp) (cp.metadata.finalizers.filter (· ≠ clusterFinalizer))))

/-- `reconcileDelete`. -/
def reconcileDelete (op : Operator) (cp : ControlPlane) : Prog World OpError Unit :=
  if clusterFinalizer ∉ cp.metadata.finalizers then pure ()
  else do
    deleting "deleting namespace" (deleteNamespace (controlPlaneNamespace cp))
    cleanupVault op cp
    cleanupS3 op cp
    deleting "deleting clusterrolebinding"
      (deleteClusterObject .clusterRoleBinding (networkProbeRoleName cp))
    deleting "deleting clusterrole" (deleteClusterObject .clusterRole (networkProbeRoleName cp))
    removeFinalizer cp

/-! ### What the requests do -/

/-- The namespace is gone or on its way. -/
def NamespaceGoing (cp : ControlPlane) (w : World) : Prop :=
  ∀ o ∈ w.objects, o.key = (.namespace, "", controlPlaneNamespace cp) → o.terminating = true

def RoleGone (kind : KubeKind) (cp : ControlPlane) (w : World) : Prop :=
  w.objects.has (kind, "", networkProbeRoleName cp) = false

def VaultWiped (cp : ControlPlane) (w : World) : Prop :=
  ∀ s ∈ w.vault.secrets, ¬ s.Under "openchami" (cp.spec.clusterName ++ "/")

def BucketsGone (cp : ControlPlane) (w : World) : Prop :=
  w.s3.has (bootBucketName cp) = false ∧ w.s3.has (logBucketName cp) = false

/-- Everything the deletion of `cp` is to take with it, as far as this operator has the clients. -/
structure Cleaned (op : Operator) (cp : ControlPlane) (w : World) : Prop where
  namespaceGoing : NamespaceGoing cp w
  bindingGone : RoleGone .clusterRoleBinding cp w
  roleGone : RoleGone .clusterRole cp w
  vaultWiped : optedIn cp annotationCleanupVault = true → op.vaultClient = true → VaultWiped cp w
  bucketsGone : optedIn cp annotationCleanupS3 = true → op.s3Client = true → BucketsGone cp w

theorem deleting_triple {context : String} {f : World → Except ApiError Unit × World}
    {P Q : World → Prop} {E : OpError → World → Prop}
    (hdone : ∀ w, P w → (∀ e, (f w).1 = .error e → isNotFound e = true) → Q (f w).2)
    (hfail : ∀ w, P w → E ⟨context, .failed⟩ (f w).2)
    (hlost : ∀ w, P w → E ⟨context, .failed⟩ w) :
    Prog.Triple P (deleting context f) (fun _ => Q) E := by
  refine Prog.Triple.ignoring
    (E := fun e w => (isNotFound e = true → Q w) ∧ (isNotFound e = false → E ⟨context, e⟩ w))
    (Prog.Triple.request ?_ ?_ ?_ ?_) (fun e w hnf h => h.1 hnf) fun e w hnf h => h.2 hnf
  · intro w a hP hok
    refine hdone w hP fun e he => ?_
    rw [hok] at he
    cases he
  · intro w e hP he
    refine ⟨fun hnf => hdone w hP fun e' he' => ?_, fun hnf => ?_⟩
    · rw [he] at he'
      cases he'
      exact hnf
    · cases e with
      | notFound => cases hnf
      | failed => exact hfail w hP
  · exact fun w hP => ⟨fun hnf => absurd hnf (by decide), fun _ => hlost w hP⟩
  · exact fun w hP => ⟨fun hnf => absurd hnf (by decide), fun _ => hfail w hP⟩

theorem wrapping_triple {context : String} {x : Prog World OpError Unit} {P Q E : World → Prop}
    (h : Prog.Triple P x (fun _ => Q) fun _ => E) :
    Prog.Triple P (wrapping context x) (fun _ => Q) fun _ => E :=
  Prog.Triple.ignoring h (fun _ _ hp _ => by cases hp) fun _ _ _ hE => hE

theorem deleteNamespace_going {cp : ControlPlane} (w : World) :
    NamespaceGoing cp (deleteNamespace (controlPlaneNamespace cp) w).2 := by
  unfold deleteNamespace
  rcases hget : w.objects.get? (.namespace, "", controlPlaneNamespace cp) with _ | o
  · intro a ha hkey
    rw [Store.get?_eq_some_iff.mpr ⟨ha, hkey⟩] at hget
    cases hget
  · intro a ha hkey
    obtain ⟨-, ho⟩ := Store.get?_eq_some_iff.mp hget
    rcases Store.mem_apply.mp ha with rfl | ⟨-, hne⟩
    · rfl
    · exact absurd (hkey.trans ho.symm) hne

theorem deleteClusterObject_gone (kind : KubeKind) (cp : ControlPlane) (w : World) :
    RoleGone kind cp (deleteClusterObject kind (networkProbeRoleName cp) w).2 := by
  unfold deleteClusterObject RoleGone
  split_ifs with h
  · rw [Bool.eq_false_iff]
    intro hhas
    obtain ⟨o, ho, hk⟩ := Store.has_iff.mp hhas
    exact (Store.mem_delete.mp ho).2 hk
  · simpa using h

theorem mem_deleteClusterObject {kind : KubeKind} {name : String} {w : World} {o : KubeObject} :
    o ∈ (deleteClusterObject kind name w).2.objects ↔ o ∈ w.objects ∧ o.key ≠ (kind, "", name) := by
  unfold deleteClusterObject
  split_ifs with h
  · exact Store.mem_delete
  · constructor
    · intro ho
      exact ⟨ho, fun hk => h (Store.has_iff.mpr ⟨o, ho, hk⟩)⟩
    · exact fun ho => ho.1

theorem RoleGone.deleteClusterObject {kind : KubeKind} {cp : ControlPlane} {w : World}
    (h : RoleGone kind cp w) (kind' : KubeKind) (name : String) :
    RoleGone kind cp (deleteClusterObject kind' name w).2 := by
  unfold RoleGone at h ⊢
  rw [Bool.eq_false_iff] at h ⊢
  intro hhas
  obtain ⟨o, ho, hk⟩ := Store.has_iff.mp hhas
  exact h (Store.has_iff.mpr ⟨o, (mem_deleteClusterObject.mp ho).1, hk⟩)

theorem NamespaceGoing.deleteClusterObject {cp : ControlPlane} {w : World}
    (h : NamespaceGoing cp w) (kind : KubeKind) (name : String) :
    NamespaceGoing cp (deleteClusterObject kind name w).2 :=
  fun o ho => h o (mem_deleteClusterObject.mp ho).1

theorem deleteNamespace_frame (name : String) (w : World) :
    (deleteNamespace name w).2.controlPlanes = w.controlPlanes ∧
      (deleteNamespace name w).2.events = w.events ∧
      (deleteNamespace name w).2.vault = w.vault ∧ (deleteNamespace name w).2.s3 = w.s3 ∧
      (deleteNamespace name w).2.statusLog = w.statusLog := by
  unfold deleteNamespace
  rcases w.objects.get? (.namespace, "", name) with _ | o <;> exact ⟨rfl, rfl, rfl, rfl, rfl⟩

theorem deleteClusterObject_frame (kind : KubeKind) (name : String) (w : World) :
    (deleteClusterObject kind name w).2.controlPlanes = w.controlPlanes ∧
      (deleteClusterObject kind name w).2.events = w.events ∧
      (deleteClusterObject kind name w).2.vault = w.vault ∧
      (deleteClusterObject kind name w).2.s3 = w.s3 ∧
      (deleteClusterObject kind name w).2.statusLog = w.statusLog := by
  unfold deleteClusterObject
  split_ifs <;> exact ⟨rfl, rfl, rfl, rfl, rfl⟩

theorem vaultPrefix_eq (cp : ControlPlane) :
    vaultPrefix cp = "openchami" ++ ("/" ++ (cp.spec.clusterName ++ "/")) := by
  unfold vaultPrefix
  rw [show ("openchami/" : String) = "openchami" ++ "/" from rfl]
  simp only [String.append_assoc]

/-! ### The steps -/

section Steps
variable {op : Operator} {cp : ControlPlane} {R : World → Prop} {cps : ControlPlanes}

/-- The Vault step: what else is known and does not look at Vault stays. -/
theorem cleanupVault_triple (hR : ∀ kv w, R w → R { w with vault := kv }) :
    Prog.Triple R (cleanupVault op cp)
      (fun _ w => R w ∧
        (optedIn cp annotationCleanupVault = true → op.vaultClient = true → VaultWiped cp w))
      fun _ w => R w := by
  unfold cleanupVault
  split_ifs with h
  · refine wrapping_triple ?_
    rw [vaultPrefix_eq]
    have hmount : '/' ∉ ("openchami" : String).toList := by decide
    have hvault : Prog.Triple (fun _ => True)
        (Vault.deleteClusterPaths ("openchami" ++ ("/" ++ (cp.spec.clusterName ++ "/"))))
        (fun _ kv => ∀ s ∈ kv.secrets, ¬ s.Under "openchami" (cp.spec.clusterName ++ "/"))
        fun _ _ => True :=
      Prog.Triple.ofStates fun kv₀ _ => (Vault.deleteClusterPaths_triple hmount _ kv₀).conseq
        (fun _ h => h) (fun _ _ h => h.2) fun _ _ _ => trivial
    refine (hvault.zoom (fun _ _ => rfl) hR).conseq (fun w hw => ⟨trivial, hw⟩) ?_
      fun _ w h => h.2
    exact fun _ w h => ⟨h.2, fun _ _ => h.1⟩
  · refine Prog.Triple.pure fun w hw => ⟨hw, fun ho hc => ?_⟩
    exact absurd (by rw [ho, hc]; rfl) h

/-- One bucket: it is gone, and a bucket that was gone stays gone. -/
theorem deleteBucket_gone (hR : ∀ bs w, R w → R { w with s3 := bs }) (context bucket : String)
    (gone : List String) :
    Prog.Triple (fun w => R w ∧ ∀ b ∈ gone, w.s3.has b = false)
      (wrapping context (onS3 (S3.deleteBucket bucket)))
      (fun _ w => R w ∧ ∀ b ∈ bucket :: gone, w.s3.has b = false) fun _ w => R w := by
  refine wrapping_triple ?_
  have hbucket : Prog.Triple (fun bs : S3.Buckets => ∀ b ∈ gone, bs.has b = false)
      (S3.deleteBucket bucket) (fun _ bs => ∀ b ∈ bucket :: gone, bs.has b = false)
      fun _ _ => True := by
    refine Prog.Triple.ofStates fun bs₀ hgone => (S3.deleteBucket_triple bucket bs₀).conseq
      (fun _ h => h) (fun _ bs h => ?_) fun _ _ _ => trivial
    intro b hb
    by_cases hbb : b = bucket
    · rw [hbb]
      exact h.2
    · have hmem : b ∈ gone := by simpa [hbb] using hb
      have h0 := hgone b hmem
      rw [Bool.eq_false_iff] at h0 ⊢
      intro hhas
      obtain ⟨a, ha, rfl⟩ := Store.has_iff.mp hhas
      exact h0 (Store.has_iff.mpr ⟨a, (h.1 a hbb).mp ha, rfl⟩)
  exact (hbucket.zoom (fun _ _ => rfl) hR).conseq (fun w h => ⟨h.2, h.1⟩)
    (fun _ w h => ⟨h.2, h.1⟩) fun _ w h => h.2

theorem cleanupS3_triple (hR : ∀ bs w, R w → R { w with s3 := bs }) :
    Prog.Triple R (cleanupS3 op cp)
      (fun _ w => R w ∧
        (optedIn cp annotationCleanupS3 = true → op.s3Client = true → BucketsGone cp w))
      fun _ w => R w := by
  unfold cleanupS3
  split_ifs with h
  · refine Prog.Triple.bind (R := fun _ w => R w ∧ ∀ b ∈ [bootBucketName cp], w.s3.has b = false)
      ?_ fun _ => ?_
    · exact (deleteBucket_gone hR "deleting s3 bucket" (bootBucketName cp) []).conseq
        (fun w hw => ⟨hw, by simp⟩) (fun _ _ h => h) fun _ _ h => h
    · refine (deleteBucket_gone hR "deleting log s3 bucket" (logBucketName cp)
        [bootBucketName cp]).conseq (fun _ h => h) (fun _ w h => ⟨h.1, fun _ _ => ?_⟩)
        fun _ _ h => h
      exact ⟨h.2 _ (by simp), h.2 _ (by simp)⟩
  · refine Prog.Triple.pure fun w hw => ⟨hw, fun ho hc => ?_⟩
    exact absurd (by rw [ho, hc]; rfl) h

end Steps

theorem patchFinalizers_frame (k : String × String) (fs : List String) (w : World) :
    (patchFinalizers k fs w).2.objects = w.objects ∧
      (patchFinalizers k fs w).2.events = w.events ∧
      (patchFinalizers k fs w).2.vault = w.vault ∧ (patchFinalizers k fs w).2.s3 = w.s3 ∧
      (patchFinalizers k fs w).2.statusLog = w.statusLog := by
  unfold patchFinalizers
  rcases w.controlPlanes.get? k with _ | cp
  · exact ⟨rfl, rfl, rfl, rfl, rfl⟩
  · simp only
    split_ifs <;> exact ⟨rfl, rfl, rfl, rfl, rfl⟩

theorem Cleaned.patchFinalizers {op : Operator} {cp : ControlPlane} {w : World}
    (h : Cleaned op cp w) (k : String × String) (fs : List String) :
    Cleaned op cp (patchFinalizers k fs w).2 := by
  obtain ⟨hobj, -, hvault, hs3, -⟩ := patchFinalizers_frame k fs w
  constructor
  · unfold NamespaceGoing; rw [hobj]; exact h.namespaceGoing
  · unfold RoleGone; rw [hobj]; exact h.bindingGone
  · unfold RoleGone; rw [hobj]; exact h.roleGone
  · unfold VaultWiped; rw [hvault]; exact h.vaultWiped
  · unfold BucketsGone; rw [hs3]; exact h.bucketsGone

/-- Before the roles are deleted: the namespace and the external stores are dealt with, and the
control planes are still those of the start. -/
structure Wiped (op : Operator) (cp : ControlPlane) (cps : ControlPlanes) (w : World) : Prop where
  controlPlanes : w.controlPlanes = cps
  namespaceGoing : NamespaceGoing cp w
  vaultWiped : optedIn cp annotationCleanupVault = true → op.vaultClient = true → VaultWiped cp w
  bucketsGone : optedIn cp annotationCleanupS3 = true → op.s3Client = true → BucketsGone cp w

theorem Wiped.deleteClusterObject {op : Operator} {cp : ControlPlane} {cps : ControlPlanes}
    {w : World} (h : Wiped op cp cps w) (kind : KubeKind) (name : String) :
    Wiped op cp cps (deleteClusterObject kind name w).2 := by
  obtain ⟨hcps, -, hvault, hs3, -⟩ := deleteClusterObject_frame kind name w
  constructor
  · exact hcps.trans h.controlPlanes
  · exact h.namespaceGoing.deleteClusterObject kind name
  · unfold VaultWiped; rw [hvault]; exact h.vaultWiped
  · unfold BucketsGone; rw [hs3]; exact h.bucketsGone

theorem get?_patchFinalizers {k j : String × String} {fs : List String} {w : World}
    {cp : ControlPlane} (h : (patchFinalizers k fs w).2.controlPlanes.get? j = some cp) :
    ∃ stored fs', w.controlPlanes.get? j = some stored ∧
      cp = { stored with metadata := { stored.metadata with finalizers := fs' } } := by
  unfold patchFinalizers at h
  rcases hget : w.controlPlanes.get? k with _ | stored
  · rw [hget] at h
    exact ⟨cp, cp.metadata.finalizers, h, rfl⟩
  · rw [hget] at h
    simp only at h
    obtain ⟨-, hkey⟩ := Store.get?_eq_some_iff.mp hget
    split_ifs at h
    · rw [Store.get?_delete] at h
      split_ifs at h
      exact ⟨cp, cp.metadata.finalizers, h, rfl⟩
    · rw [Store.get?_apply] at h
      split_ifs at h with hj
      · have hkj : k = j := by rw [← hkey]; exact hj
        cases h
        exact ⟨stored, fs, hkj ▸ hget, rfl⟩
      · exact ⟨cp, cp.metadata.finalizers, h, rfl⟩

/-- **One call.** If the finalizer is there, a call that returns without an error has cleaned up;
one that returns with an error has cleaned up or not touched the control planes. -/
theorem reconcileDelete_triple {op : Operator} {cp : ControlPlane} (cps : ControlPlanes)
    (hfin : clusterFinalizer ∈ cp.metadata.finalizers) :
    Prog.Triple (fun w => w.controlPlanes = cps) (reconcileDelete op cp)
      (fun _ w => Cleaned op cp w) fun _ w => w.controlPlanes = cps ∨ Cleaned op cp w := by
  unfold reconcileDelete
  rw [if_neg (not_not.mpr hfin)]
  refine Prog.Triple.bind (R := fun _ w => w.controlPlanes = cps ∧ NamespaceGoing cp w) ?_ fun _ => ?_
  · refine deleting_triple (fun w hw _ => ⟨?_, deleteNamespace_going w⟩) (fun w hw => ?_)
      fun w hw => Or.inl hw
    · exact (deleteNamespace_frame _ w).1.trans hw
    · exact Or.inl ((deleteNamespace_frame _ w).1.trans hw)
  refine Prog.Triple.bind ((cleanupVault_triple (R := fun w => w.controlPlanes = cps ∧
    NamespaceGoing cp w) fun _ _ h => h).conseq (fun _ h => h) (fun _ _ h => h)
      fun _ _ h => Or.inl h.1) fun _ => ?_
  refine Prog.Triple.bind ((cleanupS3_triple (R := fun w => (w.controlPlanes = cps ∧
    NamespaceGoing cp w) ∧ (optedIn cp annotationCleanupVault = true → op.vaultClient = true →
      VaultWiped cp w)) fun _ _ h => h).conseq (fun _ h => h)
      (fun _ w h => (⟨h.1.1.1, h.1.1.2, h.1.2, h.2⟩ : Wiped op cp cps w))
      fun _ _ h => Or.inl h.1.1) fun _ => ?_
  refine Prog.Triple.bind (R := fun _ w => Wiped op cp cps w ∧ RoleGone .clusterRoleBinding cp w)
    ?_ fun _ => ?_
  · refine deleting_triple (fun w hw _ => ?_) (fun w hw => ?_) fun w hw => Or.inl hw.controlPlanes
    · exact ⟨hw.deleteClusterObject _ _, deleteClusterObject_gone _ cp w⟩
    · exact Or.inl (hw.deleteClusterObject _ _).controlPlanes
  refine Prog.Triple.bind (R := fun _ w => w.controlPlanes = cps ∧ Cleaned op cp w) ?_ fun _ => ?_
  · refine deleting_triple (fun w hw _ => ?_) (fun w hw => ?_) fun w hw => Or.inl hw.1.controlPlanes
    · have hnext := hw.1.deleteClusterObject .clusterRole (networkProbeRoleName cp)
      exact ⟨hnext.controlPlanes, hnext.namespaceGoing, hw.2.deleteClusterObject _ _,
        deleteClusterObject_gone _ cp w, hnext.vaultWiped, hnext.bucketsGone⟩
    · exact Or.inl (hw.1.deleteClusterObject _ _).controlPlanes
  · -- a patch that is answered late has still taken the finalizer off, after the clean-up
    refine Prog.Triple.ignoring (E := fun _ w => w.controlPlanes = cps ∨ Cleaned op cp w)
      (Prog.Triple.request ?_ ?_ ?_ ?_) (fun _ _ hp _ => by cases hp) fun _ _ _ h => h
    · exact fun w _ hw _ => hw.2.patchFinalizers _ _
    · exact fun w _ hw _ => Or.inr (hw.2.patchFinalizers _ _)
    · exact fun w hw => Or.inl hw.1
    · exact fun w hw => Or.inr (hw.2.patchFinalizers _ _)

/-! ### What a call keeps -/

theorem deleting_keeps {context : String} {f : World → Except ApiError Unit × World}
    {I : World → Prop} (h : ∀ w, I w → I (f w).2) : Prog.Keeps I (deleting context f) :=
  Prog.Keeps.ignoring (Prog.Keeps.request h)

theorem wrapping_keeps {context : String} {x : Prog World OpError Unit} {I : World → Prop}
    (h : Prog.Keeps I x) : Prog.Keeps I (wrapping context x) :=
  wrapping_triple h

theorem onVault_keeps {cp : ControlPlane} {I : World → Prop}
    (h : ∀ kv w, I w → Vault.Shrunk "openchami" (cp.spec.clusterName ++ "/") w.vault kv →
      I { w with vault := kv }) :
    Prog.Keeps I (onVault (Vault.deleteClusterPaths (vaultPrefix cp))) := by
  rw [vaultPrefix_eq]
  refine Prog.Triple.ofStates fun w₀ hw₀ => ?_
  have hmount : '/' ∉ ("openchami" : String).toList := by decide
  refine ((Vault.deleteClusterPaths_triple hmount cp.spec.clusterName w₀.vault).zoom
    (fun _ _ => rfl) (R := fun w => w = { w₀ with vault := w.vault })
    (fun kv w hw => by rw [hw])).conseq (fun w hw => by rw [hw]; exact ⟨rfl, rfl⟩)
    (fun _ w hw => ?_) fun _ w hw => ?_
  · rw [hw.2]
    exact h _ w₀ hw₀ hw.1.1
  · rw [hw.2]
    exact h _ w₀ hw₀ hw.1.1

theorem onS3_keeps {bucket : String} {I : World → Prop}
    (h : ∀ bs w, I w → S3.Others bucket w.s3 bs → I { w with s3 := bs }) :
    Prog.Keeps I (onS3 (S3.deleteBucket bucket)) := by
  refine Prog.Triple.ofStates fun w₀ hw₀ => ?_
  refine ((S3.deleteBucket_triple bucket w₀.s3).zoom (fun _ _ => rfl)
    (R := fun w => w = { w₀ with s3 := w.s3 }) (fun bs w hw => by rw [hw])).conseq
    (fun w hw => by rw [hw]; exact ⟨rfl, rfl⟩) (fun _ w hw => ?_) fun _ w hw => ?_
  · rw [hw.2]
    exact h _ w₀ hw₀ hw.1.1
  · rw [hw.2]
    exact h _ w₀ hw₀ hw.1.1

/-- A property that each of the deletions keeps, and the patch of the finalizers, is kept by the
call, wherever it stops. -/
theorem reconcileDelete_keeps {op : Operator} {cp : ControlPlane} {I : World → Prop}
    (hns : ∀ w, I w → I (deleteNamespace (controlPlaneNamespace cp) w).2)
    (hvault : ∀ kv w, I w → Vault.Shrunk "openchami" (cp.spec.clusterName ++ "/") w.vault kv →
      I { w with vault := kv })
    (hs3 : ∀ bucket, bucket = bootBucketName cp ∨ bucket = logBucketName cp → ∀ bs w, I w →
      S3.Others bucket w.s3 bs → I { w with s3 := bs })
    (hrole : ∀ kind, kind = .clusterRoleBinding ∨ kind = .clusterRole → ∀ w, I w →
      I (deleteClusterObject kind (networkProbeRoleName cp) w).2)
    (hfin : ∀ fs w, I w → I (patchFinalizers (planeKey cp) fs w).2) :
    Prog.Keeps I (reconcileDelete op cp) := by
  unfold reconcileDelete
  by_cases hfinalizer : clusterFinalizer ∉ cp.metadata.finalizers
  · rw [if_pos hfinalizer]
    exact Prog.Keeps.pure ()
  rw [if_neg hfinalizer]
  refine Prog.Keeps.bind (deleting_keeps hns) fun _ => ?_
  refine Prog.Keeps.bind ?_ fun _ => Prog.Keeps.bind ?_ fun _ => ?_
  · unfold cleanupVault
    split_ifs
    · exact wrapping_keeps (onVault_keeps hvault)
    · exact Prog.Keeps.pure ()
  · unfold cleanupS3
    split_ifs
    · exact Prog.Keeps.bind (wrapping_keeps (onS3_keeps (hs3 _ (Or.inl rfl)))) fun _ =>
        wrapping_keeps (onS3_keeps (hs3 _ (Or.inr rfl)))
    · exact Prog.Keeps.pure ()
  refine Prog.Keeps.bind (deleting_keeps (hrole _ (Or.inl rfl))) fun _ => ?_
  refine Prog.Keeps.bind (deleting_keeps (hrole _ (Or.inr rfl))) fun _ => ?_
  exact Prog.Keeps.ignoring (Prog.Keeps.request (hfin _))

/-! ### Runs -/

/-- One call: the clients the operator has at the time, and the fates of the requests it sends. -/
structure DeleteCall where
  operator : Operator
  fates : List Fate

/-- A call for the control plane at `k`, if it is still there. -/
def afterDelete (k : String × String) (w : World) (c : DeleteCall) : World :=
  match w.controlPlanes.get? k with
  | none => w
  | some cp => ((reconcileDelete c.operator cp).run ⟨w, c.fates⟩).2.state

/-- The world after a run of calls. -/
def afterDeletes (k : String × String) (w : World) (cs : List DeleteCall) : World :=
  cs.foldl (afterDelete k) w

/-- The control plane at `k` is stored as `cp` and holds the finalizer. -/
def Held (k : String × String) (cp : ControlPlane) (w : World) : Prop :=
  w.controlPlanes.get? k = some cp ∧ clusterFinalizer ∈ cp.metadata.finalizers

/-- **The finalizer protocol.** However many calls went before, with whatever clients and failures:
the call in which the control plane stops being held ends with everything cleaned up for which the
operator has the client. -/
theorem released_cleaned (k : String × String) (w : World) (before : List DeleteCall)
    (c : DeleteCall) (cp : ControlPlane) (hheld : Held k cp (afterDeletes k w before))
    (hreleased : ∀ cp', ¬ Held k cp' (afterDeletes k w (before ++ [c]))) :
    Cleaned c.operator cp (afterDeletes k w (before ++ [c])) := by
  have hlast : afterDeletes k w (before ++ [c]) = afterDelete k (afterDeletes k w before) c := by
    unfold afterDeletes
    rw [List.foldl_append]
    rfl
  rw [hlast] at hreleased ⊢
  generalize afterDeletes k w before = w₁ at hheld hreleased ⊢
  have hcall : afterDelete k w₁ c = ((reconcileDelete c.operator cp).run ⟨w₁, c.fates⟩).2.state := by
    unfold afterDelete
    rw [hheld.1]
  rw [hcall] at hreleased ⊢
  obtain ⟨hok, herr⟩ := @reconcileDelete_triple c.operator cp w₁.controlPlanes hheld.2
    ⟨w₁, c.fates⟩ rfl
  rcases hrun : (reconcileDelete c.operator cp).run ⟨w₁, c.fates⟩ with ⟨e | a, m⟩
  · rcases herr e m hrun with hcps | hclean
    · rw [hrun] at hreleased
      refine absurd ⟨?_, hheld.2⟩ (hreleased cp)
      rw [hcps]
      exact hheld.1
    · exact hclean
  · exact hok a m hrun

/-- A control plane that is to take its secrets with it. -/
def doomed : ControlPlane where
  metadata :=
    { name := "alpha"
      «namespace» := "default"
      annotations := GoMap.ofList [(annotationCleanupVault, "true")]
      finalizers := [clusterFinalizer]
      deletionTimestamp := true }
  spec := { clusterName := "alpha" }

theorem doomed_leaf : Strings.hasSuffix "alpha/db/credentials" "/" = false := by decide

/-- Its namespace, its roles, and one secret. -/
def doomedWorld : World where
  controlPlanes := Store.empty.apply doomed
  objects := Store.empty.applyAll
    [{ kind := .namespace, name := "openchami-alpha" },
     { kind := .clusterRoleBinding, name := "openchami-alpha-network-probe" },
     { kind := .clusterRole, name := "openchami-alpha-network-probe" }]
  vault := ⟨[⟨"openchami", "alpha/db/credentials", doomed_leaf⟩]⟩

theorem held_doomed : Held ("default", "alpha") doomed doomedWorld := ⟨by decide, by decide⟩

theorem not_held_of_get? {k : String × String} {w : World} (h : w.controlPlanes.get? k = none) :
    ∀ cp, ¬ Held k cp w := by
  rintro cp ⟨hget, -⟩
  rw [h] at hget
  cases hget

/-- The first call stops at the namespace, the second one cleans up and lets go. -/
theorem released_cleaned_doomed :
    Cleaned {} doomed (afterDeletes ("default", "alpha") doomedWorld
      ([⟨{}, [.late]⟩] ++ [⟨{}, []⟩])) :=
  released_cleaned ("default", "alpha") doomedWorld [⟨{}, [.late]⟩] ⟨{}, []⟩ doomed
    ⟨by decide, by decide⟩ (not_held_of_get? (by decide))

/-- An operator started without Vault lets go of the control plane and leaves the secret. -/
theorem released_without_vault :
    Held ("default", "alpha") doomed doomedWorld ∧
      optedIn doomed annotationCleanupVault = true ∧
      (∀ cp, ¬ Held ("default", "alpha") cp
        (afterDeletes ("default", "alpha") doomedWorld [⟨{ vaultClient := false }, []⟩])) ∧
      ¬ VaultWiped doomed
        (afterDeletes ("default", "alpha") doomedWorld [⟨{ vaultClient := false }, []⟩]) := by
  refine ⟨held_doomed, by decide, not_held_of_get? (by decide), fun h => ?_⟩
  exact h ⟨"openchami", "alpha/db/credentials", by decide⟩ (by decide) ⟨by decide, by decide⟩

end OpenchamiOperator.Controller
