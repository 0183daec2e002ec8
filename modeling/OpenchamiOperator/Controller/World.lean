import OpenchamiOperator.S3.Client
import OpenchamiOperator.Vault.Client

/-! # The world of the controller

What the calls of the controller read and change: the control planes, the other Kubernetes objects,
the events, and the two external stores. Every request is one function on the world. -/

namespace OpenchamiOperator.Controller

open Lib Api Reconcilers

/-! ### The Kubernetes API -/

inductive KubeKind where
  | namespace
  | clusterRole
  | clusterRoleBinding
  | other (kind : String)
deriving DecidableEq

/-- A Kubernetes object other than a control plane, by its kind and name: what is in it is not kept.
`terminating` is a deletion that has been accepted but is not finished. -/
structure KubeObject where
  kind : KubeKind
  «namespace» : String := ""
  name : String
  terminating : Bool := false
deriving DecidableEq

def KubeObject.key (o : KubeObject) : KubeKind × String × String := (o.kind, o.namespace, o.name)

abbrev KubeObjects := Store KubeObject.key

/-- The state the calls work on. Two fields are histories: `statusLog` has the control planes as the
status patches persisted them, the latest first, and `kvWrites` the secrets written to Vault, the
identifier of the control plane with the path, the earliest first. -/
structure World where
  controlPlanes : ControlPlanes := Store.empty
  objects : KubeObjects := Store.empty
  events : List ((String × String) × Event) := []
  vault : Vault.Kv := ⟨[]⟩
  s3 : S3.Buckets := Store.empty
  statusLog : List ControlPlane := []
  kvWrites : List (String × String) := []

/-- How the operator was started: a client is there unless its configuration was missing. -/
structure Operator where
  vaultClient : Bool := true
  s3Client : Bool := true
  dryRun : Bool := false
  reporter : Bool := true
  version : String := "dev"
deriving DecidableEq

/-! ### Requests -/

/-- Deleting a namespace: it stays, terminating, until its content is gone. -/
def deleteNamespace (name : String) (w : World) : Except ApiError Unit × World :=
  match w.objects.get? (.namespace, "", name) with
  | none => (.error .notFound, w)
  | some o => (.ok (), { w with objects := w.objects.apply { o with terminating := true } })

/-- Deleting an object that nothing holds back. -/
def deleteClusterObject (kind : KubeKind) (name : String) (w : World) :
    Except ApiError Unit × World :=
  if w.objects.has (kind, "", name) then
    (.ok (), { w with objects := w.objects.delete (kind, "", name) })
  else (.error .notFound, w)

theorem get?_deleteNamespace {name : String} {w : World} {k : KubeKind × String × String}
    (hk : k ≠ (.namespace, "", name)) :
    (deleteNamespace name w).2.objects.get? k = w.objects.get? k := by
  unfold deleteNamespace
  rcases hget : w.objects.get? (.namespace, "", name) with _ | o
  · rfl
  · obtain ⟨-, hkey⟩ := Store.get?_eq_some_iff.mp hget
    simp only [Store.get?_apply]
    exact if_neg fun h => hk (h.symm.trans hkey)

theorem get?_deleteClusterObject {kind : KubeKind} {name : String} {w : World}
    {k : KubeKind × String × String} (hk : k ≠ (kind, "", name)) :
    (deleteClusterObject kind name w).2.objects.get? k = w.objects.get? k := by
  unfold deleteClusterObject
  split_ifs
  · simp only [Store.get?_delete]
    exact if_neg fun h => hk h.symm
  · rfl

/-- The merge patch of the finalizers of a control plane. An object that is being deleted goes when
its last finalizer does. -/
def patchFinalizers (k : String × String) (finalizers : List String) (w : World) :
    Except ApiError Unit × World :=
  match w.controlPlanes.get? k with
  | none => (.error .notFound, w)
  | some cp =>
    if cp.metadata.deletionTimestamp = true ∧ finalizers = [] then
      (.ok (), { w with controlPlanes := w.controlPlanes.delete k })
    else
      let patched := { cp with metadata := { cp.metadata with finalizers := finalizers } }
      (.ok (), { w with controlPlanes := w.controlPlanes.apply patched })

def onVault {α : Type} (x : Prog Vault.Kv OpError α) : Prog World OpError α :=
  x.zoom World.vault fun kv w => { w with vault := kv }

def onS3 {α : Type} (x : Prog S3.Buckets OpError α) : Prog World OpError α :=
  x.zoom World.s3 fun bs w => { w with s3 := bs }

/-- Pass on an error of `x` under a further context. -/
def wrapping (context : String) (x : Prog World OpError Unit) : Prog World OpError Unit :=
  Prog.ignoring (fun _ => false) (fun e => ⟨context ++ ": " ++ e.context, e.cause⟩) x

end OpenchamiOperator.Controller
