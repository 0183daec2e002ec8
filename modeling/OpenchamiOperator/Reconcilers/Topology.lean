import Mathlib.Data.Set.Function
import OpenchamiOperator.Lib.JsonText
import OpenchamiOperator.Reconcilers.Edge

/-! # The version of the topology document

`topology_schema.go` and `computeTopologyHash` of `topology.go`. The document carries its version and
the time of its writing; both are emptied before it is hashed.

* `document`: the document as JSON, with the fields that are left out when empty.
* `computeTopologyHash_eq_iff`: two documents have one version if they agree in all other fields. -/

namespace OpenchamiOperator.Reconcilers

open Lib Strconv Api

/-- `TopologySpec` with all its fields. -/
structure TopologyDocument extends TopologySpec where
  version : String
  generatedAt : String

/-! ### The schema -/

namespace Topology

def serviceEntry : Codec TopologyServiceEntry :=
  .struct ⟨"", "", false, "", "", ""⟩
    [.required "endpoint" (·.endpoint) (fun v s => { s with endpoint := v }) .string,
     .optional "externalPath" (·.externalPath) (fun v s => { s with externalPath := v }) .string none,
     .required "ready" (·.ready) (fun v s => { s with ready := v }) .bool,
     .optional "jwksURL" (·.jwksURL) (fun v s => { s with jwksURL := v }) .string none,
     .optional "s3Endpoint" (·.s3Endpoint) (fun v s => { s with s3Endpoint := v }) .string none,
     .optional "s3Bucket" (·.s3Bucket) (fun v s => { s with s3Bucket := v }) .string none]
    (by decide) fun s => by cases s; rfl

/-- The entry of one service. -/
def serviceMember (name : String) (svc : Service) : Member (Service → TopologyServiceEntry) :=
  .required name (· svc) (fun v f => Function.update f svc v) serviceEntry

def services : Codec (Service → TopologyServiceEntry) :=
  .struct (fun _ => ⟨"", "", false, "", "", ""⟩)
    [serviceMember "smd" .smd, serviceMember "tokensmith" .tokensmith,
     serviceMember "bootService" .bootService, serviceMember "metadataService" .metadataService]
    (by decide) fun s => by funext svc; cases svc <;> rfl

def vault : Codec (String × String × String) :=
  .struct ("", "", "")
    [.required "address" (·.1) (fun v s => (v, s.2)) .string,
     .required "kvMount" (·.2.1) (fun v s => (s.1, v, s.2.2)) .string,
     .required "pathPrefix" (·.2.2) (fun v s => (s.1, s.2.1, v)) .string]
    (by decide) fun _ => rfl

def objectStorage : Codec (String × String) :=
  .struct ("", "")
    [.required "endpoint" (·.1) (fun v s => (v, s.2)) .string,
     .required "bucket" (·.2) (fun v s => (s.1, v)) .string]
    (by decide) fun _ => rfl

def logging : Codec (String × String × String) :=
  .struct ("", "", "")
    [.required "endpoint" (·.1) (fun v s => (v, s.2)) .string,
     .required "bucket" (·.2.1) (fun v s => (s.1, v, s.2.2)) .string,
     .required "parquetPrefix" (·.2.2) (fun v s => (s.1, s.2.1, v)) .string]
    (by decide) fun _ => rfl

def platform : Codec ((String × String × String) × (String × String) × String × String × String) :=
  .struct (("", "", ""), ("", ""), "", "", "")
    [.required "vault" (·.1) (fun v s => (v, s.2)) vault,
     .required "objectStorage" (·.2.1) (fun v s => (s.1, v, s.2.2)) objectStorage,
     .required "logging" (·.2.2) (fun v s => (s.1, s.2.1, v)) logging]
    (by decide) fun _ => rfl

def database : Codec (String × String) :=
  .struct ("", "")
    [.required "readWriteEndpoint" (·.1) (fun v s => (v, s.2)) .string,
     .required "readOnlyEndpoint" (·.2) (fun v s => (s.1, v)) .string]
    (by decide) fun _ => rfl

def document : Codec TopologyDocument :=
  .struct ⟨⟨"", "", services.zero, vault.zero, objectStorage.zero, logging.zero, database.zero⟩, "", ""⟩
    [.required "clusterName" (·.clusterName) (fun v s => { s with clusterName := v }) .string,
     .required "version" (·.version) (fun v s => { s with version := v }) .string,
     .required "generatedAt" (·.generatedAt) (fun v s => { s with generatedAt := v }) .string,
     .required "domain" (·.domain) (fun v s => { s with domain := v }) .string,
     .required "services" (·.services) (fun v s => { s with services := v }) services,
     .required "platform" (fun s => (s.vault, s.objectStorage, s.logging))
       (fun v s => { s with vault := v.1, objectStorage := v.2.1, logging := v.2.2 }) platform,
     .required "database" (·.database) (fun v s => { s with database := v }) database]
    (by decide) fun s => by cases s; rfl

end Topology

/-! ### The hash -/

/-- The document without its version and time. -/
def TopologyDocument.stripped (d : TopologyDocument) : TopologyDocument :=
  { d with version := "", generatedAt := "" }

/-- What is hashed. -/
def TopologyDocument.body (d : TopologyDocument) : String :=
  (Topology.document.encode d.stripped).text

/-- `hex.EncodeToString` of a sum. -/
def hexSum (sum : BitVec 256) : String := String.ofList (hexDigits 64 sum.toNat)

/-- `computeTopologyHash`. A document of texts and flags can always be encoded. -/
def computeTopologyHash (sha256 : String → BitVec 256) (d : TopologyDocument) : String :=
  hexSum (sha256 d.body)

theorem hexSum_injective : Function.Injective hexSum := by
  intro a b h
  have hlt : ∀ c : BitVec 256, c.toNat < 16 ^ 64 := fun c => lt_of_lt_of_le c.isLt (by decide)
  exact BitVec.eq_of_toNat_eq (hexDigits_inj (hlt a) (hlt b) (String.ofList_injective h))

theorem stripped_eq_iff {a b : TopologyDocument} :
    a.stripped = b.stripped ↔ a.toTopologySpec = b.toTopologySpec := by
  constructor
  · intro h
    show a.stripped.toTopologySpec = b.stripped.toTopologySpec
    rw [h]
  · intro h
    cases a
    cases b
    simpa [TopologyDocument.stripped] using h

theorem body_eq_iff {a b : TopologyDocument} :
    a.body = b.body ↔ a.toTopologySpec = b.toTopologySpec := by
  unfold TopologyDocument.body
  rw [text_injective.eq_iff, Topology.document.encode_injective.eq_iff, stripped_eq_iff]

theorem computeTopologyHash_eq_iff_body {sha256 : String → BitVec 256} {a b : TopologyDocument}
    (hinj : Set.InjOn sha256 {a.body, b.body}) :
    computeTopologyHash sha256 a = computeTopologyHash sha256 b ↔ a.body = b.body := by
  unfold computeTopologyHash
  rw [hexSum_injective.eq_iff]
  exact hinj.eq_iff (Set.mem_insert _ _) (Set.mem_insert_of_mem _ rfl)

/-- **The version identifies the content**: two documents whose texts do not collide have the same
hash exactly when they agree in all fields but the version and the time. -/
theorem computeTopologyHash_eq_iff (sha256 : String → BitVec 256) (a b : TopologyDocument)
    (hinj : Set.InjOn sha256 {a.body, b.body}) :
    computeTopologyHash sha256 a = computeTopologyHash sha256 b ↔
      a.toTopologySpec = b.toTopologySpec := by
  rw [computeTopologyHash_eq_iff_body hinj, body_eq_iff]

/-- A document in which only the name of the cluster is filled in. -/
def namedDocument (clusterName version generatedAt : String) : TopologyDocument :=
  { Topology.document.zero with
    clusterName := clusterName, version := version, generatedAt := generatedAt }

/-- A second writing of one document, and a document of another cluster. -/
theorem computeTopologyHash_eq_named : ∃ sha256 : String → BitVec 256,
    computeTopologyHash sha256 (namedDocument "alpha" "sha256:0" "2026-01-01T00:00:00Z") =
      computeTopologyHash sha256 (namedDocument "alpha" "" "") ∧
    computeTopologyHash sha256 (namedDocument "alpha" "sha256:0" "2026-01-01T00:00:00Z") ≠
      computeTopologyHash sha256 (namedDocument "beta" "" "") := by
  have hinj : ∀ x y : String, Set.InjOn (fun t => if t = x then 0#256 else 1#256) {x, y} := by
    intro x y s hs t ht h
    simp only [Set.mem_insert_iff, Set.mem_singleton_iff] at hs ht
    rcases hs with rfl | rfl <;> rcases ht with rfl | rfl <;> simp_all
  refine ⟨_, (computeTopologyHash_eq_iff _ _ _ (hinj _ _)).mpr rfl, fun h => ?_⟩
  have hsame := (computeTopologyHash_eq_iff _ _ _ (hinj _ _)).mp h
  exact absurd (congrArg TopologySpec.clusterName hsame) (by decide)

/-! ### The published version -/

/-- The hash that a pass computes for a document without version and time. -/
def topologyHashOf (sha256 : String → BitVec 256) (spec : TopologySpec) : String :=
  computeTopologyHash sha256 ⟨spec, "", ""⟩

/-- Two passes publish one version exactly for the same content. -/
theorem reconcileTopology_version_eq_iff {sha256 : String → BitVec 256} {obs obs' : Observed}
    (hobs : obs.topologyHash = topologyHashOf sha256)
    (hobs' : obs'.topologyHash = topologyHashOf sha256) {cp cp' : ControlPlane}
    (hinj : Set.InjOn sha256 {TopologyDocument.body ⟨buildTopology cp, "", ""⟩,
      TopologyDocument.body ⟨buildTopology cp', "", ""⟩}) {v v' : String}
    (hv : .write (.field .topologyVersion v) ∈ (reconcileTopology obs cp).acts)
    (hv' : .write (.field .topologyVersion v') ∈ (reconcileTopology obs' cp').acts) :
    v = v' ↔ buildTopology cp = buildTopology cp' := by
  have hwritten : ∀ {o : Observed} {c : ControlPlane} {w : String},
      .write (.field .topologyVersion w) ∈ (reconcileTopology o c).acts →
        w = "sha256:" ++ o.topologyHash (buildTopology c) := by
    intro o c w hw
    simpa [reconcileTopology] using hw
  rw [hwritten hv, hwritten hv', hobs, hobs', String.append_right_inj]
  exact (computeTopologyHash_eq_iff_body hinj).trans body_eq_iff

end OpenchamiOperator.Reconcilers
