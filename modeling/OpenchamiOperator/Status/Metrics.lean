import OpenchamiOperator.Lib.Rfc3339
import OpenchamiOperator.Status.Reporter

/-! # The metrics of the operator

`internal/status/metrics.go`: gauges that `UpdateMetrics` sets for a cluster after a pass. A gauge
with labels is one series for each choice of its labels; a series is there once it has been set, and
nothing removes it. Every value is a whole number that a `float64` holds exactly.

* `get_updateMetrics`, `get_updateMetrics_of_ne`: what an update sets, and what it leaves.
* `get_run`: after any updates of any clusters, the series of a cluster are those of its last
  update. -/

namespace OpenchamiOperator.Status

open Lib Api Reconcilers

/-! ### Series -/

/-- The series of the gauges, by their labels. -/
inductive Series where
  | clusterReady (cluster : String)
  | clusterPhase (cluster : String) (phase : ClusterPhase)
  | clusterServiceReady (cluster service : String)
  | clusterVaultReachable (cluster : String)
  | clusterCertExpirySeconds (cluster : String)
  | clusterDHCPNodes (cluster : String)
  | clusterProbeNodesProvision (cluster : String)
  | clusterProbeNodesBMC (cluster : String)
deriving DecidableEq

/-- The label `cluster`. -/
def Series.cluster : Series → String
  | .clusterReady c | .clusterPhase c _ | .clusterServiceReady c _ | .clusterVaultReachable c
  | .clusterCertExpirySeconds c | .clusterDHCPNodes c | .clusterProbeNodesProvision c
  | .clusterProbeNodesBMC c => c

/-- The registry: the value of each series that is there. -/
abbrev Registry := Series → Option ℤ

/-- `WithLabelValues(…).Set(v)`. -/
def Registry.set (r : Registry) (x : Series × ℤ) : Registry := Function.update r x.1 (some x.2)

/-- `allPhases`. -/
def allPhases : List ClusterPhase := [.provisioning, .ready, .degraded, .deleting, .failed]

/-- A gauge that is one or zero. -/
def flag (b : Bool) : ℤ := if b then 1 else 0

/-- The value of `openchami_cluster_cert_expiry_seconds`. -/
def certExpiry (cp : ControlPlane) : ℤ :=
  if cp.status.certExpiryTime = "" then 0
  else match Rfc3339.parse cp.status.certExpiryTime with
    | some t => t / Rfc3339.second
    | none => 0

/-- The numbers of nodes that pass the probes. -/
def probeNodes (cp : ControlPlane) : ℕ × ℕ :=
  match cp.status.networkProbe with
  | some st => (st.nodesWithProvisionAccess.length, st.nodesWithBMCAccess.length)
  | none => (0, 0)

/-- What `UpdateMetrics` sets, in its order. Go goes through the services in any order; each has its
own series. -/
def samples (cp : ControlPlane) : List (Series × ℤ) :=
  let name := cp.spec.clusterName
  [(.clusterReady name, flag (cp.status.phase = .ready))] ++
  (allPhases.map fun p => (.clusterPhase name p, flag (cp.status.phase = p))) ++
  (cp.status.services.entries.map fun e => (.clusterServiceReady name e.1, flag e.2.ready)) ++
  [(.clusterVaultReachable name, flag (isStatusConditionTrue cp.status.conditions .vaultConfigured)),
   (.clusterCertExpirySeconds name, certExpiry cp),
   (.clusterDHCPNodes name, (probeNodes cp).1),
   (.clusterProbeNodesProvision name, (probeNodes cp).1),
   (.clusterProbeNodesBMC name, (probeNodes cp).2)]

/-- `UpdateMetrics`. -/
def updateMetrics (r : Registry) (cp : ControlPlane) : Registry := (samples cp).foldl Registry.set r

/-! ### One update -/

theorem get_foldl_set_of_notMem {s : Series} {xs : List (Series × ℤ)} {r : Registry}
    (h : ∀ x ∈ xs, x.1 ≠ s) : xs.foldl Registry.set r s = r s :=
  List.foldlRecOn (motive := fun t : Registry => t s = r s) xs _ rfl fun _ ht x hx =>
    (Function.update_of_ne (Ne.symm (h x hx)) _ _).trans ht

theorem get_foldl_set_of_mem {s : Series} {v : ℤ} : ∀ {xs : List (Series × ℤ)} {r : Registry},
    (xs.map Prod.fst).Nodup → (s, v) ∈ xs → xs.foldl Registry.set r s = some v
  | [], _, _, h => by cases h
  | x :: xs, r, hnodup, h => by
    obtain ⟨hx, hxs⟩ := List.nodup_cons.mp hnodup
    rw [List.foldl_cons]
    rcases List.mem_cons.mp h with rfl | h
    · have hlater : ∀ y ∈ xs, y.1 ≠ s := fun y hy hys =>
        hx (List.mem_map.mpr ⟨y, hy, hys⟩)
      rw [get_foldl_set_of_notMem hlater]
      exact Function.update_self _ _ _
    · exact get_foldl_set_of_mem hxs h

theorem samples_nodup (cp : ControlPlane) : ((samples cp).map Prod.fst).Nodup := by
  have hservices : (cp.status.services.entries.map fun e =>
      Series.clusterServiceReady cp.spec.clusterName e.1).Nodup := by
    refine List.Pairwise.map _ (fun a b hab heq => ?_) cp.status.services.sorted
    obtain ⟨-, hkey⟩ := Series.clusterServiceReady.inj heq
    exact absurd hab (by rw [hkey]; exact lt_irrefl _)
  simp only [samples, List.map_append, List.map_map, List.map_cons, List.map_nil, allPhases,
    Function.comp_def, List.nodup_append]
  refine ⟨⟨⟨by simp, by simp, by simp⟩, hservices, ?_⟩, by simp, ?_⟩
  · intro a ha b hb
    obtain ⟨e, -, rfl⟩ := List.mem_map.mp hb
    simp only [List.mem_append, List.mem_cons, List.not_mem_nil, or_false] at ha
    rcases ha with rfl | rfl | rfl | rfl | rfl | rfl <;> simp
  · intro a ha b hb
    simp only [List.mem_append, List.mem_cons, List.not_mem_nil, or_false] at ha hb
    rcases ha with (rfl | rfl | rfl | rfl | rfl | rfl) | ha
    all_goals
      try obtain ⟨e, -, rfl⟩ := List.mem_map.mp ha
      rcases hb with rfl | rfl | rfl | rfl | rfl <;> simp

theorem cluster_of_mem_samples {cp : ControlPlane} {x : Series × ℤ} (h : x ∈ samples cp) :
    x.1.cluster = cp.spec.clusterName := by
  simp only [samples, List.mem_append, List.mem_map, List.mem_cons, List.not_mem_nil, or_false] at h
  rcases h with ((rfl | ⟨p, -, rfl⟩) | ⟨e, -, rfl⟩) | rfl | rfl | rfl | rfl | rfl <;> rfl

theorem get_updateMetrics {cp : ControlPlane} {s : Series} {v : ℤ} (h : (s, v) ∈ samples cp)
    (r : Registry) : updateMetrics r cp s = some v :=
  get_foldl_set_of_mem (samples_nodup cp) h

theorem get_updateMetrics_of_ne {cp : ControlPlane} {s : Series} (h : s.cluster ≠ cp.spec.clusterName)
    (r : Registry) : updateMetrics r cp s = r s :=
  get_foldl_set_of_notMem fun _ hx heq => h (heq ▸ cluster_of_mem_samples hx)

/-- The series of a service that has an entry. -/
theorem mem_samples_service {cp : ControlPlane} {name : String} {st : ServiceStatus}
    (h : cp.status.services.get? name = some st) :
    (Series.clusterServiceReady cp.spec.clusterName name, flag st.ready) ∈ samples cp := by
  have hfind : ∀ l : List (String × ServiceStatus), GoMap.find name l = some st → (name, st) ∈ l := by
    intro l
    induction l with
    | nil => exact fun hnone => by cases hnone
    | cons e l ih =>
      intro hfound
      unfold GoMap.find at hfound
      split_ifs at hfound with hkey
      · obtain ⟨key, entry⟩ := e
        obtain rfl : key = name := hkey
        obtain rfl : entry = st := Option.some.inj hfound
        exact List.mem_cons_self
      · exact List.mem_cons_of_mem e (ih hfound)
  have hentry : (name, st) ∈ cp.status.services.entries := hfind _ h
  simp only [samples, List.mem_append, List.mem_map]
  exact Or.inl (Or.inr ⟨(name, st), hentry, rfl⟩)

/-! ### Any updates -/

theorem get_run_of_ne {s : Series} {cps : List ControlPlane} {r : Registry}
    (h : ∀ cp ∈ cps, cp.spec.clusterName ≠ s.cluster) : cps.foldl updateMetrics r s = r s :=
  List.foldlRecOn (motive := fun t : Registry => t s = r s) cps _ rfl fun t ht cp hcp =>
    (get_updateMetrics_of_ne (Ne.symm (h cp hcp)) t).trans ht

/-- **The series of a cluster are those of its last update**, whatever was set before and for whom. -/
theorem get_run {cp : ControlPlane} {s : Series} {v : ℤ} (h : (s, v) ∈ samples cp)
    {pre post : List ControlPlane}
    (hlast : ∀ c ∈ post, c.spec.clusterName ≠ cp.spec.clusterName) (r : Registry) :
    (pre ++ cp :: post).foldl updateMetrics r s = some v := by
  have hcluster : s.cluster = cp.spec.clusterName := cluster_of_mem_samples h
  rw [List.foldl_append, List.foldl_cons, get_run_of_ne (by rw [hcluster]; exact hlast),
    get_updateMetrics h]

end OpenchamiOperator.Status
