import OpenchamiOperator.Reconcilers.GatewayPass
import OpenchamiOperator.Reconcilers.NetworkPolicies

/-! # The public paths

`resolvePublicPaths` filters, removes repetitions and sorts. What it returns is determined by the
set of the entries it reads (`mem_resolvePublicPaths`, `resolvePublicPaths_sorted`), so neither the
order nor the repetitions in `spec.paths` show in the rendered route. The routes a pass renders and
the routes it deletes as stale are two conditionals of the source; `rendered_xor_stale` says that
they complement each other for every specification. -/

namespace OpenchamiOperator.Reconcilers.Gateway

open Lib Lib.Strings Lib.GatewayApi Api

/-! ### The list of one service -/

/-- The loop keeps the first occurrences of what lies below the prefix. -/
theorem collectPublicPaths_eq (base : String) (src seen : List String) :
    collectPublicPaths base seen src =
      firstOccurrences seen (src.filter fun p => hasPrefix p (base ++ "/")) := by
  induction src generalizing seen with
  | nil => rfl
  | cons p src ih =>
    unfold collectPublicPaths
    cases hp : hasPrefix p (base ++ "/") with
    | false =>
      rw [if_pos (by simp), ih, List.filter_cons, hp]
      rfl
    | true =>
      rw [if_neg (by simp), List.filter_cons, if_pos hp, firstOccurrences, ih, ih]

/-- The list that `resolvePublicPaths` reads. -/
def publicSource (spec : PublicRoutesSpec) (defaults : List String) : List String :=
  if spec.paths.length > 0 then spec.paths else defaults

theorem mem_resolvePublicPaths {spec : PublicRoutesSpec} {base p : String}
    {defaults : List String} : p ∈ resolvePublicPaths spec base defaults ↔
      spec.isEnabled = true ∧ p ∈ publicSource spec defaults ∧
        hasPrefix p (base ++ "/") = true := by
  unfold resolvePublicPaths publicSource
  cases spec.isEnabled with
  | false => simp
  | true =>
    rw [if_neg (by simp)]
    simp only [List.mem_insertionSort, collectPublicPaths_eq, mem_firstOccurrences, List.mem_filter,
      List.not_mem_nil, not_false_eq_true, and_true, true_and]

theorem resolvePublicPaths_sorted (spec : PublicRoutesSpec) (base : String)
    (defaults : List String) : (resolvePublicPaths spec base defaults).Pairwise (· < ·) := by
  unfold resolvePublicPaths
  split
  · exact List.Pairwise.nil
  · set l := collectPublicPaths base []
      (if spec.paths.length > 0 then spec.paths else defaults) with hl
    have hnodup : (l.insertionSort (· ≤ ·)).Nodup :=
      (List.perm_insertionSort (· ≤ ·) l).nodup_iff.mpr
        (by rw [hl, collectPublicPaths_eq]; exact firstOccurrences_nodup _ _)
    have hsorted : (l.insertionSort (· ≤ ·)).Pairwise (· ≤ ·) := List.pairwise_insertionSort _ l
    exact (hsorted.and hnodup).imp fun h => lt_of_le_of_ne h.1 h.2

/-- Only the set of the entries matters. -/
theorem resolvePublicPaths_congr {spec : PublicRoutesSpec} {paths : List String} (base : String)
    (defaults : List String) (h : ∀ p, p ∈ paths ↔ p ∈ spec.paths) :
    resolvePublicPaths { spec with paths := paths } base defaults =
      resolvePublicPaths spec base defaults := by
  have hempty : paths = [] ↔ spec.paths = [] := by
    simp only [List.eq_nil_iff_forall_not_mem, h]
  have hsource : ∀ p, p ∈ publicSource { spec with paths := paths } defaults ↔
      p ∈ publicSource spec defaults := by
    intro p
    unfold publicSource
    simp only [gt_iff_lt, List.length_pos_iff, ne_eq, hempty]
    split
    · exact h p
    · exact Iff.rfl
  refine List.Pairwise.eq_of_mem_iff (resolvePublicPaths_sorted _ base defaults)
    (resolvePublicPaths_sorted spec base defaults) fun p => ?_
  rw [mem_resolvePublicPaths, mem_resolvePublicPaths, hsource p]
  exact Iff.rfl

/-! ### The routes -/

variable {cp : ControlPlane}

theorem bootHTTPPublicPaths_subset (cp : ControlPlane) :
    bootHTTPPublicPaths cp ⊆ bootPublicPaths cp := by
  intro p hp
  unfold bootHTTPPublicPaths at hp
  split at hp
  · cases hp
  · split at hp
    · cases hp
    next hscript =>
      rw [List.mem_singleton.mp hp]
      simpa using hscript

/-- The names of the routes among the objects that a pass always applies. -/
def renderedRoutes (cp : ControlPlane) : List String :=
  ((objectsAlways cp).filter (·.kind = .HTTPRoute)).map (·.metadata.name)

theorem mem_renderedRoutes {name : String} : name ∈ renderedRoutes cp ↔
    name = routeHTTPRedirect ∨
    serviceDeployedInCluster cp .tokensmith = true ∧ name = routeTokensmith ∨
    serviceDeployedInCluster cp .metadataService = true ∧ name = routeMetadataPublic ∨
    (serviceDeployedInCluster cp .smd = true ∧ smdPublicPaths cp ≠ []) ∧ name = routeSMDPublic ∨
    (serviceDeployedInCluster cp .bootService = true ∧ bootPublicPaths cp ≠ []) ∧
      name = routeBootPublic ∨
    bootHTTPPublicPaths cp ≠ [] ∧ name = routeBootPublicHTTP := by
  simp only [renderedRoutes, List.mem_map, List.mem_filter, decide_eq_true_eq]
  constructor
  · rintro ⟨o, ⟨ho, hkind⟩, rfl⟩
    rcases mem_objectsAlways.mp ho with rfl | rfl | ⟨hc, rfl⟩ | ⟨hc, rfl⟩ | ⟨hc, rfl⟩ | ⟨hc, rfl⟩ |
      ⟨hc, rfl⟩
    · cases hkind
    · exact Or.inl rfl
    · exact Or.inr (Or.inl ⟨hc, rfl⟩)
    · exact Or.inr (Or.inr (Or.inl ⟨hc, rfl⟩))
    · exact Or.inr (Or.inr (Or.inr (Or.inl ⟨hc, rfl⟩)))
    · exact Or.inr (Or.inr (Or.inr (Or.inr (Or.inl ⟨hc, rfl⟩))))
    · exact Or.inr (Or.inr (Or.inr (Or.inr (Or.inr ⟨hc, rfl⟩))))
  · have hroute : ∀ r : HTTPRoute, Object.httpRoute r ∈ objectsAlways cp →
        ∃ o, (o ∈ objectsAlways cp ∧ o.kind = .HTTPRoute) ∧ o.metadata.name = r.metadata.name :=
      fun r hr => ⟨_, ⟨hr, rfl⟩, rfl⟩
    rintro (rfl | ⟨hc, rfl⟩ | ⟨hc, rfl⟩ | ⟨hc, rfl⟩ | ⟨hc, rfl⟩ | ⟨hc, rfl⟩)
    · exact hroute (buildHTTPRedirectRoute cp) (mem_objectsAlways.mpr (by simp))
    · exact hroute (buildTokensmithRoute cp) (mem_objectsAlways.mpr (by simp [hc]))
    · exact hroute (buildMetadataPublicRoute cp) (mem_objectsAlways.mpr (by simp [hc]))
    · exact hroute (buildPublicReadOnlyRoute cp routeSMDPublic (httpsParentRef cp) .smd smdPort
        (smdPublicPaths cp)) (mem_objectsAlways.mpr (by simp [hc]))
    · exact hroute (buildPublicReadOnlyRoute cp routeBootPublic (httpsParentRef cp) .bootService
        bootServicePort (bootPublicPaths cp)) (mem_objectsAlways.mpr (by simp [hc]))
    · exact hroute (buildPublicReadOnlyRoute cp routeBootPublicHTTP (httpParentRef cp) .bootService
        bootServicePort (bootHTTPPublicPaths cp)) (mem_objectsAlways.mpr (by simp [hc]))

/-- A public route is rendered or stale, never both. -/
theorem rendered_xor_stale {name : String} (h : name ∈ publicRoutes) :
    Xor (name ∈ renderedRoutes cp) (name ∈ stalePublicRoutes cp) := by
  rw [xor_iff_iff_not, mem_renderedRoutes, mem_stalePublicRoutes]
  -- the three names are different from each other and from those of the other routes
  simp only [publicRoutes, List.mem_cons, List.not_mem_nil, or_false] at h
  rcases h with rfl | rfl | rfl <;>
    simp [routeSMDPublic, routeHTTPRedirect, routeTokensmith, routeMetadataPublic, routeBootPublic,
      routeBootPublicHTTP]

/-! ### Canonical and confined -/

/-- What is published is the sorted list of the entries below the prefix of the service, whatever
the order and the repetitions of the given list; the plain listener publishes no path that the
encrypted one does not; and each public route is either rendered or deleted. -/
theorem publicPaths_canonical :
    (∀ (spec : PublicRoutesSpec) (base : String) (defaults : List String),
      (resolvePublicPaths spec base defaults).Pairwise (· < ·) ∧
      (∀ p, p ∈ resolvePublicPaths spec base defaults ↔ spec.isEnabled = true ∧
        p ∈ (if spec.paths ≠ [] then spec.paths else defaults) ∧ ∃ t, p = base ++ "/" ++ t) ∧
      ∀ paths : List String, (∀ p, p ∈ paths ↔ p ∈ spec.paths) →
        resolvePublicPaths { spec with paths := paths } base defaults =
          resolvePublicPaths spec base defaults) ∧
    ∀ cp : ControlPlane, bootHTTPPublicPaths cp ⊆ bootPublicPaths cp ∧
      ∀ name ∈ [routeSMDPublic, routeBootPublic, routeBootPublicHTTP],
        Xor (name ∈ renderedRoutes cp) (name ∈ stalePublicRoutes cp) := by
  refine ⟨fun spec base defaults => ⟨resolvePublicPaths_sorted spec base defaults, fun p => ?_,
    fun paths h => resolvePublicPaths_congr base defaults h⟩,
    fun cp => ⟨bootHTTPPublicPaths_subset cp, fun name hname => rendered_xor_stale hname⟩⟩
  rw [mem_resolvePublicPaths, ← hasPrefix_iff]
  unfold publicSource
  simp only [gt_iff_lt, List.length_pos_iff]

/-- Two orders of one override, one of them with a repetition and a path of another service. -/
theorem publicPaths_canonical_override :
    resolvePublicPaths { paths := ["/boot/b", "/hsm/x", "/boot/a", "/boot/b"] } pathBootPrefix [] =
      ["/boot/a", "/boot/b"] ∧
    resolvePublicPaths { paths := ["/hsm/x", "/boot/a", "/boot/b"] } pathBootPrefix [] =
      ["/boot/a", "/boot/b"] := by
  have hfirst : resolvePublicPaths { paths := ["/boot/b", "/hsm/x", "/boot/a", "/boot/b"] }
      pathBootPrefix [] = ["/boot/a", "/boot/b"] := by decide
  have hsame : ∀ p, p ∈ ["/hsm/x", "/boot/a", "/boot/b"] ↔
      p ∈ ["/boot/b", "/hsm/x", "/boot/a", "/boot/b"] := by
    intro p
    simp only [List.mem_cons, List.not_mem_nil, or_false]
    tauto
  exact ⟨hfirst, ((publicPaths_canonical.1 _ pathBootPrefix []).2.2 _ hsame).trans hfirst⟩

end OpenchamiOperator.Reconcilers.Gateway
