import Mathlib.Logic.Relation
import OpenchamiOperator.Reconcilers.GatewayRouting

/-! # Histories of passes

What holds of the gateway objects after any sequence of passes, over any sequence of
specifications.

* Public routes are revoked by every pass with a valid certificate, and only by these
  (`revoked_iff`).
* The admin paths stay behind a token as long as no pass publishes the metadata route without the
  admin route that shadows it (`admin_guarded`). The invariant is `Shadowed`. -/

namespace OpenchamiOperator.Reconcilers.Gateway

open Lib Lib.Strings Lib.GatewayApi Api Relation

/-! ### Revocation of public routes -/

/-- One call of the reconciler: what it observes and the control plane it is called for. -/
structure Call where
  env : Observed
  cp : ControlPlane

/-- The objects after a call in which no API call fails. -/
def afterCall (s : Objects) (call : Call) : Objects :=
  ((reconcile call.env call.cp).run ⟨s, []⟩).2.state

/-- The objects after a sequence of such calls, from an empty namespace. -/
def afterCalls (history : List Call) : Objects := history.foldl afterCall Store.empty

/-- The specification asks for the public route. -/
def requested (cp : ControlPlane) (name : String) : Prop :=
  name = routeSMDPublic ∧ serviceDeployedInCluster cp .smd = true ∧ smdPublicPaths cp ≠ [] ∨
  name = routeBootPublic ∧ serviceDeployedInCluster cp .bootService = true ∧
    bootPublicPaths cp ≠ [] ∨
  name = routeBootPublicHTTP ∧ bootHTTPPublicPaths cp ≠ []

instance (cp : ControlPlane) (name : String) : Decidable (requested cp name) :=
  inferInstanceAs (Decidable (_ ∨ _))

/-- No public route exists that the specification does not ask for. -/
def Revoked (cp : ControlPlane) (s : Objects) : Prop :=
  ∀ name ∈ publicRoutes, s.has (routeKey cp name) = true → requested cp name

theorem stale_of_not_requested {cp : ControlPlane} {name : String} (h : name ∈ publicRoutes)
    (hr : ¬ requested cp name) : name ∈ stalePublicRoutes cp := by
  simp only [publicRoutes, List.mem_cons, List.not_mem_nil, or_false] at h
  rw [mem_stalePublicRoutes]
  rcases h with rfl | rfl | rfl
  · refine Or.inl ⟨?_, rfl⟩
    by_contra hn
    exact hr (Or.inl ⟨rfl, by simpa [not_or] using hn⟩)
  · refine Or.inr (Or.inl ⟨?_, rfl⟩)
    by_contra hn
    exact hr (Or.inr (Or.inl ⟨rfl, by simpa [not_or] using hn⟩))
  · refine Or.inr (Or.inr ⟨?_, rfl⟩)
    by_contra hn
    exact hr (Or.inr (Or.inr ⟨rfl, hn⟩))

/-- A complete pass revokes every public route that is not asked for. -/
theorem revoked_afterPass (env : Observed) (cp : ControlPlane) (s : Objects) :
    Revoked cp (afterPass env cp s) := by
  intro name hname hhas
  by_contra hr
  obtain ⟨o, ho, hk⟩ := Store.has_iff.mp hhas
  rw [afterPass, Store.mem_deleteAll] at ho
  exact ho.2 (hk ▸ List.mem_map_of_mem (f := routeKey cp) (stale_of_not_requested hname hr))

/-- **When a call revokes the public routes**: after any history, a call (which returns nil) leaves
no public route that its specification does not ask for exactly when the certificate is valid in
that call, or there was no such route before it. -/
theorem revoked_iff (history : List Call) (call : Call) :
    (∃ o, ((reconcile call.env call.cp).run ⟨afterCalls history, []⟩).1 = .ok o) ∧
    (Revoked call.cp (afterCall (afterCalls history) call) ↔
      isStatusConditionTrue call.cp.status.conditions .certificatesValid = true ∨
        Revoked call.cp (afterCalls history)) := by
  obtain ⟨o, t, hrun⟩ := reconcile_succeeds call.env call.cp (afterCalls history)
  refine ⟨⟨o, by rw [hrun]⟩, ?_⟩
  have ht : t = _ := reconcile_state_of_ok hrun
  have hafter : afterCall (afterCalls history) call = t := by rw [afterCall, hrun]
  rw [hafter, ht]
  rcases hcert : isStatusConditionTrue call.cp.status.conditions .certificatesValid with _ | _
  · simp
  · simp [revoked_afterPass]

/-- A cluster with one public path of SMD. -/
def publicSMD (enabled valid : Bool) : ControlPlane where
  spec := { clusterName := "alpha", domain := "alpha.example.org",
            services := { smd := { enabled := true,
                                   publicRoutes := { enabled := some enabled,
                                                     paths := ["/hsm/v2/State/Components"] } },
                          tokensmith := { enabled := true } } }
  status := { conditions := [{ type := .certificatesValid, reason := "Ready",
                               status := if valid then .true else .false }],
              services := GoMap.ofList [("tokensmith", { ready := true })] }

/-- The public route is switched off while the certificate is not valid: it stays. -/
theorem public_route_survives :
    (∃ o, ((reconcile ⟨true, true⟩ (publicSMD false false)).run
      ⟨afterCalls [⟨⟨true, true⟩, publicSMD true true⟩], []⟩).1 = .ok o) ∧
    ¬ Revoked (publicSMD false false) (afterCall (afterCalls [⟨⟨true, true⟩, publicSMD true true⟩])
      ⟨⟨true, true⟩, publicSMD false false⟩) := by
  refine ⟨⟨_, rfl⟩, fun h => ?_⟩
  exact absurd (h routeSMDPublic (by decide) (by decide)) (by decide)

/-! ### Public paths -/

theorem mem_collectPublicPaths {base p : String} : ∀ {src seen : List String},
    p ∈ collectPublicPaths base seen src ↔
      p ∈ src ∧ hasPrefix p (base ++ "/") = true ∧ p ∉ seen
  | [], seen => by simp [collectPublicPaths]
  | q :: src, seen => by
    unfold collectPublicPaths
    rcases hq : hasPrefix q (base ++ "/") with _ | _
    · simp only [Bool.not_false, if_true, mem_collectPublicPaths, List.mem_cons]
      constructor
      · rintro ⟨h, hp, hs⟩; exact ⟨Or.inr h, hp, hs⟩
      · rintro ⟨rfl | h, hp, hs⟩
        · rw [hq] at hp; cases hp
        · exact ⟨h, hp, hs⟩
    · simp only [Bool.not_true, Bool.false_eq_true, if_false]
      split_ifs with hseen
      · rw [mem_collectPublicPaths, List.mem_cons]
        constructor
        · rintro ⟨h, hp, hs⟩; exact ⟨Or.inr h, hp, hs⟩
        · rintro ⟨rfl | h, hp, hs⟩
          · exact absurd hseen hs
          · exact ⟨h, hp, hs⟩
      · rw [List.mem_cons, mem_collectPublicPaths, List.mem_cons, List.mem_cons, not_or]
        constructor
        · rintro (rfl | ⟨h, hp, hne, hs⟩)
          · exact ⟨Or.inl rfl, hq, hseen⟩
          · exact ⟨Or.inr h, hp, hs⟩
        · rintro ⟨rfl | h, hp, hs⟩
          · exact Or.inl rfl
          · by_cases hpq : p = q
            · exact Or.inl hpq
            · exact Or.inr ⟨h, hp, hpq, hs⟩

/-- Public paths lie below the path of their service. -/
theorem under_of_mem_resolvePublicPaths {spec : PublicRoutesSpec} {base p : String}
    {defaults : List String} (h : p ∈ resolvePublicPaths spec base defaults) :
    under p base = true := by
  unfold resolvePublicPaths at h
  split at h
  · simp at h
  · rw [List.mem_insertionSort, mem_collectPublicPaths] at h
    simp [under, h.2.1]

/-! ### The admin paths -/

/-- A call of the reconciler that returns nil. -/
def Step (s s' : Objects) : Prop :=
  ∃ env cp fates o m, (reconcile env cp).run ⟨s, fates⟩ = (.ok o, m) ∧ m.state = s'

/-- If the pass publishes the metadata route, it also applies the admin route, or an admin route for
the same domain exists already. -/
def shadows (env : Observed) (cp : ControlPlane) (s : Objects) : Prop :=
  isStatusConditionTrue cp.status.conditions .certificatesValid = true →
  serviceDeployedInCluster cp .metadataService = true →
    appliesGated env cp = true ∨ ∃ a, .httpRoute a ∈ s ∧
      (Object.httpRoute a).key = routeKey cp routeMetadataAdmin ∧ a.hostnames = [cp.spec.domain]

/-- A call that returns nil and does not publish the metadata route without the admin route. -/
def ShadowedStep (s s' : Objects) : Prop :=
  ∃ env cp fates o m, (reconcile env cp).run ⟨s, fates⟩ = (.ok o, m) ∧ m.state = s' ∧
    shadows env cp s

/-- No HTTPS request for an admin path reaches a backend without a token. -/
def AdminGuarded (s : Objects) : Prop :=
  ∀ g, .gateway g ∈ s → ∀ req : Request, req.listener = listenerHTTPS →
    (under req.path pathMetadataAdmin = true ∨ under req.path pathBootAdmin = true) →
      ∀ b, respondTo s g req ≠ .backend b false

/-- The invariant: the routes are those the operator builds, each gated route has its policy, and
the metadata route is shadowed by an admin route for the same hosts. -/
structure Shadowed (s : Objects) : Prop where
  built : ∀ r, .httpRoute r ∈ s → ∃ env cp, .httpRoute r ∈ objectsApplied env cp
  paired : Paired s
  admin : ∀ r, .httpRoute r ∈ s → r.metadata.name = routeMetadataPublic →
    ∃ a, .httpRoute a ∈ s ∧ a.metadata.namespace = r.metadata.namespace ∧
      a.metadata.name = routeMetadataAdmin ∧ a.hostnames = r.hostnames

theorem shadowed_empty : Shadowed Store.empty where
  built _ h := absurd h (Store.not_mem_empty _)
  paired := paired_empty
  admin _ h := absurd h (Store.not_mem_empty _)

variable {env : Observed} {cp : ControlPlane} {s : Objects}

/-- The routes of a pass are told apart by their names. -/
theorem metadata_route_of_name {r : HTTPRoute} (hr : .httpRoute r ∈ objectsApplied env cp) :
    (r.metadata.name = routeMetadataPublic → serviceDeployedInCluster cp .metadataService = true ∧
      r = buildMetadataPublicRoute cp) ∧
    (r.metadata.name = routeMetadataAdmin → appliesGated env cp = true ∧
      serviceDeployedInCluster cp .metadataService = true ∧ r = buildMetadataAdminRoute cp) := by
  rw [mem_objectsApplied, mem_objectsAlways, mem_objectsRequiringTokensmith] at hr
  simp only [reduceCtorEq, and_false, or_false, false_or, Object.httpRoute.injEq] at hr
  refine ⟨fun h => ?_, fun h => ?_⟩ <;>
    rcases hr with (rfl | ⟨hd, rfl⟩ | ⟨hd, rfl⟩ | ⟨hd, rfl⟩ | ⟨hd, rfl⟩ | ⟨hd, rfl⟩) |
      ⟨hg, ⟨hd, rfl⟩ | ⟨hd, rfl | rfl⟩ | ⟨hd, rfl⟩⟩ <;>
    first
    | exact ⟨hd, rfl⟩
    | exact ⟨hg, hd, rfl⟩
    | simp [buildHTTPRedirectRoute, buildTokensmithRoute, buildMetadataPublicRoute,
        buildPublicReadOnlyRoute, buildSMDRoute, buildBootServiceRoute, buildBootAdminRoute,
        buildMetadataAdminRoute, buildRoute, objectMeta, routeHTTPRedirect, routeTokensmith,
        routeMetadataPublic, routeSMDPublic, routeBootPublic, routeBootPublicHTTP, routeSMD,
        routeBootService, routeBootAdmin, routeMetadataAdmin] at h

/-- An old object stays, unless the pass applies one with its key or it is a stale public route. -/
theorem mem_afterPass_or {o : Object} (ho : o ∈ s) (hs : o.key ∉ staleKeys cp) :
    o ∈ afterPass env cp s ∨ ∃ a ∈ objectsApplied env cp, a.key = o.key := by
  by_cases h : ∃ a ∈ objectsApplied env cp, a.key = o.key
  · exact Or.inr h
  · exact Or.inl (mem_afterPass.mpr (Or.inr ⟨ho, fun a ha hk => h ⟨a, ha, hk.symm⟩, hs⟩))

theorem paired_afterPass (h : Paired s) : Paired (afterPass env cp s) := by
  intro ns p hp hhas
  obtain ⟨o, ho, hk⟩ := Store.has_iff.mp hhas
  rcases mem_afterPass.mp ho with ho | ⟨ho, -, -⟩
  · have hns : controlPlaneNamespace cp = ns := by
      rw [← namespace_of_mem_objectsApplied ho]
      exact congrArg (fun x : Kind × String × String => x.2.1) hk
    subst hns
    exact ⟨_, mem_afterPass.mpr (Or.inl (policy_mem hp ho (Or.inl hk))), rfl, rfl,
      guards_buildSecurityPolicy _ _⟩
  · obtain ⟨sp, hsp, hns, hname, hg⟩ := h ns p hp (Store.has_iff.mpr ⟨o, ho, hk⟩)
    rcases mem_afterPass_or hsp (not_stale (Or.inl rfl)) with hmem | ⟨a, ha, hak⟩
    · exact ⟨sp, hmem, hns, hname, hg⟩
    · have hcp : controlPlaneNamespace cp = ns := by
        rw [← namespace_of_mem_objectsApplied ha, ← hns]
        exact congrArg (fun x : Kind × String × String => x.2.1) hak
      have hkey : a.key = keyIn cp (.SecurityPolicy, p.2) := by
        rw [hak, keyIn, hcp, ← hns, ← hname]; rfl
      exact ⟨_, mem_afterPass.mpr (Or.inl (eq_policy hp ha hkey ▸ ha)), hcp, rfl,
        guards_buildSecurityPolicy _ _⟩

/-- An admin route of the right hosts, for the metadata route of a pass. -/
theorem admin_afterPass (hcert : isStatusConditionTrue cp.status.conditions .certificatesValid = true)
    (hdep : serviceDeployedInCluster cp .metadataService = true) (hsh : shadows env cp s) :
    ∃ a, .httpRoute a ∈ afterPass env cp s ∧
      a.metadata.namespace = controlPlaneNamespace cp ∧ a.metadata.name = routeMetadataAdmin ∧
      a.hostnames = [cp.spec.domain] := by
  have hnew : ∀ {e : Observed}, appliesGated e cp = true →
      .httpRoute (buildMetadataAdminRoute cp) ∈ objectsApplied e cp := by
    intro e he
    rw [mem_objectsApplied, mem_objectsRequiringTokensmith]
    simp [he, hdep]
  rcases hsh hcert hdep with hg | ⟨a, ha, hk, hh⟩
  · exact ⟨buildMetadataAdminRoute cp, mem_afterPass.mpr (Or.inl (hnew hg)), rfl, rfl, rfl⟩
  · have hns : a.metadata.namespace = controlPlaneNamespace cp :=
      congrArg (fun x : Kind × String × String => x.2.1) hk
    have hname : a.metadata.name = routeMetadataAdmin :=
      congrArg (fun x : Kind × String × String => x.2.2) hk
    have hfresh : (Object.httpRoute a).key ∉ staleKeys cp :=
      not_stale (Or.inr ⟨(routeMetadataAdmin, policyJWTMetaAdmin), by decide, hname⟩)
    rcases mem_afterPass_or ha hfresh with hmem | ⟨o, ho, hok⟩
    · exact ⟨a, hmem, hns, hname, hh⟩
    · obtain ⟨r, rfl, -, hrn⟩ := Object.exists_route_of_key (hok.trans hk)
      obtain ⟨hg, -, -⟩ := (metadata_route_of_name ho).2 hrn
      exact ⟨buildMetadataAdminRoute cp, mem_afterPass.mpr (Or.inl (hnew hg)), rfl, rfl, rfl⟩

/-- **The invariant is kept by every call that does not publish the metadata route alone.** -/
theorem Shadowed.step {s' : Objects} (h : Shadowed s) (hstep : ShadowedStep s s') : Shadowed s' := by
  obtain ⟨env, cp, fates, o, m, hrun, rfl, hsh⟩ := hstep
  rw [reconcile_state_of_ok hrun]
  split_ifs with hcert
  · refine ⟨fun r hr => ?_, paired_afterPass h.paired, fun r hr hname => ?_⟩
    · rcases mem_afterPass.mp hr with hr | ⟨hr, -, -⟩
      · exact ⟨env, cp, hr⟩
      · exact h.built r hr
    · rcases mem_afterPass.mp hr with hr | ⟨hr, hnew, -⟩
      · obtain ⟨hdep, rfl⟩ := (metadata_route_of_name hr).1 hname
        exact admin_afterPass hcert hdep hsh
      · -- an old metadata route keeps its admin route: a new one comes only with a new metadata route
        obtain ⟨a, ha, hns, han, hh⟩ := h.admin r hr hname
        have hfresh : (Object.httpRoute a).key ∉ staleKeys cp :=
          not_stale (Or.inr ⟨(routeMetadataAdmin, policyJWTMetaAdmin), by decide, han⟩)
        rcases mem_afterPass_or ha hfresh with hmem | ⟨o, ho, hok⟩
        · exact ⟨a, hmem, hns, han, hh⟩
        · exfalso
          obtain ⟨a', rfl, hns', hrn⟩ := Object.exists_route_of_key hok
          obtain ⟨-, hdep, rfl⟩ := (metadata_route_of_name ho).2 (hrn.trans han)
          have hpub : .httpRoute (buildMetadataPublicRoute cp) ∈ objectsApplied env cp := by
            rw [mem_objectsApplied, mem_objectsAlways]
            simp [hdep]
          refine hnew _ hpub ?_
          simp only [Object.key, Object.kind, Object.metadata, Prod.mk.injEq, true_and]
          exact ⟨hns.symm.trans hns'.symm, hname⟩
  · exact h

/-- Wherever the metadata route matches below the admin path, an admin route matches too. -/
theorem Shadowed.exists_admin_candidate (h : Shadowed s) {g : GatewayApi.Gateway} {req : Request}
    {c : Candidate} (hc : c ∈ candidates (routes s) g req)
    (hroute : c.route = buildMetadataPublicRoute cp) (hh : c.hostname = cp.spec.domain)
    (hadm : under req.path pathMetadataAdmin = true) :
    ∃ d ∈ candidates (routes s) g req, d.hostname = c.hostname ∧
      d.routeMatch = { path := .pathPrefix pathMetadataAdmin } := by
  obtain ⟨hacc, hr, ha, -, hcov⟩ := mem_candidates.mp hc
  rw [mem_routes, hroute] at hr
  obtain ⟨a, has, hns, han, hhosts⟩ := h.admin _ hr rfl
  obtain ⟨env', cp', hbuilt⟩ := h.built a has
  obtain ⟨-, -, rfl⟩ := (metadata_route_of_name hbuilt).2 han
  have hdomain : cp'.spec.domain = cp.spec.domain := (List.cons.inj hhosts).1
  have hns' : controlPlaneNamespace cp' = controlPlaneNamespace cp := hns
  have hhost : hostnameCovers cp'.spec.domain req.host = true := by
    simp only [Candidate.covers, Bool.and_eq_true] at hcov
    rw [hdomain, ← hh]; exact hcov.2
  obtain ⟨d, hd, hdm, hdcov⟩ : ∃ d ∈ (buildMetadataAdminRoute cp').candidates,
      d.routeMatch = { path := .pathPrefix pathMetadataAdmin } ∧ d.covers req = true :=
    exists_prefix_candidate (Or.inr rfl) (by decide) hhost hadm
  obtain ⟨hdr, -, -, hdh⟩ := mem_route_candidates.mp hd
  have hdh' : d.hostname = cp'.spec.domain := List.mem_singleton.mp hdh
  refine ⟨d, mem_candidates.mpr ⟨hacc, ?_, ?_, by rwa [hdr], hdcov⟩, by rw [hdh', hdomain, hh], hdm⟩
  · rw [hdr, mem_routes]; exact has
  · -- both routes name the gateway of the namespace
    rw [hroute] at ha
    rw [hdr]
    simp only [attached, buildMetadataPublicRoute, buildMetadataAdminRoute, buildRoute, objectMeta,
      httpsParentRef, Bool.and_eq_true, beq_iff_eq, List.contains_iff_mem,
      List.mem_singleton] at ha ⊢
    rw [hns']
    exact ha

/-- A route of the invariant that leads to an admin path without a token does not exist. -/
theorem Shadowed.adminGuarded (h : Shadowed s) : AdminGuarded s := by
  intro g hg req hl hpath b hb
  obtain ⟨c, hdisp, -, hjwt⟩ := respondTo_backend hb
  obtain ⟨hcand, hmax⟩ := dispatch_eq_some hdisp
  obtain ⟨hacc, hr, ha, hc, hcov⟩ := mem_candidates.mp hcand
  rw [mem_routes] at hr
  obtain ⟨env, cp, hbuilt⟩ := h.built _ hr
  have ha' := ha
  simp only [attached, Bool.and_eq_true, List.contains_iff_mem, beq_iff_eq, hl] at ha'
  obtain ⟨hm, -, hh⟩ := httpsMatch_of_candidate hbuilt ha'.2 hc hcov
  generalize hroute : c.route = r at hm hr hjwt
  generalize hmatch : c.routeMatch = m at hm
  -- a path below two bases makes one of them a prefix of the other
  have hclash : ∀ base, under req.path base = true →
      (hasPrefix pathMetadataAdmin base || hasPrefix base pathMetadataAdmin ||
        hasPrefix pathBootAdmin base || hasPrefix base pathBootAdmin) = true := by
    intro base hbase
    simp only [Bool.or_eq_true]
    rcases hpath with hp | hp
    · exact Or.inl (Or.inl (nested_of_under hp hbase))
    · rcases nested_of_under hp hbase with hn | hn
      · exact Or.inl (Or.inr hn)
      · exact Or.inr hn
  cases hm with
  | tokensmith hd hp =>
    have hnone : ∀ p ∈ tokensmithPaths, ¬ (under p pathMetadataAdmin = true ∨
        under p pathBootAdmin = true) := by decide
    exact hnone _ hp hpath
  | smdPublic hd hget hp =>
    exact absurd (hclash _ (under_of_mem_resolvePublicPaths hp)) (by decide)
  | bootPublic hd hget hp =>
    exact absurd (hclash _ (under_of_mem_resolvePublicPaths hp)) (by decide)
  | metadataPublic hd hu =>
    rcases hpath with hadm | hboot
    · obtain ⟨d, hd', hdh, hdm⟩ := h.exists_admin_candidate hcand hroute hh hadm
      have hlen := length_le_of_rank_le hdh (hmax d hd') (by rw [hmatch]; rfl)
      rw [hmatch, hdm] at hlen
      exact absurd hlen (show ¬ pathMetadataAdmin.length ≤ pathMetadataPrefix.length by decide)
    · exact absurd (nested_of_under hboot hu) (by decide)
  | gated x hx hd hu =>
    obtain ⟨q, hq, hqn⟩ := List.mem_map.mp (gatedTable_name hx)
    obtain ⟨sp, hsp, hns, -, hguard⟩ := h.paired x.1.metadata.namespace q hq
      (Store.has_iff.mpr ⟨_, hr, by rw [hqn]; rfl⟩)
    have := jwtChecked_iff.mpr ⟨sp, hsp, hns, hqn ▸ hguard⟩
    rw [this] at hjwt
    cases hjwt

/-- **Admin paths stay behind a token** in every state reached from an empty namespace by calls that
return nil and never publish the metadata route without the admin route. -/
theorem admin_guarded (s : Objects) (h : ReflTransGen ShadowedStep Store.empty s) :
    AdminGuarded s := by
  have hinv : Shadowed s := by
    induction h with
    | refl => exact shadowed_empty
    | tail _ hstep ih => exact ih.step hstep
  exact hinv.adminGuarded

theorem admin_guarded_fullPlane : ∃ o s,
    (reconcile ⟨true, true⟩ fullPlane).run ⟨Store.empty, []⟩ = (.ok o, ⟨s, []⟩) ∧
      AdminGuarded s := by
  obtain ⟨o, s, hrun⟩ := reconcile_succeeds ⟨true, true⟩ fullPlane Store.empty
  refine ⟨o, s, hrun, admin_guarded s (ReflTransGen.single ?_)⟩
  exact ⟨⟨true, true⟩, fullPlane, [], o, _, hrun, rfl, fun _ _ => Or.inl (by decide)⟩

/-- A cluster with the metadata service, whose tokensmith is not ready yet. -/
def metadataPlane : ControlPlane where
  spec := { clusterName := "alpha", domain := "alpha.example.org",
            services := { tokensmith := { enabled := true },
                          metadataService := { enabled := true } } }
  status := { conditions := [{ type := .certificatesValid, status := .true, reason := "Ready" }] }

/-- An unauthenticated write to the metadata service. -/
def adminRequest : Request where
  listener := listenerHTTPS
  host := "alpha.example.org"
  method := .POST
  path := "/cloud-init/admin/groups"
  rooted := by decide

/-- The first pass publishes the metadata route and defers the admin route. -/
theorem admin_path_public : ReflTransGen Step Store.empty
      ((reconcile ⟨true, true⟩ metadataPlane).run ⟨Store.empty, []⟩).2.state ∧
    ¬ AdminGuarded ((reconcile ⟨true, true⟩ metadataPlane).run ⟨Store.empty, []⟩).2.state := by
  refine ⟨ReflTransGen.single ⟨⟨true, true⟩, metadataPlane, [], _, _, rfl, rfl⟩, fun h => ?_⟩
  refine h (buildGateway metadataPlane) ?_ adminRequest rfl (Or.inl (by decide))
    ⟨"metadata-service", 8081⟩ (by decide)
  rw [Store.mem_def]
  decide

end OpenchamiOperator.Reconcilers.Gateway
