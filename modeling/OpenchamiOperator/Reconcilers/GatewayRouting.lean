import OpenchamiOperator.Reconcilers.GatewayPairing

/-! # Which requests the gateway lets through

The gateway serves a request with the stored routes and policies (`respondTo`). The routes the
operator builds fall into three kinds: `openRoute`s without a policy, the routes that need a token
(`gatedTable`) and the redirect of the plain HTTP listener. `https_candidate` and `http_candidate`
say which of them can match a request. `converged_routing` is the routing table of a namespace in
which one complete pass has applied everything. -/

namespace OpenchamiOperator.Reconcilers.Gateway

open Lib Lib.Strings Lib.GatewayApi Api

/-! ### Serving from the stored objects -/

def routes (s : Objects) : List HTTPRoute :=
  s.objects.filterMap fun
    | .httpRoute r => some r
    | _ => none

def policies (s : Objects) : List SecurityPolicy :=
  s.objects.filterMap fun
    | .securityPolicy p => some p
    | _ => none

/-- What the gateway `g` does with a request, given the stored objects. -/
def respondTo (s : Objects) (g : GatewayApi.Gateway) (req : Request) : Response :=
  respond (routes s) (policies s) g req

theorem mem_routes {s : Objects} {r : HTTPRoute} : r ∈ routes s ↔ .httpRoute r ∈ s := by
  simp only [routes, List.mem_filterMap, Store.mem_def]
  constructor
  · rintro ⟨o, ho, h⟩
    cases o <;> simp_all
  · intro h
    exact ⟨_, h, rfl⟩

theorem mem_policies {s : Objects} {p : SecurityPolicy} :
    p ∈ policies s ↔ .securityPolicy p ∈ s := by
  simp only [policies, List.mem_filterMap, Store.mem_def]
  constructor
  · rintro ⟨o, ho, h⟩
    cases o <;> simp_all
  · intro h
    exact ⟨_, h, rfl⟩

/-- A backend answers without a token exactly when the winning route has one and is not guarded. -/
theorem respondTo_backend {s : Objects} {g : GatewayApi.Gateway} {req : Request} {b : BackendRef}
    {j : Bool} (h : respondTo s g req = .backend b j) : ∃ c, dispatch (routes s) g req = some c ∧
      c.rule.redirect? = none ∧ jwtChecked (policies s) c.route = j := by
  unfold respondTo respond at h
  rcases hd : dispatch (routes s) g req with _ | c
  · simp [hd] at h
  · refine ⟨c, rfl, ?_⟩
    simp only [hd] at h
    rcases hr : c.rule.redirect? with _ | ⟨scheme, code⟩
    · simp only [hr] at h
      rcases hb : c.rule.backendRefs with _ | ⟨b', l⟩
      · simp [hb] at h
      · simp only [hb, Response.backend.injEq] at h
        exact ⟨rfl, h.2⟩
    · simp [hr] at h

theorem respondTo_of_dispatch {s : Objects} {g : GatewayApi.Gateway} {req : Request}
    {c : Candidate} {b : BackendRef} (h : dispatch (routes s) g req = some c)
    (hr : c.rule.redirect? = none) (hb : c.rule.backendRefs = [b]) :
    respondTo s g req = .backend b (jwtChecked (policies s) c.route) := by
  simp [respondTo, respond, h, hr, hb]

theorem jwtChecked_iff {s : Objects} {r : HTTPRoute} : jwtChecked (policies s) r = true ↔
    ∃ sp, .securityPolicy sp ∈ s ∧ sp.metadata.namespace = r.metadata.namespace ∧
      guards sp r.metadata.name := by
  simp only [jwtChecked, List.any_eq_true, Bool.and_eq_true, beq_iff_eq, Bool.not_eq_true',
    List.isEmpty_eq_false_iff, guards]
  constructor
  · rintro ⟨sp, hsp, ⟨hns, hne⟩, ht⟩
    exact ⟨sp, mem_policies.mp hsp, hns, hne, ht⟩
  · rintro ⟨sp, hsp, hns, hne, ht⟩
    exact ⟨sp, mem_policies.mpr hsp, ⟨hns, hne⟩, ht⟩

/-! ### The routes the operator builds -/

/-- The paths of tokensmith that need no token. -/
def tokensmithPaths : List String :=
  [pathTokensmithJWKS, pathTokensmithToken, pathTokensmithExchange, pathTokensmithHealth]

/-- The routes that need a token, each with its service and its path. -/
def gatedTable (cp : ControlPlane) : List (HTTPRoute × Service × String) :=
  [(buildSMDRoute cp, .smd, pathSMDPrefix), (buildBootServiceRoute cp, .bootService, pathBootPrefix),
    (buildBootAdminRoute cp, .bootService, pathBootAdmin),
    (buildMetadataAdminRoute cp, .metadataService, pathMetadataAdmin)]

variable {cp : ControlPlane} {req : Request} {c : Candidate}

theorem mem_buildRoute_candidates {name : String} {parent : ParentReference}
    {rules : List HTTPRouteRule} : c ∈ (buildRoute cp name parent rules).candidates ↔
      c.route = buildRoute cp name parent rules ∧ c.rule ∈ rules ∧
        c.routeMatch ∈ c.rule.effectiveMatches ∧ c.hostname = cp.spec.domain := by
  rw [mem_route_candidates]
  simp [buildRoute]

theorem attached_buildRoute {name : String} {parent : ParentReference} {rules : List HTTPRouteRule}
    {listener : String} : attached (buildGateway cp) listener (buildRoute cp name parent rules) = true ↔
      parent = ⟨gatewayName, controlPlaneNamespace cp, listener⟩ := by
  simp [attached, buildRoute, buildGateway, objectMeta, eq_comm]

theorem accepts_buildGateway (h : hostnameCovers cp.spec.domain req.host = true)
    (hl : req.listener = listenerHTTP ∨ req.listener = listenerHTTPS) :
    accepts (buildGateway cp) req = true := by
  rcases hl with hl | hl <;> simp [accepts, buildGateway, hl, h]

theorem covers_pathPrefix {base : String} (hb : hasSuffix base "/" = false)
    (hm : c.routeMatch = { path := .pathPrefix base }) (h : c.covers req = true) :
    under req.path base = true := by
  simp only [Candidate.covers, HTTPRouteMatch.covers, hm, PathMatch.covers, Option.all_none,
    Bool.and_true, Bool.and_eq_true, trimSuffix_of_not hb] at h
  exact h.1

theorem covers_exact_get {paths : List String}
    (hm : c.routeMatch ∈ paths.map fun p => ({ path := .exact p, method := some .GET } :
      HTTPRouteMatch)) (h : c.covers req = true) :
    req.method = .GET ∧ req.path ∈ paths ∧
      c.routeMatch = { path := .exact req.path, method := some .GET } := by
  obtain ⟨p, hp, hm⟩ := List.mem_map.mp hm
  simp only [Candidate.covers, HTTPRouteMatch.covers, ← hm, PathMatch.covers, Option.all_some,
    Bool.and_eq_true, beq_iff_eq] at h
  obtain ⟨⟨rfl, hget⟩, -⟩ := h
  exact ⟨hget.symm, hp, hm.symm⟩

/-- The ways in which a route built for the HTTPS listener matches a request. -/
inductive HTTPSMatch (cp : ControlPlane) (req : Request) : HTTPRoute → HTTPRouteMatch → Prop
  | tokensmith : serviceDeployedInCluster cp .tokensmith = true → req.path ∈ tokensmithPaths →
      HTTPSMatch cp req (buildTokensmithRoute cp) { path := .exact req.path }
  | smdPublic : serviceDeployedInCluster cp .smd = true → req.method = .GET →
      req.path ∈ smdPublicPaths cp →
      HTTPSMatch cp req (buildPublicReadOnlyRoute cp routeSMDPublic (httpsParentRef cp) .smd smdPort
        (smdPublicPaths cp)) { path := .exact req.path, method := some .GET }
  | bootPublic : serviceDeployedInCluster cp .bootService = true → req.method = .GET →
      req.path ∈ bootPublicPaths cp →
      HTTPSMatch cp req (buildPublicReadOnlyRoute cp routeBootPublic (httpsParentRef cp)
        .bootService bootServicePort (bootPublicPaths cp))
        { path := .exact req.path, method := some .GET }
  | metadataPublic : serviceDeployedInCluster cp .metadataService = true →
      under req.path pathMetadataPrefix = true →
      HTTPSMatch cp req (buildMetadataPublicRoute cp) { path := .pathPrefix pathMetadataPrefix }
  | gated (x : HTTPRoute × Service × String) : x ∈ gatedTable cp →
      serviceDeployedInCluster cp x.2.1 = true → under req.path x.2.2 = true →
      HTTPSMatch cp req x.1 { path := .pathPrefix x.2.2 }

/-- What every rule that leads to a backend looks like. -/
def forwards (rule : HTTPRouteRule) : Prop := rule.redirect? = none ∧ ∃ b, rule.backendRefs = [b]

theorem prefix_candidate {name base : String} {parent : ParentReference} {svc : Service} {port : ℕ}
    {rule : HTTPRouteRule} (hrule : rule = pathPrefixRule base svc port ∨
      rule = pathPrefixRewriteRule base svc port) (hb : hasSuffix base "/" = false)
    (hc : c ∈ (buildRoute cp name parent [rule]).candidates) (hcov : c.covers req = true) :
    c.routeMatch = { path := .pathPrefix base } ∧ under req.path base = true ∧ forwards c.rule ∧
      c.hostname = cp.spec.domain := by
  obtain ⟨-, hr, hm, hh⟩ := mem_buildRoute_candidates.mp hc
  rw [List.mem_singleton] at hr
  have hm' : c.routeMatch = { path := .pathPrefix base } := by
    rcases hrule with rfl | rfl <;>
      simpa [hr, HTTPRouteRule.effectiveMatches, pathPrefixRule, pathPrefixRewriteRule] using hm
  refine ⟨hm', covers_pathPrefix hb hm' hcov, ?_, hh⟩
  rcases hrule with rfl | rfl <;> rw [hr]
  · exact ⟨rfl, _, rfl⟩
  · exact ⟨rfl, _, rfl⟩

theorem public_candidate {name : String} {parent : ParentReference} {svc : Service} {port : ℕ}
    {paths : List String} (hne : paths ≠ [])
    (hc : c ∈ (buildPublicReadOnlyRoute cp name parent svc port paths).candidates)
    (hcov : c.covers req = true) :
    c.routeMatch = { path := .exact req.path, method := some .GET } ∧ req.method = .GET ∧
      req.path ∈ paths ∧ forwards c.rule ∧ c.hostname = cp.spec.domain := by
  obtain ⟨-, hr, hm, hh⟩ := mem_buildRoute_candidates.mp hc
  rw [List.mem_singleton] at hr
  rw [hr, HTTPRouteRule.effectiveMatches, if_neg (by simpa using hne)] at hm
  obtain ⟨hget, hpath, hm⟩ := covers_exact_get hm hcov
  refine ⟨hm, hget, hpath, ?_, hh⟩
  rw [hr]
  exact ⟨rfl, _, rfl⟩

theorem tokensmith_candidate (hc : c ∈ (buildTokensmithRoute cp).candidates)
    (hcov : c.covers req = true) : c.routeMatch = { path := .exact req.path } ∧
      req.path ∈ tokensmithPaths ∧ forwards c.rule ∧ c.hostname = cp.spec.domain := by
  obtain ⟨-, hr, hm, hh⟩ := mem_buildRoute_candidates.mp hc
  obtain ⟨p, hp, hr⟩ : ∃ p ∈ tokensmithPaths, c.rule = exactPathRule p := by
    simpa [tokensmithPaths] using hr
  have hm' : c.routeMatch = { path := .exact p } := by
    simpa [hr, HTTPRouteRule.effectiveMatches, exactPathRule] using hm
  have hpath : req.path = p := by
    simp only [Candidate.covers, HTTPRouteMatch.covers, hm', PathMatch.covers, Bool.and_eq_true,
      beq_iff_eq] at hcov
    exact hcov.1.1
  refine ⟨by rw [hm', hpath], hpath ▸ hp, ?_, hh⟩
  rw [hr]
  exact ⟨rfl, _, rfl⟩

theorem mem_httpsParent {name : String} {parent : ParentReference} {rules : List HTTPRouteRule}
    {x y : String} (h : ⟨x, y, listenerHTTPS⟩ ∈ (buildRoute cp name parent rules).parentRefs) :
    parent.sectionName = listenerHTTPS := by
  rw [buildRoute, List.mem_singleton] at h
  rw [← h]

/-- **The HTTPS listener**: how an object of a pass can match a request there. -/
theorem httpsMatch_of_candidate {env : Observed} {r : HTTPRoute} {x y : String}
    (hr : .httpRoute r ∈ objectsApplied env cp) (hp : ⟨x, y, listenerHTTPS⟩ ∈ r.parentRefs)
    (hc : c ∈ r.candidates) (hcov : c.covers req = true) :
    HTTPSMatch cp req r c.routeMatch ∧ forwards c.rule ∧ c.hostname = cp.spec.domain := by
  have hhttp : listenerHTTP ≠ listenerHTTPS := by decide
  rw [mem_objectsApplied] at hr
  rcases hr with hr | ⟨-, hr⟩
  · rw [mem_objectsAlways] at hr
    simp only [reduceCtorEq, false_or, Object.httpRoute.injEq] at hr
    rcases hr with rfl | ⟨hd, rfl⟩ | ⟨hd, rfl⟩ | ⟨⟨hd, hne⟩, rfl⟩ | ⟨⟨hd, hne⟩, rfl⟩ | ⟨hne, rfl⟩
    · exact absurd (mem_httpsParent hp) hhttp
    · obtain ⟨hm, hpath, hf, hh⟩ := tokensmith_candidate hc hcov
      exact ⟨hm ▸ .tokensmith hd hpath, hf, hh⟩
    · obtain ⟨hm, hu, hf, hh⟩ := prefix_candidate (Or.inl rfl) (by decide) hc hcov
      exact ⟨hm ▸ .metadataPublic hd hu, hf, hh⟩
    · obtain ⟨hm, hget, hpath, hf, hh⟩ := public_candidate hne hc hcov
      exact ⟨hm ▸ .smdPublic hd hget hpath, hf, hh⟩
    · obtain ⟨hm, hget, hpath, hf, hh⟩ := public_candidate hne hc hcov
      exact ⟨hm ▸ .bootPublic hd hget hpath, hf, hh⟩
    · exact absurd (mem_httpsParent hp) hhttp
  · rw [mem_objectsRequiringTokensmith] at hr
    simp only [reduceCtorEq, and_false, or_false, false_or, Object.httpRoute.injEq] at hr
    rcases hr with ⟨hd, rfl⟩ | ⟨hd, rfl | rfl⟩ | ⟨hd, rfl⟩
    · obtain ⟨hm, hu, hf, hh⟩ := prefix_candidate (Or.inl rfl) (by decide) hc hcov
      exact ⟨hm ▸ .gated (buildSMDRoute cp, .smd, pathSMDPrefix) (by simp [gatedTable]) hd hu, hf, hh⟩
    · obtain ⟨hm, hu, hf, hh⟩ := prefix_candidate (Or.inl rfl) (by decide) hc hcov
      exact ⟨hm ▸ .gated (buildBootServiceRoute cp, .bootService, pathBootPrefix)
        (by simp [gatedTable]) hd hu, hf, hh⟩
    · obtain ⟨hm, hu, hf, hh⟩ := prefix_candidate (Or.inr rfl) (by decide) hc hcov
      exact ⟨hm ▸ .gated (buildBootAdminRoute cp, .bootService, pathBootAdmin)
        (by simp [gatedTable]) hd hu, hf, hh⟩
    · obtain ⟨hm, hu, hf, hh⟩ := prefix_candidate (Or.inr rfl) (by decide) hc hcov
      exact ⟨hm ▸ .gated (buildMetadataAdminRoute cp, .metadataService, pathMetadataAdmin)
        (by simp [gatedTable]) hd hu, hf, hh⟩

theorem exists_prefix_candidate {name base : String} {svc : Service} {port : ℕ}
    {rule : HTTPRouteRule} (hrule : rule = pathPrefixRule base svc port ∨
      rule = pathPrefixRewriteRule base svc port) (hb : hasSuffix base "/" = false)
    (hhost : hostnameCovers cp.spec.domain req.host = true) (hu : under req.path base = true) :
    ∃ c ∈ (buildRoute cp name (httpsParentRef cp) [rule]).candidates,
      c.routeMatch = { path := .pathPrefix base } ∧ c.covers req = true := by
  refine ⟨⟨_, rule, { path := .pathPrefix base }, cp.spec.domain⟩,
    mem_buildRoute_candidates.mpr ⟨rfl, by simp, ?_, rfl⟩, rfl, ?_⟩
  · rcases hrule with rfl | rfl <;>
      simp [HTTPRouteRule.effectiveMatches, pathPrefixRule, pathPrefixRewriteRule]
  · simp [Candidate.covers, HTTPRouteMatch.covers, PathMatch.covers, trimSuffix_of_not hb, hu, hhost]

theorem exists_public_candidate {name : String} {parent : ParentReference} {svc : Service} {port : ℕ}
    {paths : List String} (hhost : hostnameCovers cp.spec.domain req.host = true)
    (hget : req.method = .GET) (hpath : req.path ∈ paths) :
    ∃ c ∈ (buildPublicReadOnlyRoute cp name parent svc port paths).candidates,
      c.routeMatch = { path := .exact req.path, method := some .GET } ∧ c.covers req = true := by
  have hne : paths ≠ [] := List.ne_nil_of_mem hpath
  refine ⟨⟨_, _, { path := .exact req.path, method := some .GET }, cp.spec.domain⟩,
    mem_buildRoute_candidates.mpr ⟨rfl, List.mem_singleton_self _, ?_, rfl⟩, rfl, ?_⟩
  · rw [HTTPRouteRule.effectiveMatches, if_neg (by simpa using hne)]
    exact List.mem_map.mpr ⟨req.path, hpath, rfl⟩
  · simp [Candidate.covers, HTTPRouteMatch.covers, PathMatch.covers, hget, hhost]

theorem exists_candidate {r : HTTPRoute} {m : HTTPRouteMatch} (h : HTTPSMatch cp req r m)
    (hhost : hostnameCovers cp.spec.domain req.host = true) :
    (∃ c ∈ r.candidates, c.routeMatch = m ∧ c.covers req = true) ∧
      attached (buildGateway cp) listenerHTTPS r = true := by
  cases h with
  | tokensmith hd hpath =>
    refine ⟨⟨⟨_, exactPathRule req.path, { path := .exact req.path }, cp.spec.domain⟩,
      mem_buildRoute_candidates.mpr ⟨rfl, ?_, ?_, rfl⟩, rfl, ?_⟩, attached_buildRoute.mpr rfl⟩
    · simp only [tokensmithPaths, List.mem_cons, List.not_mem_nil, or_false] at hpath
      rcases hpath with h | h | h | h <;> simp [h]
    · simp [HTTPRouteRule.effectiveMatches, exactPathRule]
    · simp [Candidate.covers, HTTPRouteMatch.covers, PathMatch.covers, hhost]
  | smdPublic hd hget hpath =>
    exact ⟨exists_public_candidate hhost hget hpath, attached_buildRoute.mpr rfl⟩
  | bootPublic hd hget hpath =>
    exact ⟨exists_public_candidate hhost hget hpath, attached_buildRoute.mpr rfl⟩
  | metadataPublic hd hu =>
    exact ⟨exists_prefix_candidate (Or.inl rfl) (by decide) hhost hu, attached_buildRoute.mpr rfl⟩
  | gated x hx hd hu =>
    simp only [gatedTable, List.mem_cons, List.not_mem_nil, or_false] at hx
    rcases hx with rfl | rfl | rfl | rfl
    · exact ⟨exists_prefix_candidate (Or.inl rfl)
        (show hasSuffix pathSMDPrefix "/" = false by decide) hhost hu, attached_buildRoute.mpr rfl⟩
    · exact ⟨exists_prefix_candidate (Or.inl rfl)
        (show hasSuffix pathBootPrefix "/" = false by decide) hhost hu, attached_buildRoute.mpr rfl⟩
    · exact ⟨exists_prefix_candidate (Or.inr rfl)
        (show hasSuffix pathBootAdmin "/" = false by decide) hhost hu, attached_buildRoute.mpr rfl⟩
    · exact ⟨exists_prefix_candidate (Or.inr rfl)
        (show hasSuffix pathMetadataAdmin "/" = false by decide) hhost hu,
        attached_buildRoute.mpr rfl⟩

/-- **The HTTP listener**: the redirect, and the boot script. -/
theorem http_candidate {env : Observed} {r : HTTPRoute} {x y : String}
    (hr : .httpRoute r ∈ objectsApplied env cp) (hp : ⟨x, y, listenerHTTP⟩ ∈ r.parentRefs)
    (hc : c ∈ r.candidates) (hcov : c.covers req = true) : c.hostname = cp.spec.domain ∧
      (r = buildHTTPRedirectRoute cp ∧ c.routeMatch = { path := .pathPrefix "/" } ∧
        c.rule.redirect? = some ("https", 301) ∨
      r = buildPublicReadOnlyRoute cp routeBootPublicHTTP (httpParentRef cp) .bootService
          bootServicePort (bootHTTPPublicPaths cp) ∧ c.routeMatch.path = .exact req.path ∧
        req.method = .GET ∧ req.path ∈ bootHTTPPublicPaths cp ∧ forwards c.rule) := by
  have hhttps : listenerHTTPS ≠ listenerHTTP := by decide
  -- every other route is attached to the HTTPS listener
  have hsection : ∀ name rules, r = buildRoute cp name (httpsParentRef cp) rules → False := by
    rintro name rules rfl
    rw [buildRoute, List.mem_singleton] at hp
    exact hhttps (congrArg ParentReference.sectionName hp).symm
  rw [mem_objectsApplied] at hr
  rcases hr with hr | ⟨-, hr⟩
  · rw [mem_objectsAlways] at hr
    simp only [reduceCtorEq, false_or, Object.httpRoute.injEq] at hr
    rcases hr with rfl | ⟨-, hr⟩ | ⟨-, hr⟩ | ⟨-, hr⟩ | ⟨-, hr⟩ | ⟨hne, rfl⟩
    · obtain ⟨-, hrule, hm, hh⟩ := mem_buildRoute_candidates.mp hc
      rw [List.mem_singleton] at hrule
      refine ⟨hh, Or.inl ⟨rfl, ?_, ?_⟩⟩
      · simpa [hrule, HTTPRouteRule.effectiveMatches] using hm
      · rw [hrule]; rfl
    · exact (hsection _ _ hr).elim
    · exact (hsection _ _ hr).elim
    · exact (hsection _ _ hr).elim
    · exact (hsection _ _ hr).elim
    · obtain ⟨hm, hget, hpath, hf, hh⟩ := public_candidate hne hc hcov
      exact ⟨hh, Or.inr ⟨rfl, by rw [hm], hget, hpath, hf⟩⟩
  · rw [mem_objectsRequiringTokensmith] at hr
    simp only [reduceCtorEq, and_false, or_false, false_or, Object.httpRoute.injEq] at hr
    rcases hr with ⟨-, hr⟩ | ⟨-, hr | hr⟩ | ⟨-, hr⟩
    · exact (hsection _ _ hr).elim
    · exact (hsection _ _ hr).elim
    · exact (hsection _ _ hr).elim
    · exact (hsection _ _ hr).elim

/-! ### A namespace after one complete pass -/

section Fresh

variable {env : Observed} {s : Objects}

/-- In a namespace that was empty, a pass leaves exactly its own objects. -/
theorem mem_afterPass_fresh (hempty : ∀ o ∈ s, o.metadata.namespace ≠ controlPlaneNamespace cp)
    {o : Object} (hns : o.metadata.namespace = controlPlaneNamespace cp) :
    o ∈ afterPass env cp s ↔ o ∈ objectsApplied env cp := by
  rw [mem_afterPass]
  constructor
  · rintro (h | ⟨h, -⟩)
    · exact h
    · exact absurd hns (hempty o h)
  · exact Or.inl

theorem securityPolicy_mem {sp : SecurityPolicy} (h : .securityPolicy sp ∈ objectsApplied env cp) :
    ∃ q ∈ gatedRoutes, sp = buildSecurityPolicy cp q.2 q.1 := by
  rw [mem_objectsApplied, mem_objectsAlways, mem_objectsRequiringTokensmith] at h
  simp only [reduceCtorEq, and_false, or_false, false_or, Object.securityPolicy.injEq] at h
  rcases h with ⟨-, ⟨-, rfl⟩ | ⟨-, rfl | rfl⟩ | ⟨-, rfl⟩⟩
  · exact ⟨(routeSMD, policyJWTSMD), by decide, rfl⟩
  · exact ⟨(routeBootService, policyJWTBoot), by decide, rfl⟩
  · exact ⟨(routeBootAdmin, policyJWTBootAdmin), by decide, rfl⟩
  · exact ⟨(routeMetadataAdmin, policyJWTMetaAdmin), by decide, rfl⟩

/-- After a pass into an empty namespace exactly the gated routes demand a token. -/
theorem jwtChecked_fresh (hempty : ∀ o ∈ s, o.metadata.namespace ≠ controlPlaneNamespace cp)
    {r : HTTPRoute} (hr : .httpRoute r ∈ objectsApplied env cp) :
    jwtChecked (policies (afterPass env cp s)) r = true ↔
      r.metadata.name ∈ gatedRoutes.map Prod.fst := by
  have hrns : r.metadata.namespace = controlPlaneNamespace cp := namespace_of_mem_objectsApplied hr
  rw [jwtChecked_iff]
  constructor
  · rintro ⟨sp, hsp, hns, -, t, ht, -, htn⟩
    obtain ⟨q, hq, rfl⟩ := securityPolicy_mem
      ((mem_afterPass_fresh (o := .securityPolicy sp) hempty (hns.trans hrns)).mp hsp)
    simp only [buildSecurityPolicy, List.mem_singleton] at ht
    rw [← htn, ht]
    exact List.mem_map_of_mem (f := Prod.fst) hq
  · intro h
    obtain ⟨q, hq, hqn⟩ := List.mem_map.mp h
    have hkey : (Object.httpRoute r).key = keyIn cp (.HTTPRoute, q.1) := by
      rw [keyIn, hqn, ← hrns]; rfl
    refine ⟨buildSecurityPolicy cp q.2 q.1, ?_, hrns.symm, ?_⟩
    · exact (mem_afterPass_fresh hempty rfl).mpr (policy_mem hq hr (Or.inl hkey))
    · rw [← hqn]; exact guards_buildSecurityPolicy _ _

theorem mem_candidates_fresh (hempty : ∀ o ∈ s, o.metadata.namespace ≠ controlPlaneNamespace cp)
    (hhost : hostnameCovers cp.spec.domain req.host = true)
    (hl : req.listener = listenerHTTP ∨ req.listener = listenerHTTPS) :
    c ∈ candidates (routes (afterPass env cp s)) (buildGateway cp) req ↔
      .httpRoute c.route ∈ objectsApplied env cp ∧
      attached (buildGateway cp) req.listener c.route = true ∧ c ∈ c.route.candidates ∧
      c.covers req = true := by
  rw [mem_candidates, mem_routes]
  constructor
  · rintro ⟨-, hr, ha, hc, hcov⟩
    have hns : c.route.metadata.namespace = controlPlaneNamespace cp := by
      simp only [attached, Bool.and_eq_true, beq_iff_eq] at ha
      exact ha.1
    exact ⟨(mem_afterPass_fresh (o := .httpRoute c.route) hempty hns).mp hr, ha, hc, hcov⟩
  · rintro ⟨hr, ha, hc, hcov⟩
    exact ⟨accepts_buildGateway hhost hl, (mem_afterPass_fresh hempty
      (namespace_of_mem_objectsApplied hr)).mpr hr, ha, hc, hcov⟩

/-- A route that can match is among the objects of a pass that applies both groups. -/
theorem HTTPSMatch.mem {r : HTTPRoute} {m : HTTPRouteMatch} (h : HTTPSMatch cp req r m)
    (hgated : appliesGated env cp = true) : .httpRoute r ∈ objectsApplied env cp := by
  rw [mem_objectsApplied, mem_objectsAlways, mem_objectsRequiringTokensmith]
  cases h with
  | tokensmith hd hpath => simp [hd]
  | smdPublic hd hget hpath => simp [hd, List.ne_nil_of_mem hpath]
  | bootPublic hd hget hpath => simp [hd, List.ne_nil_of_mem hpath]
  | metadataPublic hd hu => simp [hd]
  | gated x hx hd hu =>
    simp only [gatedTable, List.mem_cons, List.not_mem_nil, or_false] at hx
    rcases hx with rfl | rfl | rfl | rfl <;> simp_all

/-- The requests that need no token on the HTTPS listener. -/
def openHTTPS (cp : ControlPlane) (req : Request) : Prop :=
  serviceDeployedInCluster cp .tokensmith = true ∧ req.path ∈ tokensmithPaths ∨
  req.method = .GET ∧ (req.path ∈ smdPublicPaths cp ∧ serviceDeployedInCluster cp .smd = true ∨
    req.path ∈ bootPublicPaths cp ∧ serviceDeployedInCluster cp .bootService = true) ∨
  serviceDeployedInCluster cp .metadataService = true ∧
    under req.path pathMetadataPrefix = true ∧ under req.path pathMetadataAdmin = false

theorem gatedTable_name {x : HTTPRoute × Service × String} (hx : x ∈ gatedTable cp) :
    x.1.metadata.name ∈ gatedRoutes.map Prod.fst := by
  simp only [gatedTable, List.mem_cons, List.not_mem_nil, or_false] at hx
  rcases hx with rfl | rfl | rfl | rfl
  · exact (by decide : routeSMD ∈ gatedRoutes.map Prod.fst)
  · exact (by decide : routeBootService ∈ gatedRoutes.map Prod.fst)
  · exact (by decide : routeBootAdmin ∈ gatedRoutes.map Prod.fst)
  · exact (by decide : routeMetadataAdmin ∈ gatedRoutes.map Prod.fst)

/-- An open request matches a route without policy: by an exact path, or below the metadata path. -/
theorem openHTTPS_match (h : openHTTPS cp req) : ∃ r m, HTTPSMatch cp req r m ∧
    (m.path.isExact = true ∨
      under req.path pathMetadataPrefix = true ∧ under req.path pathMetadataAdmin = false) := by
  rcases h with ⟨hd, hp⟩ | ⟨hget, ⟨hp, hd⟩ | ⟨hp, hd⟩⟩ | ⟨hd, hu, hna⟩
  · exact ⟨_, _, .tokensmith hd hp, Or.inl rfl⟩
  · exact ⟨_, _, .smdPublic hd hget hp, Or.inl rfl⟩
  · exact ⟨_, _, .bootPublic hd hget hp, Or.inl rfl⟩
  · exact ⟨_, _, .metadataPublic hd hu, Or.inr ⟨hu, hna⟩⟩

/-- No gated route has a request below the metadata path, except the admin route. -/
theorem gated_disjoint {x : HTTPRoute × Service × String} (hx : x ∈ gatedTable cp)
    (hx' : under req.path x.2.2 = true) (hu : under req.path pathMetadataPrefix = true) :
    x.2.2 = pathMetadataAdmin := by
  have hnest := nested_of_under hx' hu
  simp only [gatedTable, List.mem_cons, List.not_mem_nil, or_false] at hx
  rcases hx with rfl | rfl | rfl | rfl
  · exact absurd hnest (show ¬ (hasPrefix pathSMDPrefix pathMetadataPrefix = true ∨
      hasPrefix pathMetadataPrefix pathSMDPrefix = true) by decide)
  · exact absurd hnest (show ¬ (hasPrefix pathBootPrefix pathMetadataPrefix = true ∨
      hasPrefix pathMetadataPrefix pathBootPrefix = true) by decide)
  · exact absurd hnest (show ¬ (hasPrefix pathBootAdmin pathMetadataPrefix = true ∨
      hasPrefix pathMetadataPrefix pathBootAdmin = true) by decide)
  · rfl

section Pass

variable (hempty : ∀ o ∈ s, o.metadata.namespace ≠ controlPlaneNamespace cp)
  (hgated : appliesGated env cp = true)
  (hhost : hostnameCovers cp.spec.domain req.host = true)

include hempty hhost in
theorem https_winner (hl : req.listener = listenerHTTPS)
    (hc : c ∈ candidates (routes (afterPass env cp s)) (buildGateway cp) req) :
    .httpRoute c.route ∈ objectsApplied env cp ∧ HTTPSMatch cp req c.route c.routeMatch ∧
      forwards c.rule ∧ c.hostname = cp.spec.domain := by
  obtain ⟨hr, ha, hc, hcov⟩ := (mem_candidates_fresh hempty hhost (Or.inr hl)).mp hc
  simp only [attached, Bool.and_eq_true, List.contains_iff_mem, hl] at ha
  obtain ⟨hm, hf, hh⟩ := httpsMatch_of_candidate hr ha.2 hc hcov
  exact ⟨hr, hm, hf, hh⟩

include hempty hgated hhost in
theorem https_exists_candidate (hl : req.listener = listenerHTTPS) {r : HTTPRoute}
    {m : HTTPRouteMatch} (h : HTTPSMatch cp req r m) :
    ∃ c ∈ candidates (routes (afterPass env cp s)) (buildGateway cp) req, c.routeMatch = m := by
  obtain ⟨⟨c, hc, hm, hcov⟩, ha⟩ := exists_candidate h hhost
  obtain ⟨rfl, -⟩ := mem_route_candidates.mp hc
  exact ⟨c, (mem_candidates_fresh hempty hhost (Or.inr hl)).mpr
    ⟨h.mem hgated, by rwa [hl], hc, hcov⟩, hm⟩

include hempty hgated hhost in
/-- **The HTTPS listener after one complete pass.** -/
theorem https_open_iff (hl : req.listener = listenerHTTPS) :
    (∃ b, respondTo (afterPass env cp s) (buildGateway cp) req = .backend b false) ↔
      openHTTPS cp req := by
  constructor
  · rintro ⟨b, hb⟩
    obtain ⟨c, hdisp, -, hjwt⟩ := respondTo_backend hb
    obtain ⟨hcand, hmax⟩ := dispatch_eq_some hdisp
    obtain ⟨hr, hm, -, hh⟩ := https_winner hempty hhost hl hcand
    have hopen : c.route.metadata.name ∉ gatedRoutes.map Prod.fst := by
      rw [← jwtChecked_fresh hempty hr, hjwt]; simp
    generalize hroute : c.route = r at hm hopen
    generalize hmatch : c.routeMatch = m at hm
    cases hm with
    | tokensmith hd hp => exact Or.inl ⟨hd, hp⟩
    | smdPublic hd hget hp => exact Or.inr (Or.inl ⟨hget, Or.inl ⟨hp, hd⟩⟩)
    | bootPublic hd hget hp => exact Or.inr (Or.inl ⟨hget, Or.inr ⟨hp, hd⟩⟩)
    | metadataPublic hd hu =>
      refine Or.inr (Or.inr ⟨hd, hu, ?_⟩)
      -- below the admin path the longer prefix of the admin route would win
      by_contra hadm
      have hadm' : under req.path pathMetadataAdmin = true := by simpa using hadm
      obtain ⟨d, hd', hdm⟩ := https_exists_candidate hempty hgated hhost hl
        (.gated (buildMetadataAdminRoute cp, .metadataService, pathMetadataAdmin)
          (by simp [gatedTable]) hd hadm')
      obtain ⟨-, -, -, hdh⟩ := https_winner hempty hhost hl hd'
      have hlen := length_le_of_rank_le (hdh.trans hh.symm) (hmax d hd') (by rw [hmatch]; rfl)
      rw [hmatch, hdm] at hlen
      exact absurd hlen (show ¬ pathMetadataAdmin.length ≤ pathMetadataPrefix.length by decide)
    | gated x hx hd hu => exact absurd (gatedTable_name hx) hopen
  · intro hopen
    obtain ⟨r, m, hmatch, hkind⟩ := openHTTPS_match hopen
    obtain ⟨u, hu, hum⟩ := https_exists_candidate hempty hgated hhost hl hmatch
    rcases hdisp : dispatch (routes (afterPass env cp s)) (buildGateway cp) req with _ | w
    · rw [dispatch_eq_none] at hdisp
      simp [hdisp] at hu
    obtain ⟨hcand, hmax⟩ := dispatch_eq_some hdisp
    obtain ⟨hr, hw, ⟨hf, b, hb⟩, hh⟩ := https_winner hempty hhost hl hcand
    obtain ⟨-, -, -, huh⟩ := https_winner hempty hhost hl hu
    refine ⟨b, (respondTo_of_dispatch hdisp hf hb).trans ?_⟩
    have hnot : w.route.metadata.name ∉ gatedRoutes.map Prod.fst := by
      generalize hroute : w.route = r' at hw
      generalize hwm : w.routeMatch = m' at hw
      cases hw with
      | tokensmith hd hp => exact (by decide : routeTokensmith ∉ gatedRoutes.map Prod.fst)
      | smdPublic hd hget hp => exact (by decide : routeSMDPublic ∉ gatedRoutes.map Prod.fst)
      | bootPublic hd hget hp => exact (by decide : routeBootPublic ∉ gatedRoutes.map Prod.fst)
      | metadataPublic hd hu => exact (by decide : routeMetadataPublic ∉ gatedRoutes.map Prod.fst)
      | gated x hx hd hux =>
        exfalso
        rcases hkind with hexact | ⟨hu', hna⟩
        · have := isExact_of_rank_le (huh.trans hh.symm) (hmax u hu) (by rw [hum]; exact hexact)
          rw [hwm] at this
          cases this
        · rw [gated_disjoint hx hux hu'] at hux
          simp [hna] at hux
    rw [← jwtChecked_fresh hempty hr] at hnot
    rw [Bool.eq_false_iff.mpr hnot]

include hempty hhost in
theorem http_winner (hl : req.listener = listenerHTTP)
    (hc : c ∈ candidates (routes (afterPass env cp s)) (buildGateway cp) req) :
    .httpRoute c.route ∈ objectsApplied env cp ∧ c.hostname = cp.spec.domain ∧
      (c.route = buildHTTPRedirectRoute cp ∧ c.routeMatch = { path := .pathPrefix "/" } ∧
        c.rule.redirect? = some ("https", 301) ∨
      c.route = buildPublicReadOnlyRoute cp routeBootPublicHTTP (httpParentRef cp) .bootService
          bootServicePort (bootHTTPPublicPaths cp) ∧ c.routeMatch.path = .exact req.path ∧
        req.method = .GET ∧ req.path ∈ bootHTTPPublicPaths cp ∧ forwards c.rule) := by
  obtain ⟨hr, ha, hc, hcov⟩ := (mem_candidates_fresh hempty hhost (Or.inl hl)).mp hc
  simp only [attached, Bool.and_eq_true, List.contains_iff_mem, hl] at ha
  obtain ⟨hh, hcase⟩ := http_candidate hr ha.2 hc hcov
  exact ⟨hr, hh, hcase⟩

variable (env) in
include hempty hhost in
theorem http_redirect_candidate (hl : req.listener = listenerHTTP) :
    ∃ c, c ∈ candidates (routes (afterPass env cp s)) (buildGateway cp) req := by
  refine ⟨⟨buildHTTPRedirectRoute cp, { filters := [.requestRedirect "https" 301] },
    { path := .pathPrefix "/" }, cp.spec.domain⟩,
    (mem_candidates_fresh hempty hhost (Or.inl hl)).mpr ⟨?_, ?_, ?_, ?_⟩⟩
  · rw [mem_objectsApplied, mem_objectsAlways]
    exact Or.inl (Or.inr (Or.inl rfl))
  · rw [hl]; exact attached_buildRoute.mpr rfl
  · exact mem_buildRoute_candidates.mpr ⟨rfl, List.mem_singleton_self _, by
      simp [HTTPRouteRule.effectiveMatches], rfl⟩
  · have hslash : trimSuffix "/" "/" = "" := by decide
    have hroot := req.rooted
    simp [Candidate.covers, HTTPRouteMatch.covers, PathMatch.covers, hslash, under, hhost, hroot]

variable (env) in
include hempty hhost in
theorem http_script_candidate (hl : req.listener = listenerHTTP) (hget : req.method = .GET)
    (hpath : req.path ∈ bootHTTPPublicPaths cp) :
    ∃ c ∈ candidates (routes (afterPass env cp s)) (buildGateway cp) req,
      c.routeMatch = { path := .exact req.path, method := some .GET } := by
  obtain ⟨d, hd, hdm, hdcov⟩ : ∃ d ∈ (buildPublicReadOnlyRoute cp routeBootPublicHTTP
      (httpParentRef cp) .bootService bootServicePort (bootHTTPPublicPaths cp)).candidates,
      d.routeMatch = { path := .exact req.path, method := some .GET } ∧ d.covers req = true :=
    exists_public_candidate hhost hget hpath
  obtain ⟨hdr, -⟩ := mem_route_candidates.mp hd
  refine ⟨d, (mem_candidates_fresh hempty hhost (Or.inl hl)).mpr ⟨?_, ?_, by rwa [hdr], hdcov⟩, hdm⟩
  · rw [hdr, mem_objectsApplied, mem_objectsAlways]
    simp [List.ne_nil_of_mem hpath]
  · rw [hdr, hl]; exact attached_buildRoute.mpr rfl

variable (env) in
include hempty hhost in
/-- **The HTTP listener after one complete pass.** -/
theorem http_open_iff (hl : req.listener = listenerHTTP) :
    (req.method = .GET ∧ req.path ∈ bootHTTPPublicPaths cp →
      ∃ b, respondTo (afterPass env cp s) (buildGateway cp) req = .backend b false) ∧
    (¬ (req.method = .GET ∧ req.path ∈ bootHTTPPublicPaths cp) →
      respondTo (afterPass env cp s) (buildGateway cp) req = .redirect "https" 301) := by
  obtain ⟨u, hu⟩ := http_redirect_candidate env hempty hhost hl
  rcases hdisp : dispatch (routes (afterPass env cp s)) (buildGateway cp) req with _ | w
  · rw [dispatch_eq_none] at hdisp
    simp [hdisp] at hu
  obtain ⟨hwc, hmax⟩ := dispatch_eq_some hdisp
  obtain ⟨hr, hh, hcase⟩ := http_winner hempty hhost hl hwc
  constructor
  · rintro ⟨hget, hpath⟩
    rcases hcase with ⟨-, hwm, -⟩ | ⟨hwr, -, -, -, hf, b, hb⟩
    · -- the exact match of the boot script wins over the redirect
      obtain ⟨d, hdc, hdm⟩ := http_script_candidate env hempty hhost hl hget hpath
      obtain ⟨-, hdh, -⟩ := http_winner hempty hhost hl hdc
      have := isExact_of_rank_le (hdh.trans hh.symm) (hmax d hdc) (by rw [hdm]; rfl)
      rw [hwm] at this
      cases this
    · refine ⟨b, (respondTo_of_dispatch hdisp hf hb).trans ?_⟩
      have hnot : jwtChecked (policies (afterPass env cp s)) w.route ≠ true := by
        rw [Ne, jwtChecked_fresh hempty hr, hwr]
        exact (by decide : routeBootPublicHTTP ∉ gatedRoutes.map Prod.fst)
      rw [Bool.eq_false_iff.mpr hnot]
  · intro hnot
    rcases hcase with ⟨-, -, hred⟩ | ⟨-, -, hget, hpath, -⟩
    · simp [respondTo, respond, hdisp, hred]
    · exact absurd ⟨hget, hpath⟩ hnot

end Pass

end Fresh

/-- **The routing table of a converged gateway**: after a pass that has applied both groups of
objects into an empty namespace, a request for the domain of the cluster reaches a backend without
a token exactly when it is open; on the HTTP listener every other request is redirected. -/
theorem converged_routing (env : Observed) (cp : ControlPlane) (n m : Net Objects) (o : Outcome)
    (hrun : (reconcile env cp).run n = (.ok o, m))
    (hcert : isStatusConditionTrue cp.status.conditions .certificatesValid = true)
    (hgated : appliesGated env cp = true)
    (hempty : ∀ x ∈ n.state, x.metadata.namespace ≠ controlPlaneNamespace cp)
    (g : GatewayApi.Gateway) (hg : .gateway g ∈ m.state)
    (hgns : g.metadata.namespace = controlPlaneNamespace cp) (req : Request)
    (hhost : hostnameCovers cp.spec.domain req.host = true) :
    (req.listener = listenerHTTPS →
      ((∃ b, respondTo m.state g req = .backend b false) ↔ openHTTPS cp req)) ∧
    (req.listener = listenerHTTP →
      ((∃ b, respondTo m.state g req = .backend b false) ↔
        req.method = .GET ∧ req.path ∈ bootHTTPPublicPaths cp) ∧
      (¬ (req.method = .GET ∧ req.path ∈ bootHTTPPublicPaths cp) →
        respondTo m.state g req = .redirect "https" 301)) := by
  have hm : m.state = afterPass env cp n.state := by
    rw [reconcile_state_of_ok hrun, if_pos hcert]
  have hgw : g = buildGateway cp := by
    rw [hm, mem_afterPass_fresh (o := .gateway g) hempty hgns, mem_objectsApplied, mem_objectsAlways,
      mem_objectsRequiringTokensmith] at hg
    simpa using hg
  subst hgw
  rw [hm]
  refine ⟨https_open_iff hempty hgated hhost, fun hl => ?_⟩
  obtain ⟨hopen, hredirect⟩ := http_open_iff env hempty hhost hl
  refine ⟨⟨?_, hopen⟩, hredirect⟩
  rintro ⟨b, hb⟩
  by_contra hnot
  rw [hredirect hnot] at hb
  cases hb

/-- A cluster that runs all four services, with a valid certificate and tokensmith ready. -/
def fullPlane : ControlPlane where
  spec := { clusterName := "alpha", domain := "alpha.example.org",
            services := { smd := { enabled := true }, tokensmith := { enabled := true },
                          bootService := { enabled := true },
                          metadataService := { enabled := true } } }
  status := { conditions := [{ type := .certificatesValid, status := .true, reason := "Ready" }],
              services := GoMap.ofList [("tokensmith", { ready := true })] }

/-- A node fetches its cloud-init data. -/
def cloudInitRequest : Request where
  listener := listenerHTTPS
  host := "alpha.example.org"
  method := .GET
  path := "/cloud-init/user-data"
  rooted := by decide

theorem converged_routing_fullPlane : ∃ o m,
    (reconcile ⟨true, true⟩ fullPlane).run ⟨Store.empty, []⟩ = (.ok o, m) ∧
      ∃ b, respondTo m.state (buildGateway fullPlane) cloudInitRequest = .backend b false := by
  obtain ⟨o, t, hrun⟩ := reconcile_succeeds ⟨true, true⟩ fullPlane Store.empty
  have hcert : isStatusConditionTrue fullPlane.status.conditions .certificatesValid = true := by
    decide
  have hg : .gateway (buildGateway fullPlane) ∈ t := by
    have ht : t = _ := reconcile_state_of_ok hrun
    rw [ht, if_pos hcert, mem_afterPass]
    exact Or.inl (mem_objectsApplied.mpr (Or.inl (mem_objectsAlways.mpr (Or.inl rfl))))
  refine ⟨o, _, hrun, ((converged_routing ⟨true, true⟩ fullPlane ⟨Store.empty, []⟩ _ o hrun hcert
    (by decide) (fun x hx => absurd hx (Store.not_mem_empty x)) _ hg rfl cloudInitRequest
    (by decide)).1 rfl).mpr ?_⟩
  exact Or.inr (Or.inr (by decide))

end OpenchamiOperator.Reconcilers.Gateway
