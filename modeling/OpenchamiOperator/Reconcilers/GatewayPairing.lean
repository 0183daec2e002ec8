import OpenchamiOperator.Reconcilers.GatewayPass

/-! # Routes and their policies

A route that needs a token is safe only together with its security policy. `Paired` says that every
such route that exists has its policy. The pass applies each route before its policy, so a pass that
stops between the two leaves the route alone: `paired_iff` says that this is the only way to lose
the pairing. -/

namespace OpenchamiOperator.Reconcilers.Gateway

open Lib Lib.Strings Lib.GatewayApi Api

/-- The routes that need a token, each with its policy. -/
def gatedRoutes : List (String × String) :=
  [(routeSMD, policyJWTSMD), (routeBootService, policyJWTBoot),
    (routeBootAdmin, policyJWTBootAdmin), (routeMetadataAdmin, policyJWTMetaAdmin)]

/-- The policy demands a token on the route. -/
def guards (sp : SecurityPolicy) (route : String) : Prop :=
  sp.jwtProviders ≠ [] ∧ ∃ t ∈ sp.targetRefs, t.kind = "HTTPRoute" ∧ t.name = route

/-- The policy `p.2` of the route `p.1` exists in the namespace. -/
def HasPolicy (s : Objects) (ns : String) (p : String × String) : Prop :=
  ∃ sp, .securityPolicy sp ∈ s ∧ sp.metadata.namespace = ns ∧ sp.metadata.name = p.2 ∧
    guards sp p.1

/-- Every route that needs a token and exists has its policy. -/
def Paired (s : Objects) : Prop :=
  ∀ ns, ∀ p ∈ gatedRoutes, s.has (.HTTPRoute, ns, p.1) = true → HasPolicy s ns p

/-- The pass stops after it has applied the route `p.1` and before it applies its policy `p.2`. -/
def stopsBetween (env : Observed) (cp : ControlPlane) (fates : List Fate) (p : String × String) :
    Prop :=
  keyIn cp (.HTTPRoute, p.1) ∈
      ((objectsApplied env cp).take (appliedCount env cp fates)).map Object.key ∧
    keyIn cp (.SecurityPolicy, p.2) ∈
      ((objectsApplied env cp).drop (appliedCount env cp fates)).map Object.key

instance (env : Observed) (cp : ControlPlane) (fates : List Fate) (p : String × String) :
    Decidable (stopsBetween env cp fates p) :=
  inferInstanceAs (Decidable (_ ∧ _))

variable {env : Observed} {cp : ControlPlane}

theorem guards_buildSecurityPolicy (name route : String) :
    guards (buildSecurityPolicy cp name route) route := by
  simp [guards, buildSecurityPolicy, httpRouteTargetRef]

/-- The key of a gated route or of its policy occurs in a pass only together with the policy. -/
theorem policy_mem {p : String × String} (hp : p ∈ gatedRoutes) {o : Object}
    (ho : o ∈ objectsApplied env cp)
    (hk : o.key = keyIn cp (.HTTPRoute, p.1) ∨ o.key = keyIn cp (.SecurityPolicy, p.2)) :
    .securityPolicy (buildSecurityPolicy cp p.2 p.1) ∈ objectsApplied env cp := by
  rw [mem_objectsApplied] at ho ⊢
  rcases ho with ho | ⟨hg, ho⟩
  · -- none of the objects of the first group has such a key
    exfalso
    have hmem := (map_key_objectsAlways cp).subset (List.mem_map_of_mem (f := Object.key) ho)
    have hnot : ∀ p ∈ gatedRoutes, (Kind.HTTPRoute, p.1) ∉ alwaysNames ∧
        (Kind.SecurityPolicy, p.2) ∉ alwaysNames := by decide
    rcases hk with hk | hk <;> rw [hk] at hmem
    · exact (hnot p hp).1 ((List.mem_map_of_injective (keyIn_injective cp)).mp hmem)
    · exact (hnot p hp).2 ((List.mem_map_of_injective (keyIn_injective cp)).mp hmem)
  · refine Or.inr ⟨hg, ?_⟩
    rw [mem_objectsRequiringTokensmith] at ho ⊢
    simp only [gatedRoutes, List.mem_cons, List.not_mem_nil, or_false] at hp
    rcases ho with ⟨-, rfl⟩ | ⟨h, rfl | rfl | rfl⟩ | ⟨h, rfl | rfl | rfl | rfl⟩ | ⟨h, rfl | rfl⟩ <;>
      rcases hp with rfl | rfl | rfl | rfl <;>
      first
      | (simp [h]; done)
      | simp [Object.key, Object.kind, Object.metadata, keyIn, objectMeta,
          buildJWKSBackendTLSPolicy, buildSMDRoute, buildSecurityPolicy, buildSMDRateLimit,
          buildBootServiceRoute, buildBootAdminRoute, buildMetadataAdminRoute, buildRoute,
          routeSMD, routeBootService, routeBootAdmin, routeMetadataAdmin, policyJWTSMD,
          policyJWTBoot, policyJWTBootAdmin, policyJWTMetaAdmin] at hk

/-- Neither the gated routes nor any policy are ever deleted by a pass. -/
theorem not_stale {o : Object} (h : o.kind = .SecurityPolicy ∨ ∃ p ∈ gatedRoutes,
    o.metadata.name = p.1) : o.key ∉ staleKeys cp := by
  intro hs
  obtain ⟨name, hname, hk⟩ := mem_staleKeys hs
  simp only [Object.key, Prod.mk.injEq] at hk
  rcases h with h | ⟨p, hp, h⟩
  · rw [hk.1] at h; cases h
  · have hdis : ∀ p ∈ gatedRoutes, p.1 ∉ publicRoutes := by decide
    exact hdis p hp (h ▸ hk.2.2 ▸ hname)

variable {n : Net Objects} {p : String × String} {ns : String}

theorem has_route_iff (hp : p ∈ gatedRoutes) :
    ((reconcile env cp).run n).2.state.has (.HTTPRoute, ns, p.1) = true ↔
      (.HTTPRoute, ns, p.1) ∈
        ((objectsApplied env cp).take (appliedCount env cp n.fates)).map Object.key ∨
      n.state.has (.HTTPRoute, ns, p.1) = true := by
  have hmem : ((reconcile env cp).run n).2.state.has (.HTTPRoute, ns, p.1) = true ↔
      (n.state.applyAll ((objectsApplied env cp).take (appliedCount env cp n.fates))).has
        (.HTTPRoute, ns, p.1) = true := by
    rw [Store.has_iff, Store.has_iff]
    constructor
    · rintro ⟨o, ho, hk⟩
      refine ⟨o, (reconcile_mem n (not_stale (Or.inr ⟨p, hp, ?_⟩))).mp ho, hk⟩
      exact congrArg (fun x : Kind × String × String => x.2.2) hk
    · rintro ⟨o, ho, hk⟩
      refine ⟨o, (reconcile_mem n (not_stale (Or.inr ⟨p, hp, ?_⟩))).mpr ho, hk⟩
      exact congrArg (fun x : Kind × String × String => x.2.2) hk
  rw [hmem, Store.has_applyAll, List.mem_map]

theorem mem_policy_iff {sp : SecurityPolicy} :
    .securityPolicy sp ∈ ((reconcile env cp).run n).2.state ↔
      .securityPolicy sp ∈ (objectsApplied env cp).take (appliedCount env cp n.fates) ∨
      .securityPolicy sp ∈ n.state ∧ (Object.securityPolicy sp).key ∉
        ((objectsApplied env cp).take (appliedCount env cp n.fates)).map Object.key := by
  rw [reconcile_mem n (not_stale (Or.inl rfl)),
    Store.mem_applyAll (objectsApplied_nodup.sublist ((List.take_sublist _ _).map _))]
  refine or_congr_right (and_congr_right fun _ => ?_)
  rw [List.mem_map]
  constructor
  · rintro h ⟨o, ho, hk⟩; exact h o ho hk.symm
  · intro h o ho hk; exact h ⟨o, ho, hk.symm⟩

theorem eq_policy (hp : p ∈ gatedRoutes) {o : Object} (ho : o ∈ objectsApplied env cp)
    (hk : o.key = keyIn cp (.SecurityPolicy, p.2)) :
    o = .securityPolicy (buildSecurityPolicy cp p.2 p.1) :=
  List.inj_on_of_nodup_map objectsApplied_nodup ho (policy_mem hp ho (Or.inr hk)) hk

theorem HasPolicy.after (hp : p ∈ gatedRoutes) (h : HasPolicy n.state ns p) :
    HasPolicy ((reconcile env cp).run n).2.state ns p := by
  obtain ⟨sp, hsp, hns, hname, hg⟩ := h
  by_cases hk : (Object.securityPolicy sp).key ∈
      ((objectsApplied env cp).take (appliedCount env cp n.fates)).map Object.key
  · -- the old policy has been replaced by the one of this pass
    obtain ⟨o, ho, hok⟩ := List.mem_map.mp hk
    have hcp : ns = controlPlaneNamespace cp := by
      rw [← hns, ← namespace_of_mem_objectsApplied (List.mem_of_mem_take ho)]
      exact congrArg (fun x : Kind × String × String => x.2.1) hok.symm
    have hokey : o.key = keyIn cp (.SecurityPolicy, p.2) := by
      rw [hok, keyIn, ← hcp, ← hns, ← hname]; rfl
    have heq := eq_policy hp (List.mem_of_mem_take ho) hokey
    exact ⟨buildSecurityPolicy cp p.2 p.1, mem_policy_iff.mpr (Or.inl (heq ▸ ho)), hcp.symm, rfl,
      guards_buildSecurityPolicy _ _⟩
  · exact ⟨sp, mem_policy_iff.mpr (Or.inr ⟨hsp, hk⟩), hns, hname, hg⟩

/-- **When a pass keeps every gated route with its policy**: exactly when it does not stop between a
route and its policy, or the policy was there before. -/
theorem paired_iff (env : Observed) (cp : ControlPlane) (n : Net Objects) (h : Paired n.state) :
    Paired ((reconcile env cp).run n).2.state ↔
      ∀ p ∈ gatedRoutes, stopsBetween env cp n.fates p →
        HasPolicy n.state (controlPlaneNamespace cp) p := by
  constructor
  · rintro hpaired p hp ⟨hroute, hpolicy⟩
    obtain ⟨sp, hsp, hns, hname, hg⟩ :=
      hpaired (controlPlaneNamespace cp) p hp ((has_route_iff hp).mpr (Or.inl hroute))
    rcases mem_policy_iff.mp hsp with hsp | ⟨hsp, -⟩
    · -- the policy would have been applied both before and after the stop
      exfalso
      have hkey : (Object.securityPolicy sp).key = keyIn cp (.SecurityPolicy, p.2) := by
        rw [keyIn, ← hns, ← hname]; rfl
      have hnodup : ((objectsApplied env cp).map Object.key).Nodup := objectsApplied_nodup
      rw [← List.take_append_drop (appliedCount env cp n.fates) (objectsApplied env cp),
        List.map_append] at hnodup
      exact List.disjoint_of_nodup_append hnodup
        (List.mem_map_of_mem (f := Object.key) hsp) (hkey ▸ hpolicy)
    · exact ⟨sp, hsp, hns, hname, hg⟩
  · intro hcond ns p hp hhas
    rcases (has_route_iff hp).mp hhas with hroute | hold
    · obtain ⟨o, ho, hok⟩ := List.mem_map.mp hroute
      have hcp : ns = controlPlaneNamespace cp := by
        rw [← namespace_of_mem_objectsApplied (List.mem_of_mem_take ho)]
        exact congrArg (fun x : Kind × String × String => x.2.1) hok.symm
      subst hcp
      have hpol := policy_mem hp (List.mem_of_mem_take ho) (Or.inl hok)
      rw [← List.take_append_drop (appliedCount env cp n.fates) (objectsApplied env cp),
        List.mem_append] at hpol
      rcases hpol with hpol | hpol
      · exact ⟨_, mem_policy_iff.mpr (Or.inl hpol), rfl, rfl, guards_buildSecurityPolicy _ _⟩
      · exact (hcond p hp ⟨hroute, List.mem_map_of_mem (f := Object.key) hpol⟩).after hp
    · exact (h ns p hp hold).after hp

theorem HasPolicy.has {s : Objects} (h : HasPolicy s ns p) :
    s.has (.SecurityPolicy, ns, p.2) = true := by
  obtain ⟨sp, hsp, rfl, hname, -⟩ := h
  exact Store.has_iff.mpr ⟨_, hsp, by rw [← hname]; rfl⟩

theorem paired_empty : Paired Store.empty := by
  intro ns p _ h
  exact absurd h (by simp [Store.has, Store.empty])

/-- A cluster that runs tokensmith and SMD, with a valid certificate and tokensmith ready. -/
def smdPlane : ControlPlane where
  spec := { clusterName := "alpha", domain := "alpha.example.org",
            services := { smd := { enabled := true, publicRoutes := { enabled := some false } },
                          tokensmith := { enabled := true } } }
  status := { conditions := [{ type := .certificatesValid, status := .true, reason := "Ready" }],
              services := GoMap.ofList [("tokensmith", { ready := true })] }

theorem paired_smdPlane : Paired Store.empty ∧
    Paired ((reconcile ⟨true, true⟩ smdPlane).run ⟨Store.empty, []⟩).2.state := by
  have hnever : ∀ p ∈ gatedRoutes, ¬ stopsBetween ⟨true, true⟩ smdPlane [] p := by decide
  exact ⟨paired_empty, (paired_iff ⟨true, true⟩ smdPlane ⟨Store.empty, []⟩ paired_empty).mpr
    fun p hp hstop => absurd hstop (hnever p hp)⟩

/-- The apply of the policy `jwt-smd` fails, after that of the route `smd`. -/
def policyApplyLost : List Fate := [.served, .served, .served, .served, .lost]

theorem smd_route_without_policy : Paired Store.empty ∧ ¬ Paired
    ((reconcile ⟨true, true⟩ smdPlane).run ⟨Store.empty, policyApplyLost⟩).2.state := by
  refine ⟨paired_empty, fun h => ?_⟩
  have hpol := (h "openchami-alpha" (routeSMD, policyJWTSMD) (by decide) (by decide)).has
  exact absurd hpol (by decide)

end OpenchamiOperator.Reconcilers.Gateway
