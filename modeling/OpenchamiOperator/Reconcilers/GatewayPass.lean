import OpenchamiOperator.Reconcilers.Gateway

/-! # What a pass of the gateway reconciler leaves behind

* `reconcile_state_of_ok`: after a pass that returns without error, the objects are those before
  it, with the objects of the pass applied and the stale public routes deleted; with an invalid
  certificate nothing has changed.
* `reconcile_state`: wherever a pass stops, some first part of its objects has been applied, and
  besides that at most public routes have been deleted.
* `mem_applied`: what is stored after applying the objects of a pass. -/

namespace OpenchamiOperator.Reconcilers.Gateway

open Lib Lib.Strings Lib.GatewayApi Api

/-! ### The keys of the objects -/

/-- The kinds and names of `objectsAlways`, in its order. -/
def alwaysNames : List (Kind × String) :=
  [(.Gateway, gatewayName), (.HTTPRoute, routeHTTPRedirect)] ++
  [(.HTTPRoute, routeTokensmith)] ++ [(.HTTPRoute, routeMetadataPublic)] ++
  [(.HTTPRoute, routeSMDPublic)] ++ [(.HTTPRoute, routeBootPublic)] ++
  [(.HTTPRoute, routeBootPublicHTTP)]

/-- The kinds and names of `objectsRequiringTokensmith`, in its order. -/
def gatedNames : List (Kind × String) :=
  [(.BackendTLSPolicy, jwksBackendTLSPolicyName)] ++
  [(.HTTPRoute, routeSMD), (.SecurityPolicy, policyJWTSMD),
    (.BackendTrafficPolicy, policySMDRateLimit)] ++
  [(.HTTPRoute, routeBootService), (.HTTPRoute, routeBootAdmin), (.SecurityPolicy, policyJWTBoot),
    (.SecurityPolicy, policyJWTBootAdmin)] ++
  [(.HTTPRoute, routeMetadataAdmin), (.SecurityPolicy, policyJWTMetaAdmin)]

/-- The kinds and names of all objects a pass can apply. -/
def objectNames : List (Kind × String) := alwaysNames ++ gatedNames

theorem objectNames_nodup : objectNames.Nodup := by decide

/-- The key of an object of the control plane. -/
def keyIn (cp : ControlPlane) (k : Kind × String) : Kind × String × String :=
  (k.1, controlPlaneNamespace cp, k.2)

theorem keyIn_injective (cp : ControlPlane) : Function.Injective (keyIn cp) := by
  rintro ⟨k, a⟩ ⟨l, b⟩ h
  simp only [keyIn, Prod.mk.injEq, true_and] at h
  rw [h.1, h.2]

theorem map_ite_sublist {α β : Type} (f : α → β) (c : Prop) [Decidable c] {l : List α}
    {l' : List β} (h : l.map f = l') : ((if c then l else []).map f).Sublist l' := by
  split_ifs
  · rw [h]
  · exact List.nil_sublist _

theorem map_key_objectsAlways (cp : ControlPlane) :
    ((objectsAlways cp).map Object.key).Sublist (alwaysNames.map (keyIn cp)) := by
  unfold objectsAlways alwaysNames
  simp only [List.map_append]
  refine List.Sublist.append (List.Sublist.append (List.Sublist.append (List.Sublist.append
    (List.Sublist.append (List.Sublist.refl _) ?_) ?_) ?_) ?_) ?_
  · exact map_ite_sublist _ _ rfl
  · exact map_ite_sublist _ _ rfl
  · exact map_ite_sublist _ _ rfl
  · exact map_ite_sublist _ _ rfl
  · exact map_ite_sublist _ _ rfl

theorem map_key_objectsRequiringTokensmith (cp : ControlPlane) (btls : Bool) :
    ((objectsRequiringTokensmith cp btls).map Object.key).Sublist
      (gatedNames.map (keyIn cp)) := by
  unfold objectsRequiringTokensmith gatedNames
  simp only [List.map_append]
  refine List.Sublist.append (List.Sublist.append (List.Sublist.append ?_ ?_) ?_) ?_
  · exact map_ite_sublist _ _ rfl
  · exact map_ite_sublist _ _ rfl
  · exact map_ite_sublist _ _ rfl
  · exact map_ite_sublist _ _ rfl

variable {env : Observed} {cp : ControlPlane}

theorem map_key_objectsApplied :
    ((objectsApplied env cp).map Object.key).Sublist (objectNames.map (keyIn cp)) := by
  have halways := map_key_objectsAlways cp
  unfold objectsApplied objectNames
  rw [List.map_append]
  split_ifs
  · rw [List.map_append]
    exact halways.append (map_key_objectsRequiringTokensmith cp _)
  · exact halways.trans (List.sublist_append_left _ _)

theorem objectsApplied_nodup : ((objectsApplied env cp).map Object.key).Nodup :=
  (objectNames_nodup.map (keyIn_injective cp)).sublist map_key_objectsApplied

/-- Every object of a pass lies in the namespace of the control plane. -/
theorem namespace_of_mem_objectsApplied {o : Object} (h : o ∈ objectsApplied env cp) :
    o.metadata.namespace = controlPlaneNamespace cp := by
  have hk := map_key_objectsApplied.subset (List.mem_map_of_mem (f := Object.key) h)
  obtain ⟨k, -, hk⟩ := List.mem_map.mp hk
  exact (congrArg (fun x : Kind × String × String => x.2.1) hk).symm

/-! ### The objects of a pass -/

theorem mem_objectsApplied {o : Object} : o ∈ objectsApplied env cp ↔ o ∈ objectsAlways cp ∨
    appliesGated env cp = true ∧ o ∈ objectsRequiringTokensmith cp env.btlsAvailable := by
  unfold objectsApplied
  split_ifs with h <;> simp [h]

theorem mem_objectsAlways {o : Object} : o ∈ objectsAlways cp ↔
    o = .gateway (buildGateway cp) ∨ o = .httpRoute (buildHTTPRedirectRoute cp) ∨
    serviceDeployedInCluster cp .tokensmith = true ∧ o = .httpRoute (buildTokensmithRoute cp) ∨
    serviceDeployedInCluster cp .metadataService = true ∧
      o = .httpRoute (buildMetadataPublicRoute cp) ∨
    (serviceDeployedInCluster cp .smd = true ∧ smdPublicPaths cp ≠ []) ∧
      o = .httpRoute (buildPublicReadOnlyRoute cp routeSMDPublic (httpsParentRef cp) .smd smdPort
        (smdPublicPaths cp)) ∨
    (serviceDeployedInCluster cp .bootService = true ∧ bootPublicPaths cp ≠ []) ∧
      o = .httpRoute (buildPublicReadOnlyRoute cp routeBootPublic (httpsParentRef cp) .bootService
        bootServicePort (bootPublicPaths cp)) ∨
    bootHTTPPublicPaths cp ≠ [] ∧
      o = .httpRoute (buildPublicReadOnlyRoute cp routeBootPublicHTTP (httpParentRef cp)
        .bootService bootServicePort (bootHTTPPublicPaths cp)) := by
  simp only [objectsAlways, List.mem_append, List.mem_cons, List.not_mem_nil, or_false,
    List.mem_ite_nil_right, Bool.and_eq_true, decide_eq_true_eq, or_assoc]

theorem mem_objectsRequiringTokensmith {o : Object} {btls : Bool} :
    o ∈ objectsRequiringTokensmith cp btls ↔
    ((serviceDeployedInCluster cp .tokensmith = true ∧ tokensmithMTLSEnabled cp = true) ∧
      btls = true) ∧ o = .backendTLSPolicy (buildJWKSBackendTLSPolicy cp) ∨
    serviceDeployedInCluster cp .smd = true ∧ (o = .httpRoute (buildSMDRoute cp) ∨
      o = .securityPolicy (buildSecurityPolicy cp policyJWTSMD routeSMD) ∨
      o = .backendTrafficPolicy (buildSMDRateLimit cp)) ∨
    serviceDeployedInCluster cp .bootService = true ∧ (o = .httpRoute (buildBootServiceRoute cp) ∨
      o = .httpRoute (buildBootAdminRoute cp) ∨
      o = .securityPolicy (buildSecurityPolicy cp policyJWTBoot routeBootService) ∨
      o = .securityPolicy (buildSecurityPolicy cp policyJWTBootAdmin routeBootAdmin)) ∨
    serviceDeployedInCluster cp .metadataService = true ∧
      (o = .httpRoute (buildMetadataAdminRoute cp) ∨
      o = .securityPolicy (buildSecurityPolicy cp policyJWTMetaAdmin routeMetadataAdmin)) := by
  simp only [objectsRequiringTokensmith, List.mem_append, List.mem_cons, List.not_mem_nil, or_false,
    List.mem_ite_nil_right, Bool.and_eq_true, or_assoc]

theorem mem_stalePublicRoutes {name : String} : name ∈ stalePublicRoutes cp ↔
    (serviceDeployedInCluster cp .smd = false ∨ smdPublicPaths cp = []) ∧ name = routeSMDPublic ∨
    (serviceDeployedInCluster cp .bootService = false ∨ bootPublicPaths cp = []) ∧
      name = routeBootPublic ∨
    bootHTTPPublicPaths cp = [] ∧ name = routeBootPublicHTTP := by
  simp only [stalePublicRoutes, List.mem_append, List.mem_ite_nil_right, List.mem_singleton,
    Bool.or_eq_true, Bool.not_eq_true', decide_eq_true_eq, or_assoc]

/-! ### The parts of a pass -/

/-- The keys of the public routes to delete. -/
def staleKeys (cp : ControlPlane) : List (Kind × String × String) :=
  (stalePublicRoutes cp).map (routeKey cp)

/-- The public routes that a pass may delete. -/
def publicRoutes : List String := [routeSMDPublic, routeBootPublic, routeBootPublicHTTP]

theorem mem_staleKeys {k : Kind × String × String} (h : k ∈ staleKeys cp) :
    ∃ name ∈ publicRoutes, k = (.HTTPRoute, controlPlaneNamespace cp, name) := by
  obtain ⟨name, hname, rfl⟩ := List.mem_map.mp h
  refine ⟨name, ?_, rfl⟩
  rcases mem_stalePublicRoutes.mp hname with ⟨-, rfl⟩ | ⟨-, rfl⟩ | ⟨-, rfl⟩ <;> decide

theorem applied_not_stale {o : Object} (ho : o ∈ objectsApplied env cp) : o.key ∉ staleKeys cp := by
  intro hs
  obtain ⟨name, hname, hk⟩ := List.mem_map.mp hs
  have hk' : o.key = keyIn cp (.HTTPRoute, name) := hk.symm
  rcases mem_objectsApplied.mp ho with ho | ⟨-, ho⟩
  · rw [mem_stalePublicRoutes] at hname
    rw [mem_objectsAlways] at ho
    rcases ho with rfl | rfl | ⟨-, rfl⟩ | ⟨-, rfl⟩ | ⟨hc, rfl⟩ | ⟨hc, rfl⟩ | ⟨hc, rfl⟩ <;>
      rcases hname with ⟨hd, rfl⟩ | ⟨hd, rfl⟩ | ⟨hd, rfl⟩ <;>
      first
      | simp [hc] at hd
      | simp [Object.key, Object.kind, Object.metadata, keyIn, objectMeta, buildGateway,
          buildHTTPRedirectRoute, buildTokensmithRoute, buildMetadataPublicRoute,
          buildPublicReadOnlyRoute, buildRoute, routeHTTPRedirect, routeTokensmith,
          routeMetadataPublic, routeSMDPublic, routeBootPublic, routeBootPublicHTTP] at hk'
  · have hmem := (map_key_objectsRequiringTokensmith cp _).subset
      (List.mem_map_of_mem (f := Object.key) ho)
    rw [hk'] at hmem
    have hstale : routeKey cp name ∈ staleKeys cp := List.mem_map_of_mem (f := routeKey cp) hname
    obtain ⟨name', hname', heq⟩ := mem_staleKeys hstale
    have : name = name' := by simpa [routeKey] using heq
    have hnot : ∀ name ∈ publicRoutes, (Kind.HTTPRoute, name) ∉ gatedNames := by decide
    exact hnot name (this ▸ hname') ((List.mem_map_of_injective (keyIn_injective cp)).mp hmem)

/-- The objects after a complete pass. -/
def afterPass (env : Observed) (cp : ControlPlane) (s : Objects) : Objects :=
  (s.applyAll (objectsApplied env cp)).deleteAll (staleKeys cp)

theorem deleteRoute_triple (t : Objects) (name : String) (rest : List String) (E : Objects → Prop)
    (hE : ∀ s : Objects, s.deleteAll ((name :: rest).map (routeKey cp)) = t → E s ∧
      E (s.delete (routeKey cp name))) :
    Prog.Triple (fun s : Objects => s.deleteAll ((name :: rest).map (routeKey cp)) = t)
      (Prog.ignoring isNotFound (fun e => (⟨"deleting stale HTTPRoute " ++ name, e⟩ : OpError))
        (deleteRoute cp name))
      (fun _ s => s.deleteAll (rest.map (routeKey cp)) = t) fun _ s => E s := by
  refine Prog.Triple.ignoring
    (E := fun e s => (isNotFound e = true → s.deleteAll (rest.map (routeKey cp)) = t) ∧ E s) ?_
    (fun e s he hs => hs.1 he) (fun e s _ hs => hs.2)
  refine Prog.Triple.request ?_ ?_ ?_ ?_
  · intro s a hs ha
    split_ifs at ha ⊢
    · exact hs
  · intro s e hs he
    split_ifs at he ⊢ with hhas
    · refine ⟨fun _ => ?_, (hE s hs).1⟩
      have hdel : s.delete (routeKey cp name) = s := Store.delete_of_not_has (by simpa using hhas)
      have hs' : (s.delete (routeKey cp name)).deleteAll (rest.map (routeKey cp)) = t := hs
      rwa [hdel] at hs'
  · intro s hs
    exact ⟨fun h => by simp [isNotFound] at h, (hE s hs).1⟩
  · intro s hs
    refine ⟨fun h => by simp [isNotFound] at h, ?_⟩
    split_ifs
    · exact (hE s hs).2
    · exact (hE s hs).1

theorem deleteStalePublicRoutes_triple (t : Objects) :
    Prog.Triple (fun s : Objects => s.deleteAll (staleKeys cp) = t) (deleteStalePublicRoutes cp)
      (fun _ s => s = t) fun _ _ => True := by
  refine Prog.Triple.forEach
    (I := fun names (s : Objects) => s.deleteAll (names.map (routeKey cp)) = t) fun name rest _ => ?_
  exact deleteRoute_triple t name rest (fun _ => True) fun _ _ => ⟨trivial, trivial⟩

/-- The deletions of a pass leave every other object alone, wherever they stop. -/
theorem deleteStalePublicRoutes_keeps (t : Objects) :
    Prog.Keeps (fun s : Objects => ∀ o : Object, o.key ∉ staleKeys cp → (o ∈ s ↔ o ∈ t))
      (deleteStalePublicRoutes cp) := by
  refine Prog.Keeps.forEach fun name hname => Prog.Keeps.ignoring (Prog.Keeps.request ?_)
  intro s hs
  split_ifs
  · intro o ho
    have hne : o.key ≠ routeKey cp name :=
      fun h => ho (h ▸ List.mem_map_of_mem (f := routeKey cp) hname)
    rw [Store.mem_delete, hs o ho]
    exact ⟨And.left, fun h => ⟨h, hne⟩⟩
  · exact hs

theorem reportStatus_keeps (I : Objects → Prop) : Prog.Keeps I (reportStatus env cp) := by
  unfold reportStatus
  split_ifs
  · exact Prog.Keeps.pure _
  · exact Prog.Keeps.pure _
  · refine Prog.Keeps.bind (Prog.Keeps.request fun s hs => hs) fun programmed => ?_
    dsimp only
    split_ifs
    · exact Prog.Keeps.pure _
    · exact Prog.Keeps.pure _

theorem applyObjects_triple (t : Objects) : ∀ l : List Object,
    Prog.Triple (fun s : Objects => s.applyAll l = t) (Prog.forEach l applyObject)
      (fun _ s => s = t) fun _ _ => True := by
  intro l
  refine Prog.Triple.forEach (I := fun rest (s : Objects) => s.applyAll rest = t) fun o rest _ => ?_
  exact Prog.Triple.request (fun s _ hs _ => hs) (fun _ _ _ _ => trivial) (fun _ _ => trivial)
    fun _ _ => trivial

/-- **A pass that returns nil.** -/
theorem reconcile_state_of_ok {n m : Net Objects} {o : Outcome}
    (h : (reconcile env cp).run n = (.ok o, m)) :
    m.state = if isStatusConditionTrue cp.status.conditions .certificatesValid then
      afterPass env cp n.state else n.state := by
  have htriple : Prog.Triple (fun s => s = n.state) (reconcile env cp) (fun _ s =>
      s = if isStatusConditionTrue cp.status.conditions .certificatesValid then
        afterPass env cp n.state else n.state) fun _ _ => True := by
    unfold reconcile
    rcases isStatusConditionTrue cp.status.conditions .certificatesValid with _ | _
    · exact Prog.Triple.pure fun s hs => hs
    · refine Prog.Triple.bind ((applyObjects_triple
        (n.state.applyAll (objectsApplied env cp)) (objectsApplied env cp)).conseq
        (fun s hs => by rw [hs]) (fun _ _ hs => hs) fun _ _ hs => hs) fun _ => ?_
      refine Prog.Triple.bind ((deleteStalePublicRoutes_triple (afterPass env cp n.state)).conseq
        (fun s hs => by rw [hs]; rfl) (fun _ _ hs => hs) fun _ _ hs => hs) fun _ => ?_
      exact (reportStatus_keeps _).conseq (fun _ hs => hs) (fun _ _ hs => hs) fun _ _ _ => trivial
  exact (htriple n rfl).1 o m h

theorem reconcile_succeeds (env : Observed) (cp : ControlPlane) :
    Prog.Succeeds (reconcile env cp) := by
  have hreport : Prog.Succeeds (reportStatus env cp) := by
    unfold reportStatus
    split_ifs
    · exact Prog.Succeeds.pure _
    · exact Prog.Succeeds.pure _
    · refine (Prog.Succeeds.request fun s => ⟨_, rfl⟩).bind fun programmed => ?_
      dsimp only
      split_ifs
      · exact Prog.Succeeds.pure _
      · exact Prog.Succeeds.pure _
  unfold reconcile
  split_ifs
  · exact Prog.Succeeds.pure _
  · refine (Prog.Succeeds.forEach fun o _ => Prog.Succeeds.request fun s => ⟨_, rfl⟩).bind fun _ => ?_
    refine (Prog.Succeeds.forEach fun name _ => Prog.Succeeds.ignoring ?_).bind fun _ => hreport
    intro s e he
    split_ifs at he
    · cases he; rfl

/-- What a complete pass leaves: its own objects, and the old ones that it neither replaces nor
deletes. -/
theorem mem_afterPass {s : Objects} {o : Object} : o ∈ afterPass env cp s ↔
    o ∈ objectsApplied env cp ∨ o ∈ s ∧ (∀ a ∈ objectsApplied env cp, o.key ≠ a.key) ∧
      o.key ∉ staleKeys cp := by
  rw [afterPass, Store.mem_deleteAll, Store.mem_applyAll objectsApplied_nodup]
  constructor
  · rintro ⟨h | ⟨h, hk⟩, hs⟩
    · exact Or.inl h
    · exact Or.inr ⟨h, hk, hs⟩
  · rintro (h | ⟨h, hk, hs⟩)
    · exact ⟨Or.inl h, applied_not_stale h⟩
    · exact ⟨Or.inr ⟨h, hk⟩, hs⟩

/-- How many objects of a pass get applied. -/
def appliedCount (env : Observed) (cp : ControlPlane) (fates : List Fate) : ℕ :=
  if isStatusConditionTrue cp.status.conditions .certificatesValid then
    Prog.effects fates (objectsApplied env cp).length
  else 0

/-- **Wherever a pass stops**, the objects other than stale public routes are those before it with
the first `appliedCount` objects of the pass applied. -/
theorem reconcile_mem (n : Net Objects) {o : Object} (ho : o.key ∉ staleKeys cp) :
    o ∈ ((reconcile env cp).run n).2.state ↔
      o ∈ n.state.applyAll ((objectsApplied env cp).take (appliedCount env cp n.fates)) := by
  unfold reconcile appliedCount
  rcases isStatusConditionTrue cp.status.conditions .certificatesValid with _ | _
  · rfl
  set t : Objects := n.state.applyAll
    ((objectsApplied env cp).take (Prog.effects n.fates (objectsApplied env cp).length)) with ht
  have hloop : ((Prog.forEach (objectsApplied env cp) applyObject).run n).2.state = t :=
    Prog.forEach_request_state _ (fun o s => s.apply o) _ n
  have hrest : Prog.Keeps (fun s : Objects => ∀ o : Object, o.key ∉ staleKeys cp →
      (o ∈ s ↔ o ∈ t)) (deleteStalePublicRoutes cp >>= fun _ => reportStatus env cp) :=
    (deleteStalePublicRoutes_keeps t).bind fun _ => reportStatus_keeps _
  rcases hrun : (Prog.forEach (objectsApplied env cp) applyObject).run n with ⟨e | a, m⟩
  · have hm : m.state = t := by rw [← hloop, hrun]
    have herr : (Prog.forEach (objectsApplied env cp) applyObject >>= fun _ =>
        deleteStalePublicRoutes cp >>= fun _ => reportStatus env cp).run n = (.error e, m) :=
      Prog.bind_run_error hrun
    simp only [Bool.not_true, Bool.false_eq_true, if_false, if_true, herr, hm]
    exact Iff.rfl
  · have hm : m.state = t := by rw [← hloop, hrun]
    have hok := Prog.bind_run_ok (f := fun _ => deleteStalePublicRoutes cp >>= fun _ =>
      reportStatus env cp) hrun
    simp only [Bool.not_true, Bool.false_eq_true, if_false, if_true, hok]
    exact hrest.state m (fun o _ => by rw [hm]) o ho

end OpenchamiOperator.Reconcilers.Gateway
