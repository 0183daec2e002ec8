import OpenchamiOperator.Controller.Readiness
import OpenchamiOperator.Controller.Territory
import OpenchamiOperator.Status.Metrics

/-! # What the gauges show

The registry is updated at the end of each pass that has no error, for the cluster of the pass. After
any calls for any clusters the series of a cluster are those of its last such pass.

* `told_writes`: who writes the state of the probe and the end of the certificate.
* `gauges_exact`: what the series of a cluster show. -/

namespace OpenchamiOperator.Controller

open Lib Api Reconcilers Status

/-! ### What a pass leaves in two more parts of the status -/

theorem told_writes {op : Operator} {obs : Observed} {cp : ControlPlane} {sub : Sub}
    {x : StatusWrite} (hx : x ∈ (program op obs cp sub).writes) : x.Told sub := by
  obtain ⟨a, ha, hax⟩ := List.mem_filterMap.mp hx
  exact (program_stays op obs cp sub a ha).2 x hax

section Pass

variable {env : Env} {cp : ControlPlane}

/-- A part of the status that some writes do not touch. -/
theorem status_writes {α : Type} {f : ControlPlane → α} {xs : List StatusWrite}
    (h : ∀ x ∈ xs, ∀ cp, f (x.apply cp) = f cp) (cp : ControlPlane) :
    f (xs.foldl StatusWrite.apply cp) = f cp :=
  List.foldlRecOn (motive := fun c => f c = f cp) xs _ rfl fun c hc x hx => (h x hx c).trans hc

theorem networkProbe_done {sub : Sub} (hsub : sub ≠ .networkProbe) (cp : ControlPlane) :
    (env.done cp sub).status.networkProbe = cp.status.networkProbe := by
  refine @status_writes _ (fun cp => cp.status.networkProbe) _ (fun x hx cp => ?_) cp
  have htold := told_writes hx
  cases x with
  | networkProbe p => exact absurd htold hsub
  | field f value => cases f <;> rfl
  | _ => rfl

theorem certExpiryTime_done {sub : Sub} (hsub : sub ≠ .certificates) (cp : ControlPlane) :
    (env.done cp sub).status.certExpiryTime = cp.status.certExpiryTime := by
  refine @status_writes _ (fun cp => cp.status.certExpiryTime) _ (fun x hx cp => ?_) cp
  have htold := told_writes hx
  cases x with
  | field f value =>
    cases f with
    | certExpiryTime => exact absurd htold hsub
    | _ => rfl
  | _ => rfl

/-- A part of the status that the calls of one sub-reconciler alone change. -/
theorem status_outcome {α : Type} (f : ControlPlane → α) (sub : Sub)
    (hkeep : ∀ sub', sub' ≠ sub → ∀ cp, f (env.done cp sub') = f cp) :
    f (env.outcome cp) = f (env.done (env.entering (activated cp) sub) sub) ∧
      f (env.entering (activated cp) sub) = f (activated cp) := by
  have hlist : ∀ (l : List Sub), sub ∉ l → ∀ cp, f (l.foldl env.done cp) = f cp := by
    intro l hnot cp
    refine List.foldlRecOn (motive := fun c => f c = f cp) l _ rfl fun c hc sub' hsub' => ?_
    exact (hkeep sub' (fun heq => hnot (heq ▸ hsub')) c).trans hc
  obtain ⟨pre, rest, hsplit⟩ := List.append_of_mem (mem_subs sub)
  have hnodup : (pre ++ sub :: rest).Nodup := hsplit ▸ subs_nodup
  have hrest : sub ∉ rest := (List.nodup_cons.mp (List.nodup_append.mp hnodup).2.1).1
  have hpre : sub ∉ pre := fun hmem =>
    (List.nodup_append.mp hnodup).2.2 sub hmem sub (by simp) rfl
  have henter : env.entering (activated cp) sub = pre.foldl env.done (activated cp) := by
    unfold Env.entering
    rw [takeWhile_subs hsplit.symm]
  refine ⟨?_, by rw [henter, hlist pre hpre]⟩
  unfold Env.outcome
  rw [hsplit, List.foldl_append, List.foldl_cons, hlist rest hrest, henter]

/-- The nodes that the probe has found in this pass. -/
def probedNodes (obs : Observed) (cp : ControlPlane) (kind : NetworkProbe.ProbeType) : List String :=
  if cp.spec.networkProbe.enabled && ((obs.daemonSets (buildProbeDaemonSet cp).name).map
      DaemonSetView.numberReady).getD 0 ≠ 0 then eligibleNodes obs cp kind
  else []

theorem probeNodes_done (cp : ControlPlane) : probeNodes (env.done cp .networkProbe) =
    ((probedNodes env.obs cp .provision).length, (probedNodes env.obs cp .bmc).length) := by
  have hcall : env.done cp .networkProbe =
      (reconcileNetworkProbe env.obs cp).writes.foldl StatusWrite.apply cp := rfl
  rw [hcall]
  unfold reconcileNetworkProbe reportProbe probedNodes
  by_cases hen : cp.spec.networkProbe.enabled = true
  · by_cases hnone : ((env.obs.daemonSets (buildProbeDaemonSet cp).name).map
        DaemonSetView.numberReady).getD 0 = 0
    · simp only [hen, hnone]
      rfl
    · have hon : (cp.spec.networkProbe.enabled && ((env.obs.daemonSets
          (buildProbeDaemonSet cp).name).map DaemonSetView.numberReady).getD 0 ≠ 0) = true := by
        simp [hen, hnone]
      rw [hon]
      rcases probeReady env.obs cp
      · simp only [hen, hnone]
        rfl
      · simp only [hen, hnone]
        rfl
  · simp only [hen]
    rfl

theorem probeNodes_outcome : probeNodes (env.outcome cp) =
    ((probedNodes env.obs cp .provision).length, (probedNodes env.obs cp .bmc).length) := by
  obtain ⟨houtcome, -⟩ := @status_outcome env cp _ (fun cp => cp.status.networkProbe) .networkProbe
    fun sub hsub cp => networkProbe_done hsub cp
  obtain ⟨-, hs⟩ := env.entering_frame (activated cp) .networkProbe
  have hnodes : ∀ kind, probedNodes env.obs (env.entering (activated cp) .networkProbe) kind =
      probedNodes env.obs cp kind := by
    intro kind
    unfold probedNodes eligibleNodes probeTargetConfig probeNetwork buildProbeDaemonSet objectIn
      controlPlaneNamespace
    rw [hs]
    rfl
  have hdone := @probeNodes_done env (env.entering (activated cp) .networkProbe)
  rw [hnodes, hnodes] at hdone
  rw [← hdone]
  unfold probeNodes
  rw [houtcome]

/-- When the certificate ends, if the pass could read it. -/
def notAfter? (obs : Observed) (cp : ControlPlane) : Option ℤ :=
  (obs.secrets (gatewayTLSSecretName cp)).bind fun secret =>
    (obs.notAfter (secret.data.getD "tls.crt" "")).toOption

theorem certExpiryTime_call (cp : ControlPlane) : (env.done cp .certificates).status.certExpiryTime =
    ((notAfter? env.obs cp).map env.obs.formatTime).getD cp.status.certExpiryTime := by
  have hcall : env.done cp .certificates =
      (reconcileCertificates env.obs cp).writes.foldl StatusWrite.apply cp := rfl
  rw [hcall]
  unfold reconcileCertificates notAfter?
  rcases env.obs.secrets (gatewayTLSSecretName cp) with _ | secret
  · rfl
  · simp only [Option.bind_some]
    rcases env.obs.notAfter (secret.data.getD "tls.crt" "") with e | t
    · rfl
    · unfold reportCertificate
      simp only
      split_ifs <;> rfl

theorem certExpiryTime_outcome : (env.outcome cp).status.certExpiryTime =
    ((notAfter? env.obs cp).map env.obs.formatTime).getD cp.status.certExpiryTime := by
  obtain ⟨houtcome, henter⟩ := @status_outcome env cp _ (fun cp => cp.status.certExpiryTime)
    .certificates fun sub hsub cp => certExpiryTime_done hsub cp
  obtain ⟨-, hs⟩ := env.entering_frame (activated cp) .certificates
  have hend : notAfter? env.obs (env.entering (activated cp) .certificates) =
      notAfter? env.obs cp := by
    unfold notAfter? gatewayTLSSecretName
    rw [hs]
    rfl
  have hprior : (env.entering (activated cp) .certificates).status.certExpiryTime =
      cp.status.certExpiryTime := henter
  have hcall := @certExpiryTime_call env (env.entering (activated cp) .certificates)
  rw [hend, hprior] at hcall
  exact houtcome.trans hcall

end Pass

/-! ### Calls -/

/-- One call of `reconcileAll`. -/
structure Visit where
  env : Env
  cp : ControlPlane
  world : World

/-- The object a call hands to `UpdateMetrics`, if it gets there. -/
def Visit.reported (v : Visit) : Option ControlPlane :=
  if pinnedElsewhere v.env.op v.cp || !v.env.op.reporter then none
  else match reconcileAll v.env.op (fullPass v.env v.cp) v.cp v.world with
    | (.ok _, cp', _) => some cp'
    | (.error _, _, _) => none

/-- The registry after a call. -/
def Visit.measure (r : Registry) (v : Visit) : Registry :=
  match v.reported with
  | some cp' => updateMetrics r cp'
  | none => r

theorem foldl_measure : ∀ (vs : List Visit) (r : Registry),
    vs.foldl Visit.measure r = (vs.filterMap Visit.reported).foldl updateMetrics r
  | [], _ => rfl
  | v :: vs, r => by
    rw [List.foldl_cons, foldl_measure vs, List.filterMap_cons]
    unfold Visit.measure
    rcases v.reported with _ | cp' <;> rfl

theorem Visit.reported_cases {v : Visit} {cp' : ControlPlane} (h : v.reported = some cp') :
    pinnedElsewhere v.env.op v.cp = false ∧ v.env.op.reporter = true ∧ ∃ n w',
      reconcileAll v.env.op (fullPass v.env v.cp) v.cp v.world = (.ok n, cp', w') := by
  unfold Visit.reported at h
  split_ifs at h with hskip
  have hgo : pinnedElsewhere v.env.op v.cp = false ∧ v.env.op.reporter = true := by
    simpa using hskip
  rcases hrun : reconcileAll v.env.op (fullPass v.env v.cp) v.cp v.world with ⟨e | n, c, w'⟩
  · rw [hrun] at h
    cases h
  · rw [hrun] at h
    obtain rfl := Option.some.inj h
    exact ⟨hgo.1, hgo.2, n, w', rfl⟩

theorem Visit.reported_of_run {v : Visit} {cp' : ControlPlane} {w' : World} {n : ℕ}
    (hpin : pinnedElsewhere v.env.op v.cp = false) (hreporter : v.env.op.reporter = true)
    (hrun : reconcileAll v.env.op (fullPass v.env v.cp) v.cp v.world = (.ok n, cp', w')) :
    v.reported = some cp' := by
  unfold Visit.reported
  rw [hpin, hreporter, hrun]
  rfl

theorem Visit.spec_reported {v : Visit} {cp' : ControlPlane} (h : v.reported = some cp') :
    cp'.spec = v.cp.spec := by
  obtain ⟨-, -, n, w', hrun⟩ := Visit.reported_cases h
  have hframe := (reconcileAll_frame v.env.op (fullPass v.env v.cp) v.cp v.world).2.1
  rwa [hrun] at hframe

/-- The series of a cluster after some calls are those of the last one that reported for it. -/
theorem get_measured {v : Visit} {cp' : ControlPlane} (hv : v.reported = some cp') {s : Series}
    {x : ℤ} (hs : (s, x) ∈ samples cp') {pre post : List Visit}
    (hlast : ∀ u ∈ post, u.reported.isSome → u.cp.spec.clusterName ≠ v.cp.spec.clusterName)
    (r : Registry) : (pre ++ v :: post).foldl Visit.measure r s = some x := by
  rw [foldl_measure, List.filterMap_append, List.filterMap_cons_some hv]
  refine get_run hs (fun c hc => ?_) r
  obtain ⟨u, hu, huc⟩ := List.mem_filterMap.mp hc
  rw [Visit.spec_reported huc, Visit.spec_reported hv]
  exact hlast u hu (by rw [huc]; rfl)

/-! ### What the series show -/

theorem computePhase_mem (cp : ControlPlane) : computePhase cp ∈ allPhases := by
  have hne : computePhase cp ≠ .unset := by
    unfold computePhase
    simp only
    split_ifs with h₁ h₂ h₃ h₄ h₅
    all_goals first | exact h₅ | decide
  cases hphase : computePhase cp with
  | unset => exact absurd hphase hne
  | _ => decide

theorem networkProbe_managed {op : Operator} {p : Pass} {cp : ControlPlane} :
    (computeAndSetPhase (managed op p cp)).1.status.networkProbe = cp.status.networkProbe ∧
      (computeAndSetPhase (managed op p cp)).1.status.certExpiryTime = cp.status.certExpiryTime := by
  unfold computeAndSetPhase managed aggregateServicesReady
  simp only
  split_ifs <;> exact ⟨rfl, rfl⟩

/-- The seconds of a time, zero if its year has no four digits. -/
def expirySeconds (t : ℤ) : ℤ :=
  if 0 ≤ Rfc3339.year t ∧ Rfc3339.year t ≤ 9999 then t / Rfc3339.second else 0

/-- The end of a certificate comes through the status. -/
theorem certExpiry_format {cp : ControlPlane} {t : ℤ}
    (h : cp.status.certExpiryTime = Rfc3339.format t) : certExpiry cp = expirySeconds t := by
  have hempty : Rfc3339.parse "" = none := by decide
  have hparse := Rfc3339.parse_format t
  have hsecond : t / Rfc3339.second * Rfc3339.second / Rfc3339.second = t / Rfc3339.second :=
    Int.mul_ediv_cancel _ (by decide)
  unfold certExpiry expirySeconds
  rw [h, hparse]
  split_ifs with hnil hyear hyear
  · rw [hnil, hempty, if_pos hyear] at hparse
    cases hparse
  · rfl
  · exact hsecond
  · rfl

/-- The entry of a service that is not deployed stays as ready as it was. -/
theorem serviceEntry_left {env : Env} {cp cp' : ControlPlane} {w w' : World} {n : ℕ}
    (hdry : env.op.dryRun = false) (hpin : pinnedElsewhere env.op cp = false)
    (h : reconcileAll env.op (fullPass env cp) cp w = (.ok n, cp', w')) {svc : Service}
    (hoff : serviceDeployedInCluster cp svc = false) {st : ServiceStatus}
    (hst : cp.status.services.get? svc.name = some st) :
    ∃ st', cp'.status.services.get? svc.name = some st' ∧ st'.ready = st.ready := by
  obtain ⟨hstop, -, hservices, -⟩ := reconcileAll_fullPass hdry hpin h
  have hleft : leavesService cp svc.name = true := by
    rw [leavesService_service]
    simpa using hoff
  have hshown := shownService_left hstop (by cases svc <;> decide) hleft
  unfold shownService at hshown
  rw [hst, ← hservices] at hshown
  obtain ⟨st', hst', heq⟩ := Option.map_eq_some_iff.mp hshown
  exact ⟨st', hst', (Prod.mk.inj heq).1⟩

/-- **What the gauges of a cluster show**, after any calls for any clusters: what its last reported
pass has found. Exactly one phase is one, and it is `Ready` by the conditions; a deployed service is
one when it has an available replica, one that is switched off as long as its last entry was ready;
Vault when it answers; the nodes are those the probe has found; and the certificate ends when its
Secret says, or when an earlier pass said if the Secret cannot be read. -/
theorem gauges_exact {v : Visit} (hreported : v.reported.isSome = true)
    (hdry : v.env.op.dryRun = false) (hformat : v.env.obs.formatTime = Rfc3339.format)
    (hone : OneOfEach v.cp.status.conditions) {pre post : List Visit}
    (hlast : ∀ u ∈ post, u.reported.isSome → u.cp.spec.clusterName ≠ v.cp.spec.clusterName)
    (r : Registry) :
    let shown := (pre ++ v :: post).foldl Visit.measure r
    let name := v.cp.spec.clusterName
    (∃ p ∈ allPhases, (∀ q ∈ allPhases, shown (.clusterPhase name q) = some (flag (p = q))) ∧
      shown (.clusterReady name) = some (flag (p = .ready)) ∧
      (p = .ready ↔
        (∀ t, leavesCondition v.cp t = false → met v.env.op v.env.obs v.cp t = true) ∧
        ∀ c ∈ v.cp.status.conditions, leavesCondition v.cp c.type = true → c.status ≠ .false)) ∧
    (∀ svc, serviceDeployedInCluster v.cp svc = true → shown (.clusterServiceReady name svc.name) =
      some (flag (1 ≤ (v.env.obs.deployments svc.name).getD 0))) ∧
    (∀ svc, serviceDeployedInCluster v.cp svc = false →
      ∀ st, v.cp.status.services.get? svc.name = some st →
        shown (.clusterServiceReady name svc.name) = some (flag st.ready)) ∧
    shown (.clusterVaultReachable name) =
      some (flag (v.env.op.vaultClient && v.env.obs.vault.reachable)) ∧
    shown (.clusterDHCPNodes name) = some ↑(probedNodes v.env.obs v.cp .provision).length ∧
    shown (.clusterProbeNodesProvision name) =
      some ↑(probedNodes v.env.obs v.cp .provision).length ∧
    shown (.clusterProbeNodesBMC name) = some ↑(probedNodes v.env.obs v.cp .bmc).length ∧
    shown (.clusterCertExpirySeconds name) =
      some (((notAfter? v.env.obs v.cp).map expirySeconds).getD (certExpiry v.cp)) := by
  intro shown name
  obtain ⟨cp', hv⟩ := Option.isSome_iff_exists.mp hreported
  obtain ⟨hpin, hreporter, n, w', hrun⟩ := Visit.reported_cases hv
  have hname : cp'.spec.clusterName = name := by rw [Visit.spec_reported hv]
  have hcp' := reconcileAll_reported hdry hreporter hpin hrun
  have hget : ∀ {s : Series} {x : ℤ}, (s, x) ∈ samples cp' → shown s = some x :=
    fun hs => get_measured hv hs hlast r
  have hnodes : probeNodes cp' = probeNodes (v.env.outcome v.cp) := by
    unfold probeNodes
    rw [hcp', networkProbe_managed.1]
  rw [probeNodes_outcome] at hnodes
  refine ⟨⟨cp'.status.phase, ?_, fun q hq => hget ?_, hget ?_,
    phase_reported_iff hdry hpin hrun hreporter hone⟩, fun svc hon => ?_,
    fun svc hoff st hst => ?_, hget ?_, hget ?_, hget ?_, hget ?_, hget ?_⟩
  · rw [hcp']
    exact computePhase_mem _
  · rw [← hname]
    simp only [samples, List.mem_append]
    exact Or.inl (Or.inl (Or.inr (List.mem_map.mpr ⟨q, hq, rfl⟩)))
  · rw [← hname]
    simp [samples]
  · -- the entry of a deployed service is written in every pass
    obtain ⟨st, hst, hentry⟩ := serviceEntry_reported hdry hpin hrun hon
    rw [← hentry, ← hname]
    exact hget (mem_samples_service hst)
  · obtain ⟨st', hst', hentry⟩ := serviceEntry_left hdry hpin hrun hoff hst
    rw [← hentry, ← hname]
    exact hget (mem_samples_service hst')
  · have hvault := isStatusConditionTrue_reported hdry hpin hrun (t := .vaultConfigured) rfl
    have hmet : met v.env.op v.env.obs v.cp .vaultConfigured =
        (v.env.op.vaultClient && v.env.obs.vault.reachable) := rfl
    rw [← hmet, ← hvault, ← hname]
    simp [samples]
  · rw [← hname]
    simp [samples, hnodes]
  · rw [← hname]
    simp [samples, hnodes]
  · rw [← hname]
    simp [samples, hnodes]
  · have hexpiry : certExpiry cp' =
        ((notAfter? v.env.obs v.cp).map expirySeconds).getD (certExpiry v.cp) := by
      have htime := @certExpiryTime_outcome v.env v.cp
      rw [← (@networkProbe_managed v.env.op (fullPass v.env v.cp) _).2, ← hcp', hformat] at htime
      rcases hend : notAfter? v.env.obs v.cp with _ | t
      · rw [hend] at htime
        unfold certExpiry
        rw [htime]
        rfl
      · rw [hend] at htime
        exact certExpiry_format htime
    rw [← hexpiry, ← hname]
    simp [samples]

/-! ### A cluster with gauges -/

/-- The first pass over a new cluster. -/
def firstVisit : Visit := ⟨serving, Webhook.default (site true), {}⟩

theorem firstVisit_reported : firstVisit.reported.isSome = true := by
  have hpin : pinnedElsewhere serving.op (Webhook.default (site true)) = false := by decide
  obtain ⟨n, ⟨cp', w'⟩, hrun⟩ :=
    @reconcileAll_served serving rfl (fun _ => rfl) _ hpin serving_clear {}
  have hreported : firstVisit.reported = some cp' := Visit.reported_of_run hpin rfl hrun
  rw [hreported]
  rfl

theorem firstVisit_expiry : ((notAfter? firstVisit.env.obs firstVisit.cp).map expirySeconds).getD
    (certExpiry firstVisit.cp) = 2592000 := by decide

/-- A pass over the same cluster whose requests are lost, and one over another cluster. -/
def laterVisits : List Visit :=
  [{ firstVisit with env.fates := fun _ => [.lost] },
   { firstVisit with cp.spec.clusterName := "beta" }]

theorem laterVisits_other : ∀ u ∈ laterVisits, u.reported.isSome →
    u.cp.spec.clusterName ≠ firstVisit.cp.spec.clusterName := by
  have hlost : ({ firstVisit with env.fates := fun _ => [.lost] } : Visit).reported.isSome =
      false := by decide +kernel
  refine List.forall_mem_cons.mpr ⟨fun h => ?_, List.forall_mem_singleton.mpr fun _ => by decide⟩
  rw [hlost] at h
  cases h

/-- The registry after two passes over the cluster, and the others. -/
def gaugesNow : Registry :=
  ([firstVisit] ++ firstVisit :: laterVisits).foldl Visit.measure fun _ => none

/-- The cluster is ready, and its certificate ends after thirty days. -/
theorem gauges_exact_site : gaugesNow (.clusterReady "alpha") = some 1 ∧
    gaugesNow (.clusterPhase "alpha" .failed) = some 0 ∧
    gaugesNow (.clusterCertExpirySeconds "alpha") = some 2592000 := by
  obtain ⟨⟨p, -, hphase, hready, hiff⟩, -, -, -, -, -, -, hexpiry⟩ :=
    @gauges_exact firstVisit firstVisit_reported rfl rfl
      (by simp [OneOfEach, firstVisit, Webhook.default, site]) [firstVisit] laterVisits
      laterVisits_other fun _ => none
  have hp : p = .ready := by
    refine hiff.mpr ⟨fun t _ => serving_met t, fun c hc => ?_⟩
    cases hc
  have hfailed := hphase .failed (by decide)
  have hname : firstVisit.cp.spec.clusterName = "alpha" := rfl
  rw [hp, hname] at hready hfailed
  rw [firstVisit_expiry, hname] at hexpiry
  exact ⟨hready, hfailed, hexpiry⟩

end OpenchamiOperator.Controller
