import OpenchamiOperator.Controller.SwitchedOff
import OpenchamiOperator.Lib.Watch

/-! # When a control plane is looked at again

`SetupWithManager` and the functions by which events reach the queue: every event of a control plane
puts its own key there, and `nodeToCluster`, `secretToCluster` and `configMapToCluster` find the keys
for a Node, for the Secret of a gateway and for the ConfigMap of a CoreDHCP. An update is put through
these functions twice, with the old object and with the new one. They list the control planes, and
find no keys when the list call fails. No object that the operator applies
has an owner, so the events of its workloads reach no one.

* `covered`: an event whose list calls succeed and that does not reach a control plane makes no
  difference to its passes.
* `no_lost_wakeup`: over any run, a control plane that is not in the queue has been passed over with
  what there is now, unless a list call has failed since.
* `requeue_exact`: what is not watched is read again every thirty seconds. -/

namespace OpenchamiOperator.Controller

open Lib Api Reconcilers NetworkProbe

/-! ### From events to keys -/

/-- The node has a label of one of the probes of the cluster. -/
def probeLabelled (cp : ControlPlane) (labels : GoMap String) : Bool :=
  [ProbeType.provision, .bmc].any fun kind =>
    (labels.get? (readyLabel cp.spec.clusterName kind)).isSome ||
      (labels.get? (revisionLabel cp.spec.clusterName kind)).isSome

/-- The keys of the listed control planes with a property; none if the list call has failed. -/
def keysWhere (listing : Option (List ControlPlane)) (p : ControlPlane → Bool) :
    List (String × String) :=
  match listing with
  | some planes => (planes.filter p).map planeKey
  | none => []

/-- `nodeToCluster`. -/
def nodeToCluster (listing : Option (List ControlPlane)) (labels : GoMap String) :
    List (String × String) :=
  keysWhere listing fun c => c.spec.networkProbe.enabled && probeLabelled c labels

/-- `secretToCluster`. -/
def secretToCluster (secret : String × String) (listing : Option (List ControlPlane)) :
    List (String × String) :=
  keysWhere listing fun c =>
    controlPlaneNamespace c = secret.1 && secret.2 = gatewayTLSSecretName c

/-- `configMapToCluster`; only the namespace of the ConfigMap is listed. -/
def configMapToCluster (cm : String × String) (listing : Option (List ControlPlane)) :
    List (String × String) :=
  keysWhere listing fun c => c.metadata.namespace = cm.1 &&
    c.spec.services.coreDHCP.configMapRef.any fun ref => ref.name = cm.2

/-! ### The watched world -/

/-- Nodes by their names. -/
abbrev Nodes := Store (Prod.fst : String × GoMap String → String)

/-- The objects whose events are watched. ConfigMaps and Secrets are told apart by namespace and
name. -/
structure Watched where
  planes : ControlPlanes
  nodes : Nodes
  configMaps : String × String → Option (GoMap String)
  secrets : String × String → Option SecretView

/-- What happens: an object is created or updated, or it is gone. -/
inductive Change where
  | plane (cp : ControlPlane)
  | planeGone (k : String × String)
  | node (name : String) (labels : GoMap String)
  | nodeGone (name : String)
  | configMap (cm : String × String) (data : Option (GoMap String))
  | secret (secret : String × String) (view : Option SecretView)

/-- An event, and whether the list calls for the old object and for the new one succeed. -/
structure Event where
  change : Change
  oldListed : Bool := true
  newListed : Bool := true

/-- No list call fails. -/
def Event.Heard (e : Event) : Prop := e.oldListed = true ∧ e.newListed = true

def Watched.after (w : Watched) : Change → Watched
  | .plane cp => { w with planes := w.planes.apply cp }
  | .planeGone k => { w with planes := w.planes.delete k }
  | .node name labels => { w with nodes := w.nodes.apply (name, labels) }
  | .nodeGone name => { w with nodes := w.nodes.delete name }
  | .configMap cm data => { w with configMaps := Function.update w.configMaps cm data }
  | .secret s view => { w with secrets := Function.update w.secrets s view }

/-- The answer to a list call. -/
def Watched.listing (w : Watched) (succeeds : Bool) : Option (List ControlPlane) :=
  if succeeds then some w.planes.objects else none

/-- The keys for the old object, if there is one, and for the new one. -/
def Watched.keys (w : Watched) (e : Event) (old new : Bool)
    (f : Option (List ControlPlane) → List (String × String)) : List (String × String) :=
  (if old then f (w.listing e.oldListed) else []) ++ if new then f (w.listing e.newListed) else []

/-- The keys an event puts into the queue. -/
def Watched.requests (w : Watched) (e : Event) : List (String × String) :=
  let old := fun name => ((w.nodes.get? name).toList.map Prod.snd).flatMap
    (nodeToCluster (w.listing e.oldListed))
  match e.change with
  | .plane cp => [planeKey cp]
  | .planeGone k => [k]
  | .node name labels => old name ++ nodeToCluster (w.listing e.newListed) labels
  | .nodeGone name => old name
  | .configMap cm data => w.keys e (w.configMaps cm).isSome data.isSome (configMapToCluster cm)
  | .secret s view => w.keys e (w.secrets s).isSome view.isSome (secretToCluster s)

/-- What a pass reads of the watched world after its object. -/
inductive Input where
  | nodes
  | configMaps
  | secrets
deriving DecidableEq

abbrev Input.Value : Input → Type
  | .nodes => List (String × GoMap String)
  | .configMaps => String × String → Option (GoMap String)
  | .secrets => String × String → Option SecretView

/-- The queue of the controller. -/
def watch : Watch.System (String × String) Watched Event ControlPlane Input Input.Value where
  effect w e := w.after e.change
  notify w e k := k ∈ w.requests e
  object k w := w.planes.get? k
  input
    | .nodes, w => w.nodes.objects
    | .configMaps, w => w.configMaps
    | .secrets, w => w.secrets

/-! ### What makes no difference -/

/-- Two values of an input between which a pass over a control plane cannot tell: the same nodes pass
the probes, if they are on; the ConfigMap it names and the Secret of its gateway are the same. -/
def Input.Same (cp : ControlPlane) : (i : Input) → i.Value → i.Value → Prop
  | .nodes, ns, ns' => cp.spec.networkProbe.enabled = true → ∀ (obs : Observed) (kind : ProbeType),
      eligibleNodes { obs with nodes := ns } cp kind = eligibleNodes { obs with nodes := ns' } cp kind
  | .configMaps, cms, cms' => ∀ ref ∈ cp.spec.services.coreDHCP.configMapRef,
      cms (cp.metadata.namespace, ref.name) = cms' (cp.metadata.namespace, ref.name)
  | .secrets, ss, ss' => ss (controlPlaneNamespace cp, gatewayTLSSecretName cp) =
      ss' (controlPlaneNamespace cp, gatewayTLSSecretName cp)

section Nodes

variable {cp : ControlPlane}

/-- The node passes the probe. -/
def eligible (obs : Observed) (cp : ControlPlane) (kind : ProbeType)
    (node : String × GoMap String) : Bool :=
  node.2.getD (readyLabel cp.spec.clusterName kind) "" = "true" &&
    node.2.getD (revisionLabel cp.spec.clusterName kind) "" =
      (probeTargetConfig cp kind).revision obs.isPrint obs.probeDigest &&
    (probeTargetConfig cp kind).validate.isNone

theorem eligibleNodes_congr {obs : Observed} {kind : ProbeType} {ns ns' : List (String × GoMap String)}
    (h : ns'.filter (eligible obs cp kind) = ns.filter (eligible obs cp kind)) :
    eligibleNodes { obs with nodes := ns } cp kind = eligibleNodes { obs with nodes := ns' } cp kind :=
  congrArg (fun l => (l.map Prod.fst).insertionSort (· ≤ ·)) h.symm

theorem eligible_of_unlabelled {node : String × GoMap String}
    (h : probeLabelled cp node.2 = false) (obs : Observed) (kind : ProbeType) :
    eligible obs cp kind node = false := by
  have hready : node.2.get? (readyLabel cp.spec.clusterName kind) = none := by
    simp only [probeLabelled, List.any_cons, List.any_nil, Bool.or_false, Bool.or_eq_false_iff,
      Option.isSome_eq_false_iff, Option.isNone_iff_eq_none] at h
    cases kind with
    | provision => exact h.1.1
    | bmc => exact h.2.1
  unfold eligible GoMap.getD
  rw [hready]
  rfl

theorem filter_replace {p : String × GoMap String → Bool} {a : String × GoMap String}
    (ha : p a = false) : ∀ {l : List (String × GoMap String)},
      (∀ b ∈ l, b.1 = a.1 → p b = false) → (Store.replace Prod.fst a l).filter p = l.filter p
  | [], _ => rfl
  | b :: l, h => by
    obtain ⟨hb, hl⟩ := List.forall_mem_cons.mp h
    have ih := filter_replace ha hl
    unfold Store.replace at ih ⊢
    rw [List.map_cons]
    split_ifs with hkey
    · rw [List.filter_cons_of_neg (by simp [ha]), List.filter_cons_of_neg (by simp [hb hkey]), ih]
    · by_cases hp : p b = true
      · rw [List.filter_cons_of_pos hp, List.filter_cons_of_pos hp, ih]
      · rw [List.filter_cons_of_neg hp, List.filter_cons_of_neg hp, ih]

theorem filter_apply {p : String × GoMap String → Bool} {nodes : Nodes} {a : String × GoMap String}
    (ha : p a = false) (hold : ∀ b ∈ nodes, b.1 = a.1 → p b = false) :
    (nodes.apply a).objects.filter p = nodes.objects.filter p := by
  unfold Store.apply
  split_ifs
  · exact filter_replace ha hold
  · simp [List.filter_append, ha]

theorem filter_delete {p : String × GoMap String → Bool} {nodes : Nodes} {name : String}
    (hold : ∀ b ∈ nodes, b.1 = name → p b = false) :
    (nodes.delete name).objects.filter p = nodes.objects.filter p := by
  unfold Store.delete
  rw [List.filter_filter]
  refine List.filter_congr fun b hb => ?_
  by_cases hkey : b.1 = name
  · simp [hkey, hold b hb hkey]
  · simp [hkey]

theorem mem_keysWhere {planes : ControlPlanes} {p : ControlPlane → Bool} (hcp : cp ∈ planes)
    (hp : p cp = true) : planeKey cp ∈ keysWhere (some planes.objects) p :=
  List.mem_map_of_mem (List.mem_filter.mpr ⟨hcp, hp⟩)

/-- The labels of a node that no event function picks up. -/
theorem unlabelled_of_notMem {planes : ControlPlanes} {labels : GoMap String}
    (hcp : cp ∈ planes) (hen : cp.spec.networkProbe.enabled = true)
    (h : planeKey cp ∉ nodeToCluster (some planes.objects) labels) :
    probeLabelled cp labels = false := by
  by_contra hnot
  refine h (mem_keysWhere hcp ?_)
  rw [hen, Bool.true_and]
  simpa using hnot

/-- The stored node of a name is the only one. -/
theorem unlabelled_of_stored {planes : ControlPlanes} {nodes : Nodes} {name : String}
    (hcp : cp ∈ planes) (hen : cp.spec.networkProbe.enabled = true)
    (h : planeKey cp ∉ ((nodes.get? name).toList.map Prod.snd).flatMap
      (nodeToCluster (some planes.objects))) {b : String × GoMap String} (hb : b ∈ nodes)
    (hname : b.1 = name) : probeLabelled cp b.2 = false := by
  have hget : nodes.get? name = some b := Store.get?_eq_some_iff.mpr ⟨hb, hname⟩
  refine unlabelled_of_notMem hcp hen fun hmem => h ?_
  rw [hget]
  simpa using hmem

end Nodes

theorem Input.Same.refl (cp : ControlPlane) (i : Input) (v : i.Value) : Input.Same cp i v v := by
  cases i with
  | nodes => exact fun _ _ _ => rfl
  | configMaps => exact fun _ _ => rfl
  | secrets => rfl

theorem Input.Same.trans {cp : ControlPlane} {i : Input} {u v w : i.Value}
    (huv : Input.Same cp i u v) (hvw : Input.Same cp i v w) : Input.Same cp i u w := by
  cases i with
  | nodes => exact fun hen obs kind => (huv hen obs kind).trans (hvw hen obs kind)
  | configMaps => exact fun ref href => (huv ref href).trans (hvw ref href)
  | secrets => exact Eq.trans huv hvw

/-- An object of which neither the old version nor the new one gives the key is there at no time. -/
theorem update_of_notMem {α : Type} {w : Watched} {e : Event} (he : e.Heard) {k : String × String}
    {f : Option (List ControlPlane) → List (String × String)} {objects : String × String → Option α}
    {s : String × String} {new : Option α}
    (hk : k ∉ w.keys e (objects s).isSome new.isSome f) {name : String × String}
    (hname : name = s → k ∈ f (some w.planes.objects)) :
    objects name = Function.update objects s new name := by
  by_cases heq : name = s
  · have hmem := hname heq
    rw [Watched.keys, Watched.listing, Watched.listing, he.1, he.2] at hk
    rcases hold : objects s with _ | old
    · rcases new with _ | new
      · rw [heq, Function.update_self, hold]
      · exact (hk (by simp [hmem])).elim
    · exact (hk (by simp [hold, hmem])).elim
  · exact (Function.update_of_ne heq _ _).symm

/-- **An event whose list calls succeed and that does not reach a control plane makes no difference to
its passes.** -/
theorem covered : Watch.Covered watch Event.Heard Input.Same where
  refl := Input.Same.refl
  trans := Input.Same.trans
  object := by
    intro w e k h
    have hk : k ∉ w.requests e := by simpa [watch] using h
    obtain ⟨change, old, new⟩ := e
    cases change with
    | plane cp =>
      have hne : planeKey cp ≠ k := fun heq => hk (by simp [Watched.requests, heq])
      simp [watch, Watched.after, Store.get?_apply, hne]
    | planeGone j =>
      have hne : j ≠ k := fun heq => hk (by simp [Watched.requests, heq])
      simp [watch, Watched.after, Store.get?_delete, hne]
    | _ => rfl
  input := by
    intro w e k cp he h hobject i
    have hk : k ∉ w.requests e := by simpa [watch] using h
    obtain ⟨hcp, rfl⟩ := Store.get?_eq_some_iff.mp hobject
    obtain ⟨change, old, new⟩ := e
    obtain ⟨rfl, rfl⟩ : old = true ∧ new = true := he
    cases change with
    | plane | planeGone => cases i <;> exact Input.Same.refl cp _ _
    | node name labels =>
      cases i with
      | configMaps | secrets => exact Input.Same.refl cp _ _
      | nodes =>
        intro hen obs kind
        obtain ⟨hold, hnew⟩ := not_or.mp (fun h => hk (List.mem_append.mpr h))
        have hnew' : probeLabelled cp labels = false := unlabelled_of_notMem hcp hen hnew
        exact eligibleNodes_congr (filter_apply (eligible_of_unlabelled hnew' obs kind)
          fun b hb hname =>
            eligible_of_unlabelled (unlabelled_of_stored hcp hen hold hb hname) obs kind)
    | nodeGone name =>
      cases i with
      | configMaps | secrets => exact Input.Same.refl cp _ _
      | nodes =>
        intro hen obs kind
        exact eligibleNodes_congr (filter_delete fun b hb hname =>
          eligible_of_unlabelled (unlabelled_of_stored hcp hen hk hb hname) obs kind)
    | configMap cm data =>
      cases i with
      | nodes | secrets => exact Input.Same.refl cp _ _
      | configMaps =>
        intro ref href
        refine update_of_notMem ⟨rfl, rfl⟩ hk fun heq => mem_keysWhere hcp ?_
        rw [Option.mem_def.mp href, ← heq]
        simp
    | secret s view =>
      cases i with
      | nodes | configMaps => exact Input.Same.refl cp _ _
      | secrets =>
        refine update_of_notMem ⟨rfl, rfl⟩ hk fun heq => mem_keysWhere hcp ?_
        rw [← heq]
        simp

/-! ### What a pass does with its inputs -/

/-- The answers of a pass that reads these inputs, and `obs` for everything that is not watched. -/
def withInputs (obs : Observed) (cp : ControlPlane) (inputs : (i : Input) → i.Value) : Observed :=
  { obs with
    nodes := inputs .nodes
    configMaps := fun name => inputs .configMaps (cp.metadata.namespace, name)
    secrets := fun name => if name = gatewayTLSSecretName cp then
        inputs .secrets (controlPlaneNamespace cp, name)
      else obs.secrets name }

section Programs

variable {op : Operator} {obs : Observed} {c : ControlPlane} {sub : Sub}

theorem program_nodes {ns ns' : List (String × GoMap String)}
    (h : c.spec.networkProbe.enabled = true → ∀ kind,
      eligibleNodes { obs with nodes := ns } c kind =
        eligibleNodes { obs with nodes := ns' } c kind) :
    program op { obs with nodes := ns } c sub = program op { obs with nodes := ns' } c sub := by
  cases sub with
  | networkProbe =>
    unfold program reconcileNetworkProbe
    by_cases hen : c.spec.networkProbe.enabled = true
    · unfold reportProbe missingNodes probeReady
      simp only [h hen]
    · simp [hen]
  | _ => rfl

theorem program_configMaps {cms cms' : String → Option (GoMap String)}
    (h : ∀ ref ∈ c.spec.services.coreDHCP.configMapRef, cms ref.name = cms' ref.name) :
    program op { obs with configMaps := cms } c sub =
      program op { obs with configMaps := cms' } c sub := by
  cases sub with
  | coreDHCP =>
    have hconfig : resolveConfig { obs with configMaps := cms } c =
        resolveConfig { obs with configMaps := cms' } c := by
      unfold resolveConfig
      rcases href : c.spec.services.coreDHCP.configMapRef with _ | ref
      · rfl
      · simp only [h ref href]
    unfold program reconcileCoreDHCP
    simp only [hconfig]
    rfl
  | _ => rfl

theorem secrets_withInputs {cp : ControlPlane} {inputs inputs' : (i : Input) → i.Value}
    (h : Input.Same cp .secrets (inputs .secrets) (inputs' .secrets)) :
    (withInputs obs cp inputs).secrets = (withInputs obs cp inputs').secrets := by
  funext name
  simp only [withInputs]
  split_ifs with hname
  · rw [hname]
    exact h
  · rfl

/-- Inputs between which a pass cannot tell. -/
theorem program_withInputs {cp : ControlPlane} (hs : c.spec = cp.spec)
    {inputs inputs' : (i : Input) → i.Value}
    (h : ∀ i, Input.Same cp i (inputs i) (inputs' i)) :
    program op (withInputs obs cp inputs) c sub = program op (withInputs obs cp inputs') c sub := by
  generalize hfirst : withInputs obs cp inputs = first
  generalize hlast : withInputs obs cp inputs' = last
  have hnodes : c.spec.networkProbe.enabled = true → ∀ kind,
      eligibleNodes { first with nodes := first.nodes } c kind =
        eligibleNodes { first with nodes := last.nodes } c kind := by
    intro hen kind
    have hcp := h .nodes (hs ▸ hen) first kind
    have hread : first.nodes = inputs .nodes := by rw [← hfirst]; rfl
    have hread' : last.nodes = inputs' .nodes := by rw [← hlast]; rfl
    rw [← hread, ← hread'] at hcp
    unfold eligibleNodes probeTargetConfig probeNetwork at hcp ⊢
    rw [hs]
    exact hcp
  have hconfigs : ∀ ref ∈ c.spec.services.coreDHCP.configMapRef,
      first.configMaps ref.name = last.configMaps ref.name := fun ref href => by
    rw [← hfirst, ← hlast]
    exact h .configMaps ref (hs ▸ href)
  have hsecrets : first.secrets = last.secrets := by
    rw [← hfirst, ← hlast]
    exact secrets_withInputs (h .secrets)
  -- one input after the other
  have h₁ := @program_nodes op first c sub first.nodes last.nodes hnodes
  have h₂ := @program_configMaps op { first with nodes := last.nodes } c sub first.configMaps
      last.configMaps hconfigs
  have hend : ({ first with nodes := last.nodes, configMaps := last.configMaps } :
      Observed) = last := by
    rw [hsecrets, ← hfirst, ← hlast]
    rfl
  exact h₁.trans (h₂.trans (by rw [hend]))

end Programs

/-! ### Runs -/

/-- The queue after some moves, from the moment the controller has listed everything. -/
def watching (w : Watched) (moves : List (Watch.Move (String × String) Event Input)) :
    Watch.State (String × String) Watched ControlPlane Input.Value :=
  Watch.run watch (Watch.start w) moves

/-- The inputs as they are. -/
def Watched.inputs (w : Watched) (i : Input) : i.Value := watch.input i w

/-- **No event is lost.** Whatever changes and whenever the passes begin and read, a control plane
that is not in the queue has had a pass that began with it as it is stored now; and when that pass has
read its inputs, a new pass would do the same as it, whatever the status in memory and the answers to
everything that is not watched. Events are lost when a list call fails; the next pass makes up for
them. -/
theorem no_lost_wakeup (w : Watched) (moves : List (Watch.Move (String × String) Event Input))
    {k : String × String} {cp : ControlPlane}
    (hheard : ∀ e rest, .change e :: rest <:+ moves → e.Heard ∨ .begin k ∈ rest)
    (hstored : (watching w moves).world.planes.get? k = some cp)
    (hqueue : (watching w moves).queue k = false) :
    ((watching w moves).notes k).object = some cp ∧
    ∀ inputs : (i : Input) → i.Value,
      (∀ i, ((watching w moves).notes k).inputs i = some (inputs i)) →
      ∀ (op : Operator) (obs : Observed) (sub : Sub) (c : ControlPlane),
        c.spec = cp.spec →
        program op (withInputs obs cp inputs) c sub =
          program op (withInputs obs cp (watching w moves).world.inputs) c sub := by
  have hfresh : Watch.Fresh watch Input.Same (watching w moves) k :=
    Watch.fresh_run covered k moves (Or.inl (Or.inl rfl)) hheard
  rcases hfresh with hin | ⟨hobject, hinput⟩
  · rw [hqueue] at hin
    cases hin
  · refine ⟨hobject.trans hstored, fun inputs hread op obs sub c hs => ?_⟩
    exact program_withInputs hs fun i => hinput cp hstored i (inputs i) (hread i)

/-- A control plane, and a node that the probes do not know. -/
def watchedSite : Watched where
  planes := Store.empty.apply (site true)
  nodes := Store.empty.apply ("nid0001", GoMap.empty)
  configMaps := fun _ => none
  secrets := fun _ => none

/-- The Secret of the gateway is issued. -/
def issued : Change :=
  .secret (controlPlaneNamespace (site true), gatewayTLSSecretName (site true)) (some {})

/-- The Secret of the gateway is issued while no list call succeeds; then a pass reads everything, and
after that the labels of the node change. -/
def quietMoves : List (Watch.Move (String × String) Event Input) :=
  let k := ("default", "alpha")
  [.change ⟨issued, false, false⟩, .begin k, .read k .nodes, .read k .configMaps, .read k .secrets,
   .change { change := .node "nid0001" (GoMap.ofList [("kubernetes.io/arch", "arm64")]) }]

theorem no_lost_wakeup_site :
    (watching watchedSite quietMoves).queue ("default", "alpha") = false ∧
    ((watching watchedSite quietMoves).notes ("default", "alpha")).object = some (site true) ∧
    ∀ op obs sub, program op (withInputs obs (site true) (watchedSite.after issued).inputs)
        (site true) sub =
      program op (withInputs obs (site true) (watching watchedSite quietMoves).world.inputs)
        (site true) sub := by
  have hheard : ∀ e rest, .change e :: rest <:+ quietMoves →
      e.Heard ∨ .begin ("default", "alpha") ∈ rest := by
    intro e rest h
    simp only [quietMoves, List.suffix_cons_iff, List.suffix_nil, List.cons.injEq,
      Watch.Move.change.injEq, reduceCtorEq, false_and, or_false, false_or] at h
    rcases h with ⟨-, rfl⟩ | ⟨rfl, -⟩
    · exact Or.inr (List.mem_cons_self ..)
    · exact Or.inl ⟨rfl, rfl⟩
  have hqueue : (watching watchedSite quietMoves).queue ("default", "alpha") = false := by decide
  obtain ⟨hobject, hinputs⟩ :=
    @no_lost_wakeup watchedSite quietMoves _ (site true) hheard rfl hqueue
  refine ⟨hqueue, hobject, fun op obs sub => hinputs _ (fun i => ?_) op obs sub _ rfl⟩
  cases i <;> rfl

/-! ### What is not watched -/

theorem requeueAfter_le (op : Operator) (obs : Observed) (cp : ControlPlane) (sub : Sub) :
    (program op obs cp sub).requeueAfter ≤ 30 := by
  have hdeploy : ∀ svc after, (deployService obs cp svc after).requeueAfter ≤ 30 := by
    intro svc after
    unfold deployService
    simp only
    split
    · simp
    · split_ifs <;> simp
  unfold program
  cases sub with
  | «namespace» | rbac | magellan | networkPolicies | topology | serviceMonitor =>
    simp only [reconcileNamespace, reconcileRBAC, reconcileMagellan, reconcileNetworkPolicies,
      reconcileTopology, reconcileServiceMonitor]
    try split
    all_goals simp
  | database =>
    have hfollow : ∀ current, (followCluster obs cp current).requeueAfter ≤ 30 := by
      intro current
      unfold followCluster
      split_ifs <;> simp
    simp only [reconcileDatabase]
    split
    · simp
    · split
      · simp
      · exact hfollow _
  | tokensmith =>
    simp only [reconcileTokensmith]
    split_ifs
    · simp
    · simp
    · exact hdeploy _ _
  | bootService | metadataService =>
    simp only [reconcileBootService, reconcileMetadataService, reconcileConsumer]
    split_ifs
    · simp
    · exact hdeploy _ _
  | coreDHCP =>
    simp only [reconcileCoreDHCP, reportDHCP]
    split_ifs
    · simp
    · simp
    · split <;> simp
    · split <;> simp
  | certificates =>
    simp only [reconcileCertificates]
    split
    · simp
    · split <;> simp
  | vault | bucket | serviceIdentity | smd | networkProbe | gateway | logBucket | funicular
  | logqCompactor | logqQuery =>
    simp only [reconcileVault, reconcileBucket, reconcileServiceIdentity, reconcileSMD,
      reconcileNetworkProbe, reportProbe, reconcileGateway, reportGateway, reconcileLogBucket,
      reconcileFunicular, reconcileLogqCompactor, reconcileLogqQuery]
    split_ifs <;> simp

/-- The longest wait of the calls, by induction on those that are left. -/
theorem runSubs_requeue {op : Operator} (hdry : op.dryRun = false) {p : Pass} {bound : ℕ}
    (hp : ∀ sub n, (p.runs sub).result = .ok n → n ≤ bound) :
    ∀ {l : List Sub} {cp cp' : ControlPlane} {w w' : World} {longest n : ℕ},
      runSubs op p l cp w longest = (.ok n, cp', w') → longest ≤ bound →
      n ≤ bound ∧ longest ≤ n ∧ ∀ sub ∈ l, ∃ m ≤ n, (p.runs sub).result = .ok m
  | [], _, _, _, _, _, _, h, hlongest => by
    cases h
    exact ⟨hlongest, le_rfl, by simp⟩
  | sub :: rest, cp, cp', w, w', longest, n, h, hlongest => by
    unfold runSubs at h
    rw [if_neg (by simp [hdry])] at h
    rcases hresult : (p.runs sub).result with e | m
    · rw [hresult] at h
      cases h
    · rw [hresult] at h
      obtain ⟨hbound, hle, hrest⟩ := runSubs_requeue hdry hp h (max_le hlongest (hp sub m hresult))
      have hm : m ≤ n := (le_max_right longest m).trans hle
      refine ⟨hbound, (le_max_left longest m).trans hle, fun sub' hsub' => ?_⟩
      rcases List.mem_cons.mp hsub' with rfl | hsub'
      · exact ⟨m, hm, hresult⟩
      · exact hrest sub' hsub'

theorem reconcileAll_requeue {env : Env} {cp cp' : ControlPlane} {w w' : World} {n : ℕ}
    (hpin : pinnedElsewhere env.op cp = false)
    (h : reconcileAll env.op (fullPass env cp) cp w = (.ok n, cp', w')) :
    n = if env.op.dryRun then 0 else 30 := by
  have hcalls : ∀ sub m, ((fullPass env cp).runs sub).result = .ok m →
      m = (program env.op env.obs (env.before (activated cp) sub) sub).requeueAfter := by
    intro sub m hresult
    exact (runActs_ok hresult).1
  have hbound : ∀ sub m, ((fullPass env cp).runs sub).result = .ok m → m ≤ 30 := by
    intro sub m hresult
    rw [hcalls sub m hresult]
    exact requeueAfter_le _ _ _ _
  rcases reconcileAll_cases (p := fullPass env cp) (w := w) hpin with
    ⟨e, cp₁, w₁, -, heq⟩ | ⟨longest, cp₁, w₁, hrun, heq⟩
  · rw [heq] at h
    cases h
  · obtain rfl : longest = n := by
      rw [heq] at h
      split_ifs at h
      · cases h
        rfl
      · cases h
        rfl
    by_cases hdry : env.op.dryRun = true
    · rw [runSubs_dryRun hdry] at hrun
      cases hrun
      rw [if_pos hdry]
    · obtain ⟨hle, -, hsubs⟩ :=
        runSubs_requeue (by simpa using hdry) hbound hrun (Nat.zero_le 30)
      obtain ⟨m, hmn, hresult⟩ := hsubs .magellan (mem_subs .magellan)
      -- the call of Magellan always asks for thirty seconds
      have hm : m = 30 := hcalls .magellan m hresult
      rw [if_neg hdry]
      omega

theorem request_ok {σ ε α : Type} {failed : ε} {f : σ → Except ε α × σ} {net : Net σ} {a : α}
    (h : ((Prog.request failed f).run net).1 = .ok a) : (f net.state).1 = .ok a := by
  obtain ⟨s, fates⟩ := net
  rcases fates with _ | ⟨_ | _ | _, fs⟩
  · exact h
  · exact h
  · cases h
  · cases h

theorem reconcilePass_ok {op : Operator} {p : Pass} {cp : ControlPlane} {net : Net World} {n : ℕ}
    (h : ((reconcilePass op p cp).run net).1 = .ok n) :
    (reconcileAll op p (observed cp) net.state).1 = .ok n := by
  unfold reconcilePass at h
  dsimp only at h
  have hpatch := request_ok h
  simp only at hpatch
  split at hpatch
  · exact hpatch
  · cases hpatch

/-- **What is not watched is read again every thirty seconds.** A call of `Reconcile` for a live
control plane that has the finalizer, if it has no error, asks for the next call after exactly thirty
seconds, whatever it has found and whichever requests were lost. In dry-run mode it asks for none. -/
theorem requeue_exact {env : Env} {net : Net World} {k : String × String} {cp : ControlPlane} {n : ℕ}
    (hstored : net.state.controlPlanes.get? k = some cp)
    (hlive : cp.metadata.deletionTimestamp = false)
    (hfinalizer : clusterFinalizer ∈ cp.metadata.finalizers)
    (hpin : pinnedElsewhere env.op cp = false)
    (h : ((reconcile env.op (fullPass env (observed cp)) k).run net).1 = .ok n) :
    n = if env.op.dryRun then 0 else 30 := by
  unfold reconcile at h
  rcases hget : (Prog.request (⟨"", .failed⟩ : OpError) fun w : World =>
      (Except.ok (w.controlPlanes.get? k), w)).run net with ⟨e | got, net'⟩
  · rw [Prog.bind_run_error hget] at h
    cases h
  · have hgot := request_ok (congrArg Prod.fst hget)
    obtain rfl : some cp = got := hstored.symm.trans (Except.ok.inj hgot)
    rw [Prog.bind_run_ok hget] at h
    simp only [reconcileFound, hlive, hfinalizer, Bool.false_eq_true, if_false, not_true_eq_false]
      at h
    have hpass := reconcilePass_ok h
    rcases hrun : reconcileAll env.op (fullPass env (observed cp)) (observed cp) net'.state with
      ⟨r, cp', w'⟩
    rw [hrun] at hpass
    obtain rfl : r = .ok n := hpass
    have hpin' : pinnedElsewhere env.op (observed cp) = false := hpin
    exact reconcileAll_requeue hpin' hrun

theorem reconcile_served {op : Operator} {p : Pass} {k : String × String} {cp cp' : ControlPlane}
    {w w' : World} {n : ℕ} (hstored : w.controlPlanes.get? k = some cp)
    (hlive : cp.metadata.deletionTimestamp = false)
    (hfinalizer : clusterFinalizer ∈ cp.metadata.finalizers)
    (hrun : reconcileAll op p (observed cp) w = (.ok n, cp', w')) :
    ((reconcile op p k).run ⟨w, []⟩).1 = .ok n := by
  obtain ⟨hm, -, hc, -⟩ := reconcileAll_frame op p (observed cp) w
  rw [hrun] at hm hc
  have hkey : planeKey cp' = k := by
    have hcp : planeKey cp = k := (Store.get?_eq_some_iff.mp hstored).2
    rw [← hcp]
    unfold planeKey
    rw [hm]
    rfl
  have hget : w'.controlPlanes.get? (planeKey cp') = some cp := by
    rw [hkey, hc]
    exact hstored
  have hread : (Prog.request (⟨"", .failed⟩ : OpError) fun w : World =>
      (Except.ok (w.controlPlanes.get? k), w)).run ⟨w, []⟩ = (.ok (some cp), ⟨w, []⟩) := by
    rw [← hstored]
    rfl
  unfold reconcile
  rw [Prog.bind_run_ok hread]
  simp only [reconcileFound, hlive, hfinalizer, Bool.false_eq_true, if_false, not_true_eq_false,
    reconcilePass, hrun]
  unfold Prog.request patchStatus
  simp only [hget]

theorem requeue_exact_site : ∃ w n, ((reconcile quiet.op (fullPass quiet
    (observed (Webhook.default (site true)))) ("default", "alpha")).run ⟨w, []⟩).1 = .ok n ∧
      n = 30 := by
  let w : World := { controlPlanes := Store.empty.apply (Webhook.default (site true)) }
  have hstored : w.controlPlanes.get? ("default", "alpha") = some (Webhook.default (site true)) :=
    Store.get?_apply.trans (if_pos rfl)
  obtain ⟨hpin, n, cp', w', hrun, -, -⟩ := @quiet_run true (Webhook.default (site true)) w rfl rfl
  have hserved := reconcile_served hstored rfl (by decide) hrun
  have hpin' : pinnedElsewhere quiet.op (Webhook.default (site true)) = false := hpin
  exact ⟨w, n, hserved, @requeue_exact quiet ⟨w, []⟩ _ _ n hstored rfl (by decide) hpin' hserved⟩

end OpenchamiOperator.Controller
