import Mathlib.Data.List.MinMax
import Mathlib.Data.List.Lex
import OpenchamiOperator.Lib.Strings
import OpenchamiOperator.Lib.GoMap

/-! # The Gateway API

The resources of the Kubernetes Gateway API and of Envoy Gateway, and how a gateway picks the route
of a request.

* A path matches a prefix by whole segments (`PathMatch.covers`).
* Among the matches of all attached routes the one of greatest `rank` wins: the more specific
  hostname, then an exact path, then the longer prefix, then a method. The oldest route wins a tie.
* `dispatch_eq_some`: the winner is one of the candidates and no candidate outranks it.
* A request is let through without a token when the winning route is not the target of a security
  policy with a JWT provider (`jwtChecked`). -/

namespace OpenchamiOperator.Lib.GatewayApi

open Strings

/-! ### Resources -/

/-- HTTP methods; a request may carry one the API does not name. -/
inductive HTTPMethod where
  | GET
  | HEAD
  | POST
  | PUT
  | DELETE
  | CONNECT
  | OPTIONS
  | TRACE
  | PATCH
  | other (name : String)
deriving DecidableEq

inductive PathMatch where
  | exact (value : String)
  | pathPrefix (value : String)
deriving DecidableEq

structure HTTPRouteMatch where
  path : PathMatch
  method : Option HTTPMethod := none
deriving DecidableEq

inductive HTTPRouteFilter where
  | requestRedirect (scheme : String) (statusCode : ℕ)
  | urlRewrite (replacePrefixMatch : String)
deriving DecidableEq

structure BackendRef where
  name : String
  port : ℕ
deriving DecidableEq

/-- A rule; `routeMatches` are its `matches`. -/
structure HTTPRouteRule where
  routeMatches : List HTTPRouteMatch := []
  filters : List HTTPRouteFilter := []
  backendRefs : List BackendRef := []
deriving DecidableEq

structure ParentReference where
  name : String
  «namespace» : String
  sectionName : String
deriving DecidableEq

structure ObjectMeta where
  name : String
  «namespace» : String
  labels : GoMap String
deriving DecidableEq

structure HTTPRoute where
  metadata : ObjectMeta
  parentRefs : List ParentReference
  hostnames : List String
  rules : List HTTPRouteRule
deriving DecidableEq

inductive Protocol where
  | HTTP
  | HTTPS
deriving DecidableEq

/-- A listener; `certificateRefs` are the TLS secrets it terminates with. -/
structure Listener where
  name : String
  hostname : String
  port : ℕ
  protocol : Protocol
  certificateRefs : List String := []
deriving DecidableEq

structure Gateway where
  metadata : ObjectMeta
  gatewayClassName : String
  listeners : List Listener
deriving DecidableEq

structure PolicyTargetRef where
  group : String
  kind : String
  name : String
  sectionName : Option String := none
deriving DecidableEq

structure JWTProvider where
  name : String
  uri : String
  backendRefs : List BackendRef
deriving DecidableEq

structure SecurityPolicy where
  metadata : ObjectMeta
  targetRefs : List PolicyTargetRef
  jwtProviders : List JWTProvider
deriving DecidableEq

/-- A rate limit on the requests with one value of a header. -/
structure BackendTrafficPolicy where
  metadata : ObjectMeta
  targetRefs : List PolicyTargetRef
  headerName : String
  requestsPerMinute : ℕ
deriving DecidableEq

structure BackendTLSPolicy where
  metadata : ObjectMeta
  targetRefs : List PolicyTargetRef
  caCertificateRefs : List String
  hostname : String
deriving DecidableEq

inductive Object where
  | gateway (g : Gateway)
  | httpRoute (r : HTTPRoute)
  | securityPolicy (p : SecurityPolicy)
  | backendTrafficPolicy (p : BackendTrafficPolicy)
  | backendTLSPolicy (p : BackendTLSPolicy)
deriving DecidableEq

inductive Kind where
  | Gateway
  | HTTPRoute
  | SecurityPolicy
  | BackendTrafficPolicy
  | BackendTLSPolicy
deriving DecidableEq, Repr

namespace Object

def metadata : Object → ObjectMeta
  | gateway g => g.metadata
  | httpRoute r => r.metadata
  | securityPolicy p => p.metadata
  | backendTrafficPolicy p => p.metadata
  | backendTLSPolicy p => p.metadata

def kind : Object → Kind
  | gateway _ => .Gateway
  | httpRoute _ => .HTTPRoute
  | securityPolicy _ => .SecurityPolicy
  | backendTrafficPolicy _ => .BackendTrafficPolicy
  | backendTLSPolicy _ => .BackendTLSPolicy

/-- What identifies an object on the API server. -/
def key (o : Object) : Kind × String × String := (o.kind, o.metadata.namespace, o.metadata.name)

/-- An object with the key of a route is a route. -/
theorem exists_route_of_key {o : Object} {ns name : String} (h : o.key = (.HTTPRoute, ns, name)) :
    ∃ r, o = httpRoute r ∧ r.metadata.namespace = ns ∧ r.metadata.name = name := by
  cases o with
  | httpRoute r =>
    simp only [key, Prod.mk.injEq] at h
    exact ⟨r, rfl, h.2⟩
  | _ => simp [key, kind] at h

end Object

/-! ### Matching -/

/-- A request as it arrives at a listener. The path is absolute. -/
structure Request where
  listener : String
  host : String
  method : HTTPMethod
  path : String
  rooted : hasPrefix path "/" = true

/-- The path is `base` or lies below it, by whole segments. -/
def under (path base : String) : Bool := path == base || hasPrefix path (base ++ "/")

namespace PathMatch

/-- A trailing `/` of a prefix does not count. -/
def covers : PathMatch → String → Bool
  | exact v, path => path == v
  | pathPrefix v, path => under path (trimSuffix v "/")

def isExact : PathMatch → Bool
  | exact _ => true
  | pathPrefix _ => false

def value : PathMatch → String
  | exact v => v
  | pathPrefix v => v

end PathMatch

/-- A rule without matches matches the prefix `/`. -/
def HTTPRouteRule.effectiveMatches (r : HTTPRouteRule) : List HTTPRouteMatch :=
  if r.routeMatches = [] then [{ path := .pathPrefix "/" }] else r.routeMatches

def HTTPRouteMatch.covers (m : HTTPRouteMatch) (req : Request) : Bool :=
  m.path.covers req.path && m.method.all (· == req.method)

def isWildcard (hostname : String) : Bool := hasPrefix hostname "*."

/-- `*.x` covers every host that ends in `.x`. -/
def hostnameCovers (hostname host : String) : Bool :=
  if isWildcard hostname then hasSuffix host (trimPrefix hostname "*") else host == hostname

/-- One way in which a route can match a request. -/
structure Candidate where
  route : HTTPRoute
  rule : HTTPRouteRule
  routeMatch : HTTPRouteMatch
  hostname : String

/-- The route is attached to the listener of that name of the gateway. Routes of other namespaces
are not allowed. -/
def attached (g : Gateway) (listener : String) (r : HTTPRoute) : Bool :=
  r.metadata.namespace == g.metadata.namespace &&
    r.parentRefs.contains ⟨g.metadata.name, g.metadata.namespace, listener⟩

/-- The listener accepts requests for the host. -/
def accepts (g : Gateway) (req : Request) : Bool :=
  g.listeners.any fun l => l.name == req.listener && hostnameCovers l.hostname req.host

/-- All ways in which the routes can match. -/
def HTTPRoute.candidates (r : HTTPRoute) : List Candidate :=
  r.rules.flatMap fun rule => rule.effectiveMatches.flatMap fun m =>
    r.hostnames.map fun h => ⟨r, rule, m, h⟩

def Candidate.covers (c : Candidate) (req : Request) : Bool :=
  c.routeMatch.covers req && hostnameCovers c.hostname req.host

/-- The candidates of a request, oldest route first. -/
def candidates (routes : List HTTPRoute) (g : Gateway) (req : Request) : List Candidate :=
  if accepts g req then
    ((routes.filter (attached g req.listener)).flatMap HTTPRoute.candidates).filter (·.covers req)
  else []

/-- The precedence of a candidate, most significant part first. -/
def Candidate.rank (c : Candidate) : List ℕ :=
  [if isWildcard c.hostname then 0 else c.hostname.length, c.hostname.length,
    c.routeMatch.path.isExact.toNat, c.routeMatch.path.value.length,
    c.routeMatch.method.isSome.toNat]

/-- The candidate that serves the request. -/
def dispatch (routes : List HTTPRoute) (g : Gateway) (req : Request) : Option Candidate :=
  (candidates routes g req).argmax Candidate.rank

/-- The route is the target of a policy with a JWT provider. -/
def jwtChecked (policies : List SecurityPolicy) (r : HTTPRoute) : Bool :=
  policies.any fun p => p.metadata.namespace == r.metadata.namespace && !p.jwtProviders.isEmpty &&
    p.targetRefs.any fun t => t.kind == "HTTPRoute" && t.name == r.metadata.name

inductive Response where
  | noRoute
  | redirect (scheme : String) (statusCode : ℕ)
  | noBackend
  | backend (ref : BackendRef) (jwt : Bool)
deriving DecidableEq

def HTTPRouteRule.redirect? (r : HTTPRouteRule) : Option (String × ℕ) :=
  r.filters.findSome? fun
    | .requestRedirect scheme code => some (scheme, code)
    | .urlRewrite _ => none

/-- What the gateway does with a request. -/
def respond (routes : List HTTPRoute) (policies : List SecurityPolicy) (g : Gateway)
    (req : Request) : Response :=
  match dispatch routes g req with
  | none => .noRoute
  | some c =>
    match c.rule.redirect? with
    | some (scheme, code) => .redirect scheme code
    | none =>
      match c.rule.backendRefs with
      | [] => .noBackend
      | b :: _ => .backend b (jwtChecked policies c.route)

/-! ### Lemmas -/

theorem under_iff {path base : String} :
    under path base = true ↔ path = base ∨ ∃ t, path = base ++ "/" ++ t := by
  simp [under, hasPrefix_iff]

/-- Two bases of one path are nested. -/
theorem nested_of_under {path a b : String} (ha : under path a = true) (hb : under path b = true) :
    hasPrefix a b = true ∨ hasPrefix b a = true := by
  have hpre : ∀ {x}, under path x = true → x.toList <+: path.toList := by
    intro x hx
    rcases under_iff.mp hx with rfl | ⟨t, rfl⟩
    · exact List.prefix_refl _
    · exact ⟨'/' :: t.toList, by simp⟩
  simp only [hasPrefix, List.isPrefixOf_iff_prefix]
  exact (List.prefix_or_prefix_of_prefix (hpre ha) (hpre hb)).symm

theorem mem_route_candidates {r : HTTPRoute} {c : Candidate} : c ∈ r.candidates ↔
    c.route = r ∧ c.rule ∈ r.rules ∧ c.routeMatch ∈ c.rule.effectiveMatches ∧
      c.hostname ∈ r.hostnames := by
  simp only [HTTPRoute.candidates, List.mem_flatMap, List.mem_map]
  constructor
  · rintro ⟨rule, hrule, m, hm, h, hh, rfl⟩
    exact ⟨rfl, hrule, hm, hh⟩
  · rintro ⟨rfl, hrule, hm, hh⟩
    exact ⟨c.rule, hrule, c.routeMatch, hm, c.hostname, hh, rfl⟩

theorem mem_candidates {routes : List HTTPRoute} {g : Gateway} {req : Request} {c : Candidate} :
    c ∈ candidates routes g req ↔ accepts g req = true ∧ c.route ∈ routes ∧
      attached g req.listener c.route = true ∧ c ∈ c.route.candidates ∧ c.covers req = true := by
  unfold candidates
  split_ifs with h
  · simp only [List.mem_filter, List.mem_flatMap, h, true_and]
    constructor
    · rintro ⟨⟨r, ⟨hr, ha⟩, hc⟩, hcov⟩
      obtain ⟨rfl, -⟩ := mem_route_candidates.mp hc
      exact ⟨hr, ha, hc, hcov⟩
    · rintro ⟨hr, ha, hc, hcov⟩
      exact ⟨⟨c.route, ⟨hr, ha⟩, hc⟩, hcov⟩
  · simp [h]

/-- **The winner is a candidate and no candidate outranks it.** -/
theorem dispatch_eq_some {routes : List HTTPRoute} {g : Gateway} {req : Request} {c : Candidate}
    (h : dispatch routes g req = some c) : c ∈ candidates routes g req ∧
      ∀ d ∈ candidates routes g req, d.rank ≤ c.rank := by
  unfold dispatch at h
  -- the order on lists of numbers comes with two instances of decidability
  refine ⟨List.argmax_mem h, fun d hd => List.le_of_mem_argmax (f := Candidate.rank) hd ?_⟩
  convert Option.mem_def.mpr h

theorem dispatch_eq_none {routes : List HTTPRoute} {g : Gateway} {req : Request} :
    dispatch routes g req = none ↔ candidates routes g req = [] :=
  List.argmax_eq_none

/-- The order of the ranks is lexicographic. -/
theorem cons_le_cons {a b : ℕ} {l l' : List ℕ} :
    a :: l ≤ b :: l' ↔ a < b ∨ a = b ∧ l ≤ l' := by
  rw [← not_lt, ← not_lt, List.cons_lt_cons_iff]
  rcases lt_trichotomy a b with h | rfl | h
  · simp [h, h.ne', h.not_gt]
  · simp
  · simp [h, h.ne', h.not_gt]

/-- Between candidates with one hostname, an exact path comes before every prefix. -/
theorem isExact_of_rank_le {c d : Candidate} (hh : c.hostname = d.hostname) (h : c.rank ≤ d.rank)
    (hc : c.routeMatch.path.isExact = true) : d.routeMatch.path.isExact = true := by
  rcases hd : d.routeMatch.path.isExact with _ | _
  · simp [Candidate.rank, hh, hc, hd, cons_le_cons] at h
  · rfl

/-- Between prefixes of candidates with one hostname, the longer one comes first. -/
theorem length_le_of_rank_le {c d : Candidate} (hh : c.hostname = d.hostname)
    (h : c.rank ≤ d.rank) (hd : d.routeMatch.path.isExact = false) :
    c.routeMatch.path.value.length ≤ d.routeMatch.path.value.length := by
  rcases hc : c.routeMatch.path.isExact with _ | _
  · simp only [Candidate.rank, hh, hc, hd, cons_le_cons, lt_irrefl, true_and, false_or] at h
    omega
  · have := isExact_of_rank_le hh h hc
    rw [hd] at this
    cases this

end OpenchamiOperator.Lib.GatewayApi
