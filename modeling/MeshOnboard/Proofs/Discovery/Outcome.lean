import MeshOnboard.Discovery.Basic
import MeshOnboard.Proofs.Dialogue
import MeshOnboard.Proofs.Discovery.Selection
import Mathlib.Data.List.Forall2

/-!
# The outcome of discovery

A target is resolvable if its host has a text and an address.  Discovery ends with one endpoint for
each resolvable target, in the order of the targets, and probes exactly these; it fails if there is
none.  The fastest endpoint is the one that leads them.
-/

namespace MeshOnboard

namespace Resolver

/-- The first text of a host. -/
def text? (r : Resolver) (host : String) : Option String := (r.texts host).toOption.bind List.head?

/-- The first address of a host. -/
def address? (r : Resolver) (host : String) : Option HostAddress :=
  (r.addresses host).toOption.bind List.head?

/-- Whether the host of a target has a text and an address. -/
def resolves (r : Resolver) (t : ServiceTarget) : Bool :=
  (r.text? t.host).isSome && (r.address? t.host).isSome

end Resolver

namespace Discovery

open Dialogue

variable {d : Discovery} {r : Resolver} {p : Prober}

/-! ### Candidates -/

/-- The candidate for a target, if its host has a text and an address. -/
def candidate? (r : Resolver) (t : ServiceTarget) : Option Candidate :=
  (candidate r t.host).toOption

/-- A candidate has the first text and the first address of its host. -/
theorem candidate?_eq (r : Resolver) (t : ServiceTarget) :
  candidate? r t =
    (r.text? t.host).bind fun description =>
      (r.address? t.host).map fun address => ⟨t.host, description, address⟩
  := by
  rw [candidate?, candidate, Resolver.text?, Resolver.address?]
  rcases r.texts t.host with e | _ | ⟨description, texts⟩
  · rfl
  · rfl
  · rcases r.addresses t.host with e | _ | ⟨address, addresses⟩
    · rfl
    · rfl
    · rfl

theorem isSome_candidate? (r : Resolver) (t : ServiceTarget) :
  (candidate? r t).isSome = r.resolves t
  := by
  rw [candidate?_eq, Resolver.resolves]
  cases r.text? t.host with
  | none => rfl
  | some description => simp

theorem host_of_candidate? {t : ServiceTarget} {c : Candidate} (h : candidate? r t = some c) :
  c.host = t.host
  := by
  rw [candidate?_eq] at h
  obtain ⟨description, -, h⟩ := Option.bind_eq_some_iff.1 h
  obtain ⟨address, -, rfl⟩ := Option.map_eq_some_iff.1 h
  rfl

/-- The targets of the service; none when the look-up fails. -/
def targets (d : Discovery) (r : Resolver) : List ServiceTarget :=
  (r.services d.serviceName).toOption.getD []

/-- The targets whose hosts have a text and an address. -/
def resolvable (d : Discovery) (r : Resolver) : List ServiceTarget :=
  (d.targets r).filter r.resolves

theorem hosts_eq (d : Discovery) (r : Resolver) :
  d.hosts r = (d.targets r).map ServiceTarget.host
  := by
  rw [hosts, targets]
  cases r.services d.serviceName
  · rfl
  · rfl

theorem candidates_eq (d : Discovery) (r : Resolver) :
  d.candidates r = (d.targets r).filterMap (candidate? r)
  := by
  rw [candidates, hosts_eq, List.filterMap_map]
  rfl

/-- The resolvable targets become the candidates, one by one. -/
theorem forall₂_resolvable_candidates (d : Discovery) (r : Resolver) :
  List.Forall₂ (fun t c => candidate? r t = some c) (d.resolvable r) (d.candidates r)
  := by
  rw [candidates_eq, resolvable]
  induction d.targets r with
  | nil => exact .nil
  | cons t ts ih =>
    have resolves := isSome_candidate? r t
    cases found : candidate? r t with
    | none =>
      rw [found] at resolves
      rwa [List.filterMap_cons_none found, List.filter_cons_of_neg (by simp [← resolves])]
    | some c =>
      rw [found] at resolves
      rw [List.filterMap_cons_some found, List.filter_cons_of_pos resolves.symm]
      exact .cons found ih

/-! ### Endpoints -/

/-- The endpoints that the candidates become. -/
def endpoints (d : Discovery) (r : Resolver) (p : Prober) : List Endpoint :=
  (d.candidates r).map fun c => d.endpoint c (p c.host)

/-- The endpoint that a target becomes: its host with the first text and the first address of that
host, and with what the host says to a probe if it says it before the deadline. -/
structure IsEndpointOf (d : Discovery) (r : Resolver) (p : Prober) (t : ServiceTarget)
    (e : Endpoint) : Prop where
  host : e.host = t.host
  description : r.text? t.host = some e.description
  address : (r.address? t.host).map toString = some e.address
  inTime : ∀ delay latency, p t.host = some (delay, latency) → delay ≤ d.deadline →
    e.latency = latency
  late : ∀ delay latency, p t.host = some (delay, latency) → d.deadline < delay →
    e.latency = .unreachable .timeout
  never : p t.host = none → e.latency = .unreachable .timeout

theorem isEndpointOf_endpoint {t : ServiceTarget} {c : Candidate} (h : candidate? r t = some c) :
  d.IsEndpointOf r p t (d.endpoint c (p c.host))
  := by
  rw [candidate?_eq] at h
  obtain ⟨description, text, h⟩ := Option.bind_eq_some_iff.1 h
  obtain ⟨address, there, rfl⟩ := Option.map_eq_some_iff.1 h
  refine ⟨rfl, text, by rw [there]; rfl, ?_, ?_, ?_⟩
  · intro delay latency said inTime
    simp [endpoint, said, latencyWithin, inTime]
  · intro delay latency said late
    simp [endpoint, said, latencyWithin, Nat.not_le.2 late]
  · intro silent
    simp [endpoint, silent, latencyWithin]

/-- The resolvable targets become the endpoints, one by one. -/
theorem forall₂_resolvable_endpoints (d : Discovery) (r : Resolver) (p : Prober) :
  List.Forall₂ (d.IsEndpointOf r p) (d.resolvable r) (d.endpoints r p)
  := by
  rw [endpoints, List.forall₂_map_right_iff]
  apply (forall₂_resolvable_candidates d r).imp
  intro t c
  apply isEndpointOf_endpoint

theorem length_endpoints (d : Discovery) (r : Resolver) (p : Prober) :
  (d.endpoints r p).length = (d.resolvable r).length
  := (forall₂_resolvable_endpoints d r p).length_eq.symm

theorem candidates_eq_nil_iff :
  d.candidates r = [] ↔ d.resolvable r = []
  := by
  rw [← List.length_eq_zero_iff, ← (forall₂_resolvable_candidates d r).length_eq,
    List.length_eq_zero_iff]

/-- The hosts that are probed are those of the resolvable targets. -/
theorem probed_eq (d : Discovery) (r : Resolver) :
  d.probed r = (d.resolvable r).map ServiceTarget.host
  := by
  rw [probed, ← List.forall₂_eq_eq_eq, List.forall₂_map_left_iff, List.forall₂_map_right_iff]
  apply (forall₂_resolvable_candidates d r).flip.imp
  intro c t
  apply host_of_candidate?

/-! ### The conversation -/

theorem yields_resolve (r : Resolver) (p : Prober) (t : ServiceTarget) :
  (resolve t.host).Yields (DiscoveryQuery.answer r p) (.ok (candidate? r t))
  := fun _ => rfl

theorem yields_probe (d : Discovery) (r : Resolver) (p : Prober) (c : Candidate) :
  (d.probe c).Yields (DiscoveryQuery.answer r p) (.ok (d.endpoint c (p c.host)))
  := fun _ => rfl

theorem yields_resolve_all (r : Resolver) (p : Prober) (ts : List ServiceTarget) :
  (forEach (fun t => resolve t.host) ts).Yields (DiscoveryQuery.answer r p)
    (.ok (ts.map (candidate? r)))
  := yields_forEach fun t _ => yields_resolve r p t

theorem yields_probe_all (d : Discovery) (r : Resolver) (p : Prober) (cs : List Candidate) :
  (forEach d.probe cs).Yields (DiscoveryQuery.answer r p)
    (.ok (cs.map fun c => d.endpoint c (p c.host)))
  := yields_forEach fun c _ => yields_probe d r p c

theorem filterMap_found {ts : List ServiceTarget} (h : r.services d.serviceName = .ok ts) :
  (ts.map (candidate? r)).filterMap id = d.candidates r
  := by
  rw [candidates_eq, targets, h, List.filterMap_map]
  rfl

/-- Discovery ends with the endpoints, and fails if there are none. -/
theorem discover_eq (d : Discovery) (r : Resolver) (p : Prober) :
  d.discover r p =
    if d.resolvable r = [] then .error (.noEndpoints d.serviceName (d.targets r).length)
    else .ok (d.endpoints r p)
  := by
  rw [discover, explore, run]
  simp only [DiscoveryQuery.answer]
  cases looked : r.services d.serviceName with
  | error e =>
    simp [resolvable, targets, looked, run, Except.toOption]
  | ok ts =>
    apply (yields_resolve_all r p ts).andThen
    rw [filterMap_found looked]
    cases found : d.candidates r with
    | nil =>
      rw [if_pos (candidates_eq_nil_iff.1 found), targets, looked]
      apply yields_done
    | cons c cs =>
      rw [if_neg (by simp [← candidates_eq_nil_iff, found]), endpoints, found]
      apply yields_probe_all

/-- The look-ups for the targets probe nothing. -/
theorem probed_resolve_all (r : Resolver) (p : Prober) (ts : List ServiceTarget) :
  ((forEach (fun t => resolve t.host) ts).transcript (DiscoveryQuery.answer r p) ()).filterMap
    DiscoveryQuery.probed? = []
  := by
  have asks : ∀ t ∈ ts, ∀ world, (resolve t.host).transcript (DiscoveryQuery.answer r p) world =
      [.texts t.host, .addresses t.host] := fun _ _ _ => rfl
  rw [transcript_forEach (fun t _ => yields_resolve r p t) asks, List.filterMap_flatMap]
  simp [DiscoveryQuery.probed?]

/-- The probes of candidates probe the host of each. -/
theorem probed_probe_all (d : Discovery) (r : Resolver) (p : Prober) (cs : List Candidate) :
  ((forEach d.probe cs).transcript (DiscoveryQuery.answer r p) ()).filterMap
    DiscoveryQuery.probed? = cs.map Candidate.host
  := by
  have asks : ∀ c ∈ cs, ∀ world, (d.probe c).transcript (DiscoveryQuery.answer r p) world =
      [.probe c.host] := fun _ _ _ => rfl
  rw [transcript_forEach (fun c _ => yields_probe d r p c) asks, List.filterMap_flatMap]
  exact List.map_eq_flatMap.symm

/-- The hosts that discovery probes, in order. -/
theorem probed_explore (d : Discovery) (r : Resolver) (p : Prober) :
  (d.explore.transcript (DiscoveryQuery.answer r p) ()).filterMap DiscoveryQuery.probed? =
    (d.resolvable r).map ServiceTarget.host
  := by
  rw [← probed_eq, probed, explore, transcript]
  simp only [DiscoveryQuery.answer]
  cases looked : r.services d.serviceName with
  | error e =>
    simp [DiscoveryQuery.probed?, candidates_eq, targets, looked, transcript, Except.toOption]
  | ok ts =>
    rw [List.filterMap_cons_none (by rfl), (yields_resolve_all r p ts).transcript_andThen,
      filterMap_found looked, List.filterMap_append, probed_resolve_all, List.nil_append]
    cases d.candidates r with
    | nil => rfl
    | cons c cs => exact probed_probe_all d r p (c :: cs)

/-! ### The fastest endpoint -/

theorem fastest_eq (d : Discovery) (r : Resolver) (p : Prober) :
  d.fastest r p =
    if d.resolvable r = [] then .error (.noEndpoints d.serviceName (d.targets r).length)
    else
      match Endpoint.fastest? (d.endpoints r p) with
      | some e => .ok e
      | none => .error (.noneReachable (d.resolvable r).length)
  := by
  rw [fastest, discover_eq]
  split
  · rfl
  · rw [← length_endpoints d r p]
    rfl

theorem endpoints_eq_nil_iff :
  d.endpoints r p = [] ↔ d.resolvable r = []
  := by
  rw [← List.length_eq_zero_iff, length_endpoints, List.length_eq_zero_iff]

/-- The fastest endpoint is the one that leads. -/
theorem fastest_eq_ok_iff {e : Endpoint} :
  d.fastest r p = .ok e ↔ e.Leads (d.endpoints r p)
  := by
  rw [← Endpoint.fastest?_eq_some_iff, fastest_eq]
  split
  · next isEmpty =>
    rw [endpoints_eq_nil_iff.2 isEmpty]
    simp [Endpoint.fastest?, Endpoint.fastestPosition?, Endpoint.leastTime?]
  · cases Endpoint.fastest? (d.endpoints r p) <;> simp

/-- There is a fastest endpoint if one is reachable. -/
theorem fastest_ne_error {e : Endpoint} (mem : e ∈ d.endpoints r p)
    (reachable : e.latency.isReachable = true) (error : DiscoveryError) :
  d.fastest r p ≠ .error error
  := by
  intro failed
  cases found : Endpoint.fastest? (d.endpoints r p) with
  | none =>
    rw [Endpoint.fastest?_eq_none_iff.1 found e mem] at reachable
    contradiction
  | some e' =>
    rw [fastest_eq_ok_iff.2 (Endpoint.fastest?_eq_some_iff.1 found)] at failed
    contradiction

/-! ### The outcome -/

theorem targets_eq_nil_iff :
  d.targets r = [] ↔ ∀ ts, r.services d.serviceName = .ok ts → ts = []
  := by
  rw [targets]
  cases r.services d.serviceName with
  | error e => simp [Except.toOption]
  | ok ts => simp [Except.toOption]

theorem resolvable_eq_nil_of_targets (h : d.targets r = []) :
  d.resolvable r = []
  := by
  rw [resolvable, h, List.filter_nil]

/-- Discovery skips nothing and finds nothing if the service has no target, skips every target if
none is resolvable, and otherwise ends with one endpoint for each resolvable target, in order.  The
hosts of the resolvable targets are probed, once for each target, and no other.  The fastest
endpoint is the one that leads; without it the error is that of discovery, or says that so many
endpoints are unreachable. -/
theorem discovers_resolvable (d : Discovery) (r : Resolver) (p : Prober) :
  (d.discover r p = .error (.noEndpoints d.serviceName 0) ↔
    ∀ ts, r.services d.serviceName = .ok ts → ts = []) ∧
  (∀ ts, r.services d.serviceName = .ok ts → ts ≠ [] →
    (d.discover r p = .error (.noEndpoints d.serviceName ts.length) ↔ d.resolvable r = [])) ∧
  (d.resolvable r ≠ [] →
    ∃ es, d.discover r p = .ok es ∧ List.Forall₂ (d.IsEndpointOf r p) (d.resolvable r) es) ∧
  (d.explore.transcript (DiscoveryQuery.answer r p) ()).filterMap DiscoveryQuery.probed? =
    (d.resolvable r).map ServiceTarget.host ∧
  (∀ name skipped, d.fastest r p = .error (.noEndpoints name skipped) ↔
    d.discover r p = .error (.noEndpoints name skipped)) ∧
  ∀ es, d.discover r p = .ok es →
    (∀ n, d.fastest r p = .error (.noneReachable n) ↔
      n = (d.resolvable r).length ∧ ∀ e ∈ es, e.latency.isReachable = false) ∧
    ∀ e, d.fastest r p = .ok e ↔ e.Leads es
  := by
  refine ⟨?nothing, ?skipped, ?found, probed_explore d r p, ?sameError, ?fastest⟩
  case nothing =>
    rw [← targets_eq_nil_iff, discover_eq]
    constructor
    · intro h
      split at h
      · simpa using h
      · contradiction
    · intro isEmpty
      rw [if_pos (resolvable_eq_nil_of_targets isEmpty), isEmpty, List.length_nil]
  case skipped =>
    intro ts looked _
    have same : d.targets r = ts := by rw [targets, looked]; rfl
    rw [discover_eq, same]
    simp
  case found =>
    intro nonempty
    use d.endpoints r p
    rw [discover_eq, if_neg nonempty]
    exact ⟨rfl, forall₂_resolvable_endpoints d r p⟩
  case sameError =>
    intro name skipped
    rw [fastest_eq, discover_eq]
    split
    · simp
    · cases Endpoint.fastest? (d.endpoints r p) <;> simp
  case fastest =>
    intro es found
    rw [discover_eq] at found
    split at found
    · contradiction
    next nonempty =>
      obtain rfl := Except.ok.inj found
      use fun n => ?_, fun e => fastest_eq_ok_iff
      rw [← Endpoint.fastest?_eq_none_iff, fastest_eq, if_neg nonempty]
      cases Endpoint.fastest? (d.endpoints r p) <;> simp [eq_comm]

end Discovery

end MeshOnboard
