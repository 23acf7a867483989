import MeshOnboard.Proofs.Discovery.Outcome
import Mathlib

/-!
# Isolation of a host

Two worlds that agree on every host except one lead discovery to the same endpoints of the other
hosts, in the same order.  Of these no other becomes the fastest: it is the same one, or an endpoint
of the host on which the worlds differ.
-/

namespace MeshOnboard

/-- The endpoints of hosts other than `h`. -/
def Endpoint.others (h : String) (es : List Endpoint) : List Endpoint :=
  es.filter fun e => e.host ≠ h

theorem Endpoint.mem_others {h : String} {es : List Endpoint} {e : Endpoint} :
  e ∈ others h es ↔ e ∈ es ∧ e.host ≠ h
  := by
  simp [others]

namespace Discovery

variable {d : Discovery} {h : String} {r r' : Resolver} {p p' : Prober}

/-- The service has the same targets in both worlds, and each host except `h` has the same texts and
the same addresses and says the same to a probe after the same time. -/
structure AgreeOff (d : Discovery) (h : String) (r r' : Resolver) (p p' : Prober) : Prop where
  services : r'.services d.serviceName = r.services d.serviceName
  texts : ∀ host, host ≠ h → r'.texts host = r.texts host
  addresses : ∀ host, host ≠ h → r'.addresses host = r.addresses host
  probes : ∀ host, host ≠ h → p' host = p host

/-- The endpoint that a target becomes, if its host has a text and an address. -/
def endpoint? (d : Discovery) (r : Resolver) (p : Prober) (t : ServiceTarget) : Option Endpoint :=
  (candidate? r t).map fun c => d.endpoint c (p c.host)

theorem host_of_endpoint? {t : ServiceTarget} {e : Endpoint} (found : d.endpoint? r p t = some e) :
  e.host = t.host
  := by
  obtain ⟨c, candidate, rfl⟩ := Option.map_eq_some_iff.1 found
  exact host_of_candidate? candidate

theorem endpoints_eq_filterMap (d : Discovery) (r : Resolver) (p : Prober) :
  d.endpoints r p = (d.targets r).filterMap (d.endpoint? r p)
  := by
  rw [endpoints, candidates_eq, List.map_filterMap]
  rfl

/-- The endpoints in the result of discovery; none when it fails. -/
def found (d : Discovery) (r : Resolver) (p : Prober) : List Endpoint :=
  (d.discover r p).toOption.getD []

theorem found_eq (d : Discovery) (r : Resolver) (p : Prober) :
  d.found r p = d.endpoints r p
  := by
  rw [found, discover_eq]
  split
  · next isEmpty => rw [endpoints_eq_nil_iff.2 isEmpty]; rfl
  · rfl

/-- A target with host `h` becomes no endpoint of another host. -/
theorem filter_endpoint?_eq_none {t : ServiceTarget} (there : t.host = h) :
  (d.endpoint? r p t).filter (fun e => e.host ≠ h) = none
  := by
  cases found : d.endpoint? r p t with
  | none => rfl
  | some e => simp [host_of_endpoint? found, there]

namespace AgreeOff

theorem targets (agree : d.AgreeOff h r r' p p') :
  d.targets r' = d.targets r
  := by
  rw [Discovery.targets, agree.services, Discovery.targets]

/-- A target with another host becomes the same endpoint. -/
theorem endpoint?_eq (agree : d.AgreeOff h r r' p p') {t : ServiceTarget} (other : t.host ≠ h) :
  d.endpoint? r' p' t = d.endpoint? r p t
  := by
  have same : candidate? r' t = candidate? r t := by
    rw [candidate?, candidate, agree.texts _ other, agree.addresses _ other, candidate?, candidate]
  rw [endpoint?, endpoint?, same]
  apply Option.map_congr
  intro c found
  rw [host_of_candidate? found, agree.probes _ other]

/-- A target leaves the same among the endpoints of other hosts. -/
theorem filter_endpoint? (agree : d.AgreeOff h r r' p p') (t : ServiceTarget) :
  (d.endpoint? r' p' t).filter (fun e => e.host ≠ h) =
    (d.endpoint? r p t).filter fun e => e.host ≠ h
  := by
  by_cases there : t.host = h
  · rw [filter_endpoint?_eq_none there, filter_endpoint?_eq_none there]
  · rw [agree.endpoint?_eq there]

/-- The endpoints of other hosts are the same, in the same order. -/
theorem others_eq (agree : d.AgreeOff h r r' p p') :
  Endpoint.others h (d.endpoints r' p') = Endpoint.others h (d.endpoints r p)
  := by
  rw [Endpoint.others, Endpoint.others, endpoints_eq_filterMap, endpoints_eq_filterMap,
    agree.targets, List.filter_filterMap, List.filter_filterMap]
  apply List.filterMap_congr
  intro t _
  apply agree.filter_endpoint?

/-- An endpoint of another host that leads in one world leads the endpoints of other hosts in the
other. -/
theorem leads_others (agree : d.AgreeOff h r r' p p') {e : Endpoint}
    (leads : e.Leads (d.endpoints r p)) (other : e.host ≠ h) :
  e.Leads (Endpoint.others h (d.endpoints r' p'))
  := by
  rw [agree.others_eq]
  apply leads.filter
  simpa using other

/-- An endpoint of another host in one world is an endpoint in the other. -/
theorem mem_endpoints (agree : d.AgreeOff h r r' p p') {e : Endpoint}
    (mem : e ∈ d.endpoints r' p') (other : e.host ≠ h) :
  e ∈ d.endpoints r p
  := by
  have mem : e ∈ Endpoint.others h (d.endpoints r' p') := Endpoint.mem_others.2 ⟨mem, other⟩
  rw [agree.others_eq] at mem
  exact (Endpoint.mem_others.1 mem).1

end AgreeOff

/-- Where two worlds agree off a host, discovery finds the same endpoints of other hosts, in the
same order.  If the fastest endpoint in one world is of another host, the fastest in the other is
the same or one of the host; if there is none in one, there is none in the other but one of the
host. -/
theorem isolates (agree : d.AgreeOff h r r' p p') :
  Endpoint.others h (d.found r' p') = Endpoint.others h (d.found r p) ∧
  (∀ e, d.fastest r p = .ok e → e.host ≠ h →
    d.fastest r' p' = .ok e ∨ ∃ e', d.fastest r' p' = .ok e' ∧ e'.host = h) ∧
  ∀ error, d.fastest r p = .error error →
    (∃ error', d.fastest r' p' = .error error') ∨ ∃ e', d.fastest r' p' = .ok e' ∧ e'.host = h
  := by
  refine ⟨?same, ?selected, ?failed⟩
  case same =>
    rw [found_eq, found_eq]
    exact agree.others_eq
  case selected =>
    intro e selected other
    have leads := fastest_eq_ok_iff.1 selected
    have here := agree.leads_others leads other
    cases selected' : d.fastest r' p' with
    | error error =>
      have mem := (Endpoint.mem_others.1 here.mem).1
      exact absurd selected' (fastest_ne_error mem leads.isReachable error)
    | ok e' =>
      by_cases other' : e'.host = h
      · exact .inr ⟨e', rfl, other'⟩
      · have here' : e'.Leads (Endpoint.others h (d.endpoints r' p')) :=
          (fastest_eq_ok_iff.1 selected').filter (by simpa using other')
        rw [here.unique here']
        exact .inl rfl
  case failed =>
    intro error failed
    cases selected' : d.fastest r' p' with
    | error error' => exact .inl ⟨error', rfl⟩
    | ok e' =>
      right
      use e', rfl
      by_contra other
      have leads := fastest_eq_ok_iff.1 selected'
      have mem := agree.mem_endpoints leads.mem other
      exact fastest_ne_error mem leads.isReachable error failed

/-- Two hosts offer the service.  Both have an address, and `far` has a text; the texts of `near`
are the given ones. -/
def twoHosts (texts : List String) : Resolver where
  services _ := .ok [⟨"near", 4242, 0, 0⟩, ⟨"far", 4242, 0, 0⟩]
  texts host := .ok (if host = "near" then texts else ["relay"])
  addresses _ := .ok [.v4 (.ofOctets 10 0 0 1)]

/-- The host `near` answers after the given number of milliseconds, and every other after twenty. -/
def nearAfter (millis : UInt64) : Prober :=
  fun host => some (20, .reachable (if host = "near" then millis else 20))

/-- The relay that a host of the service is found as when it answers after so many milliseconds. -/
def relayAt (host : String) (millis : UInt64) : Endpoint :=
  ⟨host, "relay", "10.0.0.1", .reachable millis⟩

theorem agreeOff_near :
  (ofZone "example.org" 5000).AgreeOff "near" (twoHosts []) (twoHosts ["relay"]) (nearAfter 30)
    (nearAfter 3)
  where
  services := rfl
  texts host other := by simp [twoHosts, other]
  addresses _ _ := rfl
  probes host other := by simp [nearAfter, other]

/-- Once `near` has a text and answers sooner, it is found before `far`, which is found as before,
and becomes the fastest in its place. -/
theorem isolates_near :
  let d := ofZone "example.org" 5000
  let before := d.found (twoHosts []) (nearAfter 30)
  let after := d.found (twoHosts ["relay"]) (nearAfter 3)
  before = [relayAt "far" 20] ∧ after = [relayAt "near" 3, relayAt "far" 20] ∧
  Endpoint.others "near" after = Endpoint.others "near" before ∧
  d.fastest (twoHosts []) (nearAfter 30) = .ok (relayAt "far" 20) ∧
  d.fastest (twoHosts ["relay"]) (nearAfter 3) = .ok (relayAt "near" 3) ∧
  (d.fastest (twoHosts ["relay"]) (nearAfter 3) = .ok (relayAt "far" 20) ∨
    ∃ e, d.fastest (twoHosts ["relay"]) (nearAfter 3) = .ok e ∧ e.host = "near")
  := by
  have selected : (ofZone "example.org" 5000).fastest (twoHosts []) (nearAfter 30) =
      .ok (relayAt "far" 20) := by cbv
  obtain ⟨same, kept, -⟩ := isolates agreeOff_near
  exact ⟨by cbv, by cbv, same, selected, by cbv, kept _ selected (by decide)⟩

end Discovery

end MeshOnboard
