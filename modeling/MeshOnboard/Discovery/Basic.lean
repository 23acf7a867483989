import MeshOnboard.Dialogue
import MeshOnboard.Discovery.Endpoint
import MeshOnboard.Discovery.Resolver
import MeshOnboard.Log
import MeshOnboard.Text.Pieces

/-!
# Discovery

Relays are the targets of a service of a zone.  A target with a text and an address is a candidate;
another is skipped with a warning.  All candidates are probed at once, and those that have not
answered at the deadline count as timed out.  `Discovery.explore` is the conversation with the name
service and the hosts that ends with the endpoints, in the order of the targets.
`Discovery.discover` is what comes of it with a resolver and a prober, and `Discovery.fastest` picks
the fastest endpoint.
-/

namespace MeshOnboard

/-- Where relays are looked for, and how long. -/
structure Discovery where
  zone : String
  service : String
  protocol : String
  /-- The milliseconds that the probes may take together. -/
  deadline : Nat
  deriving DecidableEq

/-- Why discovery yields nothing. -/
inductive DiscoveryError where
  /-- There is no candidate; so many targets were skipped. -/
  | noEndpoints (name : String) (skipped : Nat)
  /-- None of so many endpoints is reachable. -/
  | noneReachable (discovered : Nat)
  deriving DecidableEq

/-- The wording of a discovery error. -/
def DiscoveryError.message : DiscoveryError → String
  | noEndpoints name skipped =>
    s!"no available relay endpoints found for {name} ({skipped} SRV targets unresolvable)"
  | noneReachable discovered =>
    s!"none of the {discovered} discovered relay endpoints is reachable"

/-- What a host says to a probe and the milliseconds after which it does, counted from the time at
which probing begins, or `none` for a host that never answers. -/
abbrev ProbeReply : Type := Option (Nat × Latency)

/-- What hosts say to probes. -/
abbrev Prober : Type := String → ProbeReply

/-- A question that comes up in discovery. -/
inductive DiscoveryQuery where
  /-- The targets of a service. -/
  | services (name : String)
  | texts (host : String)
  | addresses (host : String)
  /-- A probe of a host. -/
  | probe (host : String)
  deriving DecidableEq

namespace DiscoveryQuery

/-- The answer to a question. -/
abbrev Reply : DiscoveryQuery → Type
  | services _ => Except LookupError (List ServiceTarget)
  | texts _ => Except LookupError (List String)
  | addresses _ => Except LookupError (List HostAddress)
  | probe _ => ProbeReply

/-- The host that a question probes. -/
def probed? : DiscoveryQuery → Option String
  | probe host => some host
  | _ => none

/-- The answers of a resolver and a prober. -/
def answer (r : Resolver) (p : Prober) (q : DiscoveryQuery) (_ : Unit) : q.Reply × Unit :=
  match q with
  | services name => (r.services name, ())
  | texts host => (r.texts host, ())
  | addresses host => (r.addresses host, ())
  | probe host => (p host, ())

end DiscoveryQuery

/-- A conversation with the name service and the hosts. -/
abbrev DiscoveryDialogue (α : Type) : Type :=
  Dialogue DiscoveryQuery DiscoveryQuery.Reply (Except DiscoveryError α)

/-- A target that may be probed. -/
structure Candidate where
  host : String
  description : String
  address : HostAddress
  deriving DecidableEq

namespace Discovery

/-- Discovery of the relays of a zone. -/
def ofZone (zone : String) (deadline : Nat) : Discovery := ⟨zone, "vpn", "udp", deadline⟩

/-- The zone without the dots at its end. -/
def zoneName (d : Discovery) : String :=
  String.ofList (Text.stripEnd (· = '.') d.zone.toList)

/-- The name of the service. -/
def serviceName (d : Discovery) : String := s!"_{d.service}._{d.protocol}.{d.zoneName}"

/-! ### Candidates -/

/-- The candidate for a host with the first of its texts and the first of its addresses, or the
reason to skip the host. -/
def candidateOf (host : String) (texts : Except LookupError (List String))
    (addresses : Except LookupError (List HostAddress)) : Except String Candidate :=
  match texts, addresses with
  | .error e, _ => .error e.chain
  | .ok [], _ => .error "no TXT description"
  | .ok (_ :: _), .error e => .error e.chain
  | .ok (_ :: _), .ok [] => .error "no address records"
  | .ok (description :: _), .ok (address :: _) => .ok ⟨host, description, address⟩

/-- The candidate for a host with the answers of a resolver. -/
def candidate (r : Resolver) (host : String) : Except String Candidate :=
  candidateOf host (r.texts host) (r.addresses host)

/-- The conversation that ends with the candidate for a host, if it has a text and an address. -/
def resolve (host : String) : DiscoveryDialogue (Option Candidate) :=
  .ask (.texts host) fun texts =>
    .ask (.addresses host) fun addresses =>
      .done (.ok (candidateOf host texts addresses).toOption)

/-- The hosts that offer the service; none when the look-up fails. -/
def hosts (d : Discovery) (r : Resolver) : List String :=
  match r.services d.serviceName with
  | .ok targets => targets.map ServiceTarget.host
  | .error _ => []

/-- The candidates, in the order of the targets. -/
def candidates (d : Discovery) (r : Resolver) : List Candidate :=
  (d.hosts r).filterMap fun host => (candidate r host).toOption

/-- The warning about a host that is skipped. -/
def skipNotice? (r : Resolver) (host : String) : Option LogEntry :=
  match candidate r host with
  | .ok _ => none
  | .error reason => some (.warning s!"Skipping relay {host}: {reason}")

/-- The warnings that discovery leaves in the log. -/
def notices (d : Discovery) (r : Resolver) : List LogEntry :=
  match r.services d.serviceName with
  | .error e => [.warning s!"Relay SRV lookup failed: {e.chain}"]
  | .ok [] => [.warning s!"No SRV records found for {d.serviceName}"]
  | .ok targets =>
    let skipped := targets.filterMap fun t => skipNotice? r t.host
    if skipped.length < targets.length then skipped
    else skipped ++
      [.warning s!"All {targets.length} SRV targets of {d.serviceName} failed to resolve"]

/-! ### Probing -/

/-- The latency of a host whose answer is waited for until the deadline. -/
def latencyWithin (deadline : Nat) : ProbeReply → Latency
  | some (delay, latency) => if delay ≤ deadline then latency else .unreachable .timeout
  | none => .unreachable .timeout

/-- The milliseconds spent on a host whose answer is waited for until the deadline. -/
def timeWithin (deadline : Nat) : ProbeReply → Nat
  | some (delay, _) => min delay deadline
  | none => deadline

/-- The endpoint that a candidate becomes with what it says to a probe. -/
def endpoint (d : Discovery) (c : Candidate) (reply : ProbeReply) : Endpoint :=
  ⟨c.host, c.description, toString c.address, latencyWithin d.deadline reply⟩

/-- The conversation that ends with the endpoint that a candidate becomes. -/
def probe (d : Discovery) (c : Candidate) : DiscoveryDialogue Endpoint :=
  .ask (.probe c.host) fun reply => .done (.ok (d.endpoint c reply))

/-- The hosts that are probed. -/
def probed (d : Discovery) (r : Resolver) : List String :=
  (d.candidates r).map Candidate.host

/-- The milliseconds until every probe has answered or run out of time. -/
def elapsed (d : Discovery) (r : Resolver) (p : Prober) : Nat :=
  (d.probed r).foldl (fun t host => max t (timeWithin d.deadline (p host))) 0

/-- The conversation that ends with the endpoints.  The look-ups for all targets are under way at
once, and so are all probes, which begin when the last look-up is answered. -/
def explore (d : Discovery) : DiscoveryDialogue (List Endpoint) :=
  .ask (.services d.serviceName) fun
    | .error _ => .done (.error (.noEndpoints d.serviceName 0))
    | .ok targets =>
      (Dialogue.forEach (fun t => resolve t.host) targets).andThen fun found =>
        match found.filterMap id with
        | [] => .done (.error (.noEndpoints d.serviceName targets.length))
        | cs => Dialogue.forEach d.probe cs

/-- What comes of discovery with a resolver and a prober. -/
def discover (d : Discovery) (r : Resolver) (p : Prober) : Except DiscoveryError (List Endpoint) :=
  (d.explore.run (DiscoveryQuery.answer r p) ()).1

/-- The fastest endpoint. -/
def fastest (d : Discovery) (r : Resolver) (p : Prober) : Except DiscoveryError Endpoint := do
  let es ← d.discover r p
  match Endpoint.fastest? es with
  | some e => return e
  | none => throw (.noneReachable es.length)

end Discovery

end MeshOnboard
