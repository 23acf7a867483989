import MeshOnboard.Overlay.Workshop
import MeshOnboard.Program.ClientSession
import MeshOnboard.Web.Network

/-!
# The system a client runs on

A `ClientHost` answers the steps of a session: it looks up names, probes and calls relays, keeps the
file tree and runs the daemon.
-/

namespace MeshOnboard

/-- The system a client runs on. -/
structure ClientHost where
  port : UInt16
  resolver : Resolver
  prober : Prober
  /-- Whether a connection to a host can be opened. -/
  isUp : String → Bool
  /-- What the relay at a host answers to a login and a token. -/
  enrol : String → String → String → Except RelayError Enrolment
  /-- What the relay at a host answers to a login that leaves. -/
  leave : String → String → Except RelayError Unit
  tree : Tree
  /-- How the wait for a program ends when it is run as the daemon, if it can be run at all. -/
  daemons : Path → Option WaitOutcome
  /-- How the wait for the daemon will end, once one was started. -/
  running : Option WaitOutcome
  /-- The arguments of the daemon, once one was started. -/
  daemonArguments : Option (List String)

namespace ClientHost

/-- A host without a network, with the given port of the relays and time-out of probes. -/
def offline (port : UInt16) (probeTimeout : Nat) (tree : Tree)
    (daemons : Path → Option WaitOutcome) : ClientHost where
  port := port
  resolver := Offline.resolver
  prober host := some (0, Relay.probe (fun _ => Offline.relay) port probeTimeout host)
  isUp _ := false
  enrol _ _ _ := .error (.emptyLogin "certificate")
  leave _ _ := .error (.emptyLogin "disconnect")
  tree := tree
  daemons := daemons
  running := none
  daemonArguments := none

/-- Where and how long the client looks for relays. -/
def discovery (c : ClientSettings) : Discovery := .ofZone c.zone c.discoveryDeadline.toMillis

/-- The host after a program is started as the daemon. -/
def spawn (h : ClientHost) (program : Path) (arguments : List String) :
    Except FileError Unit × ClientHost :=
  if '\x00' ∈ program.chars ∨ arguments.any (fun a => '\x00' ∈ a.toList) then
    (.error .nulInArgument, h)
  else
    match h.daemons program with
    | none => (.error (Workshop.runError h.tree program), h)
    | some outcome =>
      (.ok (), { h with running := some outcome, daemonArguments := some arguments })

/-- The answer to a step of the session with the given settings, and the host after it. -/
def answer (c : ClientSettings) (step : SessionStep) (h : ClientHost) :
    step.Outcome × ClientHost :=
  match step with
  | .discover => ((discovery c).fastest h.resolver h.prober, h)
  | .connect host => (Relay.connect h.isUp host h.port, h)
  | .enrol host login token => (Relay.enrol host (h.enrol host login token), h)
  | .writeConfig directory config =>
    let (tree, outcome) := ConfigFile.write h.tree directory config
    (outcome, { h with tree })
  | .spawn program arguments => h.spawn program arguments
  | .wait => (h.running.getD .interrupted, h)
  | .leave host login => (Relay.leave host (h.leave host login), h)
  | .kill => (.ok (), { h with running := none })

/-- The outcome of a session on the host, and the host after it. -/
def run (h : ClientHost) (c : ClientSettings) : Except SessionError Unit × ClientHost :=
  (ClientSession.run c).run (answer c) h

end ClientHost

end MeshOnboard
