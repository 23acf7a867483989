import MeshOnboard.Discovery.Basic
import MeshOnboard.Files.Tree
import MeshOnboard.Relay.Caller
import MeshOnboard.Settings.Basic

/-!
# The client's session

A client finds the fastest relay, enrols there, writes its configuration file, runs the overlay
daemon with it and waits until the daemon ends or the client is to stop; then it takes leave of the
relay and kills the daemon.  `ClientSession.run` is the conversation with the system about these
steps.  A step that fails ends the session, but a failed leave is only reported.
-/

namespace MeshOnboard

/-! ### The configuration file -/

/-- Why the configuration file cannot be written. -/
inductive ConfigFileError where
  | create (directory : Path) (reason : FileError)
  | write (path : Path) (reason : FileError)
  deriving DecidableEq

/-- The wording of a configuration file error. -/
def ConfigFileError.message : ConfigFileError → String
  | create directory reason => s!"Failed to create {directory}: {reason.message}"
  | write path reason => s!"Failed to write overlay config to {path}: {reason.message}"

namespace ConfigFile

/-- The configuration file of a directory. -/
def path (directory : Path) : Path := directory.join "config.yml"

/-- The tree in which the configuration file of a directory holds a text, and the file's path; the
directory is made if it is missing. -/
def write (t : Tree) (directory : Path) (text : String) : Tree × Except ConfigFileError Path :=
  match t.createDirectory directory with
  | (t, .error reason) => (t, .error (.create directory reason))
  | (t, .ok ()) =>
    match t.write (path directory) (Utf8.write text) with
    | (t, .error reason) => (t, .error (.write (path directory) reason))
    | (t, .ok ()) => (t, .ok (path directory))

end ConfigFile

/-! ### The session -/

/-- Why a session fails. -/
inductive SessionError where
  | discovery (reason : DiscoveryError)
  | connection (reason : CallError)
  | enrolment (reason : CallError)
  | configFile (reason : ConfigFileError)
  | daemon (program : Path) (reason : FileError)
  deriving DecidableEq

/-- The wording of a session error, with its causes. -/
def SessionError.message : SessionError → String
  | discovery (.noEndpoints name skipped) =>
    let reason := DiscoveryError.noEndpoints name skipped
    s!"No relay endpoints are published for this deployment: {reason.message}"
  | discovery reason => s!"Relay endpoints exist but none answered: {reason.message}"
  | connection reason => reason.message
  | enrolment reason => s!"Failed to obtain an overlay config: {reason.message}"
  | configFile reason => reason.message
  | daemon program reason => s!"Failed to start {program}: {reason.message}"

/-- How the wait for the daemon ends. -/
inductive WaitOutcome where
  | exited (status : ExitStatus)
  /-- The client is to stop. -/
  | interrupted
  /-- It is not known any more whether the daemon has ended or the client is to stop. -/
  | failed (reason : FileError)
  deriving DecidableEq

/-- A step of a session. -/
inductive SessionStep where
  | discover
  | connect (host : String)
  | enrol (host login token : String)
  | writeConfig (directory : Path) (config : String)
  | spawn (program : Path) (arguments : List String)
  | wait
  | leave (host login : String)
  | kill
  deriving DecidableEq

/-- The outcome of a step. -/
abbrev SessionStep.Outcome : SessionStep → Type
  | discover => Except DiscoveryError Endpoint
  | connect _ => Except CallError Unit
  | enrol .. => Except CallError Enrolment
  | writeConfig .. => Except ConfigFileError Path
  | spawn .. => Except FileError Unit
  | wait => WaitOutcome
  | leave .. => Except CallError Unit
  | kill => Except FileError Unit

/-- A conversation about the steps of a session. -/
abbrev SessionDialogue : Type :=
  Dialogue SessionStep SessionStep.Outcome (Except SessionError Unit)

namespace ClientSession

/-- The arguments that the daemon is run with. -/
def daemonArguments (config : Path) : List String := ["-config", toString config]

/-- The steps after the daemon was started: they follow one another whatever comes of each. -/
def follow (c : ClientSettings) (host : String) : SessionDialogue :=
  .ask .wait fun _ =>
    .ask (.leave host c.login) fun _ =>
      .ask .kill fun _ => .done (.ok ())

/-- The steps after the configuration has come from the relay at a host. -/
def apply (c : ClientSettings) (host : String) (e : Enrolment) : SessionDialogue :=
  .ask (.writeConfig c.overlayDir e.config) fun
    | .error reason => .done (.error (.configFile reason))
    | .ok path =>
      .ask (.spawn c.daemon (daemonArguments path)) fun
        | .error reason => .done (.error (.daemon c.daemon reason))
        | .ok () => follow c host

/-- The steps after a relay was chosen. -/
def join (c : ClientSettings) (host : String) : SessionDialogue :=
  .ask (.connect host) fun
    | .error reason => .done (.error (.connection reason))
    | .ok () =>
      .ask (.enrol host c.login c.token) fun
        | .error reason => .done (.error (.enrolment reason))
        | .ok e => apply c host e

/-- A whole session. -/
def run (c : ClientSettings) : SessionDialogue :=
  .ask .discover fun
    | .error reason => .done (.error (.discovery reason))
    | .ok endpoint => join c endpoint.host

end ClientSession

end MeshOnboard
