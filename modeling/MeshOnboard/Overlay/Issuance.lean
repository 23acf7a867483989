import MeshOnboard.Dialogue
import MeshOnboard.Files.Error
import MeshOnboard.Files.ExitStatus
import MeshOnboard.Files.Path
import MeshOnboard.Overlay.Address
import MeshOnboard.Overlay.Certificate
import MeshOnboard.Text.Blank
import MeshOnboard.Text.Utf8

/-!
# Issuing certificates

A certificate is signed by a program that writes it and its key into a directory, where the
certificate of the authority lies.  `Signer.issue` is the conversation with the system: old output
is removed, the program is run, and the three texts are read.  The first step that fails ends it.
-/

namespace MeshOnboard

/-- What is asked of a signer. -/
structure SigningRequest where
  login : String
  address : IPv4
  prefixLength : UInt8
  teams : List String
  deriving DecidableEq

/-- Why a certificate is not issued. -/
inductive IssueError where
  /-- The program cannot be run. -/
  | spawn (program : Path) (reason : FileError)
  /-- The program ended badly; its complaint is given. -/
  | failed (program : Path) (status : ExitStatus) (complaint : String)
  /-- Old output cannot be removed. -/
  | remove (path : Path) (reason : FileError)
  | read (path : Path) (reason : FileError)
  deriving DecidableEq

/-- The wording of an issue error. -/
def IssueError.message : IssueError → String
  | spawn program reason => s!"Failed to run {program}: {reason.message}"
  | failed program status complaint => s!"{program} exited with {status.text}: {complaint}"
  | remove path reason => s!"Failed to remove stale {path}: {reason.message}"
  | read path reason => s!"Failed to read {path}: {reason.message}"

/-- What a program that was run leaves: how it ended, and what it wrote to its error stream. -/
structure ToolReport where
  status : ExitStatus
  complaint : List UInt8
  deriving DecidableEq

/-- The complaint as a text, without blanks around it. -/
def ToolReport.complaintText (r : ToolReport) : String :=
  String.ofList (Text.strip Text.isBlank (Utf8.readLossy r.complaint))

/-- A step of issuing a certificate. -/
inductive IssueStep where
  | remove (path : Path)
  | run (program : Path) (arguments : List String)
  | read (path : Path)
  deriving DecidableEq

/-- The outcome of a step. -/
abbrev IssueStep.Outcome : IssueStep → Type
  | remove _ => Except FileError Unit
  | run .. => Except FileError ToolReport
  | read _ => Except FileError String

/-- A conversation about the steps of issuing certificates. -/
abbrev IssueDialogue (α : Type) : Type := Dialogue IssueStep IssueStep.Outcome (Except IssueError α)

/-- What certificates are signed with. -/
structure Signer where
  program : Path
  /-- Where the authority's files lie and the output goes. -/
  directory : Path
  /-- How long certificates are valid. -/
  duration : String
  deriving DecidableEq

namespace Signer

/-- The authority's certificate. -/
def authorityPath (s : Signer) : Path := s.directory.join "ca.crt"

/-- The authority's key. -/
def authorityKeyPath (s : Signer) : Path := s.directory.join "ca.key"

/-- The file that a client's certificate is written to. -/
def certificatePath (s : Signer) (login : String) : Path := s.directory.join s!"{login}.crt"

/-- The file that a client's key is written to. -/
def keyPath (s : Signer) (login : String) : Path := s.directory.join s!"{login}.key"

/-- The groups of a certificate as one argument: the teams with commas between them. -/
def groups (teams : List String) : String := ",".intercalate teams

/-- The arguments that the signing program is run with. -/
def arguments (s : Signer) (r : SigningRequest) : List String :=
  ["sign", "-name", r.login,
    "-out-crt", toString (s.certificatePath r.login),
    "-out-key", toString (s.keyPath r.login),
    "-ca-crt", toString s.authorityPath,
    "-ca-key", toString s.authorityKeyPath,
    "-ip", s!"{r.address}/{r.prefixLength.toNat}",
    "-groups", groups r.teams,
    "-duration", s.duration]

/-- The removal of old output; that there is none is no failure. -/
def removeStale (path : Path) : IssueDialogue Unit :=
  (Dialogue.query (IssueStep.remove path)).map fun outcome =>
    match outcome with
    | .ok () => .ok ()
    | .error .notFound => .ok ()
    | .error reason => .error (.remove path reason)

/-- The run of the signing program, which has to end without complaint. -/
def runProgram (s : Signer) (r : SigningRequest) : IssueDialogue Unit :=
  (Dialogue.query (IssueStep.run s.program (s.arguments r))).map fun outcome =>
    match outcome with
    | .error reason => .error (.spawn s.program reason)
    | .ok report =>
      if report.status.isSuccess then .ok ()
      else .error (.failed s.program report.status report.complaintText)

/-- The text of an output file. -/
def readOutput (path : Path) : IssueDialogue String :=
  (Dialogue.query (IssueStep.read path)).map fun outcome => outcome.mapError (.read path)

/-- The conversation that ends with a certificate. -/
def issue (s : Signer) (r : SigningRequest) : IssueDialogue Certificate :=
  (removeStale (s.certificatePath r.login)).andThen fun _ =>
    (removeStale (s.keyPath r.login)).andThen fun _ =>
      (s.runProgram r).andThen fun _ =>
        (readOutput s.authorityPath).andThen fun authority =>
          (readOutput (s.certificatePath r.login)).andThen fun certificate =>
            (readOutput (s.keyPath r.login)).andThen fun key =>
              .done (.ok ⟨authority, certificate, key⟩)

end Signer

end MeshOnboard
