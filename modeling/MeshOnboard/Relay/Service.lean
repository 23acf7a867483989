import MeshOnboard.Directory.Listing
import MeshOnboard.Log
import MeshOnboard.Overlay.Assignment
import MeshOnboard.Overlay.Config
import MeshOnboard.Overlay.Issuance
import MeshOnboard.Text.Quoted

/-!
# The relay service

A relay answers pings, gives certificates to members of teams and takes note of those who leave.
`RelayService.connect` is the conversation behind a certificate: whom the token belongs to, which
teams that login is in, and the signing.  A refusal carries its cause; the caller is told less than
the log.
-/

namespace MeshOnboard

/-- The code that a refusal is sent with. -/
inductive StatusCode where
  | invalidArgument
  | unauthenticated
  | permissionDenied
  | internal
  deriving DecidableEq

/-- Why a relay refuses a call. -/
inductive RelayError where
  /-- A call, of the given name, without a login. -/
  | emptyLogin (call : String)
  /-- The token of the one who claims a login belongs to nobody. -/
  | unverified (claimed : String) (cause : DirectoryError)
  | noTeams (login : String)
  | notIssued (request : SigningRequest) (cause : IssueError)
  deriving DecidableEq

namespace RelayError

/-- The code of a refusal. -/
def code : RelayError → StatusCode
  | emptyLogin _ => .invalidArgument
  | unverified .. => .unauthenticated
  | noTeams _ => .permissionDenied
  | notIssued .. => .internal

/-- What the caller is told. -/
def message : RelayError → String
  | emptyLogin call => s!"failed {call} request: empty login"
  | unverified claimed _ => s!"failed to validate login {claimed}"
  | noTeams _ => "no teams found"
  | notIssued .. => "failed to issue certificate"

/-- What goes into the log. -/
def notice? : RelayError → Option LogEntry
  | unverified claimed cause =>
    some (.warning s!"Failed to validate login {claimed}: {cause.message}")
  | notIssued request cause =>
    let teams := Text.listText request.teams
    some (.error
      s!"Failed to issue certificate for {request.login} (teams: {teams}): {cause.message}")
  | _ => none

end RelayError

/-- What a relay tells its clients about the overlay. -/
structure RelayService where
  lighthouse : Lighthouse
  subnet : Subnet
  deriving DecidableEq

/-- What a client gets. -/
structure Enrolment where
  /-- The text of the client's configuration file. -/
  config : String
  address : IPv4
  lighthouse : IPv4
  teams : List String
  deriving DecidableEq

/-- A question behind a certificate. -/
inductive EnrolmentQuery where
  /-- Whom a token belongs to. -/
  | verify (token : String)
  /-- Which teams a login is in. -/
  | teamsOf (login : String)
  | sign (request : SigningRequest)
  deriving DecidableEq

/-- The answer to a question behind a certificate. -/
abbrev EnrolmentQuery.Reply : EnrolmentQuery → Type
  | verify _ => Except DirectoryError String
  | teamsOf _ => List String
  | sign _ => Except IssueError Certificate

/-- Answers behind a certificate: a verifier and an issuer are asked, which may change the state of
the world, and teams are looked up in it. -/
def EnrolmentQuery.answer {σ : Type} (verify : String → σ → Except DirectoryError String × σ)
    (teamsOf : String → σ → List String)
    (sign : SigningRequest → σ → Except IssueError Certificate × σ) (q : EnrolmentQuery)
    (world : σ) : q.Reply × σ :=
  match q with
  | .verify token => verify token world
  | .teamsOf login => (teamsOf login world, world)
  | .sign request => sign request world

namespace RelayService

/-- The request to sign the certificate of a login. -/
def signingRequest (s : RelayService) (login : String) (teams : List String) : SigningRequest :=
  ⟨login, clientAddress login s.subnet, s.subnet.prefixLength.val.toUInt8, teams⟩

/-- What a client gets with its certificate. -/
def enrolment (s : RelayService) (r : SigningRequest) (c : Certificate) : Enrolment :=
  ⟨Overlay.config c s.lighthouse s.subnet, r.address, s.lighthouse.overlay, r.teams⟩

/-- The answer to a ping: the time in milliseconds. -/
def ping (now : Int64) (login : String) : Except RelayError Int64 :=
  if login = "" then .error (.emptyLogin "ping") else .ok now

/-- The end of the conversation about a login that is in the given teams. -/
def certify (s : RelayService) (login : String) (teams : List String) :
    Dialogue EnrolmentQuery EnrolmentQuery.Reply (Except RelayError Enrolment) :=
  if teams = [] then .done (.error (.noTeams login))
  else
    let request := s.signingRequest login teams
    .ask (.sign request) fun
      | .error cause => .done (.error (.notIssued request cause))
      | .ok certificate => .done (.ok (s.enrolment request certificate))

/-- The conversation that ends with an enrolment. -/
def connect (s : RelayService) (claimed token : String) :
    Dialogue EnrolmentQuery EnrolmentQuery.Reply (Except RelayError Enrolment) :=
  if claimed = "" then .done (.error (.emptyLogin "certificate"))
  else
    .ask (.verify token) fun
      | .error cause => .done (.error (.unverified claimed cause))
      | .ok login => .ask (.teamsOf login) fun teams => s.certify login teams

/-- The answer to one who leaves. -/
def disconnect (login : String) : Except RelayError Unit :=
  if login = "" then .error (.emptyLogin "disconnect") else .ok ()

/-- The requests to sign among questions. -/
def signings (qs : List EnrolmentQuery) : List SigningRequest :=
  qs.filterMap fun
    | .sign request => some request
    | _ => none

end RelayService

end MeshOnboard
