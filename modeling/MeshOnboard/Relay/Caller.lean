import MeshOnboard.Discovery.Latency
import MeshOnboard.Relay.Service
import MeshOnboard.Web.Uri

/-!
# Calling a relay

A relay is called at a host and a port.  The call fails where the two form no address, where there
is no connection, and where the relay refuses.
-/

namespace MeshOnboard

/-- Why a call to a relay fails. -/
inductive CallError where
  /-- Host and port form no address. -/
  | address
  /-- There is no connection to an address. -/
  | connection (url : String)
  /-- The relay at a host refused to enrol, with the given text. -/
  | enrolment (host message : String)
  /-- The relay at a host refused to let go, with the given text. -/
  | departure (host message : String)
  deriving DecidableEq

namespace CallError

/-- What is said of a host and a port that form no address. -/
def addressText : String := "invalid URI"

/-- What is said of an address without a connection. -/
def connectionText : String := "transport error"

/-- The wording of a call error. -/
def message : CallError → String
  | address => addressText
  | connection url => s!"Failed to connect to relay at {url}: {connectionText}"
  | enrolment host message => s!"Relay {host} refused config request: {message}"
  | departure host message => s!"Disconnect from relay {host} failed: {message}"

end CallError

/-- What a relay does when it is called: nothing ever, or after some milliseconds a closed
connection, a refusal with a text, or a value. -/
inductive CallBehaviour (α : Type) where
  | silent
  | closed
  | refuses (delay : Nat) (message : String)
  | answers (delay : Nat) (value : α)

namespace Relay

/-- The address of the relay at a host and a port, as a text. -/
def url (host : String) (port : UInt16) : String := s!"http://{host}:{port.toNat}"

/-- Whether a host and a port form an address. -/
def isAddress (host : String) (port : UInt16) : Bool := (Uri.read (url host port)).toBool

/-- The latency of an answer that is bounded by a time-out; a relay has to answer with a time. -/
def latencyOf (timeout : Nat) : CallBehaviour Int64 → Latency
  | .silent => .unreachable .timeout
  | .closed => .unreachable (.connect CallError.connectionText)
  | .refuses delay message =>
    if delay ≤ timeout then .unreachable (.call message) else .unreachable .timeout
  | .answers delay value =>
    if timeout < delay then .unreachable .timeout
    else if value = 0 then .unreachable .invalidReply
    else .reachable delay.toUInt64

/-- The latency of a probe of a host. -/
def probe (behaviour : String → CallBehaviour Int64) (port : UInt16) (timeout : Nat)
    (host : String) : Latency :=
  if isAddress host port then latencyOf timeout (behaviour host)
  else .unreachable (.connect CallError.addressText)

/-- The outcome of opening a connection to a host. -/
def connect (isUp : String → Bool) (host : String) (port : UInt16) : Except CallError Unit :=
  if !isAddress host port then .error .address
  else if isUp host then .ok ()
  else .error (.connection (url host port))

/-- The outcome of asking the relay at a host to enrol. -/
def enrol (host : String) (answer : Except RelayError Enrolment) : Except CallError Enrolment :=
  answer.mapError fun e => .enrolment host e.message

/-- The outcome of taking leave of the relay at a host. -/
def leave (host : String) (answer : Except RelayError Unit) : Except CallError Unit :=
  answer.mapError fun e => .departure host e.message

end Relay

end MeshOnboard
