/-!
# Latencies

The latency of a relay is the time that its answer to a probe took, in milliseconds, or the reason
why there was none.
-/

namespace MeshOnboard

/-- Why a probe yields no time. -/
inductive ProbeFailure where
  /-- There is no connection, for the given reason. -/
  | connect (detail : String)
  /-- The call was refused with the given text. -/
  | call (detail : String)
  | timeout
  /-- The answer does not return what was sent. -/
  | invalidReply
  deriving DecidableEq

/-- The wording of a probe failure. -/
def ProbeFailure.message : ProbeFailure → String
  | connect detail => s!"connection failed: {detail}"
  | call detail => s!"ping failed: {detail}"
  | timeout => "timed out"
  | invalidReply => "empty ping reply"

/-- What a probe yields. -/
inductive Latency where
  | reachable (millis : UInt64)
  | unreachable (reason : ProbeFailure)
  deriving DecidableEq

namespace Latency

/-- The milliseconds of a relay that answered. -/
def millis? : Latency → Option UInt64
  | reachable millis => some millis
  | unreachable _ => none

/-- Whether the relay answered. -/
def isReachable (l : Latency) : Bool := l.millis?.isSome

/-- The text of a latency. -/
def text : Latency → String
  | reachable millis => s!"{millis.toNat}ms"
  | unreachable reason => s!"unreachable ({reason.message})"

end Latency

end MeshOnboard
