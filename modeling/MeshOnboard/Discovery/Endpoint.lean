import MeshOnboard.Discovery.Latency

/-!
# Endpoints

An `Endpoint` is a relay that was discovered and probed.  `Endpoint.fastest?` is the first of those
with the least time among the endpoints that answered.
-/

namespace MeshOnboard

/-- A discovered relay. -/
structure Endpoint where
  host : String
  description : String
  /-- The text of the address. -/
  address : String
  latency : Latency
  deriving DecidableEq

namespace Endpoint

/-- The position and the time of the first least time in a list of latencies. -/
def leastTime? : List Latency → Option (Nat × UInt64)
  | [] => none
  | l :: ls =>
    let later := (leastTime? ls).map fun (i, millis) => (i + 1, millis)
    match l, later with
    | .unreachable _, later => later
    | .reachable millis, none => some (0, millis)
    | .reachable millis, some (i, least) =>
      if least < millis then some (i, least) else some (0, millis)

/-- The position of the fastest endpoint. -/
def fastestPosition? (es : List Endpoint) : Option Nat :=
  (leastTime? (es.map latency)).map Prod.fst

/-- The fastest endpoint, if one is reachable. -/
def fastest? (es : List Endpoint) : Option Endpoint :=
  (fastestPosition? es).bind fun i => es[i]?

end Endpoint

end MeshOnboard
