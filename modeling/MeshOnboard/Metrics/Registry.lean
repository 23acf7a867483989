import MeshOnboard.Directory.Syncer
import MeshOnboard.Discovery.Endpoint
import MeshOnboard.Metrics.Histogram
import MeshOnboard.Table

/-!
# Metrics

The registry accounts for synchronizations and probes.  What has never happened has no entry: the
families and the series of the registry appear with the first event that concerns them.
-/

namespace MeshOnboard

/-- What is accounted for. -/
inductive MetricEvent where
  /-- A rebuild that took the given time and found so many teams. -/
  | syncSucceeded (elapsed : Duration) (teams : UInt64)
  | syncFailed (elapsed : Duration)
  | probed (host : String) (latency : Latency)
  deriving DecidableEq

namespace MetricEvent

/-- The event of a synchronization that took the given time, unless it did nothing. -/
def ofSync? (elapsed : Duration) : SyncResult → Option MetricEvent
  | .ok (.synced teams _) => some (.syncSucceeded elapsed teams.toUInt64)
  | .ok _ => none
  | .error _ => some (.syncFailed elapsed)

/-- The event of an endpoint that was probed. -/
def ofEndpoint (e : Endpoint) : MetricEvent := .probed e.host e.latency

end MetricEvent

/-- The events so far. -/
structure Registry where
  /-- The rebuilds of each outcome. -/
  syncs : Table String Nat
  /-- The teams that the last successful rebuild found. -/
  teams : Option Int64
  syncDurations : Option Histogram
  /-- For each host the latencies of its probes that were answered. -/
  latencies : Table String Histogram
  /-- For each host the probes that were not answered. -/
  failures : Table String Nat

namespace Registry

/-- The registry before any event. -/
def empty : Registry := ⟨∅, none, none, ∅, ∅⟩

/-- The bounds, in seconds, of the durations of rebuilds. -/
def syncBounds : List Rat := [1 / 10, 1 / 2, 1, 5 / 2, 5, 10, 30, 60, 120].map Binary.round

/-- The bounds, in seconds, of the latencies of probes. -/
def latencyBounds : List Rat :=
  [5 / 1000, 1 / 100, 25 / 1000, 5 / 100, 1 / 10, 1 / 4, 1 / 2, 1].map Binary.round

/-- One more in a counter. -/
def increment (n : Option Nat) : Nat := n.getD 0 + 1

/-- One more observation in a histogram, which is made with its first. -/
def observing (bounds : List Rat) (x : Rat) (h : Option Histogram) : Histogram :=
  (h.getD (.ofBounds bounds)).observe x

/-- The registry after a rebuild of the given outcome. -/
def recordSync (r : Registry) (outcome : String) (elapsed : Duration) : Registry :=
  { r with
    syncs := r.syncs.alter outcome increment
    syncDurations := some (observing syncBounds elapsed.inSeconds r.syncDurations) }

/-- The registry after one more event. -/
def record (r : Registry) : MetricEvent → Registry
  | .syncSucceeded elapsed teams =>
    { r.recordSync "success" elapsed with teams := some teams.toInt64 }
  | .syncFailed elapsed => r.recordSync "failure" elapsed
  | .probed host (.reachable millis) =>
    { r with
      latencies := r.latencies.alter host (observing latencyBounds (millisInSeconds millis)) }
  | .probed host (.unreachable _) => { r with failures := r.failures.alter host increment }

/-- The registry after events, in order. -/
def recordAll (r : Registry) (es : List MetricEvent) : Registry := es.foldl record r

end Registry

end MeshOnboard
