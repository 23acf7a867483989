import MeshOnboard.Decimal.Shortest
import MeshOnboard.Metrics.Registry

/-!
# The text of the metrics

Each family that has an entry is written with its help text, its type and its series, families in
the order of their names and series in the order of their labels.  A histogram is written as its
buckets, of which the last holds every observation, its sum and its count.
-/

namespace MeshOnboard

namespace Exposition

/-- A label and its value. -/
abbrev Label : Type := String × String

/-- The value of a label as it stands between quotes. -/
def escape (s : String) : String :=
  String.ofList (s.toList.flatMap fun
    | '\\' => "\\\\".toList
    | '\n' => "\\n".toList
    | '"' => "\\\"".toList
    | c => [c])

/-- The labels of a series in braces; nothing when there are none. -/
def labelText (labels : List Label) : String :=
  if labels = [] then ""
  else
    let pairs := labels.map fun (name, value) => name ++ "=\"" ++ escape value ++ "\""
    "\x7b" ++ ",".intercalate pairs ++ "\x7d"

/-- The line of one value. -/
def sample (name : String) (labels : List Label) (value : Rat) : String :=
  name ++ labelText labels ++ " " ++ Shortest.text value

/-- The lines of one histogram. -/
def histogramLines (name : String) (labels : List Label) (h : Histogram) : List String :=
  let bucket := fun bound n => sample (name ++ "_bucket") (labels ++ [("le", bound)]) n
  (h.buckets.map fun (bound, n) => bucket (Shortest.text bound) (Binary.ofInt n)) ++
    [bucket "+Inf" (Binary.ofInt h.count),
      sample (name ++ "_sum") labels h.sum,
      sample (name ++ "_count") labels (Binary.ofInt h.count)]

/-- The lines of a family; nothing when it has no series. -/
def family (name help kind : String) (series : List String) : List String :=
  if series = [] then [] else s!"# HELP {name} {help}" :: s!"# TYPE {name} {kind}" :: series

/-- The entries of a table in the order of their keys. -/
def sorted {ν : Type} (t : Table String ν) : List (String × ν) :=
  t.entries.mergeSort fun a b => Roster.nameLe a.1 b.1

/-- The lines of counters that differ in one label. -/
def counterLines (name label : String) (t : Table String Nat) : List String :=
  (sorted t).map fun (value, n) => sample name [(label, value)] (Binary.ofInt n)

end Exposition

namespace Registry

open Exposition

/-- The name of the durations of rebuilds. -/
def syncDurationName : String := "nerf_directory_sync_duration_seconds"

/-- The text of the metrics, line by line. -/
def lines (r : Registry) : List String :=
  family syncDurationName "Time spent rebuilding the directory cache" "histogram"
    (r.syncDurations.toList.flatMap (histogramLines syncDurationName [])) ++
  family "nerf_directory_syncs_total" "Directory rebuilds by outcome" "counter"
    (counterLines "nerf_directory_syncs_total" "outcome" r.syncs) ++
  family "nerf_directory_teams" "Number of teams in the directory cache" "gauge"
    (r.teams.toList.map fun n => sample "nerf_directory_teams" [] (Binary.ofInt n.toInt)) ++
  family "nerf_endpoint_probe_failures_total" "Relay probes that did not yield a latency" "counter"
    (counterLines "nerf_endpoint_probe_failures_total" "remote_host" r.failures) ++
  family "nerf_endpoint_probe_latency_seconds" "Round-trip latency of successful relay probes"
    "histogram" ((sorted r.latencies).flatMap fun (host, h) =>
      histogramLines "nerf_endpoint_probe_latency_seconds" [("remote_host", host)] h)

/-- The text of the metrics. -/
def text (r : Registry) : String := String.join (r.lines.map fun line => line ++ "\n")

/-- Whether a line depends on how long rebuilds took. -/
def isTimed (line : String) : Bool :=
  (syncDurationName ++ "_sum").isPrefixOf line ||
    ((syncDurationName ++ "_bucket").isPrefixOf line &&
      !(syncDurationName ++ "_bucket\x7ble=\"+Inf\"").isPrefixOf line)

end Registry

end MeshOnboard
