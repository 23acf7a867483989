import MeshOnboard.Metrics.Exposition

/-!
# The metrics page

The metrics are served as a page at one path; there is nothing at any other.
-/

namespace MeshOnboard

/-- A page that is served. -/
structure WebPage where
  status : Nat
  contentType : Option String
  body : String
  deriving DecidableEq

namespace MetricsPage

/-- The path of the metrics. -/
def path : String := "/metrics"

/-- The content type of the metrics. -/
def contentType : String := "text/plain; version=0.0.4"

/-- The target of a request without its query. -/
def pathOf (target : String) : String :=
  String.ofList (target.toList.takeWhile (· ≠ '?'))

/-- The page at the target of a request. -/
def get (r : Registry) (target : String) : WebPage :=
  if pathOf target = path then ⟨200, some contentType, r.text⟩ else ⟨404, none, "Not Found"⟩

end MetricsPage

end MeshOnboard
