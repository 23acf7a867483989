import MeshOnboard.Decimal.Binary
import MeshOnboard.Time.Duration

/-!
# Histograms

A histogram counts observations, and for each of its bounds those that are at most the bound.  It
adds them up as numbers of 53 places, in the order in which they come.
-/

namespace MeshOnboard

/-- The observations of a quantity. -/
structure Histogram where
  /-- The bounds with the observations at most each. -/
  buckets : List (Rat × Nat)
  count : Nat
  sum : Rat

namespace Histogram

/-- The histogram with the given bounds, before any observation. -/
def ofBounds (bounds : List Rat) : Histogram := ⟨bounds.map fun b => (b, 0), 0, 0⟩

/-- The histogram after one more observation. -/
def observe (h : Histogram) (x : Rat) : Histogram where
  buckets := h.buckets.map fun (bound, n) => (bound, if x ≤ bound then n + 1 else n)
  count := h.count + 1
  sum := Binary.add h.sum x

end Histogram

/-- A duration in seconds: its whole seconds and the fraction beside them, each rounded. -/
def Duration.inSeconds (d : Duration) : Rat :=
  Binary.add (Binary.ofInt d.seconds.toNat) (Binary.quotient d.nanos.toNat 1000000000)

/-- A number of milliseconds in seconds. -/
def millisInSeconds (millis : UInt64) : Rat :=
  Binary.quotient (Binary.ofInt millis.toNat) 1000

end MeshOnboard
