/-!
# Durations

A `Duration` is a number of whole seconds and a number of nanoseconds beside them.
-/

namespace MeshOnboard

/-- A span of time. -/
structure Duration where
  seconds : UInt64
  nanos : UInt32
  deriving DecidableEq, Inhabited

namespace Duration

/-- The duration of the given number of seconds. -/
def ofSeconds (n : UInt64) : Duration := ⟨n, 0⟩

/-- The duration of seconds and nanoseconds; nanoseconds beyond a second are carried. -/
def ofParts (seconds : UInt64) (nanos : UInt32) : Duration :=
  ⟨seconds + (nanos / 1000000000).toUInt64, nanos % 1000000000⟩

/-- The duration of the given number of milliseconds. -/
def ofMillis (n : UInt64) : Duration := ⟨n / 1000, (n % 1000).toUInt32 * 1000000⟩

/-- The whole milliseconds of a duration. -/
def toMillis (d : Duration) : Nat := d.seconds.toNat * 1000 + d.nanos.toNat / 1000000

theorem toMillis_ofSeconds (n : UInt64) :
  (ofSeconds n).toMillis = n.toNat * 1000
  := by
  simp [toMillis, ofSeconds]

theorem toMillis_ofMillis (n : UInt64) :
  (ofMillis n).toMillis = n.toNat
  := by
  have below : n.toNat % 1000 < 1000 := Nat.mod_lt _ (by decide)
  have nanos : ((n % 1000).toUInt32 * 1000000).toNat = n.toNat % 1000 * 1000000 := by
    simp
    omega
  simp only [toMillis, ofMillis, nanos]
  simp
  omega

end Duration

end MeshOnboard
