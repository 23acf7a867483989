/-!
# Cadence

A task that works at ticks of period `P` starts its next piece of work when the tick is due or, if
the last piece took longer, right after that.  `Cadence.next` is the tick after one that was due at
`due` and acted on at `started`: ticks that are missed meanwhile fire once and are else skipped, so
that ticks stay on multiples of the period.  Lateness within the tolerance counts as on time.
-/

namespace MeshOnboard.Cadence

/-- The lateness in milliseconds that counts as on time. -/
def tolerance : Nat := 5

/-- The time of the tick after the one that was due at `due` and acted on at `started`. -/
def next (period due started : Nat) : Nat :=
  if started - due ≤ tolerance then due + period
  else started + period - (started - due) % period

/-- The ticks of a positive period increase. -/
theorem lt_next {period due started : Nat} (hp : 0 < period) (h : due ≤ started) :
  due < next period due started
  := by
  unfold next
  split
  · omega
  · have := Nat.mod_lt (started - due) hp
    omega

/-- The times at which pieces of work of the given lengths start, when the first of them is due at
`due` and the worker is free from `free` on. -/
def startsFrom (period due free : Nat) : List Nat → List Nat
  | [] => []
  | length :: lengths =>
    let started := max due free
    started :: startsFrom period (next period due started) (started + length) lengths

/-- The times at which pieces of work of the given lengths start; the first tick is due at zero. -/
def starts (period : Nat) (lengths : List Nat) : List Nat := startsFrom period 0 0 lengths

end MeshOnboard.Cadence
