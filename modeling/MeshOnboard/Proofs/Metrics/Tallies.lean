import MeshOnboard.Metrics.Registry
import Mathlib.Data.List.Induction

/-!
# What a registry holds

`Registry.Tallies es r` says what a registry `r` holds after the events `es`: each counter the
number of its events, each histogram the observations of its events, and the gauge the teams of the
last successful rebuild.  What has no event has no entry.  Recording an event keeps it up, one kind
of event after the other.
-/

namespace MeshOnboard

namespace MetricEvent

/-- The outcome of a rebuild. -/
def outcome? : MetricEvent → Option String
  | .syncSucceeded _ _ => some "success"
  | .syncFailed _ => some "failure"
  | .probed _ _ => none

/-- The time that a rebuild took. -/
def elapsed? : MetricEvent → Option Duration
  | .syncSucceeded elapsed _ => some elapsed
  | .syncFailed elapsed => some elapsed
  | .probed _ _ => none

/-- The teams that a successful rebuild found. -/
def teams? : MetricEvent → Option UInt64
  | .syncSucceeded _ teams => some teams
  | .syncFailed _ => none
  | .probed _ _ => none

/-- The host that was probed. -/
def host? : MetricEvent → Option String
  | .syncSucceeded _ _ => none
  | .syncFailed _ => none
  | .probed host _ => some host

/-- The milliseconds after which a host answered a probe. -/
def millis? (host : String) : MetricEvent → Option UInt64
  | .probed h (.reachable millis) => if h = host then some millis else none
  | _ => none

/-- Whether a host left a probe unanswered. -/
def isUnanswered (host : String) : MetricEvent → Bool
  | .probed h (.unreachable _) => h = host
  | _ => false

end MetricEvent

namespace Histogram

variable (bounds : List Rat)

/-- The histogram of some observations. -/
def observeAll (xs : List Rat) : Histogram := xs.foldl observe (ofBounds bounds)

theorem observeAll_concat (xs : List Rat) (x : Rat) :
  observeAll bounds (xs ++ [x]) = (observeAll bounds xs).observe x
  := List.foldl_append

theorem count_observeAll (xs : List Rat) :
  (observeAll bounds xs).count = xs.length
  := by
  induction xs using List.reverseRecOn with
  | nil => rfl
  | append_singleton xs x ih => rw [observeAll_concat, observe, ih, List.length_append]; rfl

/-- Each bucket holds the observations that are at most its bound. -/
theorem buckets_observeAll (xs : List Rat) :
  (observeAll bounds xs).buckets = bounds.map fun b => (b, xs.countP (· ≤ b))
  := by
  induction xs using List.reverseRecOn with
  | nil => rfl
  | append_singleton xs x ih =>
    rw [observeAll_concat, observe, ih, List.map_map]
    apply List.map_congr_left
    intro b _
    simp only [Function.comp_apply, List.countP_append, List.countP_singleton]
    split
    · next h => simp [h]
    · next h => simp [h]

/-- The histogram of some observations, if there are any. -/
def observed? (xs : List Rat) : Option Histogram :=
  if xs = [] then none else some (observeAll bounds xs)

theorem observed?_concat (xs : List Rat) (x : Rat) :
  observed? bounds (xs ++ [x]) = some (Registry.observing bounds x (observed? bounds xs))
  := by
  rw [observed?, if_neg (List.concat_ne_nil x xs), observeAll_concat, Registry.observing, observed?]
  split
  · next none =>
    subst none
    rfl
  · rfl

end Histogram

namespace Registry

open MetricEvent Histogram

theorem recordAll_concat (r : Registry) (es : List MetricEvent) (e : MetricEvent) :
  r.recordAll (es ++ [e]) = (r.recordAll es).record e
  := List.foldl_append

/-- A counter after so many events. -/
def tally (n : Nat) : Option Nat := if n = 0 then none else some n

theorem tally_succ (n : Nat) :
  tally (n + 1) = some (increment (tally n))
  := by
  rcases n.eq_zero_or_pos with rfl | some
  · rfl
  · simp [tally, increment, Nat.ne_of_gt some]

/-- What the registry holds after some events. -/
structure Tallies (es : List MetricEvent) (r : Registry) : Prop where
  syncs : ∀ outcome, r.syncs.find? outcome = tally (es.countP (·.outcome? = some outcome))
  teams : r.teams = (es.filterMap teams?).getLast?.map UInt64.toInt64
  durations : r.syncDurations = observed? syncBounds ((es.filterMap elapsed?).map Duration.inSeconds)
  latencies : ∀ host, r.latencies.find? host =
    observed? latencyBounds ((es.filterMap (millis? host)).map millisInSeconds)
  failures : ∀ host, r.failures.find? host = tally (es.countP (isUnanswered host))

theorem tallies_empty :
  Tallies [] empty
  where
  syncs _ := rfl
  teams := rfl
  durations := rfl
  latencies _ := rfl
  failures _ := rfl

variable {es : List MetricEvent} {r : Registry}

/-- A counter counts one event more if it is one of its own. -/
theorem tally_concat (counts : MetricEvent → Bool) (e : MetricEvent) :
  tally ((es ++ [e]).countP counts) =
    if counts e then some (increment (tally (es.countP counts))) else tally (es.countP counts)
  := by
  rw [List.countP_append, List.countP_singleton]
  split
  · exact tally_succ _
  · rfl

/-- A histogram has one observation more if the event is one of its own. -/
theorem observed?_filterMap_concat {α : Type} (bounds : List Rat) (value : α → Rat)
    (part? : MetricEvent → Option α) (e : MetricEvent) :
  observed? bounds (((es ++ [e]).filterMap part?).map value) =
    let before := observed? bounds ((es.filterMap part?).map value)
    match part? e with
    | none => before
    | some a => some (observing bounds (value a) before)
  := by
  rw [List.filterMap_append, List.map_append]
  cases part : part? e with
  | none => simp [part]
  | some a => simp [part, observed?_concat]

/-- Recording an event keeps up what the registry holds. -/
theorem Tallies.record (h : Tallies es r) (e : MetricEvent) :
  Tallies (es ++ [e]) (r.record e)
  where
  syncs outcome := by
    rw [tally_concat, ← h.syncs]
    rcases e with ⟨elapsed, teams⟩ | elapsed | ⟨host, millis | reason⟩
    · simp [Registry.record, recordSync, Table.find?_alter, outcome?, eq_comm]
    · simp [Registry.record, recordSync, Table.find?_alter, outcome?, eq_comm]
    · rfl
    · rfl
  teams := by
    rw [List.filterMap_append]
    rcases e with ⟨elapsed, teams⟩ | elapsed | ⟨host, millis | reason⟩
    · simp [Registry.record, teams?]
    · simpa [Registry.record, recordSync, teams?] using h.teams
    · simpa [Registry.record, teams?] using h.teams
    · simpa [Registry.record, teams?] using h.teams
  durations := by
    rw [observed?_filterMap_concat, ← h.durations]
    rcases e with ⟨elapsed, teams⟩ | elapsed | ⟨host, millis | reason⟩ <;> rfl
  latencies host := by
    rw [observed?_filterMap_concat, ← h.latencies]
    rcases e with ⟨elapsed, teams⟩ | elapsed | ⟨probed, millis | reason⟩
    · rfl
    · rfl
    · rw [Registry.record, Table.find?_alter, millis?]
      by_cases same : host = probed
      · simp [same]
      · simp [same, Ne.symm same]
    · rfl
  failures host := by
    rw [tally_concat, ← h.failures]
    rcases e with ⟨elapsed, teams⟩ | elapsed | ⟨probed, millis | reason⟩
    · rfl
    · rfl
    · rfl
    · simp [Registry.record, Table.find?_alter, isUnanswered, eq_comm]

/-- After events a registry holds what they add up to. -/
theorem tallies_recordAll (es : List MetricEvent) :
  Tallies es (empty.recordAll es)
  := by
  induction es using List.reverseRecOn with
  | nil => exact tallies_empty
  | append_singleton es e ih =>
    rw [recordAll_concat]
    exact ih.record e

end Registry

end MeshOnboard
