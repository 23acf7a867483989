import MeshOnboard.Decimal.Shortest
import MeshOnboard.Metrics.Registry
import MeshOnboard.Proofs.Decimal.Rounding
import Mathlib.Order.Monotone.Basic

/-!
# The bounds of the histograms

An observation is rounded before it is compared with a bound, and the bound is rounded too.  As
rounding keeps the order, what is at most a bound after it was so before, provided that this holds
right at the bound and right above it.  These are finitely many comparisons, as durations are whole
numbers of nanoseconds and latencies whole numbers of milliseconds.
-/

namespace MeshOnboard

/-- The bound of a bucket: its text and the number that it stands for. -/
abbrev Limit : Type := String × Rat

/-- The limits are those of a histogram with the given bounds. -/
structure Describes (limits : List Limit) (bounds : List Rat) : Prop where
  bounds : bounds = limits.map fun l => Binary.round l.2
  text : ∀ l ∈ limits, Shortest.text (Binary.round l.2) = l.1
  distinct : (limits.map Prod.fst).Nodup
  finite : "+Inf" ∉ limits.map Prod.fst
  rising : limits.Pairwise fun l l' => l.2 ≤ l'.2

/-- A growing function of whole numbers is at most `b` up to the last argument at which it is. -/
theorem le_iff_of_monotone {f : Nat → Rat} (grows : Monotone f) {b : Rat} {last : Nat}
    (here : f last ≤ b) (above : b < f (last + 1)) (n : Nat) :
  f n ≤ b ↔ n ≤ last
  := by
  constructor
  · intro h
    by_contra beyond
    exact absurd (h.trans_lt above) (not_lt_of_ge (grows (not_le.1 beyond)))
  · intro h
    exact (grows h).trans here

/-! ### Latencies -/

/-- The limits of the latencies of probes. -/
def latencyLimits : List Limit :=
  [("0.005", 5 / 1000), ("0.01", 1 / 100), ("0.025", 25 / 1000), ("0.05", 5 / 100), ("0.1", 1 / 10),
    ("0.25", 1 / 4), ("0.5", 1 / 2), ("1", 1)]

theorem describes_latencyBounds :
  Describes latencyLimits Registry.latencyBounds
  where
  bounds := rfl
  text := by decide +kernel
  distinct := by decide
  finite := by decide
  rising := by decide +kernel

theorem millisInSeconds_monotone :
  Monotone fun n : Nat => Binary.quotient (Binary.ofInt n) 1000
  := by
  intro m n h
  have cast : (m : Rat) ≤ n := by exact_mod_cast h
  have nonneg : (0 : Rat) ≤ m := by positivity
  apply Binary.round_mono
  · exact div_nonneg (Binary.round_nonneg nonneg) (by decide)
  · exact div_le_div_of_nonneg_right (Binary.round_mono nonneg cast) (by decide)

/-- The milliseconds of a limit, the last that are counted below it. -/
def Limit.millis (l : Limit) : Nat := (l.2 * 1000).num.toNat

theorem latencyLimits_separate : ∀ l ∈ latencyLimits,
  l.2 = (l.millis : Rat) / 1000 ∧
    Binary.quotient (Binary.ofInt l.millis) 1000 ≤ Binary.round l.2 ∧
    Binary.round l.2 < Binary.quotient (Binary.ofInt (l.millis + 1 : Nat)) 1000
  := by decide +kernel

/-- Latencies are at most a limit after rounding if they are so before. -/
theorem millisInSeconds_le_round_iff {l : Limit} (h : l ∈ latencyLimits) (millis : UInt64) :
  millisInSeconds millis ≤ Binary.round l.2 ↔ (millis.toNat : Rat) / 1000 ≤ l.2
  := by
  obtain ⟨whole, here, above⟩ := latencyLimits_separate l h
  calc millisInSeconds millis ≤ Binary.round l.2
    _ ↔ millis.toNat ≤ l.millis := le_iff_of_monotone millisInSeconds_monotone here above _
    _ ↔ (millis.toNat : Rat) / 1000 ≤ l.2 := by
      rw [whole, div_le_div_iff_of_pos_right (by decide), Nat.cast_le]

/-! ### Durations -/

/-- The limits of the durations of rebuilds. -/
def syncLimits : List Limit :=
  [("0.1", 1 / 10), ("0.5", 1 / 2), ("1", 1), ("2.5", 5 / 2), ("5", 5), ("10", 10), ("30", 30),
    ("60", 60), ("120", 120)]

theorem describes_syncBounds :
  Describes syncLimits Registry.syncBounds
  where
  bounds := rfl
  text := by decide +kernel
  distinct := by decide
  finite := by decide
  rising := by decide +kernel

namespace Duration

/-- A duration in seconds, exactly. -/
def exactSeconds (d : Duration) : Rat := d.seconds.toNat + d.nanos.toNat / 1000000000

/-- Seconds and nanoseconds added up and rounded. -/
def rounded (seconds nanos : Nat) : Rat :=
  Binary.add (Binary.ofInt seconds) (Binary.quotient nanos 1000000000)

theorem inSeconds_eq (d : Duration) :
  d.inSeconds = rounded d.seconds.toNat d.nanos.toNat
  := rfl

theorem rounded_mono {s s' n n' : Nat} (seconds : s ≤ s') (nanos : n ≤ n') :
  rounded s n ≤ rounded s' n'
  := by
  have castSeconds : (s : Rat) ≤ s' := by exact_mod_cast seconds
  have castNanos : (n : Rat) ≤ n' := by exact_mod_cast nanos
  have nonneg : (0 : Rat) ≤ s := by positivity
  have nonneg' : (0 : Rat) ≤ n / 1000000000 := by positivity
  apply Binary.round_mono
  · exact add_nonneg (Binary.round_nonneg nonneg) (Binary.round_nonneg nonneg')
  · exact add_le_add (Binary.round_mono nonneg castSeconds)
      (Binary.round_mono nonneg' (div_le_div_of_nonneg_right castNanos (by decide)))

end Duration

/-- The nanoseconds of a limit. -/
def Limit.nanos (l : Limit) : Nat := (l.2 * 1000000000).num.toNat

/-- The whole seconds of a limit. -/
def Limit.seconds (l : Limit) : Nat := l.nanos / 1000000000

/-- The last nanoseconds that are counted below a limit, for the last whole seconds that are.  With
fewer seconds all nanoseconds of a duration are, as they are less than five seconds. -/
theorem syncLimits_separate : ∀ l ∈ syncLimits,
  l.2 = (l.nanos : Rat) / 1000000000 ∧
    (5 ≤ l.seconds → Duration.rounded (l.seconds - 5) 5000000000 ≤ Binary.round l.2) ∧
    (∀ k, k < 5 → k ≤ l.seconds →
      Duration.rounded (l.seconds - k) (l.nanos - (l.seconds - k) * 1000000000) ≤
        Binary.round l.2 ∧
      Binary.round l.2 <
        Duration.rounded (l.seconds - k) (l.nanos - (l.seconds - k) * 1000000000 + 1)) ∧
    Binary.round l.2 < Duration.rounded (l.seconds + 1) 0
  := by decide +kernel

namespace Duration

theorem exactSeconds_le_iff {l : Limit} (whole : l.2 = (l.nanos : Rat) / 1000000000)
    (d : Duration) :
  d.exactSeconds ≤ l.2 ↔ d.seconds.toNat * 1000000000 + d.nanos.toNat ≤ l.nanos
  := by
  have sum : d.exactSeconds =
      ((d.seconds.toNat * 1000000000 + d.nanos.toNat : Nat) : Rat) / 1000000000 := by
    rw [exactSeconds]
    push_cast
    ring
  rw [sum, whole, div_le_div_iff_of_pos_right (by decide), Nat.cast_le]

/-- Durations are at most a limit after rounding if they are so before. -/
theorem inSeconds_le_round_iff {l : Limit} (h : l ∈ syncLimits) (d : Duration) :
  d.inSeconds ≤ Binary.round l.2 ↔ d.exactSeconds ≤ l.2
  := by
  obtain ⟨whole, before, last, beyond⟩ := syncLimits_separate l h
  have nanos : d.nanos.toNat < 5000000000 := lt_trans d.nanos.toNat_lt (by decide)
  rw [exactSeconds_le_iff whole, inSeconds_eq]
  rcases Nat.lt_or_ge l.seconds d.seconds.toNat with more | few
  · -- too many whole seconds
    have above : Binary.round l.2 < rounded d.seconds.toNat d.nanos.toNat :=
      beyond.trans_le (rounded_mono more (Nat.zero_le _))
    rw [Limit.seconds] at more
    constructor
    · intro fits
      exact absurd fits (not_le_of_gt above)
    · omega
  · rcases Nat.lt_or_ge (l.seconds - d.seconds.toNat) 5 with near | far
    · -- the nanoseconds decide
      obtain ⟨here, above⟩ := last _ near (Nat.sub_le _ _)
      rw [Nat.sub_sub_self few] at here above
      rw [le_iff_of_monotone (f := rounded d.seconds.toNat) (fun _ _ => rounded_mono le_rfl) here
        above]
      rw [Limit.seconds] at few
      omega
    · -- the nanoseconds do not reach the limit
      have below : rounded d.seconds.toNat d.nanos.toNat ≤ Binary.round l.2 :=
        (rounded_mono (by omega) nanos.le).trans (before (by omega))
      rw [Limit.seconds] at few far
      constructor
      · omega
      · intro _
        exact below

end Duration

end MeshOnboard
