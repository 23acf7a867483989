import MeshOnboard.Proofs.Directory.RateLimit

/-!
# Long times to live

The seconds of a time to live are compared with an age as a signed number.  Below 2⁶³ seconds they
are what they say; from there on they count as negative.  A longer time to live makes a cache last
longer only if it does not cross this bound, and a cache that was just filled is stale at once for a
time to live beyond it (`isStale_respects_iff`).
-/

namespace MeshOnboard.Cache

theorem lifetime_of_le {seconds : UInt64} (beyond : 2 ^ 63 ≤ seconds.toNat) :
  lifetime seconds = seconds.toNat - UInt64.size
  := by
  change seconds.toBitVec.toInt = _
  rw [BitVec.toInt_eq_toNat_cond, if_neg]
  · rfl
  · change ¬ 2 * seconds.toNat < 2 ^ 64
    omega

/-- The seconds count as negative exactly from 2⁶³ on. -/
theorem lifetime_nonneg_iff {seconds : UInt64} :
  0 ≤ lifetime seconds ↔ seconds.toNat < 2 ^ 63
  := by
  by_cases fits : seconds.toNat < 2 ^ 63
  · rw [lifetime_of_lt fits]
    omega
  · have := seconds.toNat_lt_size
    rw [lifetime_of_le (Nat.le_of_not_lt fits)]
    omega

/-- On either side of the bound more seconds count as more. -/
theorem lifetime_mono {fewer more : UInt64} (le : fewer ≤ more)
    (beside : fewer.toNat < 2 ^ 63 → more.toNat < 2 ^ 63) :
  lifetime fewer ≤ lifetime more
  := by
  have le := UInt64.le_iff_toNat_le.1 le
  by_cases fits : fewer.toNat < 2 ^ 63
  · rw [lifetime_of_lt fits, lifetime_of_lt (beside fits)]
    omega
  · rw [lifetime_of_le (Nat.le_of_not_lt fits), lifetime_of_le (by omega)]
    omega

/-- At the second of the stamp the cache is stale exactly if the seconds count as negative. -/
theorem isStale_stamp {c : Cache} {seconds : UInt64} :
  c.isStale c.updatedAt seconds = true ↔ ¬ seconds.toNat < 2 ^ 63
  := by
  have none : elapsed c.updatedAt c.updatedAt = 0 := by
    rw [elapsed, Int.sub_self]
    rfl
  rw [isStale, none, decide_eq_true_iff, ← lifetime_nonneg_iff, Int.not_le]

theorem updatedAt_replace_of_le {c : Cache} {now : Int64} (h : c.updatedAt ≤ now)
    (roster : Roster) :
  (c.replace roster now).updatedAt = now
  := by
  unfold replace
  dsimp only
  split
  · rfl
  · next le => exact Int64.le_antisymm h (Int64.not_lt.1 le)

/-- Of two times to live, a cache that is stale for the longer one is always stale for the shorter
one too exactly if they lie on one side of 2⁶³ seconds.  A cache with a new roster, filled at a
second that is not before its stamp, is fresh at that second exactly if the time to live is below
2⁶³ seconds. -/
theorem isStale_respects_iff (fewer more : UInt64) (le : fewer ≤ more) :
  ((∀ (c : Cache) (now : Int64), c.isStale now more = true → c.isStale now fewer = true) ↔
    (fewer.toNat < 2 ^ 63 → more.toNat < 2 ^ 63)) ∧
  ∀ (c : Cache) (roster : Roster) (now : Int64) (seconds : UInt64), c.updatedAt ≤ now →
    ((c.replace roster now).isStale now seconds = false ↔ seconds.toNat < 2 ^ 63)
  := by
  constructor
  · constructor
    · intro respects fits
      -- a cache at the second of its stamp tells the two sides apart
      by_contra beyond
      have stale := respects ⟨∅, 0, true⟩ 0 (isStale_stamp.2 beyond)
      exact isStale_stamp.1 stale fits
    · intro beside c now stale
      rw [isStale, decide_eq_true_iff] at stale ⊢
      apply lt_of_le_of_lt (lifetime_mono le beside) stale
  · intro c roster now seconds h
    have stamp : (c.replace roster now).isStale (c.replace roster now).updatedAt seconds = true ↔
        ¬ seconds.toNat < 2 ^ 63 := isStale_stamp
    rw [updatedAt_replace_of_le h] at stamp
    rw [← Bool.not_eq_true, stamp, Decidable.not_not]

/-- An hour and a day are on one side, and a cache that is filled again is fresh for a day. -/
theorem isStale_respects_of_day :
  (3600 : UInt64) ≤ 86400 ∧
  (∀ (c : Cache) (now : Int64), c.isStale now 86400 = true → c.isStale now 3600 = true) ∧
  (⟨∅, 1000, true⟩ : Cache).updatedAt ≤ 2000 ∧
  ((⟨∅, 1000, true⟩ : Cache).replace ∅ 2000).isStale 2000 86400 = false
  := by
  have le : (3600 : UInt64) ≤ 86400 := by decide
  have later : (⟨∅, 1000, true⟩ : Cache).updatedAt ≤ 2000 := by decide
  obtain ⟨respects, fresh⟩ := isStale_respects_iff 3600 86400 le
  use le, respects.2 (by decide), later
  exact (fresh _ ∅ 2000 86400 later).2 (by decide)

/-- A cache that is filled is stale at the same second for a time to live of 2⁶³ seconds, and fresh
for one of an hour. -/
theorem isStale_of_endless_lifetime :
  let c := (new 1700000000).replace ∅ 1700000000
  (new 1700000000).updatedAt ≤ 1700000000 ∧ (3600 : UInt64) ≤ 9223372036854775808 ∧
  c.isStale 1700000000 9223372036854775808 = true ∧ c.isStale 1700000000 3600 = false
  := by
  decide

end MeshOnboard.Cache
