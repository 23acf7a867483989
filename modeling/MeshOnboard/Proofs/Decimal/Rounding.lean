import MeshOnboard.Decimal.Binary
import Mathlib.Algebra.Order.Floor.Ring
import Mathlib.Data.Rat.Floor
import Mathlib.Tactic.Linarith
import Mathlib.Tactic.Positivity

/-!
# Rounding keeps the order

A positive number lies between two neighbouring powers of two, and in between the numbers of 53
places are evenly spaced.  Rounding goes to the nearest of them, so that it never turns the order of
two numbers around, and leaves alone what has 53 places already.
-/

namespace MeshOnboard.Binary

/-! ### Powers of two -/

theorem twoPow_eq_zpow (e : Int) :
  twoPow e = (2 : Rat) ^ e
  := by
  unfold twoPow
  split
  · next nonneg =>
    obtain ⟨n, rfl⟩ := Int.eq_ofNat_of_zero_le nonneg
    simp
  · next negative =>
    obtain ⟨n, hn⟩ := Int.eq_ofNat_of_zero_le (show 0 ≤ -e by omega)
    obtain rfl : e = -n := by omega
    simp

theorem twoPow_pos (e : Int) :
  0 < twoPow e
  := by
  rw [twoPow_eq_zpow]
  apply zpow_pos (by norm_num)

theorem twoPow_add (d e : Int) :
  twoPow (d + e) = twoPow d * twoPow e
  := by
  simp only [twoPow_eq_zpow]
  apply zpow_add₀ (by decide)

theorem twoPow_le {d e : Int} (h : d ≤ e) :
  twoPow d ≤ twoPow e
  := by
  simp only [twoPow_eq_zpow]
  apply zpow_le_zpow_right₀ (by norm_num) h

theorem lt_of_twoPow_lt {d e : Int} (h : twoPow d < twoPow e) :
  d < e
  := by
  by_contra notBelow
  exact absurd (twoPow_le (not_lt.1 notBelow)) (not_le_of_gt h)

theorem twoPow_natCast (n : Nat) :
  twoPow n = 2 ^ n
  := by
  rw [twoPow_eq_zpow, zpow_natCast]

/-! ### Magnitudes -/

/-- A positive number lies between the power of two of its magnitude and the next one. -/
theorem magnitude_spec {x : Rat} (positive : 0 < x) :
  twoPow (magnitude x) ≤ x ∧ x < twoPow (magnitude x + 1)
  := by
  let a := Nat.log2 x.num.toNat
  let b := Nat.log2 x.den
  have num_pos : 0 < x.num := Rat.num_pos.2 positive
  have den_pos : (0 : Rat) < x.den := by exact_mod_cast x.den_pos
  have whole : x * x.den = x.num.toNat := by
    rw [Rat.mul_den_eq_num, ← Int.cast_natCast, Int.toNat_of_nonneg num_pos.le]
  have num_le : twoPow a ≤ x * x.den := by
    rw [whole, twoPow_natCast]
    exact_mod_cast Nat.log2_self_le (n := x.num.toNat) (by omega)
  have lt_num : x * x.den < twoPow (a + 1 : Nat) := by
    rw [whole, twoPow_natCast]
    exact_mod_cast Nat.lt_log2_self (n := x.num.toNat)
  have den_le : twoPow b ≤ x.den := by
    rw [twoPow_natCast]
    exact_mod_cast Nat.log2_self_le x.den_ne_zero
  have lt_den : (x.den : Rat) < twoPow (b + 1 : Nat) := by
    rw [twoPow_natCast]
    exact_mod_cast Nat.lt_log2_self (n := x.den)
  have above : x < twoPow ((a : Int) - b + 1) := by
    rw [← mul_lt_mul_iff_left₀ (twoPow_pos b), ← twoPow_add]
    calc x * twoPow b
      _ ≤ x * x.den := mul_le_mul_of_nonneg_left den_le positive.le
      _ < twoPow (a + 1 : Nat) := lt_num
      _ = twoPow ((a : Int) - b + 1 + b) := by congr 1; omega
  have below : twoPow ((a : Int) - b - 1) ≤ x := by
    rw [← mul_le_mul_iff_left₀ den_pos]
    calc twoPow ((a : Int) - b - 1) * x.den
      _ ≤ twoPow ((a : Int) - b - 1) * twoPow (b + 1 : Nat) :=
        mul_le_mul_of_nonneg_left lt_den.le (twoPow_pos _).le
      _ = twoPow a := by rw [← twoPow_add]; congr 1; omega
      _ ≤ x * x.den := num_le
  unfold magnitude
  dsimp only
  split
  · next fits => exact ⟨fits, above⟩
  · next beyond =>
    rw [Int.sub_add_cancel]
    exact ⟨below, lt_of_not_ge beyond⟩

/-- The magnitude is the one exponent whose powers of two a number lies between. -/
theorem magnitude_le {x : Rat} {e : Int} (positive : 0 < x) (h : x < twoPow (e + 1)) :
  magnitude x ≤ e
  := by
  have := lt_of_twoPow_lt (lt_of_le_of_lt (magnitude_spec positive).1 h)
  omega

theorem magnitude_mono {x y : Rat} (positive : 0 < x) (h : x ≤ y) :
  magnitude x ≤ magnitude y
  := magnitude_le positive (lt_of_le_of_lt h (magnitude_spec (lt_of_lt_of_le positive h)).2)

/-! ### Nearest integers -/

theorem floor_le_nearestEven (x : Rat) :
  x.floor ≤ nearestEven x
  := by
  unfold nearestEven
  dsimp only
  split_ifs <;> omega

theorem nearestEven_le (x : Rat) :
  nearestEven x ≤ x.floor + 1
  := by
  unfold nearestEven
  dsimp only
  split_ifs <;> omega

theorem nearestEven_mono {x y : Rat} (h : x ≤ y) :
  nearestEven x ≤ nearestEven y
  := by
  rcases (Rat.floor_monotone h).lt_or_eq with apart | same
  · have := nearestEven_le x
    have := floor_le_nearestEven y
    omega
  · unfold nearestEven
    dsimp only
    rw [same]
    have rests : x - y.floor ≤ y - y.floor := sub_le_sub_right h _
    split_ifs <;> first | omega | linarith

@[simp]
theorem nearestEven_intCast (n : Int) :
  nearestEven n = n
  := by
  simp [nearestEven]

/-! ### Rounding -/

/-- The distance between the numbers of 53 places around a positive number. -/
def unit (x : Rat) : Rat := twoPow (magnitude x - 52)

theorem unit_pos (x : Rat) :
  0 < unit x
  := twoPow_pos _

@[simp]
theorem round_zero :
  round 0 = 0
  := rfl

theorem round_of_pos {x : Rat} (positive : 0 < x) :
  round x = nearestEven (x / unit x) * unit x
  := by
  simp [round, size, unit, positive.ne', not_lt_of_gt positive]

/-- The numbers of 53 places around a positive number are the multiples of their distance; rounding
does not lead past one of them. -/
theorem le_round_of_multiple {x : Rat} (positive : 0 < x) {n : Int} (h : n * unit x ≤ x) :
  n * unit x ≤ round x
  := by
  have places := nearestEven_mono ((le_div_iff₀ (unit_pos x)).2 h)
  rw [nearestEven_intCast] at places
  rw [round_of_pos positive]
  exact mul_le_mul_of_nonneg_right (by exact_mod_cast places) (unit_pos x).le

theorem round_le_of_multiple {x : Rat} (positive : 0 < x) {n : Int} (h : x ≤ n * unit x) :
  round x ≤ n * unit x
  := by
  have places := nearestEven_mono ((div_le_iff₀ (unit_pos x)).2 h)
  rw [nearestEven_intCast] at places
  rw [round_of_pos positive]
  exact mul_le_mul_of_nonneg_right (by exact_mod_cast places) (unit_pos x).le

theorem two_pow_mul_unit (k : Nat) (x : Rat) :
  ((2 ^ k : Int) : Rat) * unit x = twoPow (magnitude x - 52 + k)
  := by
  rw [Int.cast_pow, Int.cast_ofNat, ← twoPow_natCast, unit, ← twoPow_add, Int.add_comm]

/-- Rounding does not lead past the powers of two that a number lies between. -/
theorem round_spec {x : Rat} (positive : 0 < x) :
  twoPow (magnitude x) ≤ round x ∧ round x ≤ twoPow (magnitude x + 1)
  := by
  obtain ⟨low, high⟩ := magnitude_spec positive
  have lowest : ((2 ^ 52 : Int) : Rat) * unit x = twoPow (magnitude x) := by
    rw [two_pow_mul_unit]
    congr 1
    omega
  have highest : ((2 ^ 53 : Int) : Rat) * unit x = twoPow (magnitude x + 1) := by
    rw [two_pow_mul_unit]
    congr 1
    omega
  constructor
  · rw [← lowest] at low ⊢
    exact le_round_of_multiple positive low
  · rw [← highest] at high ⊢
    exact round_le_of_multiple positive high.le

theorem round_nonneg {x : Rat} (nonneg : 0 ≤ x) :
  0 ≤ round x
  := by
  rcases nonneg.eq_or_lt with rfl | positive
  · rfl
  · exact (twoPow_pos _).le.trans (round_spec positive).1

/-- Rounding never turns the order of two numbers around. -/
theorem round_mono {x y : Rat} (nonneg : 0 ≤ x) (h : x ≤ y) :
  round x ≤ round y
  := by
  rcases nonneg.eq_or_lt with rfl | positive
  · exact round_nonneg h
  have positive' := lt_of_lt_of_le positive h
  rcases (magnitude_mono positive h).lt_or_eq with apart | same
  · calc round x
      _ ≤ twoPow (magnitude x + 1) := (round_spec positive).2
      _ ≤ twoPow (magnitude y) := twoPow_le apart
      _ ≤ round y := (round_spec positive').1
  · have units : unit x = unit y := by rw [unit, unit, same]
    have places : nearestEven (x / unit y) ≤ nearestEven (y / unit y) :=
      nearestEven_mono (div_le_div_of_nonneg_right h (unit_pos y).le)
    rw [round_of_pos positive, round_of_pos positive', units]
    exact mul_le_mul_of_nonneg_right (by exact_mod_cast places) (unit_pos y).le

/-- What has 53 places is left alone. -/
theorem round_of_places {k : Nat} (few : k < 2 ^ 53) (e : Int) :
  round (k * twoPow e) = k * twoPow e
  := by
  obtain rfl | some := Nat.eq_zero_or_pos k
  · simp
  have positive : 0 < k * twoPow e := mul_pos (by exact_mod_cast some) (twoPow_pos e)
  have bound : magnitude (k * twoPow e) ≤ e + 52 := by
    apply magnitude_le positive
    calc k * twoPow e
      _ < twoPow (53 : Nat) * twoPow e := by
        rw [twoPow_natCast]
        exact mul_lt_mul_of_pos_right (by exact_mod_cast few) (twoPow_pos e)
      _ = twoPow (e + 52 + 1) := by rw [← twoPow_add]; congr 1; omega
  obtain ⟨j, hj⟩ := Int.eq_ofNat_of_zero_le (show 0 ≤ e + 52 - magnitude (k * twoPow e) by omega)
  have multiple : ((k * 2 ^ j : Int) : Rat) * unit (k * twoPow e) = k * twoPow e := by
    rw [Int.cast_mul, Int.cast_natCast, mul_assoc, two_pow_mul_unit]
    congr 2
    omega
  apply le_antisymm
  · have := round_le_of_multiple positive multiple.ge
    rwa [multiple] at this
  · have := le_round_of_multiple positive multiple.le
    rwa [multiple] at this

/-- Integers of at most 53 places are left alone. -/
theorem ofInt_natCast {n : Nat} (h : n ≤ 2 ^ 53) :
  ofInt n = n
  := by
  rcases h.lt_or_eq with few | rfl
  · have := round_of_places few 0
    rw [twoPow_eq_zpow, zpow_zero, mul_one] at this
    simpa [ofInt] using this
  · have := round_of_places (k := 1) (by decide) 53
    rw [Nat.cast_one, one_mul, show (53 : Int) = (53 : Nat) from rfl, twoPow_natCast] at this
    rw [ofInt, Int.cast_natCast, Nat.cast_pow, Nat.cast_ofNat]
    exact this

end MeshOnboard.Binary
