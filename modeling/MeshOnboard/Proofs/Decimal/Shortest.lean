import MeshOnboard.Decimal.Shortest
import MeshOnboard.Proofs.Decimal.Rounding
import MeshOnboard.Proofs.Text.Numeral

/-!
# The text of a number

The text of a number has no line break.  Decimal numbers of fewer digits are further away from a
whole number below `2 ^ 53` than rounding reaches, so that its shortest text is its numeral.
-/

namespace MeshOnboard

/-- A power of ten adds its zeros to a numeral. -/
theorem Numeral.decimal_mul_ten_pow {n : Nat} (positive : 0 < n) (k : Nat) :
  decimal (n * 10 ^ k) = decimal n ++ List.replicate k '0'
  := by
  induction k with
  | zero => simp
  | succ k ih =>
    have digits := Nat.toDigits_append_toDigits (b := 10) (n := n * 10 ^ k) (d := 0) (by decide)
      (Nat.mul_pos positive (by positivity)) (by decide)
    rw [Nat.toDigits_of_lt_base (n := 0) (by decide)] at digits
    have power : n * 10 ^ (k + 1) = 10 * (n * 10 ^ k) + 0 := by ring
    rw [power, decimal, ← digits, List.replicate_succ', ← List.append_assoc, ← ih]
    rfl

namespace Shortest

theorem tenPow_natCast (k : Nat) :
  tenPow k = (10 ^ k : Nat)
  := by
  simp [tenPow]

theorem value_natCast (c k : Nat) :
  (⟨c, k⟩ : Scaled).value = (c * 10 ^ k : Nat)
  := by
  rw [Scaled.value, tenPow_natCast, Nat.cast_mul]

theorem floor_natCast_div (m k : Nat) :
  ((m : Rat) / tenPow k).floor.toNat = m / 10 ^ k
  := by
  rw [tenPow_natCast]
  change ⌊(m : Rat) / (10 ^ k : Nat)⌋.toNat = m / 10 ^ k
  rw [Rat.floor_natCast_div_natCast]
  rfl

/-- The neighbours of a whole number among the multiples of a power of ten. -/
theorem neighbours_natCast (m k : Nat) :
  neighbours m k =
    (if (m : Rat) - (m / 10 ^ k * 10 ^ k : Nat) < ((m / 10 ^ k + 1) * 10 ^ k : Nat) - m
      then [⟨m / 10 ^ k, k⟩, ⟨m / 10 ^ k + 1, k⟩]
      else [⟨m / 10 ^ k + 1, k⟩, ⟨m / 10 ^ k, k⟩]).filter fun s => Binary.round s.value = m
  := by
  simp only [neighbours, floor_natCast_div, value_natCast]

variable {m : Nat}

/-- No other whole number is rounded to a whole number below `2 ^ 53`. -/
theorem round_natCast_eq_iff (few : m < 2 ^ 53) {n : Nat} :
  Binary.round n = m ↔ n = m
  := by
  have exact {i : Nat} (h : i ≤ 2 ^ 53) : Binary.round i = i := Binary.ofInt_natCast h
  constructor
  · intro same
    by_contra ne
    rcases Nat.lt_or_gt_of_ne ne with below | above
    · rw [exact (by omega)] at same
      exact ne (by exact_mod_cast same)
    · have next := Binary.round_mono (x := (m + 1 : Nat)) (y := n) (by positivity)
        (by exact_mod_cast above)
      rw [exact few, same] at next
      have : m + 1 ≤ m := by exact_mod_cast next
      omega
  · rintro rfl
    exact exact few.le

theorem round_value_eq_iff (few : m < 2 ^ 53) {c k : Nat} :
  Binary.round (⟨c, k⟩ : Scaled).value = m ↔ c * 10 ^ k = m
  := by
  rw [value_natCast, round_natCast_eq_iff few]

theorem neighbours_of_not_dvd (few : m < 2 ^ 53) {k : Nat} (h : ¬ 10 ^ k ∣ m) :
  neighbours m k = []
  := by
  have down : m / 10 ^ k * 10 ^ k ≠ m := fun same => h ⟨_, by rw [Nat.mul_comm, same]⟩
  have up : (m / 10 ^ k + 1) * 10 ^ k ≠ m := fun same => h ⟨_, by rw [Nat.mul_comm, same]⟩
  rw [neighbours_natCast]
  split <;> simp [round_value_eq_iff few, down, up]

theorem head?_neighbours_of_dvd (few : m < 2 ^ 53) {k : Nat} (h : 10 ^ k ∣ m) :
  (neighbours m k).head? = some ⟨m / 10 ^ k, k⟩
  := by
  have down : m / 10 ^ k * 10 ^ k = m := Nat.div_mul_cancel h
  have nearer : (m : Rat) - (m / 10 ^ k * 10 ^ k : Nat) < ((m / 10 ^ k + 1) * 10 ^ k : Nat) - m := by
    rw [Nat.add_mul, down]
    push_cast
    simp
  rw [neighbours_natCast, if_pos nearer]
  simp [round_value_eq_iff few, down]

theorem magnitude_natCast (positive : 0 < m) :
  magnitude m = ((Numeral.decimal m).length - 1 : Nat)
  := by
  have one_le : (1 : Rat) ≤ m := by exact_mod_cast positive
  have some : 0 < (Numeral.decimal m).length := List.length_pos_iff.2 Nat.toDigits_ne_nil
  have whole : (m : Rat).floor = m := Int.floor_natCast (R := Rat) m
  rw [magnitude, if_pos one_le, whole, Int.toNat_natCast]
  omega

/-- The shortest decimal number for a whole number is the whole number without its last zeros. -/
theorem exists_decimal_natCast (positive : 0 < m) (few : m < 2 ^ 53) :
  ∃ k : Nat, 10 ^ k ∣ m ∧ decimal m = ⟨m / 10 ^ k, k⟩
  := by
  let length := (Numeral.decimal m).length
  have some : 0 < length := List.length_pos_iff.2 Nat.toDigits_ne_nil
  have bound : length ≤ maxDigits := Numeral.length_decimal_le (by decide) (few.trans (by decide))
  let candidate (n : Nat) : Option Scaled := (neighbours m (magnitude m - n)).head?
  -- the last of the numerals tried is the number itself
  have tried {n : Nat} (h : n < length) :
      candidate n = (neighbours m (length - 1 - n : Nat)).head? := by
    simp only [candidate, magnitude_natCast positive]
    congr 2
    omega
  have last : candidate (length - 1) = .some ⟨m, 0⟩ := by
    rw [tried (by omega), Nat.sub_self, head?_neighbours_of_dvd few (by simp)]
    simp
  have found : ((List.range length).findSome? candidate).isSome := by
    rw [List.findSome?_isSome_iff]
    exact ⟨length - 1, List.mem_range.2 (by omega), by rw [last]; rfl⟩
  obtain ⟨s, hs⟩ := Option.isSome_iff_exists.1 found
  have first : decimal m = s := by
    have split : List.range maxDigits =
        List.range length ++ (List.range (maxDigits - length)).map (length + ·) := by
      rw [← List.range_add, Nat.add_sub_cancel' bound]
    change ((List.range maxDigits).findSome? candidate).getD ⟨0, 0⟩ = s
    rw [split, List.findSome?_append, hs]
    rfl
  obtain ⟨n, hn, hit⟩ := List.exists_of_findSome?_eq_some hs
  rw [tried (List.mem_range.1 hn)] at hit
  by_cases h : 10 ^ (length - 1 - n) ∣ m
  · rw [head?_neighbours_of_dvd few h] at hit
    exact ⟨_, h, first.trans (Option.some.inj hit).symm⟩
  · rw [neighbours_of_not_dvd few h] at hit
    contradiction

/-- The text of a whole number below `2 ^ 53` is its numeral. -/
theorem text_natCast (few : m < 2 ^ 53) :
  text m = String.ofList (Numeral.decimal m)
  := by
  obtain rfl | positive := Nat.eq_zero_or_pos m
  · rfl
  have pos : (0 : Rat) < m := by exact_mod_cast positive
  obtain ⟨k, dvd, shortest⟩ := exists_decimal_natCast positive few
  have digits : 0 < m / 10 ^ k := Nat.div_pos (Nat.le_of_dvd positive dvd) (by positivity)
  rw [text, if_neg pos.ne', if_neg (not_lt_of_gt pos), shortest, positional,
    if_pos (Int.natCast_nonneg k), Int.toNat_natCast, ← Numeral.decimal_mul_ten_pow digits,
    Nat.div_mul_cancel dvd]

/-! ### Signs -/

theorem newline_not_mem_positional (s : Scaled) :
  '\n' ∉ positional s
  := by
  have digits : '\n' ∉ Numeral.decimal s.coefficient :=
    fun h => absurd (Numeral.isDigit_of_mem_decimal h) (by decide)
  have zeros (k : Nat) : '\n' ∉ List.replicate k '0' :=
    fun h => absurd (List.eq_of_mem_replicate h) (by decide)
  unfold positional
  dsimp only
  split
  · simp [digits, zeros]
  · rw [List.mem_append, List.mem_cons, not_or, not_or]
    refine ⟨fun h => ?_, by decide, fun h => ?_⟩
    · simpa [digits, zeros] using List.mem_of_mem_take h
    · simpa [digits, zeros] using List.mem_of_mem_drop h

/-- The text of a number is part of one line. -/
theorem newline_not_mem_text (x : Rat) :
  '\n' ∉ (text x).toList
  := by
  unfold text
  split
  · decide
  · split
    · simp [newline_not_mem_positional]
    · simp [newline_not_mem_positional]

end Shortest

end MeshOnboard
