import MeshOnboard.Proofs.Overlay.Checksum
import Mathlib.Algebra.Field.ZMod
import Mathlib.RingTheory.AdjoinRoot
import Mathlib.Tactic.ComputeDegree
import Mathlib.Tactic.Ring

/-!
# The checksum as a remainder

A word is a polynomial over the field of two elements whose coefficients are its bits, and so is a
string of bytes, the first bit of which has the highest degree.  To shift the register is to
multiply its polynomial by `x` modulo `x¹⁶ + x¹² + x⁵ + 1`, which carries over to bytes and to
strings of bytes: `checksum_eq_iff` says that the checksum is the remainder of the message and of
the bits that the register starts with.
-/

open Polynomial

namespace MeshOnboard

namespace Checksum

/-! ### Words as polynomials -/

/-- The polynomial whose coefficients are the bits of a word, the lowest bit that of degree zero. -/
noncomputable def polynomial {w : Nat} (v : BitVec w) : (ZMod 2)[X] :=
  ∑ i ∈ Finset.range w, if v.getLsbD i then X ^ i else 0

theorem coeff_polynomial {w : Nat} (v : BitVec w) (i : Nat) :
  (polynomial v).coeff i = if v.getLsbD i then 1 else 0
  := by
  have term (j : Nat) : (if v.getLsbD j then X ^ j else (0 : (ZMod 2)[X])).coeff i =
      if i = j then (if v.getLsbD j then 1 else 0) else 0 := by
    split
    · rw [coeff_X_pow]
    · simp
  simp only [polynomial, finsetSum_coeff, term, Finset.sum_ite_eq, Finset.mem_range]
  by_cases inside : i < w
  · rw [if_pos inside]
  · simp [inside, BitVec.getLsbD_of_ge v i (by omega)]

theorem polynomial_injective (w : Nat) :
  Function.Injective (polynomial (w := w))
  := by
  intro v v' same
  apply BitVec.eq_of_getLsbD_eq
  intro i _
  have coefficients := congrArg (fun p => p.coeff i) same
  simp only [coeff_polynomial] at coefficients
  cases bit : v.getLsbD i with
  | false =>
    cases bit' : v'.getLsbD i with
    | false => rfl
    | true => simp [bit, bit'] at coefficients
  | true =>
    cases bit' : v'.getLsbD i with
    | false => simp [bit, bit'] at coefficients
    | true => rfl

theorem degree_polynomial_lt {w : Nat} (v : BitVec w) :
  (polynomial v).degree < w
  := by
  rw [degree_lt_iff_coeff_zero]
  intro i beyond
  rw [coeff_polynomial, BitVec.getLsbD_of_ge v i beyond]
  rfl

/-- Words are added without carry. -/
theorem polynomial_xor {w : Nat} (v v' : BitVec w) :
  polynomial (v ^^^ v') = polynomial v + polynomial v'
  := by
  ext i
  rw [coeff_add, coeff_polynomial, coeff_polynomial, coeff_polynomial, BitVec.getLsbD_xor]
  cases v.getLsbD i with
  | false => simp
  | true =>
    cases v'.getLsbD i with
    | false => rfl
    | true => decide

/-- A word that is shifted without losing a bit is multiplied by a power of `x`. -/
theorem polynomial_zeroExtend_shiftLeft {w : Nat} (v : BitVec w) (n : Nat) {m : Nat}
    (room : w + n ≤ m) :
  polynomial (v.zeroExtend m <<< n) = polynomial v * X ^ n
  := by
  ext i
  rw [coeff_mul_X_pow', coeff_polynomial, BitVec.getLsbD_shiftLeft, BitVec.getLsbD_setWidth]
  by_cases moved : n ≤ i
  · rw [if_pos moved, coeff_polynomial]
    by_cases inside : i - n < w
    · have bounds : i < m ∧ i - n < m := by omega
      simp [bounds, Nat.not_lt.2 moved]
    · simp [BitVec.getLsbD_of_ge v (i - n) (by omega)]
  · simp [moved, Nat.not_le.1 moved]

/-! ### Residues -/

/-- The generator with its leading term. -/
noncomputable def modulus : (ZMod 2)[X] := X ^ 16 + X ^ 12 + X ^ 5 + 1

theorem degree_modulus :
  modulus.degree = 16
  := by
  unfold modulus
  compute_degree!

theorem monic_modulus :
  modulus.Monic
  := by
  unfold modulus
  monicity!

/-- The residue class of a polynomial modulo the generator. -/
noncomputable abbrev residue : (ZMod 2)[X] →+* AdjoinRoot modulus := AdjoinRoot.mk modulus

/-- A polynomial of low degree is the remainder of those in its residue class. -/
theorem eq_modByMonic_of_residue {p q : (ZMod 2)[X]} (low : p.degree < 16)
    (same : residue p = residue q) :
  p = q %ₘ modulus
  := by
  rw [← modByMonic_eq_of_dvd_sub monic_modulus (AdjoinRoot.mk_eq_mk.1 same)]
  symm
  apply (modByMonic_eq_self_iff monic_modulus).2
  rwa [degree_modulus]

theorem polynomial_generator :
  polynomial generator = X ^ 12 + X ^ 5 + 1
  := by
  have bits : ∀ i ∈ Finset.range 16, generator.getLsbD i = decide (i = 12 ∨ i = 5 ∨ i = 0) := by
    decide
  unfold polynomial
  rw [Finset.sum_congr rfl fun i inside => by rw [bits i inside]]
  simp [Finset.sum_range_succ]
  ring

/-- The bit that leaves a word at the top is the term that multiplication by `x` adds. -/
theorem X_mul_polynomial (r : BitVec 16) :
  X * polynomial r = polynomial (r <<< 1) + if r.msb then X ^ 16 else 0
  := by
  have leaving (i : Nat) : (if r.msb then X ^ 16 else (0 : (ZMod 2)[X])).coeff i =
      if i = 16 then (if r.getLsbD 15 then 1 else 0) else 0 := by
    rw [← BitVec.msb_eq_getLsbD_last]
    split
    · rw [coeff_X_pow]
    · simp
  ext i
  rw [coeff_add, leaving, coeff_polynomial, BitVec.getLsbD_shiftLeft]
  cases i with
  | zero => simp
  | succ i =>
    rw [coeff_X_mul, coeff_polynomial]
    obtain inside | rfl | beyond := Nat.lt_trichotomy i 15
    · have bound : i + 1 < 16 := by omega
      simp [bound, Nat.ne_of_lt inside]
    · simp
    · simp [BitVec.getLsbD_of_ge r i beyond, Nat.ne_of_gt beyond]

/-- The generator without its leading term stands for this term. -/
theorem residue_generator :
  residue (polynomial generator) = residue (X ^ 16)
  := by
  apply AdjoinRoot.mk_eq_mk.2
  rw [polynomial_generator, CharTwo.sub_eq_add, modulus]
  apply dvd_of_eq
  ring

/-- To shift the register is to multiply by `x`. -/
theorem residue_shift (r : BitVec 16) :
  residue (polynomial (shift r)) = residue (X * polynomial r)
  := by
  rw [X_mul_polynomial, shift]
  split
  · next leaves => rw [polynomial_xor, map_add, map_add, residue_generator]
  · next stays => rw [add_zero]

theorem residue_iterate_shift (n : Nat) (r : BitVec 16) :
  residue (polynomial (shift^[n] r)) = residue (X ^ n * polynomial r)
  := by
  induction n with
  | zero => rw [pow_zero, one_mul, Function.iterate_zero_apply]
  | succ n ih =>
    rw [Function.iterate_succ_apply', residue_shift, map_mul, ih, ← map_mul, pow_succ', mul_assoc]

/-! ### Bytes and messages -/

/-- A byte that is absorbed is added eight places up before the register is shifted. -/
theorem residue_absorb (r : BitVec 16) (byte : UInt8) :
  residue (polynomial (absorb r byte)) =
    residue (polynomial r * X ^ 8 + polynomial byte.toBitVec * X ^ 16)
  := by
  rw [absorb_eq, residue_iterate_shift, polynomial_xor, high,
    polynomial_zeroExtend_shiftLeft byte.toBitVec 8 (by decide)]
  apply congrArg residue
  ring

/-- The polynomial of a string of bytes, the first bit of which has the highest degree. -/
noncomputable def message : List UInt8 → (ZMod 2)[X]
  | [] => 0
  | byte :: bytes => polynomial byte.toBitVec * X ^ (8 * bytes.length) + message bytes

/-- What the register holds, multiplied by `x` once for every bit, and the message sixteen places up
leave the register after the message. -/
theorem residue_run (r : BitVec 16) (bytes : List UInt8) :
  residue (polynomial (run r bytes)) =
    residue (message bytes * X ^ 16 + polynomial r * X ^ (8 * bytes.length))
  := by
  induction bytes generalizing r with
  | nil => simp [run, message]
  | cons byte bytes ih =>
    rw [run_cons, ih, map_add, map_mul, map_mul, residue_absorb, ← map_mul, ← map_mul, ← map_add,
      message, List.length_cons]
    apply congrArg residue
    ring

end Checksum

/-- The checksum of a message is the remainder, modulo `x¹⁶ + x¹² + x⁵ + 1`, of the message sixteen
places up and of sixteen bits that are set in front of it. -/
theorem checksum_eq_iff (bytes : List UInt8) (c : UInt16) :
  checksum bytes = c ↔
    Checksum.polynomial c.toBitVec =
      (Checksum.message bytes * X ^ 16 + Checksum.polynomial 0xFFFF#16 * X ^ (8 * bytes.length)) %ₘ
        (X ^ 16 + X ^ 12 + X ^ 5 + 1)
  := by
  have remainder : Checksum.polynomial (checksum bytes).toBitVec =
      (Checksum.message bytes * X ^ 16 + Checksum.polynomial 0xFFFF#16 * X ^ (8 * bytes.length)) %ₘ
        Checksum.modulus := by
    apply Checksum.eq_modByMonic_of_residue (Checksum.degree_polynomial_lt _)
    exact Checksum.residue_run Checksum.initial bytes
  change _ ↔ _ = _ %ₘ Checksum.modulus
  constructor
  · rintro rfl
    exact remainder
  · intro same
    rw [← remainder] at same
    exact (UInt16.toBitVec_inj.1 (Checksum.polynomial_injective 16 same)).symm

end MeshOnboard
