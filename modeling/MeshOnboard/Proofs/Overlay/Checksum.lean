import MeshOnboard.Overlay.Checksum
import Mathlib.Logic.Function.Iterate

/-!
# Bursts of differing bits

A shift is linear in the register and loses nothing, so neither does a byte that is absorbed.  Two
bytes in a row are one word of sixteen bits that is taken into the register and shifted through it.
Strings that differ within two adjacent bytes therefore leave different registers, whatever stands
before and after.
-/

namespace MeshOnboard.Checksum

/-! ### Shifts -/

theorem shift_xor (r s : BitVec 16) :
  shift (r ^^^ s) = shift r ^^^ shift s
  := by
  unfold shift
  rw [BitVec.msb_xor, BitVec.shiftLeft_xor_distrib]
  cases r.msb with
  | false =>
    cases s.msb with
    | false => rfl
    | true => simp [BitVec.xor_assoc]
  | true =>
    cases s.msb with
    | false => simp [BitVec.xor_assoc, BitVec.xor_comm generator]
    | true =>
      -- the generator is taken away twice
      have twice : (r <<< 1 ^^^ generator) ^^^ (s <<< 1 ^^^ generator) =
          (r <<< 1 ^^^ s <<< 1) ^^^ (generator ^^^ generator) := by ac_rfl
      simp [twice]

/-- The bit that leaves the register at the top comes back at the bottom. -/
theorem getLsbD_zero_shift (r : BitVec 16) :
  (shift r).getLsbD 0 = r.msb
  := by
  unfold shift
  split
  · next leaves => simp [leaves, generator]
  · next stays => simpa using stays

theorem shift_of_msb_eq_false {r : BitVec 16} (h : r.msb = false) :
  shift r = r <<< 1
  := by
  simp [shift, h]

/-- A register that is emptied by a shift was empty. -/
theorem eq_zero_of_shift {r : BitVec 16} (h : shift r = 0#16) :
  r = 0#16
  := by
  have top : r.msb = false := by rw [← getLsbD_zero_shift, h]; rfl
  rw [shift_of_msb_eq_false top] at h
  apply BitVec.eq_of_getLsbD_eq
  intro i bound
  by_cases last : i = 15
  · rw [last, BitVec.getLsbD_zero, ← top, BitVec.msb_eq_getLsbD_last]
  · have moved : (r <<< 1).getLsbD (i + 1) = r.getLsbD i := by
      simp only [BitVec.getLsbD_shiftLeft, Nat.add_sub_cancel]
      simp
      omega
    rw [← moved, h]
    simp

theorem shift_injective :
  Function.Injective shift
  := by
  intro r s same
  have nothing : shift (r ^^^ s) = 0#16 := by rw [shift_xor, same, BitVec.xor_self]
  exact BitVec.xor_eq_zero_iff.1 (eq_zero_of_shift nothing)

theorem repeat_shift_eq_iterate (n : Nat) (r : BitVec 16) :
  Nat.repeat shift n r = shift^[n] r
  := by
  induction n with
  | zero => rfl
  | succ n ih => rw [Function.iterate_succ_apply', Nat.repeat, ih]

theorem iterate_shift_xor (n : Nat) (r s : BitVec 16) :
  shift^[n] (r ^^^ s) = shift^[n] r ^^^ shift^[n] s
  := by
  induction n with
  | zero => rfl
  | succ n ih => simp only [Function.iterate_succ_apply', ih, shift_xor]

/-! ### Bytes -/

/-- A byte at the top of the register. -/
def high (byte : UInt8) : BitVec 16 := byte.toBitVec.zeroExtend 16 <<< 8

theorem absorb_eq (r : BitVec 16) (byte : UInt8) :
  absorb r byte = shift^[8] (r ^^^ high byte)
  := repeat_shift_eq_iterate 8 _

/-- As long as a byte is on its way to the top, no bit leaves the register. -/
theorem iterate_shift_low (byte : UInt8) {n : Nat} (bound : n ≤ 8) :
  shift^[n] (byte.toBitVec.zeroExtend 16) = byte.toBitVec.zeroExtend 16 <<< n
  := by
  induction n with
  | zero => simp
  | succ n ih =>
    have top : (byte.toBitVec.zeroExtend 16 <<< n).msb = false := by
      rw [BitVec.msb_eq_getLsbD_last, BitVec.getLsbD_shiftLeft, BitVec.getLsbD_setWidth,
        BitVec.getLsbD_of_ge _ _ (by omega), Bool.and_false, Bool.and_false]
    rw [Function.iterate_succ_apply', ih (by omega), shift_of_msb_eq_false top,
      ← BitVec.shiftLeft_add]

theorem high_eq (byte : UInt8) :
  high byte = shift^[8] (byte.toBitVec.zeroExtend 16)
  := (iterate_shift_low byte (Nat.le_refl 8)).symm

/-- The word that two bytes make. -/
theorem high_xor_low (first second : UInt8) :
  high first ^^^ second.toBitVec.zeroExtend 16 = first.toBitVec ++ second.toBitVec
  := by
  apply BitVec.eq_of_getLsbD_eq
  intro i bound
  rw [BitVec.getLsbD_append]
  by_cases low : i < 8
  · simp [high, low, bound]
  · have empty : second.toBitVec.getLsbD i = false := BitVec.getLsbD_of_ge _ _ (by omega)
    simp [high, low, bound, empty]

/-- Two bytes in a row are absorbed as one word. -/
theorem absorb_absorb (r : BitVec 16) (first second : UInt8) :
  absorb (absorb r first) second = shift^[16] (r ^^^ (first.toBitVec ++ second.toBitVec))
  := calc
    absorb (absorb r first) second
    _ = shift^[8] (shift^[8] (r ^^^ high first) ^^^ high second) := by simp only [absorb_eq]
    _ = shift^[8] (shift^[8] (r ^^^ high first ^^^ second.toBitVec.zeroExtend 16)) := by
      rw [high_eq second, ← iterate_shift_xor]
    _ = shift^[8] (shift^[8] (r ^^^ (first.toBitVec ++ second.toBitVec))) := by
      rw [BitVec.xor_assoc, high_xor_low]
    _ = shift^[16] (r ^^^ (first.toBitVec ++ second.toBitVec)) :=
      (Function.iterate_add_apply shift 8 8 _).symm

/-- Two bytes in a row can be told from the register that they leave. -/
theorem eq_of_absorb_absorb {r : BitVec 16} {first second first' second' : UInt8}
    (same : absorb (absorb r first) second = absorb (absorb r first') second') :
  first = first' ∧ second = second'
  := by
  rw [absorb_absorb, absorb_absorb] at same
  have words := (BitVec.xor_right_inj r).1 (shift_injective.iterate 16 same)
  have firsts := congrArg (BitVec.extractLsb' 8 8) words
  have seconds := congrArg (BitVec.extractLsb' 0 8) words
  rw [BitVec.extractLsb'_append_eq_left, BitVec.extractLsb'_append_eq_left] at firsts
  rw [BitVec.extractLsb'_append_eq_right, BitVec.extractLsb'_append_eq_right] at seconds
  exact ⟨UInt8.toBitVec_inj.1 firsts, UInt8.toBitVec_inj.1 seconds⟩

theorem eq_of_absorb {r : BitVec 16} {byte byte' : UInt8}
    (same : absorb r byte = absorb r byte') :
  byte = byte'
  := by
  have followed : absorb (absorb r byte) 0 = absorb (absorb r byte') 0 := by rw [same]
  exact (eq_of_absorb_absorb followed).1

theorem eq_of_absorb_left {r s : BitVec 16} {byte : UInt8} (same : absorb r byte = absorb s byte) :
  r = s
  := by
  rw [absorb_eq, absorb_eq] at same
  exact (BitVec.xor_left_inj _).1 (shift_injective.iterate 8 same)

/-! ### Strings of bytes -/

theorem run_cons (r : BitVec 16) (byte : UInt8) (bytes : List UInt8) :
  run r (byte :: bytes) = run (absorb r byte) bytes
  := rfl

theorem eq_of_run_left {r s : BitVec 16} {bytes : List UInt8} (same : run r bytes = run s bytes) :
  r = s
  := by
  induction bytes generalizing r s with
  | nil => exact same
  | cons byte bytes ih =>
    rw [run_cons, run_cons] at same
    exact eq_of_absorb_left (ih same)

/-- Strings of one length that differ at most in the two bytes at `i` and `i + 1` are the same if
they leave the same register. -/
theorem eq_of_run {i : Nat} {bs cs : List UInt8} (length : bs.length = cs.length)
    (window : ∀ j, j ≠ i → j ≠ i + 1 → bs[j]? = cs[j]?) {r : BitVec 16}
    (same : run r bs = run r cs) :
  bs = cs
  := by
  induction i generalizing bs cs r with
  | zero =>
    match bs, cs with
    | [], [] => rfl
    | [b], [c] =>
      rw [run_cons, run_cons] at same
      rw [eq_of_absorb same]
    | b :: b' :: bs, c :: c' :: cs =>
      have rest : bs = cs := by
        apply List.ext_getElem?
        intro j
        simpa using window (j + 2) (by omega) (by omega)
      rw [rest, run_cons, run_cons, run_cons, run_cons] at same
      obtain ⟨rfl, rfl⟩ := eq_of_absorb_absorb (eq_of_run_left same)
      rw [rest]
  | succ i ih =>
    match bs, cs with
    | [], [] => rfl
    | b :: bs, c :: cs =>
      obtain rfl : b = c := by simpa using window 0 (by omega) (by omega)
      have rest : bs = cs := by
        apply ih (Nat.succ.inj length) _ same
        intro j ne ne'
        simpa using window (j + 1) (by omega) (by omega)
      rw [rest]

end MeshOnboard.Checksum
