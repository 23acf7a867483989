import MeshOnboard.Overlay.Assignment
import MeshOnboard.Proofs.Overlay.Checksum
import MeshOnboard.Proofs.Text.Utf8
import Mathlib.Algebra.Ring.Nat
import Mathlib.Tactic.Use

/-!
# Where clients are in the overlay

A client's address lies above the network address of its subnet, at an offset of sixteen bits that is
the checksum of its login.  The largest offset belongs to a login, so that all clients are inside the
subnet exactly when it has room for that one.  Logins that differ within two adjacent bytes have
different checksums and with them different addresses.
-/

namespace MeshOnboard

/-! ### Logins as bytes -/

theorem loginBytes_eq (login : String) :
  loginBytes login = login.toByteArray.data.toList
  := Utf8.toList_eq login.toByteArray

theorem loginBytes_injective :
  Function.Injective loginBytes
  := by
  intro login login' same
  rw [loginBytes_eq, loginBytes_eq, Array.toList_inj] at same
  exact String.toByteArray_inj.1 (ByteArray.ext same)

/-! ### Subnets -/

namespace Subnet

/-- The address agrees with the network address on the bits of the prefix. -/
def Contains (s : Subnet) (a : IPv4) : Prop :=
  ∀ i < s.prefixLength.val, a.bits.toBitVec.getMsbD i = s.network.bits.toBitVec.getMsbD i

/-- The number of addresses in a subnet. -/
def size (s : Subnet) : Nat := 2 ^ (32 - s.prefixLength.val)

/-- The position of the network address among the addresses of its subnet. -/
def hostPart (s : Subnet) : Nat := s.network.bits.toNat % s.size

variable {s : Subnet}

theorem length_le (s : Subnet) :
  s.prefixLength.val ≤ 32
  := Nat.le_of_lt_succ s.prefixLength.isLt

/-- The bits of a number of 32 bits in front of the addresses of a subnet are those of the
prefix. -/
theorem testBit_div_size (s : Subnet) (b : UInt32) (j : Nat) :
  (b.toNat / s.size).testBit j =
    (decide (j < s.prefixLength.val) && b.toBitVec.getMsbD (s.prefixLength.val - 1 - j))
  := by
  have length := s.length_le
  rw [size, Nat.testBit_div_two_pow]
  by_cases inside : j < s.prefixLength.val
  · have place : 31 - (s.prefixLength.val - 1 - j) = j + (32 - s.prefixLength.val) := by omega
    have bound : s.prefixLength.val - 1 - j < 32 := by omega
    simp [BitVec.getMsbD, BitVec.getLsbD, inside, place, bound]
  · have beyond : b.toNat < 2 ^ (j + (32 - s.prefixLength.val)) :=
      Nat.lt_of_lt_of_le b.toNat_lt (Nat.pow_le_pow_right (by decide) (by omega))
    simp [inside, Nat.testBit_lt_two_pow beyond]

/-- A subnet is a block of consecutive addresses. -/
theorem contains_iff {a : IPv4} :
  s.Contains a ↔ a.bits.toNat / s.size = s.network.bits.toNat / s.size
  := by
  constructor
  · intro contains
    apply Nat.eq_of_testBit_eq
    intro j
    rw [testBit_div_size, testBit_div_size]
    by_cases inside : j < s.prefixLength.val
    · rw [contains _ (by omega)]
    · simp [inside]
  · intro same i inside
    have bit (b : UInt32) :
        (b.toNat / s.size).testBit (s.prefixLength.val - 1 - i) = b.toBitVec.getMsbD i := by
      have place : s.prefixLength.val - 1 - (s.prefixLength.val - 1 - i) = i := by omega
      have bound : s.prefixLength.val - 1 - i < s.prefixLength.val := by omega
      simp [testBit_div_size, place, bound]
    rw [← bit, same, bit]

theorem size_pos (s : Subnet) :
  0 < s.size
  := Nat.two_pow_pos _

/-- The address space is cut into as many blocks of the size of the subnet as there are
prefixes. -/
theorem size_mul_two_pow (s : Subnet) :
  s.size * 2 ^ s.prefixLength.val = 2 ^ 32
  := by
  rw [size, ← Nat.pow_add, Nat.sub_add_cancel s.length_le]

/-- An address at a distance from the network address that does not lead around the address space
is inside exactly when it is not beyond the last address of the subnet. -/
theorem contains_add_iff {offset : UInt32} (near : s.size + offset.toNat ≤ 2 ^ 32) :
  s.Contains ⟨s.network.bits + offset⟩ ↔ s.hostPart + offset.toNat < s.size
  := by
  let first := s.network.bits.toNat / s.size
  let steps := (s.hostPart + offset.toNat) / s.size
  have reached : (s.network.bits + offset).toNat / s.size =
      (first + steps) % 2 ^ s.prefixLength.val := by
    rw [UInt32.toNat_add, ← s.size_mul_two_pow, Nat.mod_mul_right_div_self,
      ← Nat.mul_add_div s.size_pos, hostPart, ← Nat.add_assoc, Nat.div_add_mod]
  have first_lt : first < 2 ^ s.prefixLength.val := by
    apply Nat.div_lt_of_lt_mul
    rw [s.size_mul_two_pow]
    apply s.network.bits.toNat_lt
  have steps_lt : steps < 2 ^ s.prefixLength.val := by
    apply Nat.div_lt_of_lt_mul
    rw [s.size_mul_two_pow]
    apply Nat.lt_of_lt_of_le _ near
    apply Nat.add_lt_add_right
    apply Nat.mod_lt _ s.size_pos
  rw [contains_iff, reached, ← Nat.div_eq_zero_iff_lt s.size_pos]
  change (first + steps) % 2 ^ s.prefixLength.val = first ↔ steps = 0
  constructor
  · intro same
    by_cases wraps : first + steps < 2 ^ s.prefixLength.val
    · rw [Nat.mod_eq_of_lt wraps] at same
      omega
    · rw [Nat.mod_eq_sub_mod (by omega), Nat.mod_eq_of_lt (by omega)] at same
      omega
  · intro none
    rw [none, Nat.add_zero, Nat.mod_eq_of_lt first_lt]

end Subnet

/-! ### Addresses of clients -/

/-- A login whose offset is the largest. -/
theorem checksum_farthest :
  checksum (loginBytes "bob682") = 0xFFFF
  := by decide +kernel

theorem contains_clientAddress_iff {s : Subnet} (cut : s.prefixLength.val ≠ 0) (login : String) :
  s.Contains (clientAddress login s) ↔
    s.hostPart + (checksum (loginBytes login)).toNat < s.size
  := by
  have half : s.size ≤ 2 ^ 31 := Nat.pow_le_pow_right (by decide) (by omega)
  have bound := (checksum (loginBytes login)).toNat_lt
  rw [← UInt16.toNat_toUInt32] at bound ⊢
  apply Subnet.contains_add_iff
  omega

/-- All clients are inside their subnet exactly when it is the whole address space or goes on for
another 65535 addresses above the network address. -/
theorem clients_inside_iff (s : Subnet) :
  (∀ login, login ≠ "" → s.Contains (clientAddress login s)) ↔
    s.prefixLength.val = 0 ∨
      s.network.bits.toNat % 2 ^ (32 - s.prefixLength.val) + 65535 < 2 ^ (32 - s.prefixLength.val)
  := by
  by_cases whole : s.prefixLength.val = 0
  · simp [Subnet.Contains, whole]
  simp only [contains_clientAddress_iff whole, whole, false_or]
  constructor
  · intro inside
    have farthest := inside "bob682" (by decide)
    rw [checksum_farthest] at farthest
    exact farthest
  · intro room login _
    apply Nat.lt_of_le_of_lt _ room
    apply Nat.add_le_add_left
    apply Nat.le_of_lt_succ (checksum (loginBytes login)).toNat_lt

/-- In every subnet different logins have different addresses if their bytes are as many and differ
only within two adjacent places. -/
theorem ne_address_of_similar {login login' : String} (s : Subnet) {i : Nat}
    (ne : login ≠ login')
    (length : (loginBytes login).length = (loginBytes login').length)
    (window : ∀ j, j ≠ i → j ≠ i + 1 → (loginBytes login)[j]? = (loginBytes login')[j]?) :
  clientAddress login s ≠ clientAddress login' s
  := by
  intro same
  have sums := congrArg IPv4.bits same
  have registers := UInt16.toUInt32_inj.1 ((UInt32.add_right_inj s.network.bits).1 sums)
  have bytes := Checksum.eq_of_run length window (congrArg UInt16.toBitVec registers)
  exact ne (loginBytes_injective bytes)

/-- Two logins that end in letters of two bytes, of which both differ. -/
theorem ne_address_of_last_letter :
  "zoë" ≠ "zoж" ∧
  clientAddress "zoë" ⟨.ofOctets 10 0 0 0, 16⟩ ≠ clientAddress "zoж" ⟨.ofOctets 10 0 0 0, 16⟩
  := by
  have ne : "zoë" ≠ "zoж" := by decide
  have first : loginBytes "zoë" = [122, 111, 0xC3, 0xAB] := by decide +kernel
  have second : loginBytes "zoж" = [122, 111, 0xD0, 0xB6] := by decide +kernel
  use ne
  apply ne_address_of_similar _ (i := 2) ne
  · rw [first, second]
    rfl
  · intro j ne ne'
    rw [first, second]
    rcases j with _ | _ | _ | _ | j
    · rfl
    · rfl
    · contradiction
    · contradiction
    · rfl

end MeshOnboard
