import MeshOnboard.Proofs.Overlay.Addressing
import Mathlib.Data.BitVec

/-!
# Every offset belongs to a client

A shift of the register can be undone, so that from any register a word of sixteen bits leads to any
other (`exists_word`).  A login cannot hold every word: the bytes of its plain letters are below 128.
Four letters leave registers that differ in the top bits of their two bytes, and after one of them
the word that is needed has no top bits.  Every checksum is therefore that of a login of three plain
letters (`exists_login`), and the addresses of clients are the 65536 addresses from the network
address of the subnet on.
-/

namespace MeshOnboard

/-! ### Logins of plain letters -/

/-- The login with the given bytes, all of which lie below 128. -/
def plainLogin (bytes : List UInt8) : String :=
  String.ofList (bytes.map fun b => Char.ofNat b.toNat)

private theorem utf8EncodeChar_ofNat {b : UInt8} (h : b.toNat < 128) :
  String.utf8EncodeChar (Char.ofNat b.toNat) = [b]
  := by
  have valid : b.toNat.isValidChar := .inl (by omega)
  have code : (Char.ofNat b.toNat).val.toNat = b.toNat := by
    rw [Char.ofNat, dif_pos valid]
    rfl
  rw [String.utf8EncodeChar_eq_singleton]
  · rw [List.singleton_inj]
    apply UInt8.toNat_inj.1
    rw [UInt32.toNat_toUInt8, code]
    omega
  · rw [Char.utf8Size_eq_one_iff, UInt32.le_iff_toNat_le, code]
    apply Nat.le_of_lt_succ h

theorem loginBytes_plainLogin {bytes : List UInt8} (h : ∀ b ∈ bytes, b.toNat < 128) :
  loginBytes (plainLogin bytes) = bytes
  := by
  rw [loginBytes_eq, plainLogin, String.toByteArray_ofList, List.utf8Encode,
    List.toList_data_toByteArray, List.flatMap_map]
  induction bytes with
  | nil => rfl
  | cons b bytes ih =>
    obtain ⟨here, later⟩ := List.forall_mem_cons.1 h
    rw [List.flatMap_cons, utf8EncodeChar_ofNat here, ih later]
    rfl

namespace Checksum

/-! ### Words -/

/-- The byte at the top of a word. -/
def upper (w : BitVec 16) : UInt8 := ⟨w.extractLsb' 8 8⟩

/-- The byte at the bottom of a word. -/
def lower (w : BitVec 16) : UInt8 := ⟨w.extractLsb' 0 8⟩

theorem upper_append_lower (w : BitVec 16) :
  (upper w).toBitVec ++ (lower w).toBitVec = w
  := by
  have whole : w.extractLsb' 8 8 ++ w.extractLsb' 0 8 = w.extractLsb' 0 16 :=
    BitVec.extractLsb'_append_extractLsb'_eq_extractLsb' rfl
  exact whole.trans BitVec.extractLsb'_eq_self

/-- A byte without its top bit lies below 128. -/
theorem toNat_lt_of_msb {b : UInt8} (h : b.toBitVec.getLsbD 7 = false) :
  b.toNat < 128
  := by
  have top : b.toBitVec.msb = false := by rw [BitVec.msb_eq_getLsbD_last, h]
  exact BitVec.toNat_lt_of_msb_false top

theorem shift_surjective :
  Function.Surjective shift
  := by
  have finite : Finite (BitVec 16) := .of_equiv _ BitVec.equivFin.toEquiv.symm
  exact Finite.surjective_of_injective shift_injective

/-- A register is left by two bytes that make a word with the register before them. -/
theorem exists_word (v : BitVec 16) :
  ∃ w, ∀ r, absorb (absorb r (upper (r ^^^ w))) (lower (r ^^^ w)) = v
  := by
  obtain ⟨w, reached⟩ := shift_surjective.iterate 16 v
  use w
  intro r
  rw [absorb_absorb, upper_append_lower, ← BitVec.xor_assoc, BitVec.xor_self, BitVec.zero_xor,
    reached]

/-- One of four letters leaves a register with given top bits of its bytes. -/
theorem exists_letter (w : BitVec 16) :
  ∃ letter : UInt8, letter.toNat < 128 ∧
    (run initial [letter] ^^^ w).getLsbD 15 = false ∧
    (run initial [letter] ^^^ w).getLsbD 7 = false
  := by
  simp only [BitVec.getLsbD_xor]
  cases w.getLsbD 15 with
  | false =>
    cases w.getLsbD 7 with
    | false => exact ⟨0x7A, by decide +kernel⟩
    | true => exact ⟨0x7E, by decide +kernel⟩
  | true =>
    cases w.getLsbD 7 with
    | false => exact ⟨0x61, by decide +kernel⟩
    | true => exact ⟨0x64, by decide +kernel⟩

/-- Every checksum belongs to a login. -/
theorem exists_login (v : UInt16) :
  ∃ login, login ≠ "" ∧ checksum (loginBytes login) = v
  := by
  obtain ⟨w, reached⟩ := exists_word v.toBitVec
  obtain ⟨letter, plain, top, middle⟩ := exists_letter w
  let word := run initial [letter] ^^^ w
  have bytes : loginBytes (plainLogin [letter, upper word, lower word]) =
      [letter, upper word, lower word] := by
    apply loginBytes_plainLogin
    simp only [List.forall_mem_cons, List.not_mem_nil, false_implies, implies_true, and_true]
    use plain
    constructor
    · apply toNat_lt_of_msb
      simpa [upper, word] using top
    · apply toNat_lt_of_msb
      simpa [lower, word] using middle
  use plainLogin [letter, upper word, lower word]
  constructor
  · intro empty
    simp [empty, loginBytes_eq] at bytes
  · rw [bytes]
    apply UInt16.toBitVec_inj.1
    exact reached (run initial [letter])

end Checksum

/-! ### Addresses of clients -/

theorem clientAddress_eq_iff {login : String} {s : Subnet} {a : IPv4} :
  clientAddress login s = a ↔ (checksum (loginBytes login)).toUInt32 = a.bits - s.network.bits
  := by
  obtain ⟨bits⟩ := a
  rw [clientAddress, IPv4.mk.injEq, UInt32.eq_sub_iff_add_eq, UInt32.add_comm]

theorem distance_clientAddress_lt (login : String) (s : Subnet) :
  ((clientAddress login s).bits - s.network.bits).toNat < 65536
  := by
  rw [← clientAddress_eq_iff.1 rfl, UInt16.toNat_toUInt32]
  apply UInt16.toNat_lt

/-- Every address that is near enough to the network address belongs to a client. -/
theorem exists_clientAddress_eq {s : Subnet} {a : IPv4}
    (near : (a.bits - s.network.bits).toNat < 65536) :
  ∃ login, login ≠ "" ∧ clientAddress login s = a
  := by
  obtain ⟨login, named, reached⟩ := Checksum.exists_login (a.bits - s.network.bits).toUInt16
  use login, named
  rw [clientAddress_eq_iff, reached]
  apply UInt32.toNat_inj.1
  rw [UInt16.toNat_toUInt32, UInt32.toNat_toUInt16, Nat.mod_eq_of_lt near]

end MeshOnboard
