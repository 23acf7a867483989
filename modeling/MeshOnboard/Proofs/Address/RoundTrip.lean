import MeshOnboard.Overlay.Address
import MeshOnboard.Proofs.Text.Numeral
import Mathlib.Tactic.Use

/-!
# Addresses are read back

The texts of IPv4 addresses, of subnets and of lighthouses are read as what they were made from, so
that different addresses have different texts.  Such a text is made of digits and separators alone.
-/

namespace MeshOnboard

namespace IPv4

/-- A word of 32 bits is put together from its four bytes. -/
private theorem bytes_or (v : BitVec 32) :
  ((v >>> 24).setWidth 8).setWidth 32 <<< 24 ||| ((v >>> 16).setWidth 8).setWidth 32 <<< 16 |||
    ((v >>> 8).setWidth 8).setWidth 32 <<< 8 ||| (v.setWidth 8).setWidth 32 = v
  := by
  apply BitVec.eq_of_getLsbD_eq
  intro i hi
  simp only [BitVec.getLsbD_or, BitVec.getLsbD_shiftLeft, BitVec.getLsbD_setWidth,
    BitVec.getLsbD_ushiftRight]
  by_cases h8 : i < 8
  · grind
  by_cases h16 : i < 16
  · have second : 8 + (i - 8) = i := by omega
    grind
  by_cases h24 : i < 24
  · have third : 16 + (i - 16) = i := by omega
    grind
  · have fourth : 24 + (i - 24) = i := by omega
    grind

/-- An address is put together from its octets. -/
theorem ofOctets_octets (ip : IPv4) :
  ofOctets ip.octets.1 ip.octets.2.1 ip.octets.2.2.1 ip.octets.2.2.2 = ip
  := by
  obtain ⟨bits⟩ := ip
  apply congrArg IPv4.mk
  apply UInt32.toBitVec_inj.1
  apply bytes_or bits.toBitVec

theorem octet?_decimal (o : UInt8) :
  octet? (Numeral.decimal o.toNat) = some o
  := by
  have short : (Numeral.decimal o.toNat).length ≤ 3 := by
    apply Numeral.length_decimal_le (by decide)
    have := o.toNat_lt
    omega
  unfold octet?
  rw [if_neg]
  · simp [Numeral.below?_decimal o.toNat_lt]
  · rintro (long | ⟨zero, more⟩)
    · omega
    · have := Numeral.length_decimal_of_head?_eq_zero zero
      omega

/-- The text of an address consists of digits and dots. -/
theorem isDigit_or_of_mem_text {ip : IPv4} {c : Char} (h : c ∈ ip.text) :
  c.isDigit ∨ c = '.'
  := by
  simp only [text, List.map_cons, List.map_nil, Text.joined, List.mem_append, List.mem_cons] at h
  obtain h | rfl | h | rfl | h | rfl | h := h
  all_goals first | exact .inr rfl | exact .inl (Numeral.isDigit_of_mem_decimal h)

theorem not_mem_text {ip : IPv4} {c : Char} (digit : c.isDigit = false) (dot : c ≠ '.') :
  c ∉ ip.text
  := by
  intro h
  obtain isDigit | isDot := isDigit_or_of_mem_text h
  · simp [isDigit] at digit
  · exact dot isDot

/-- The text of an address is read as this address. -/
theorem read?_text (ip : IPv4) :
  read? ip.text = some ip
  := by
  have cut : Text.pieces '.' ip.text =
      [ip.octets.1, ip.octets.2.1, ip.octets.2.2.1, ip.octets.2.2.2].map fun o =>
        Numeral.decimal o.toNat := by
    apply Text.pieces_joined (by simp)
    intro p hp dot
    obtain ⟨o, -, rfl⟩ := List.mem_map.1 hp
    exact absurd (Numeral.isDigit_of_mem_decimal dot) (by decide)
  simp only [read?, cut, List.map_cons, List.map_nil, octet?_decimal]
  exact congrArg some (ofOctets_octets ip)

theorem text_injective {ip ip' : IPv4} (h : ip.text = ip'.text) :
  ip = ip'
  := by
  apply Option.some.inj
  rw [← read?_text ip, h, read?_text]

end IPv4

namespace Subnet

theorem prefixLength?_decimal (n : Fin 33) :
  prefixLength? (Numeral.decimal n) = some n
  := by
  have small : n.val < 256 := by omega
  simp [prefixLength?, Numeral.count?_decimal small]

/-- The text of a subnet consists of digits, dots and a slash. -/
theorem not_mem_text {s : Subnet} {c : Char} (digit : c.isDigit = false) (dot : c ≠ '.')
    (slash : c ≠ '/') :
  c ∉ s.text
  := by
  simp only [text, List.mem_append, List.mem_cons, not_or]
  use IPv4.not_mem_text digit dot, slash
  intro h
  simp [Numeral.isDigit_of_mem_decimal h] at digit

/-- The text of a subnet is read as this subnet. -/
theorem read?_text (s : Subnet) :
  read? s.text = some s
  := by
  have noSlash : '/' ∉ s.network.text := IPv4.not_mem_text (by decide) (by decide)
  simp [read?, text, Text.cutAt?_append_cons noSlash, IPv4.read?_text, prefixLength?_decimal]

theorem text_injective {s s' : Subnet} (h : s.text = s'.text) :
  s = s'
  := by
  apply Option.some.inj
  rw [← read?_text s, h, read?_text]

end Subnet

namespace Lighthouse

/-- The text of a lighthouse is read as this lighthouse. -/
theorem read?_text (l : Lighthouse) :
  read? l.text = some l
  := by
  have noColon : ':' ∉ l.overlay.text := IPv4.not_mem_text (by decide) (by decide)
  simp [read?, text, Text.cutAt?_append_cons noColon, IPv4.read?_text]

end Lighthouse

end MeshOnboard
