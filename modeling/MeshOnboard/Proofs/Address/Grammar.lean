import MeshOnboard.Proofs.Address.RoundTrip

/-!
# Which texts are addresses

`IPv4.IsText`, `Subnet.IsText` and `Lighthouse.IsText` say how an address, a subnet and a lighthouse
are written, in terms of decimal numerals and separators alone.  The texts that are read are those
(`read?_eq_some_iff`).  An address is written in one way only; a subnet is written as its own text
but for a sign and zeros in front of the prefix.
-/

namespace MeshOnboard

namespace IPv4

/-! ### Octets -/

/-- One to three digits that stand for an octet, the first of them no zero if there are more. -/
structure IsOctet (cs : List Char) (o : UInt8) : Prop where
  decimal : Numeral.IsDecimal cs o.toNat
  short : cs.length ≤ 3
  noLeadingZero : cs.head? = some '0' → cs.length = 1

theorem octet?_eq_some_iff {cs : List Char} {o : UInt8} :
  octet? cs = some o ↔ IsOctet cs o
  := by
  unfold octet?
  constructor
  · intro value
    split at value
    · contradiction
    next form =>
      rw [not_or] at form
      obtain ⟨n, below, rfl⟩ := Option.map_eq_some_iff.1 value
      obtain ⟨decimal, bound⟩ := Numeral.below?_eq_some_iff.1 below
      refine ⟨?_, Nat.not_lt.1 form.1, ?_⟩
      · rwa [Nat.toUInt8_eq, UInt8.toNat_ofNat_of_lt' bound]
      · intro zero
        have := List.length_pos_iff.2 decimal.ne_nil
        have : ¬ 1 < cs.length := fun more => form.2 ⟨zero, more⟩
        omega
  · intro h
    have form : ¬ (3 < cs.length ∨ cs.head? = some '0' ∧ 1 < cs.length) := by
      rintro (long | ⟨zero, more⟩)
      · exact Nat.not_lt.2 h.short long
      · exact Nat.ne_of_gt more (h.noLeadingZero zero)
    rw [if_neg form, Numeral.below?_eq_some_iff.2 ⟨h.decimal, o.toNat_lt⟩]
    simp

/-- An octet is written in one way only. -/
theorem IsOctet.eq_decimal {cs : List Char} {o : UInt8} (h : IsOctet cs o) :
  cs = Numeral.decimal o.toNat
  := by
  obtain ⟨k, same⟩ := h.decimal.exists_eq
  cases k with
  | zero => exact same
  | succ k =>
    have single : cs.length = 1 := h.noLeadingZero (by rw [same]; rfl)
    have some : 0 < (Numeral.decimal o.toNat).length := Nat.length_toDigits_pos
    rw [same, List.length_append, List.length_replicate] at single
    omega

theorem isOctet_decimal (o : UInt8) :
  IsOctet (Numeral.decimal o.toNat) o
  := octet?_eq_some_iff.1 (octet?_decimal o)

/-! ### Addresses -/

/-- The bits of four bytes that stand side by side. -/
private theorem getLsbD_or (a b c d : BitVec 8) (i : Nat) :
  (a.setWidth 32 <<< 24 ||| b.setWidth 32 <<< 16 ||| c.setWidth 32 <<< 8 |||
      d.setWidth 32).getLsbD i =
    if i < 8 then d.getLsbD i
    else if i < 16 then c.getLsbD (i - 8)
    else if i < 24 then b.getLsbD (i - 16)
    else if i < 32 then a.getLsbD (i - 24)
    else false
  := by
  have beyond (v : BitVec 8) (j : Nat) (h : 8 ≤ j) : v.getLsbD j = false :=
    BitVec.getLsbD_of_ge v j h
  simp only [BitVec.getLsbD_or, BitVec.getLsbD_shiftLeft, BitVec.getLsbD_setWidth]
  grind

/-- A byte of a word. -/
private theorem setWidth_ushiftRight_eq {v : BitVec 32} {n : Nat} {o : BitVec 8}
    (same : ∀ i < 8, v.getLsbD (n + i) = o.getLsbD i) :
  (v >>> n).setWidth 8 = o
  := by
  apply BitVec.eq_of_getLsbD_eq
  intro i hi
  rw [BitVec.getLsbD_setWidth, BitVec.getLsbD_ushiftRight, same i hi, decide_eq_true hi,
    Bool.true_and]

/-- The octets that an address is put together from are its octets. -/
theorem octets_ofOctets (a b c d : UInt8) :
  (ofOctets a b c d).octets = (a, b, c, d)
  := by
  let v : BitVec 32 := a.toBitVec.setWidth 32 <<< 24 ||| b.toBitVec.setWidth 32 <<< 16 |||
    c.toBitVec.setWidth 32 <<< 8 ||| d.toBitVec.setWidth 32
  have bits (i : Nat) := getLsbD_or a.toBitVec b.toBitVec c.toBitVec d.toBitVec i
  have first : (v >>> 24).setWidth 8 = a.toBitVec := by
    apply setWidth_ushiftRight_eq
    intro i hi
    rw [bits, if_neg (by omega), if_neg (by omega), if_neg (by omega), if_pos (by omega),
      Nat.add_sub_cancel_left]
  have second : (v >>> 16).setWidth 8 = b.toBitVec := by
    apply setWidth_ushiftRight_eq
    intro i hi
    rw [bits, if_neg (by omega), if_neg (by omega), if_pos (by omega), Nat.add_sub_cancel_left]
  have third : (v >>> 8).setWidth 8 = c.toBitVec := by
    apply setWidth_ushiftRight_eq
    intro i hi
    rw [bits, if_neg (by omega), if_pos (by omega), Nat.add_sub_cancel_left]
  have fourth : v.setWidth 8 = d.toBitVec := by
    rw [← BitVec.ushiftRight_zero v]
    apply setWidth_ushiftRight_eq
    intro i hi
    rw [bits, if_pos (by omega), Nat.zero_add]
  exact Prod.ext (UInt8.toBitVec_inj.1 first) (Prod.ext (UInt8.toBitVec_inj.1 second)
    (Prod.ext (UInt8.toBitVec_inj.1 third) (UInt8.toBitVec_inj.1 fourth)))

/-- The texts of the four octets of an address, with dots between them. -/
def IsText (cs : List Char) (ip : IPv4) : Prop :=
  ∃ a b c d, cs = a ++ '.' :: b ++ '.' :: c ++ '.' :: d ∧
    IsOctet a ip.octets.1 ∧ IsOctet b ip.octets.2.1 ∧ IsOctet c ip.octets.2.2.1 ∧
    IsOctet d ip.octets.2.2.2

/-- An address is written in one way only. -/
theorem isText_iff {cs : List Char} {ip : IPv4} :
  IsText cs ip ↔ cs = ip.text
  := by
  constructor
  · rintro ⟨a, b, c, d, rfl, first, second, third, fourth⟩
    rw [first.eq_decimal, second.eq_decimal, third.eq_decimal, fourth.eq_decimal]
    simp [text, Text.joined]
  · rintro rfl
    refine ⟨_, _, _, _, ?_, isOctet_decimal _, isOctet_decimal _, isOctet_decimal _,
      isOctet_decimal _⟩
    simp [text, Text.joined]

theorem read?_eq_some_iff {cs : List Char} {ip : IPv4} :
  read? cs = some ip ↔ IsText cs ip
  := by
  constructor
  · intro value
    unfold read? at value
    split at value
    next a b c d cut =>
      simp only [Option.bind_eq_bind, Option.bind_eq_some_iff] at value
      obtain ⟨first, ha, second, hb, third, hc, fourth, hd, same⟩ := value
      obtain rfl := Option.some.inj same
      refine ⟨a, b, c, d, ?_, ?_⟩
      · rw [← Text.joined_pieces '.' cs, cut]
        simp [Text.joined]
      · rw [octets_ofOctets]
        exact ⟨octet?_eq_some_iff.1 ha, octet?_eq_some_iff.1 hb, octet?_eq_some_iff.1 hc,
          octet?_eq_some_iff.1 hd⟩
    · contradiction
  · intro h
    rw [isText_iff.1 h, read?_text]

end IPv4

/-! ### Subnets -/

namespace Subnet

/-- A text in which the prefix may have a plus sign and zeros in front of it. -/
def IsText (cs : List Char) (s : Subnet) : Prop :=
  ∃ network sign digits, cs = network ++ '/' :: (sign ++ digits) ∧ IPv4.IsText network s.network ∧
    (sign = [] ∨ sign = ['+']) ∧ Numeral.IsDecimal digits s.prefixLength

theorem prefixLength?_eq_some_iff {cs : List Char} {n : Fin 33} :
  prefixLength? cs = some n ↔
    ∃ sign digits, cs = sign ++ digits ∧ (sign = [] ∨ sign = ['+']) ∧ Numeral.IsDecimal digits n
  := by
  simp only [prefixLength?, Option.bind_eq_bind, Option.bind_eq_some_iff]
  constructor
  · rintro ⟨m, count, same⟩
    split at same
    · obtain rfl := Option.some.inj same
      exact (Numeral.count?_eq_some_iff.1 count).2
    · contradiction
  · intro written
    have small : n.val < 256 := by omega
    use n, Numeral.count?_eq_some_iff.2 ⟨small, written⟩
    rw [dif_pos n.isLt]

/-- The texts that are read as a subnet are those in which it may be written. -/
theorem read?_eq_some_iff {cs : List Char} {s : Subnet} :
  read? cs = some s ↔ IsText cs s
  := by
  constructor
  · intro value
    simp only [read?, Option.bind_eq_bind, Option.bind_eq_some_iff] at value
    obtain ⟨⟨network, length⟩, cut, ip, address, n, prefixed, same⟩ := value
    obtain rfl := Option.some.inj same
    obtain ⟨sign, digits, rfl, form, decimal⟩ := prefixLength?_eq_some_iff.1 prefixed
    exact ⟨network, sign, digits, (Text.cutAt?_eq_some cut).1, IPv4.read?_eq_some_iff.1 address,
      form, decimal⟩
  · rintro ⟨network, sign, digits, rfl, address, written⟩
    have noSlash : '/' ∉ network := by
      rw [IPv4.isText_iff.1 address]
      exact IPv4.not_mem_text (by decide) (by decide)
    simp [read?, Text.cutAt?_append_cons noSlash, IPv4.read?_eq_some_iff.2 address,
      prefixLength?_eq_some_iff.2 ⟨sign, digits, rfl, written⟩]

/-- A text that is read as a subnet is its own text but for what stands in front of the prefix. -/
theorem IsText.exists_eq {cs : List Char} {s : Subnet} (h : IsText cs s) :
  ∃ sign k, (sign = [] ∨ sign = ['+']) ∧
    cs = s.network.text ++
      '/' :: (sign ++ (List.replicate k '0' ++ Numeral.decimal s.prefixLength))
  := by
  obtain ⟨network, sign, digits, rfl, address, form, decimal⟩ := h
  obtain ⟨k, same⟩ := decimal.exists_eq
  use sign, k, form
  rw [IPv4.isText_iff.1 address, same]

theorem parse_eq_ok_iff {t : String} {s : Subnet} :
  parse t = .ok s ↔ IsText t.toList s
  := by
  rw [← read?_eq_some_iff, parse]
  cases read? t.toList with
  | none => simp
  | some s' => simp

/-- A text that is no subnet is refused and kept in the error. -/
theorem parse_eq_error_iff {t : String} {e : AddressError} :
  parse t = .error e ↔ e = .subnet t ∧ ∀ s, ¬ IsText t.toList s
  := by
  simp only [← read?_eq_some_iff, parse]
  cases read? t.toList with
  | none => simp [eq_comm]
  | some s => simp

end Subnet

/-! ### Lighthouses -/

namespace Lighthouse

/-- Two addresses with a colon between them. -/
def IsText (cs : List Char) (l : Lighthouse) : Prop :=
  ∃ overlay outside, cs = overlay ++ ':' :: outside ∧ IPv4.IsText overlay l.overlay ∧
    IPv4.IsText outside l.outside

/-- The texts that are read as a lighthouse are those in which it may be written. -/
theorem read?_eq_some_iff {cs : List Char} {l : Lighthouse} :
  read? cs = some l ↔ IsText cs l
  := by
  constructor
  · intro value
    simp only [read?, Option.bind_eq_bind, Option.bind_eq_some_iff] at value
    obtain ⟨⟨first, second⟩, cut, overlay, inside, outside, reached, same⟩ := value
    obtain rfl := Option.some.inj same
    exact ⟨first, second, (Text.cutAt?_eq_some cut).1, IPv4.read?_eq_some_iff.1 inside,
      IPv4.read?_eq_some_iff.1 reached⟩
  · rintro ⟨first, second, rfl, inside, reached⟩
    have noColon : ':' ∉ first := by
      rw [IPv4.isText_iff.1 inside]
      exact IPv4.not_mem_text (by decide) (by decide)
    simp [read?, Text.cutAt?_append_cons noColon, IPv4.read?_eq_some_iff.2 inside,
      IPv4.read?_eq_some_iff.2 reached]

theorem parse_eq_ok_iff {t : String} {l : Lighthouse} :
  parse t = .ok l ↔ IsText t.toList l
  := by
  rw [← read?_eq_some_iff, parse]
  cases read? t.toList with
  | none => simp
  | some l' => simp

/-- A text that is no lighthouse is refused and kept in the error. -/
theorem parse_eq_error_iff {t : String} {e : AddressError} :
  parse t = .error e ↔ e = .lighthouse t ∧ ∀ l, ¬ IsText t.toList l
  := by
  simp only [← read?_eq_some_iff, parse]
  cases read? t.toList with
  | none => simp [eq_comm]
  | some l => simp

end Lighthouse

/-- Subnets and lighthouses are read from the texts in which they may be written and from no other;
a text that is refused is kept in the error.  A subnet is read back from its own text, which every
other text of it is but for a sign and zeros in front of the prefix, and two addresses are read back
from their texts with a colon between them. -/
theorem reads_address_texts :
  (∀ t s, Subnet.parse t = .ok s ↔ Subnet.IsText t.toList s) ∧
  (∀ t e, Subnet.parse t = .error e ↔ e = .subnet t ∧ ∀ s, ¬ Subnet.IsText t.toList s) ∧
  (∀ t l, Lighthouse.parse t = .ok l ↔ Lighthouse.IsText t.toList l) ∧
  (∀ t e, Lighthouse.parse t = .error e ↔
    e = .lighthouse t ∧ ∀ l, ¬ Lighthouse.IsText t.toList l) ∧
  (∀ s : Subnet, Subnet.parse (toString s) = .ok s) ∧
  (∀ t s, Subnet.parse t = .ok s →
    ∃ sign zeros digits : String, (sign = "" ∨ sign = "+") ∧ (∀ c ∈ zeros.toList, c = '0') ∧
      t = s!"{s.network}/{sign}{zeros}{digits}" ∧ toString s = s!"{s.network}/{digits}") ∧
  (∀ a b : IPv4, Lighthouse.parse s!"{a}:{b}" = .ok ⟨a, b⟩)
  := by
  refine ⟨fun _ _ => Subnet.parse_eq_ok_iff, fun _ _ => Subnet.parse_eq_error_iff,
    fun _ _ => Lighthouse.parse_eq_ok_iff, fun _ _ => Lighthouse.parse_eq_error_iff, ?_, ?_, ?_⟩
  · intro s
    have own : (toString s).toList = s.text := String.toList_ofList
    rw [Subnet.parse, own, Subnet.read?_text]
  · intro t s accepted
    obtain ⟨sign, k, form, same⟩ := (Subnet.parse_eq_ok_iff.1 accepted).exists_eq
    refine ⟨String.ofList sign, String.ofList (List.replicate k '0'),
      String.ofList (Numeral.decimal s.prefixLength), ?_, ?_, ?_, ?_⟩
    · rcases form with rfl | rfl
      · exact .inl rfl
      · exact .inr rfl
    · simp
    · apply String.toList_inj.1
      rw [same]
      simp [toString]
    · apply String.toList_inj.1
      simp [toString, Subnet.text]
  · intro a b
    have own : (s!"{a}:{b}").toList = (Lighthouse.mk a b).text := by
      simp [toString, Lighthouse.text]
    rw [Lighthouse.parse, own, Lighthouse.read?_text]

end MeshOnboard
