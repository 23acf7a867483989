import MeshOnboard.Proofs.Address.Compression

/-!
# Socket addresses are read back

The canonical text of a socket address of either version is read as this address.  A text of version
six is cut at the bracket and at the scope, and neither sign occurs in the address before it.
-/

namespace MeshOnboard.SocketAddress

theorem port?_decimal (port : UInt16) :
  port? (Numeral.decimal port.toNat) = some port
  := by
  simp [port?, Numeral.below?_decimal port.toNat_lt_size]

theorem scope?_decimal (scope : UInt32) :
  scope? (Numeral.decimal scope.toNat) = some scope
  := by
  simp [scope?, Numeral.below?_decimal scope.toNat_lt_size]

/-- What is written of a scope: nothing of none. -/
def zoneText (scope : UInt32) : List Char :=
  if scope = 0 then [] else '%' :: Numeral.decimal scope.toNat

theorem text_v6 (ip : IPv6) (scope : UInt32) (port : UInt16) :
  (v6 ip scope port).text =
    '[' :: (ip.text ++ zoneText scope ++ ']' :: ':' :: Numeral.decimal port.toNat)
  := by
  simp [text, zoneText]

/-- An address and its scope are read back from between the brackets. -/
theorem bracketed?_text (ip : IPv6) (scope : UInt32) :
  bracketed? (ip.text ++ zoneText scope) = some (ip, scope)
  := by
  have noPercent : '%' ∉ ip.text :=
    IPv6.not_mem_text (by decide) (by decide) (by decide) (by decide)
  unfold zoneText
  split
  · next none =>
    simp [bracketed?, Text.cutAt?_eq_none noPercent, IPv6.read?_text, none]
  · simp [bracketed?, Text.cutAt?_append_cons noPercent, IPv6.read?_text, scope?_decimal]

/-- The text of a socket address is read as this address. -/
theorem read?_text (a : SocketAddress) :
  read? a.text = some a
  := by
  cases a with
  | v4 ip port =>
    have noBracket : '[' ∉ (v4 ip port).text := by
      simp only [text, List.mem_append, List.mem_cons, not_or]
      use IPv4.not_mem_text (by decide) (by decide), by decide
      intro h
      exact absurd (Numeral.isDigit_of_mem_decimal h) (by decide)
    have noColon : ':' ∉ ip.text := IPv4.not_mem_text (by decide) (by decide)
    unfold read?
    split
    · next cs bracket => simp [bracket] at noBracket
    · simp [text, Text.cutAt?_append_cons noColon, IPv4.read?_text, port?_decimal]
  | v6 ip scope port =>
    have noBracket : ']' ∉ ip.text ++ zoneText scope := by
      simp only [List.mem_append, not_or]
      use IPv6.not_mem_text (by decide) (by decide) (by decide) (by decide)
      unfold zoneText
      split
      · simp
      · simp only [List.mem_cons, not_or]
        use by decide
        intro h
        exact absurd (Numeral.isDigit_of_mem_decimal h) (by decide)
    rw [text_v6, read?, Text.cutAt?_append_cons noBracket]
    simp only [bracketed?_text, port?_decimal]
    rfl

end MeshOnboard.SocketAddress
