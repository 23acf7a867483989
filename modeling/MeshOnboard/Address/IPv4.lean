import MeshOnboard.Text.Numeral
import MeshOnboard.Text.Pieces

/-!
# IPv4 addresses

An `IPv4` is a 32-bit number.  Its text is the four octets in decimal, joined by dots.
`IPv4.read?` accepts exactly such texts: an octet has one to three digits, no leading zero and a
value of at most 255.
-/

namespace MeshOnboard

/-- An IPv4 address, the first octet in the highest bits. -/
structure IPv4 where
  bits : UInt32
  deriving DecidableEq

namespace IPv4

/-- The address with the four given octets. -/
def ofOctets (a b c d : UInt8) : IPv4 :=
  ⟨a.toUInt32 <<< 24 ||| b.toUInt32 <<< 16 ||| c.toUInt32 <<< 8 ||| d.toUInt32⟩

/-- The four octets, the highest first. -/
def octets (ip : IPv4) : UInt8 × UInt8 × UInt8 × UInt8 :=
  ((ip.bits >>> 24).toUInt8, (ip.bits >>> 16).toUInt8, (ip.bits >>> 8).toUInt8, ip.bits.toUInt8)

instance : Inhabited IPv4 := ⟨⟨0⟩⟩

/-- The value of an octet's text: one to three digits, without a leading zero, at most 255. -/
def octet? (cs : List Char) : Option UInt8 :=
  if 3 < cs.length ∨ (cs.head? = some '0' ∧ 1 < cs.length) then none
  else (Numeral.below? 256 cs).map Nat.toUInt8

/-- The address with the given text. -/
def read? (cs : List Char) : Option IPv4 :=
  match Text.pieces '.' cs with
  | [a, b, c, d] => do
    let a ← octet? a
    let b ← octet? b
    let c ← octet? c
    let d ← octet? d
    return ofOctets a b c d
  | _ => none

/-- The text of an address: its octets in decimal, joined by dots. -/
def text (ip : IPv4) : List Char :=
  let (a, b, c, d) := ip.octets
  Text.joined '.' ([a, b, c, d].map fun o => Numeral.decimal o.toNat)

instance : ToString IPv4 := ⟨fun ip => String.ofList ip.text⟩

end IPv4

end MeshOnboard
