/-!
# Octets as text

`Utf8.decode` reads octets as characters.  Where no character can be read it notes a gap that stands
for as many octets as could begin one, at least one.  `Utf8.read?` accepts octets without gaps and
`Utf8.readLossy` puts the replacement character into each gap.
-/

namespace MeshOnboard.Utf8

/-- What a first octet says: how many octets follow, the bits it holds itself, and the bounds of the
octet after it. -/
structure Lead where
  more : Nat
  bits : Nat
  low : UInt8
  high : UInt8

/-- What an octet says as the first of a character. -/
def lead? (b : UInt8) : Option Lead :=
  let n := b.toNat
  if n < 0x80 then some ⟨0, n, 0x80, 0xBF⟩
  else if n < 0xC2 then none
  else if n < 0xE0 then some ⟨1, n - 0xC0, 0x80, 0xBF⟩
  else if n < 0xF0 then
    some ⟨2, n - 0xE0, if n = 0xE0 then 0xA0 else 0x80, if n = 0xED then 0x9F else 0xBF⟩
  else if n < 0xF5 then
    some ⟨3, n - 0xF0, if n = 0xF0 then 0x90 else 0x80, if n = 0xF4 then 0x8F else 0xBF⟩
  else none

/-- The code point reached from `bits` by `more` octets, the first of them between `low` and `high`,
if they are there, and the octets that are left. -/
def follow : (more bits : Nat) → (low high : UInt8) → List UInt8 → Option Nat × List UInt8
  | 0, bits, _, _, bs => (some bits, bs)
  | _ + 1, _, _, _, [] => (none, [])
  | more + 1, bits, low, high, b :: bs =>
    if low ≤ b ∧ b ≤ high then follow more (bits * 64 + b.toNat % 64) 0x80 0xBF bs
    else (none, b :: bs)

theorem length_follow_le (more bits : Nat) (low high : UInt8) (bs : List UInt8) :
  (follow more bits low high bs).2.length ≤ bs.length
  := by
  induction more generalizing bits low high bs with
  | zero => simp [follow]
  | succ more ih =>
    cases bs with
    | nil => simp [follow]
    | cons b bs =>
      unfold follow
      split
      · exact Nat.le_succ_of_le (ih _ _ _ _)
      · exact Nat.le_refl _

/-- The characters that the octets stand for, with `none` for each gap. -/
def decode : List UInt8 → List (Option Char)
  | [] => []
  | b :: bs =>
    match lead? b with
    | none => none :: decode bs
    | some l =>
      let r := follow l.more l.bits l.low l.high bs
      r.1.map Char.ofNat :: decode r.2
termination_by bs => bs.length
decreasing_by
  · simp
  · exact Nat.lt_succ_of_le (length_follow_le _ _ _ _ _)

/-- The text that the octets stand for. -/
def read? (bs : List UInt8) : Option (List Char) := (decode bs).mapM id

/-- The text that the octets stand for, with the replacement character in each gap. -/
def readLossy (bs : List UInt8) : List Char := (decode bs).map fun c => c.getD '\ufffd'

/-- The octets of a text. -/
def write (s : String) : List UInt8 := s.toUTF8.toList

end MeshOnboard.Utf8
