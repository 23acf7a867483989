import MeshOnboard.Decimal.Binary
import MeshOnboard.Text.Numeral

/-!
# The shortest decimal text of a number

Of the decimal numbers that are rounded to a given number of 53 places, `Shortest.decimal` is one
with the fewest digits, and of several such the nearest.  `Shortest.text` writes it without an
exponent.
-/

namespace MeshOnboard.Shortest

/-- The number `coefficient · 10 ^ exponent`. -/
structure Scaled where
  coefficient : Nat
  exponent : Int
  deriving DecidableEq

/-- The power of ten with an exponent of either sign. -/
def tenPow (e : Int) : Rat :=
  if 0 ≤ e then 10 ^ e.toNat else 1 / 10 ^ (-e).toNat

/-- The number that a scaled coefficient stands for. -/
def Scaled.value (s : Scaled) : Rat := s.coefficient * tenPow s.exponent

/-- The exponent of the largest power of ten that is at most `x`, for a positive `x`. -/
def magnitude (x : Rat) : Int :=
  if 1 ≤ x then (Numeral.decimal x.floor.toNat).length - 1
  else
    let places := (List.range ((Numeral.decimal x.den).length + 1)).find? fun k =>
      1 ≤ x * 10 ^ k
    Int.negOfNat (places.getD 0)

/-- The neighbours of `x` among the multiples of a power of ten that are rounded to `x`, the nearer
one first and of equally near ones the upper. -/
def neighbours (x : Rat) (exponent : Int) : List Scaled :=
  let below := (x / tenPow exponent).floor.toNat
  let down : Scaled := ⟨below, exponent⟩
  let up : Scaled := ⟨below + 1, exponent⟩
  let ordered := if x - down.value < up.value - x then [down, up] else [up, down]
  ordered.filter fun s => Binary.round s.value = x

/-- The digits that always suffice. -/
def maxDigits : Nat := 17

/-- A shortest decimal number that is rounded to `x`, for a positive `x` of 53 places. -/
def decimal (x : Rat) : Scaled :=
  let top := magnitude x
  ((List.range maxDigits).findSome? fun n : Nat => (neighbours x (top - n)).head?).getD ⟨0, 0⟩

/-- The text of a scaled coefficient, with a point if it has places behind one. -/
def positional (s : Scaled) : List Char :=
  let digits := Numeral.decimal s.coefficient
  if 0 ≤ s.exponent then digits ++ List.replicate s.exponent.toNat '0'
  else
    let places := (-s.exponent).toNat
    let padded := List.replicate (places + 1 - digits.length) '0' ++ digits
    padded.take (padded.length - places) ++ '.' :: padded.drop (padded.length - places)

/-- The shortest text of a number of 53 places. -/
def text (x : Rat) : String :=
  if x = 0 then "0"
  else if x < 0 then String.ofList ('-' :: positional (decimal (-x)))
  else String.ofList (positional (decimal x))

end MeshOnboard.Shortest
