/-!
# Numbers of 53 places

`Binary.round` rounds a rational number to the nearest that has 53 significant binary places, and a
number half-way between two of them to the one whose last place is zero.  Exponents are not
bounded.  `Binary.add`, `Binary.quotient` and `Binary.ofNat` are the exact operations with their
results rounded.
-/

namespace MeshOnboard.Binary

/-- The power of two with an exponent of either sign. -/
def twoPow (e : Int) : Rat :=
  if 0 ≤ e then 2 ^ e.toNat else 1 / 2 ^ (-e).toNat

/-- The size of a number without its sign. -/
def size (x : Rat) : Rat := if x < 0 then -x else x

/-- The exponent of the largest power of two that is at most `x`, for a positive `x`. -/
def magnitude (x : Rat) : Int :=
  let guess : Int := (Nat.log2 x.num.toNat : Int) - Nat.log2 x.den
  if twoPow guess ≤ x then guess else guess - 1

/-- The nearest integer, and of two equally near ones the even one. -/
def nearestEven (x : Rat) : Int :=
  let below := x.floor
  let rest := x - below
  if rest < 1 / 2 then below
  else if 1 / 2 < rest then below + 1
  else if below % 2 = 0 then below
  else below + 1

/-- The nearest number of 53 places. -/
def round (x : Rat) : Rat :=
  if x = 0 then 0
  else
    let unit := twoPow (magnitude (size x) - 52)
    nearestEven (x / unit) * unit

/-- An integer as a number of 53 places. -/
def ofInt (n : Int) : Rat := round n

/-- The rounded sum. -/
def add (x y : Rat) : Rat := round (x + y)

/-- The rounded quotient. -/
def quotient (x y : Rat) : Rat := round (x / y)

end MeshOnboard.Binary
