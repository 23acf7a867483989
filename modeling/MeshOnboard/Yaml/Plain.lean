import MeshOnboard.Text.Numeral

/-!
# Plain words with a meaning

A reader takes some plain words for values other than texts: nothing, the truth values, integers
and floating-point numbers.  `isReserved` recognises them, so that a text that looks like one is
quoted.  A word of digits that starts with a zero is read as a text but is quoted as well.
-/

namespace MeshOnboard.Yaml

/-- The words that stand for nothing. -/
def nullWords : List (List Char) :=
  [[], "null".toList, "Null".toList, "NULL".toList, "~".toList]

/-- The words that stand for a truth value. -/
def truthWords : List (List Char) :=
  ["true".toList, "True".toList, "TRUE".toList, "false".toList, "False".toList, "FALSE".toList]

/-- The words, after a sign, that stand for an infinity. -/
def infinityWords : List (List Char) := [".inf".toList, ".Inf".toList, ".INF".toList]

/-- The words that stand for what is not a number. -/
def nanWords : List (List Char) := [".nan".toList, ".NaN".toList, ".NAN".toList]

/-- Whether there is a minus sign, and the text after at most one sign. -/
def splitSign : List Char → Bool × List Char
  | '-' :: cs => (true, cs)
  | '+' :: cs => (false, cs)
  | cs => (false, cs)

/-! ### Integers -/

/-- The value of an unsigned numeral in base ten, or in the base that its first two characters
say. -/
def magnitude? : List Char → Option Nat
  | '0' :: 'x' :: ds => Numeral.read? 16 ds
  | '0' :: 'o' :: ds => Numeral.read? 8 ds
  | '0' :: 'b' :: ds => Numeral.read? 2 ds
  | ds => Numeral.read? 10 ds

/-- Whether a word stands for an integer; it has 128 bits, with or without a sign. -/
def isInteger (cs : List Char) : Bool :=
  let (negative, digits) := splitSign cs
  match magnitude? digits with
  | some n => if negative then n ≤ Nat.pow 2 127 else n < Nat.pow 2 128
  | none => false

/-- Whether a word, after at most one sign, has at least two characters, all digits, the first of
them a zero. -/
def isPaddedNumeral (cs : List Char) : Bool :=
  match (splitSign cs).2 with
  | '0' :: d :: ds => (d :: ds).all Char.isDigit
  | _ => false

/-! ### Floating-point numbers -/

/-- A decimal fraction: its digits without the point, how many of them stand behind it, and the
power of ten it is scaled by. -/
structure Decimal where
  digits : List Char
  places : Nat
  exponent : Int

/-- The value of the text after the `e`: digits after at most one sign. -/
def exponent? (cs : List Char) : Option Int :=
  let (negative, digits) := splitSign cs
  (Numeral.read? 10 digits).map fun n => if negative then -(n : Int) else n

/-- The unsigned decimal fraction with the given text: digits, of which there is at least one, with
at most one point among or around them, and perhaps an exponent. -/
def decimal? (cs : List Char) : Option Decimal := do
  let whole := cs.takeWhile Char.isDigit
  let rest := cs.dropWhile Char.isDigit
  let (behind, rest) := match rest with
    | '.' :: ds => (ds.takeWhile Char.isDigit, ds.dropWhile Char.isDigit)
    | _ => ([], rest)
  if whole ++ behind = [] then none
  else
    match rest with
    | [] => some ⟨whole ++ behind, behind.length, 0⟩
    | c :: ds =>
      if c = 'e' ∨ c = 'E' then (exponent? ds).map fun e => ⟨whole ++ behind, behind.length, e⟩
      else none

/-- The least number that is rounded to an infinity: half a unit in the last of 53 places above the
largest finite number. -/
def overflowBound : Nat := Nat.pow 2 1024 - Nat.pow 2 970

/-- Whether a decimal fraction is rounded to a finite number of 64 bits.  Beyond the range of the
exponents this is plain from the position of the first digit. -/
def Decimal.isFinite (d : Decimal) : Bool :=
  let significant := d.digits.dropWhile (· = '0')
  let scale := d.exponent - d.places
  let magnitude := scale + significant.length
  if significant = [] || magnitude < 300 then true
  else if 400 < magnitude then false
  else
    let m := (Numeral.read? 10 significant).getD 0
    if 0 ≤ scale then m * Nat.pow 10 scale.toNat < overflowBound
    else m < overflowBound * Nat.pow 10 (-scale).toNat

/-- Whether a word stands for a finite number; one more plus sign may stand before its sign. -/
def isFiniteNumber (cs : List Char) : Bool :=
  ((decimal? (splitSign (Numeral.dropPlus cs)).2).map Decimal.isFinite).getD false

/-- Whether a word stands for a floating-point number. -/
def isFloat (cs : List Char) : Bool :=
  infinityWords.contains (splitSign cs).2 || nanWords.contains cs || isFiniteNumber cs

/-- Whether a word has to be quoted to be read as a text. -/
def isReserved (cs : List Char) : Bool :=
  nullWords.contains cs || truthWords.contains cs || isInteger cs || isPaddedNumeral cs ||
    isFloat cs

end MeshOnboard.Yaml
