/-!
# Numerals

`Numeral.read? b cs` is the value of `cs` as a numeral in base `b`, most significant digit first,
and there is none when `cs` is empty or holds a character that is no digit.  `Numeral.decimal n`
and `Numeral.hexadecimal n` are the numerals of `n` without leading zeros.  A count in a setting
may carry one plus sign and must stay below a bound: `Numeral.count? bound cs`.
-/

namespace MeshOnboard.Numeral

/-- The value of `c` as a digit in base `b`; letters of either case stand for ten and above. -/
def digit? (b : Nat) (c : Char) : Option Nat :=
  let value :=
    if '0' ≤ c ∧ c ≤ '9' then c.toNat - 48
    else if 'a' ≤ c ∧ c ≤ 'z' then c.toNat - 87
    else if 'A' ≤ c ∧ c ≤ 'Z' then c.toNat - 55
    else b
  if value < b then some value else none

/-- The value of the digits `cs` written after a numeral of value `acc`. -/
def readFrom? (b acc : Nat) : List Char → Option Nat
  | [] => some acc
  | c :: cs =>
    match digit? b c with
    | some d => readFrom? b (b * acc + d) cs
    | none => none

/-- The value of `cs` as a numeral in base `b`. -/
def read? (b : Nat) : List Char → Option Nat
  | [] => none
  | c :: cs => readFrom? b 0 (c :: cs)

/-- The text after at most one plus sign. -/
def dropPlus : List Char → List Char
  | '+' :: cs => cs
  | cs => cs

/-- The decimal value of `cs` when it lies below `bound`. -/
def below? (bound : Nat) (cs : List Char) : Option Nat :=
  (read? 10 cs).filter (· < bound)

/-- The decimal value of `cs`, which may start with a plus sign, when it lies below `bound`. -/
def count? (bound : Nat) (cs : List Char) : Option Nat :=
  below? bound (dropPlus cs)

/-- The decimal numeral of `n`. -/
def decimal (n : Nat) : List Char := Nat.toDigits 10 n

/-- The hexadecimal numeral of `n`, in lower case. -/
def hexadecimal (n : Nat) : List Char := Nat.toDigits 16 n

/-- The decimal numeral of an integer, with a minus sign when it is negative. -/
def signed : Int → List Char
  | .ofNat n => decimal n
  | .negSucc n => '-' :: decimal (n + 1)

@[simp]
theorem readFrom?_nil (b acc : Nat) :
  readFrom? b acc [] = some acc
  := rfl

theorem readFrom?_append (b acc : Nat) (cs ds : List Char) :
  readFrom? b acc (cs ++ ds) = (readFrom? b acc cs).bind fun a => readFrom? b a ds
  := by
  induction cs generalizing acc with
  | nil => rfl
  | cons c cs ih =>
    simp only [List.cons_append, readFrom?]
    split
    · apply ih
    · rfl

@[simp]
theorem dropPlus_plus (cs : List Char) :
  dropPlus ('+' :: cs) = cs
  := rfl

end MeshOnboard.Numeral
