import MeshOnboard.Text.Numeral

/-!
# Punycode

A label of a name may hold characters beyond ASCII in a form of letters, digits and hyphens.  The
characters of ASCII come first, up to the last hyphen; what follows says, as numbers of variable
length, which character comes next in the order of code points and where it goes.
`Punycode.decode?` reads such a label.
-/

namespace MeshOnboard.Punycode

/-- The value of a digit: letters of either case, then the decimal digits. -/
def digit? (c : Char) : Option Nat :=
  if 'a' ≤ c ∧ c ≤ 'z' then some (c.toNat - 97)
  else if 'A' ≤ c ∧ c ≤ 'Z' then some (c.toNat - 65)
  else if '0' ≤ c ∧ c ≤ '9' then some (c.toNat - 48 + 26)
  else none

/-- The least value of a digit that another one follows; `k` counts the digits by 36. -/
def threshold (k bias : Nat) : Nat :=
  if k ≤ bias then 1 else if bias + 26 ≤ k then 26 else k - bias

/-- The number at the start of the digits, and the digits behind it. -/
def number? (bias : Nat) : (k weight acc : Nat) → List Char → Option (Nat × List Char)
  | _, _, _, [] => none
  | k, weight, acc, c :: cs =>
    match digit? c with
    | none => none
    | some d =>
      let acc := acc + d * weight
      let t := threshold k bias
      if d < t then some (acc, cs) else number? bias (k + 36) (weight * (36 - t)) acc cs

/-- The bias that a scaled difference leads to. -/
def scaledBias (delta k : Nat) : Nat :=
  if 455 < delta then scaledBias (delta / 35) (k + 36) else k + 36 * delta / (delta + 38)
termination_by delta
decreasing_by exact Nat.div_lt_self (by omega) (by omega)

/-- The bias after a difference, with so many characters decoded. -/
def bias (delta count : Nat) (first : Bool) : Nat :=
  let delta := if first then delta / 700 else delta / 2
  scaledBias (delta + delta / count) 0

/-- The character with a number, if there is one beyond ASCII. -/
def character? (n : Nat) : Option Char :=
  if h : n.isValidChar then if 128 ≤ n then some (Char.ofNatAux n h) else none else none

/-- The text after the insertions that the digits describe; `fuel` bounds their number. -/
def insertAll? : (fuel n i b : Nat) → List Char → List Char → Option (List Char)
  | _, _, _, _, out, [] => some out
  | 0, _, _, _, _, _ => none
  | fuel + 1, n, i, b, out, cs => do
    let (delta, cs) ← number? b 36 1 0 cs
    let count := out.length + 1
    let n := n + (i + delta) / count
    let place := (i + delta) % count
    let c ← character? n
    let out := out.take place ++ c :: out.drop place
    insertAll? fuel n (place + 1) (bias delta count (i = 0)) out cs

/-- The characters of ASCII before the last hyphen, and what is behind it. -/
def split (cs : List Char) : List Char × List Char :=
  let behind := (cs.reverse.takeWhile (· ≠ '-')).reverse
  if behind.length < cs.length then (cs.take (cs.length - behind.length - 1), behind)
  else ([], cs)

/-- The text that a label stands for. -/
def decode? (cs : List Char) : Option (List Char) :=
  let (ascii, digits) := split cs
  insertAll? digits.length 128 0 72 ascii digits

end MeshOnboard.Punycode
