import MeshOnboard.Address.IPv4

/-!
# IPv6 addresses

An `IPv6` has eight groups of sixteen bits.  `IPv6.read?` accepts groups of one to four hexadecimal
digits joined by colons; one double colon may stand for one or more zero groups, and the last two
groups may be written as an IPv4 address.  `IPv6.text` is the canonical form: lower case, no leading
zeros, the longest run of at least two zero groups (the first of equally long ones) written as a
double colon, and an address that maps an IPv4 address written as `::ffff:` followed by it.
-/

namespace MeshOnboard

/-- An IPv6 address, as its eight groups from the highest. -/
structure IPv6 where
  groups : Vector UInt16 8
  deriving DecidableEq

namespace IPv6

instance : Inhabited IPv6 := ⟨⟨Vector.replicate 8 0⟩⟩

/-- The address with the given list of groups, if there are eight. -/
def ofGroups? (gs : List UInt16) : Option IPv6 :=
  if h : gs.length = 8 then some ⟨⟨gs.toArray, by simpa using h⟩⟩ else none

/-! ### Reading -/

/-- The value of a group: one to four hexadecimal digits. -/
def group? (cs : List Char) : Option UInt16 :=
  if 4 < cs.length then none else (Numeral.read? 16 cs).map Nat.toUInt16

/-- The two groups that hold an IPv4 address. -/
def embedded (ip : IPv4) : List UInt16 :=
  [(ip.bits >>> 16).toUInt16, ip.bits.toUInt16]

/-- The groups written in `parts`; with `allowEmbedded` the last part may be an IPv4 address. -/
def groups? (allowEmbedded : Bool) : List (List Char) → Option (List UInt16)
  | [] => some []
  | [p] =>
    match group? p with
    | some g => some [g]
    | none => if allowEmbedded then (IPv4.read? p).map embedded else none
  | p :: q :: ps => do
    let g ← group? p
    let gs ← groups? allowEmbedded (q :: ps)
    return g :: gs

/-- The groups of a text with no double colon; the empty text has none. -/
def run? (allowEmbedded : Bool) : List Char → Option (List UInt16)
  | [] => some []
  | c :: cs => groups? allowEmbedded (Text.pieces ':' (c :: cs))

/-- The text before and the text after the first double colon. -/
def cutAtDoubleColon? : List Char → Option (List Char × List Char)
  | ':' :: ':' :: cs => some ([], cs)
  | c :: cs => (cutAtDoubleColon? cs).map fun (before, after) => (c :: before, after)
  | [] => none

/-- The address with the given text. -/
def read? (cs : List Char) : Option IPv6 :=
  match cutAtDoubleColon? cs with
  | none => (run? true cs).bind ofGroups?
  | some (before, after) => do
    let head ← run? false before
    let tail ← run? true after
    let missing := 8 - head.length - tail.length
    if missing = 0 then none
    else ofGroups? (head ++ List.replicate missing 0 ++ tail)

/-! ### Writing -/

/-- The length of the run of zero groups at the start of `gs`. -/
def zeroRun (gs : List UInt16) : Nat := (gs.takeWhile (· = 0)).length

/-- The position and the length of the longest run of zero groups, the first of equally long ones;
`i` is the position of the first group of the list. -/
def longestZeroRun (i : Nat) : List UInt16 → Nat × Nat
  | [] => (i, 0)
  | g :: gs =>
    let here := zeroRun (g :: gs)
    let later := longestZeroRun (i + 1) gs
    if later.2 ≤ here then (i, here) else later

/-- The groups in hexadecimal, joined by colons. -/
def groupsText (gs : List UInt16) : List Char :=
  Text.joined ':' (gs.map fun g => Numeral.hexadecimal g.toNat)

/-- The canonical text of an address. -/
def text (ip : IPv6) : List Char :=
  match ip.groups.toList with
  | [0, 0, 0, 0, 0, 0xFFFF, high, low] =>
    "::ffff:".toList ++ (IPv4.mk (high.toUInt32 <<< 16 ||| low.toUInt32)).text
  | gs =>
    let (start, length) := longestZeroRun 0 gs
    if 2 ≤ length then
      groupsText (gs.take start) ++ "::".toList ++ groupsText (gs.drop (start + length))
    else groupsText gs

instance : ToString IPv6 := ⟨fun ip => String.ofList ip.text⟩

end IPv6

end MeshOnboard
