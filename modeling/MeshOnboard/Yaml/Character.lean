/-!
# Characters of a YAML stream

A break ends a line.  A printable character may stand in a stream as itself; every other one, the
tab among them, is written by an escape.
-/

namespace MeshOnboard.Yaml

/-- Whether a character ends a line. -/
def isBreak (c : Char) : Bool :=
  c = '\n' || c = '\r' || c = '\x85' || c = '\u2028' || c = '\u2029'

/-- Whether a character may stand in a stream as itself. -/
def isPrintable (c : Char) : Bool :=
  c = '\n' || ('\x20' ≤ c && c ≤ '\x7e') || ('\xa0' ≤ c && c.toNat ≤ 0xD7FF) ||
    (0xE000 ≤ c.toNat && c.toNat ≤ 0xFFFD && c.toNat ≠ 0xFEFF) || 0xFFFF < c.toNat

/-- Whether a character is a space or a tab. -/
def isGap (c : Char) : Bool := c = ' ' || c = '\t'

/-- Whether what follows a place is blank: a gap, a break or the end. -/
def startsBlank : List Char → Bool
  | [] => true
  | c :: _ => isGap c || isBreak c

/-- Whether some character of `cs` satisfies `p` with its successor satisfying `q`. -/
def hasPair (p q : Char → Bool) : List Char → Bool
  | [] => false
  | [_] => false
  | c :: d :: cs => (p c && q d) || hasPair p q (d :: cs)

/-- Whether some character is not printable. -/
def hasSpecial (cs : List Char) : Bool := cs.any fun c => !isPrintable c

/-- Whether a space stands directly before a break. -/
def hasSpaceBreak (cs : List Char) : Bool := hasPair (· = ' ') isBreak cs

/-- Whether a space stands directly after a break. -/
def hasBreakSpace (cs : List Char) : Bool := hasPair isBreak (· = ' ') cs

/-- Whether a text begins with a character satisfying `p`. -/
def startsWith (p : Char → Bool) (cs : List Char) : Bool := cs.head?.any p

/-- Whether a text ends with a character satisfying `p`. -/
def endsWith (p : Char → Bool) (cs : List Char) : Bool := cs.getLast?.any p

end MeshOnboard.Yaml
