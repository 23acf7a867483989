import MeshOnboard.Text.Numeral
import MeshOnboard.Yaml.Character
import MeshOnboard.Yaml.Plain

/-!
# Scalars

A text is written as a scalar in one of four styles.  `Scalar.wanted` is the style a text should
have and `Scalar.style` the one it can have: a plain scalar must not look like anything else, a
single-quoted one cannot hold what needs an escape or what line folding would lose, and a literal
block cannot end in a space.  A double-quoted scalar can hold every text.
-/

namespace MeshOnboard.Yaml

/-- A way to write a text. -/
inductive Style where
  | plain
  | singleQuoted
  | doubleQuoted
  | literal
  deriving DecidableEq

namespace Scalar

/-! ### The choice of a style -/

/-- The characters that cannot start a plain scalar. -/
def leadingIndicators : List Char := "#,[]{}&*!|>'\"%@`".toList

/-- The characters that cannot start a plain scalar with a blank after them. -/
def blankIndicators : List Char := ['?', ':', '-']

/-- Whether a text begins with a mark between documents. -/
def startsDocument (cs : List Char) : Bool :=
  "---".toList.isPrefixOf cs || "...".toList.isPrefixOf cs

/-- Whether the first character means something at the start of a plain scalar. -/
def startsIndicator : List Char → Bool
  | [] => false
  | c :: cs => leadingIndicators.contains c || (blankIndicators.contains c && startsBlank cs)

/-- Whether a character after the first means something inside a plain scalar: a colon before a
blank, or a number sign after one. -/
def insideIndicator : List Char → Bool
  | [] => false
  | [_] => false
  | c :: d :: cs =>
    (d = ':' && startsBlank cs) || (d = '#' && startsBlank [c]) || insideIndicator (d :: cs)

/-- Whether some part of a text means something in a plain scalar. -/
def hasIndicator (cs : List Char) : Bool :=
  startsDocument cs || startsIndicator cs || insideIndicator cs

/-- Whether a text can be plain. -/
def plainAllowed (cs : List Char) : Bool :=
  !(startsWith (· = ' ') cs || endsWith (· = ' ') cs || cs.any isBreak || hasIndicator cs ||
    hasBreakSpace cs || hasSpaceBreak cs || hasSpecial cs)

/-- Whether a text can be single quoted. -/
def singleAllowed (cs : List Char) : Bool :=
  !(hasBreakSpace cs || hasSpaceBreak cs || hasSpecial cs)

/-- Whether a text can be a literal block. -/
def literalAllowed (cs : List Char) : Bool :=
  !(endsWith (· = ' ') cs || hasSpaceBreak cs || hasSpecial cs)

/-- The style that a text should have: several lines make a block, and a word that a reader would
take for something else is quoted. -/
def wanted (cs : List Char) : Style :=
  if cs.contains '\n' then .literal
  else if isReserved cs then .singleQuoted
  else .plain

/-- The style that a text can have, given the one it should have. -/
def settle (cs : List Char) : Style → Style
  | .plain =>
    if plainAllowed cs then .plain
    else if singleAllowed cs then .singleQuoted
    else .doubleQuoted
  | .singleQuoted => if singleAllowed cs then .singleQuoted else .doubleQuoted
  | .literal => if literalAllowed cs then .literal else .doubleQuoted
  | .doubleQuoted => .doubleQuoted

/-- The style that a text is written in. -/
def style (cs : List Char) : Style := settle cs (wanted cs)

/-! ### Quoted scalars -/

/-- A character between single quotes, where one of them is written twice. -/
def doubled (c : Char) : List Char := if c = '\'' then ['\'', '\''] else [c]

/-- The text up to the single quote that ends it, on lines of which each but the first and the empty
ones stands after `indent` spaces; `fresh` says that a break has just been written. -/
def quotedLines (indent : Nat) (fresh : Bool) : List Char → List Char
  | [] => if fresh then List.replicate indent ' ' ++ ['\''] else ['\'']
  | c :: cs =>
    if isBreak c then c :: quotedLines indent true cs
    else if fresh then List.replicate indent ' ' ++ doubled c ++ quotedLines indent false cs
    else doubled c ++ quotedLines indent false cs

/-- The text in single quotes; its lines after the first are indented by `indent` spaces. -/
def singleQuoted (indent : Nat) (cs : List Char) : List Char :=
  '\'' :: quotedLines indent false cs

/-- The upper-case hexadecimal numeral of `n`, filled up with zeros to `width` digits. -/
def hex (width n : Nat) : List Char :=
  let digits := (Numeral.hexadecimal n).map Char.toUpper
  List.replicate (width - digits.length) '0' ++ digits

/-- The letter of the short escape of a character, if it has one. -/
def shortEscape? (c : Char) : Option Char :=
  match c.toNat with
  | 0x00 => some '0'
  | 0x07 => some 'a'
  | 0x08 => some 'b'
  | 0x09 => some 't'
  | 0x0A => some 'n'
  | 0x0B => some 'v'
  | 0x0C => some 'f'
  | 0x0D => some 'r'
  | 0x1B => some 'e'
  | 0x22 => some '"'
  | 0x5C => some '\\'
  | 0x85 => some 'N'
  | 0xA0 => some '_'
  | 0x2028 => some 'L'
  | 0x2029 => some 'P'
  | _ => none

/-- The escape of a character. -/
def escape (c : Char) : List Char :=
  match shortEscape? c with
  | some letter => ['\\', letter]
  | none =>
    let n := c.toNat
    if n ≤ 0xFF then '\\' :: 'x' :: hex 2 n
    else if n ≤ 0xFFFF then '\\' :: 'u' :: hex 4 n
    else '\\' :: 'U' :: hex 8 n

/-- Whether a character needs an escape between double quotes. -/
def needsEscape (c : Char) : Bool := !isPrintable c || isBreak c || c = '"' || c = '\\'

/-- The text in double quotes, on one line. -/
def doubleQuoted (cs : List Char) : List Char :=
  '"' :: cs.flatMap (fun c => if needsEscape c then escape c else [c]) ++ ['"']

/-! ### Literal blocks -/

/-- The indicator that says how far a block is indented, which its first line may hide. -/
def indentationIndicator (cs : List Char) : List Char :=
  if startsWith (fun c => c = ' ' || isBreak c) cs then ['2'] else []

/-- The indicator that says what becomes of the breaks at the end of a block. -/
def chompingIndicator (cs : List Char) : List Char :=
  match cs.reverse with
  | [] => ['-']
  | c :: before =>
    if !isBreak c then ['-']
    else
      match before with
      | [] => ['+']
      | d :: _ => if isBreak d then ['+'] else []

/-- The lines of a block, each but the empty ones after `indent` spaces; `fresh` says that no
character of the line has been written yet. -/
def blockLines (indent : Nat) (fresh : Bool) : List Char → List Char
  | [] => if fresh then [] else ['\n']
  | c :: cs =>
    if isBreak c then c :: blockLines indent true cs
    else if fresh then List.replicate indent ' ' ++ c :: blockLines indent false cs
    else c :: blockLines indent false cs

/-- The text as a literal block with its last line ended, indented by `indent` spaces. -/
def literal (indent : Nat) (cs : List Char) : List Char :=
  '|' :: indentationIndicator cs ++ chompingIndicator cs ++ '\n' :: blockLines indent true cs

/-- The text as a scalar, and the end of its line; the lines of a block, and those after a break
between single quotes, are indented by `indent` spaces. -/
def line (indent : Nat) (cs : List Char) : List Char :=
  match style cs with
  | .plain => cs ++ ['\n']
  | .singleQuoted => singleQuoted indent cs ++ ['\n']
  | .doubleQuoted => doubleQuoted cs ++ ['\n']
  | .literal => literal indent cs

end Scalar

end MeshOnboard.Yaml
