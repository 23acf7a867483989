import MeshOnboard.Text.Printable

/-!
# Quoted texts

A text in double quotes has a backslash before every quote and backslash inside it, and short
escapes for tab, carriage return and line feed and for the character with number zero.  Every other
character that is hard to see is written by its number.  `listText` is a list of such texts in
brackets.
-/

namespace MeshOnboard.Text

/-- A character as it stands between double quotes. -/
def quotedChar (c : Char) : List Char :=
  if c = '"' then "\\\"".toList
  else if c = '\\' then "\\\\".toList
  else if c = '\t' then "\\t".toList
  else if c = '\r' then "\\r".toList
  else if c = '\n' then "\\n".toList
  else if c = '\x00' then "\\0".toList
  else if !isPrintable c then "\\u\x7b".toList ++ Nat.toDigits 16 c.toNat ++ ['\x7d']
  else [c]

/-- A text in double quotes. -/
def quoted (cs : List Char) : List Char := '"' :: cs.flatMap quotedChar ++ ['"']

/-- The texts in quotes, between brackets and with commas between them. -/
def listText (ts : List String) : String :=
  "[" ++ ", ".intercalate (ts.map fun t => String.ofList (quoted t.toList)) ++ "]"

end MeshOnboard.Text
