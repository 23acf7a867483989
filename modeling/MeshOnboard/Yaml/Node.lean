import MeshOnboard.Yaml.Scalar

/-!
# Documents

A `Node` is a scalar, a sequence or a mapping.  `Node.text` writes a mapping in blocks: the
entries of an inner mapping are indented by two more spaces than its key, and the items of a
sequence stand behind dashes at the indentation of its key.
-/

namespace MeshOnboard.Yaml

/-- A part of a document. -/
inductive Node where
  /-- A word that is written as it is. -/
  | word (chars : List Char)
  /-- A text that is written as a scalar. -/
  | text (chars : List Char)
  | sequence (items : List Node)
  | mapping (entries : List (List Char × Node))

namespace Node

/-- The spaces before a line. -/
def spaces (indent : Nat) : List Char := List.replicate indent ' '

mutual

/-- What follows the colon of a key that is indented by `indent` spaces. -/
def afterKey (indent : Nat) : Node → List Char
  | word cs => ' ' :: cs ++ ['\n']
  | text cs => ' ' :: Scalar.line (indent + 2) cs
  | sequence items => '\n' :: itemLines indent items
  | mapping entries => '\n' :: entryLines (indent + 2) true entries

/-- What follows the dash of an item that is indented by `indent` spaces. -/
def afterDash (indent : Nat) : Node → List Char
  | word cs => ' ' :: cs ++ ['\n']
  | text cs => ' ' :: Scalar.line (indent + 2) cs
  | sequence items => '\n' :: itemLines (indent + 2) items
  | mapping entries => ' ' :: entryLines (indent + 2) false entries

/-- The entries of a mapping, a line or more for each; `indentFirst` says whether the first one
needs its indentation. -/
def entryLines (indent : Nat) (indentFirst : Bool) : List (List Char × Node) → List Char
  | [] => []
  | (key, value) :: entries =>
    (if indentFirst then spaces indent else []) ++ key ++ ':' :: afterKey indent value ++
      entryLines indent true entries

/-- The items of a sequence, a line or more for each. -/
def itemLines (indent : Nat) : List Node → List Char
  | [] => []
  | item :: items => spaces indent ++ '-' :: afterDash indent item ++ itemLines indent items

end

/-- The word written with the given characters. -/
def ofWord (s : String) : Node := word s.toList

/-- The mapping with the given keys and values. -/
def ofEntries (entries : List (String × Node)) : Node :=
  mapping (entries.map fun e => (e.1.toList, e.2))

/-- The text of a document. -/
def document : Node → List Char
  | mapping entries => entryLines 0 true entries
  | word cs => cs ++ ['\n']
  | text cs => Scalar.line 2 cs
  | sequence items => itemLines 0 items

end Node

end MeshOnboard.Yaml
