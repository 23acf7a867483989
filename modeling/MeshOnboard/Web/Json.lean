import MeshOnboard.Text.Numeral
import MeshOnboard.Text.Utf8

/-!
# JSON

`JsonValue.read?` reads octets as one JSON value.  Texts and numbers are kept as they are written,
so that a value that nobody looks at need only be well formed: gaps in the encoding and escapes of
lone surrogates inside a text do no harm until `JsonValue.Text.value?` asks for the text.
-/

namespace MeshOnboard

namespace JsonValue

/-- A part of a text as it is written. -/
inductive Part where
  /-- A character that stands for itself, or the one that a short escape names. -/
  | char (c : Char)
  /-- The sixteen-bit unit that a numeric escape names. -/
  | unit (n : Nat)
  /-- A gap in the encoding. -/
  | gap
  deriving DecidableEq

/-- A text as it is written. -/
abbrev Text : Type := List Part

/-- The characters of a text; units have to pair up as surrogates or be characters themselves. -/
def Text.value? : Text → Option (List Char)
  | [] => some []
  | .char c :: ps => (value? ps).map (c :: ·)
  | .gap :: _ => none
  | .unit high :: .unit low :: ps =>
    if 0xD800 ≤ high ∧ high < 0xDC00 then
      if 0xDC00 ≤ low ∧ low < 0xE000 then
        (value? ps).map (Char.ofNat (0x10000 + (high - 0xD800) * 0x400 + (low - 0xDC00)) :: ·)
      else none
    else if 0xDC00 ≤ high ∧ high < 0xE000 then none
    else (value? (.unit low :: ps)).map (Char.ofNat high :: ·)
  | .unit n :: ps =>
    if 0xD800 ≤ n ∧ n < 0xE000 then none else (value? ps).map (Char.ofNat n :: ·)

end JsonValue

/-- A JSON value. -/
inductive JsonValue where
  | null
  | bool (b : Bool)
  /-- A number as it is written. -/
  | number (chars : List Char)
  | text (t : JsonValue.Text)
  | array (items : List JsonValue)
  | object (members : List (JsonValue.Text × JsonValue))

namespace JsonValue

/-- What is read: characters, with gaps in the encoding. -/
abbrev Input : Type := List (Option Char)

/-- Whether a character may stand between the parts of a value. -/
def isSpace (c : Option Char) : Bool :=
  c = some ' ' || c = some '\t' || c = some '\n' || c = some '\r'

/-- The input after the spaces at its start. -/
def skip (cs : Input) : Input := cs.dropWhile isSpace

/-! ### Texts -/

/-- The character that a short escape names. -/
def shortEscape? (c : Char) : Option Char :=
  match c with
  | '"' => some '"'
  | '\\' => some '\\'
  | '/' => some '/'
  | 'b' => some '\x08'
  | 'f' => some '\x0c'
  | 'n' => some '\n'
  | 'r' => some '\r'
  | 't' => some '\t'
  | _ => none

/-- The parts of a text up to its closing quote, and the input behind that. -/
def textParts? : Input → Option (Text × Input)
  | [] => none
  | none :: cs => (textParts? cs).map fun (ps, rest) => (.gap :: ps, rest)
  | some '"' :: cs => some ([], cs)
  | some '\\' :: some 'u' :: some a :: some b :: some c :: some d :: cs => do
    let n ← Numeral.read? 16 [a, b, c, d]
    let (ps, rest) ← textParts? cs
    return (.unit n :: ps, rest)
  | some '\\' :: some c :: cs => do
    let c ← shortEscape? c
    let (ps, rest) ← textParts? cs
    return (.char c :: ps, rest)
  | some c :: cs =>
    if c = '\\' ∨ c < ' ' then none
    else (textParts? cs).map fun (ps, rest) => (.char c :: ps, rest)

/-! ### Numbers -/

/-- The digits at the start of the input, at least one, and the input behind them. -/
def digits? (cs : Input) : Option (List Char × Input) :=
  let isDigit := fun c : Option Char => c.any Char.isDigit
  let ds := (cs.takeWhile isDigit).filterMap id
  if ds = [] then none else some (ds, cs.dropWhile isDigit)

/-- The whole part of a number: a lone zero, or digits that do not start with one. -/
def wholePart? (cs : Input) : Option (List Char × Input) := do
  let (ds, rest) ← digits? cs
  match ds with
  | '0' :: _ :: _ => none
  | _ => return (ds, rest)

/-- The fraction of a number, if there is one. -/
def fraction? : Input → Option (List Char × Input)
  | some '.' :: cs => (digits? cs).map fun (ds, rest) => ('.' :: ds, rest)
  | cs => some ([], cs)

/-- The exponent of a number, if there is one. -/
def exponent? : Input → Option (List Char × Input)
  | some c :: cs =>
    if c = 'e' ∨ c = 'E' then
      match cs with
      | some '+' :: cs => (digits? cs).map fun (ds, rest) => (c :: '+' :: ds, rest)
      | some '-' :: cs => (digits? cs).map fun (ds, rest) => (c :: '-' :: ds, rest)
      | _ => (digits? cs).map fun (ds, rest) => (c :: ds, rest)
    else some ([], some c :: cs)
  | cs => some ([], cs)

/-- The number at the start of the input, and the input behind it. -/
def number? (cs : Input) : Option (JsonValue × Input) := do
  let (sign, cs) := match cs with
    | some '-' :: rest => (['-'], rest)
    | _ => ([], cs)
  let (whole, cs) ← wholePart? cs
  let (fraction, cs) ← fraction? cs
  let (exponent, cs) ← exponent? cs
  return (.number (sign ++ whole ++ fraction ++ exponent), cs)

/-! ### Values -/

/-- The input behind a word that it starts with. -/
def dropWord? (word : String) (cs : Input) : Option Input :=
  if (word.toList.map some).isPrefixOf cs then some (cs.drop word.length) else none

mutual

/-- The value at the start of the input, and the input behind it; `fuel` bounds the steps. -/
def value? : (fuel : Nat) → Input → Option (JsonValue × Input)
  | 0, _ => none
  | fuel + 1, cs =>
    match skip cs with
    | some '[' :: rest =>
      match skip rest with
      | some ']' :: rest => some (.array [], rest)
      | _ => (items? fuel rest).map fun (items, rest) => (.array items, rest)
    | some '\x7b' :: rest =>
      match skip rest with
      | some '\x7d' :: rest => some (.object [], rest)
      | _ => (members? fuel rest).map fun (members, rest) => (.object members, rest)
    | some '"' :: rest => (textParts? rest).map fun (ps, rest) => (.text ps, rest)
    | some 't' :: rest => (dropWord? "rue" rest).map fun rest => (.bool true, rest)
    | some 'f' :: rest => (dropWord? "alse" rest).map fun rest => (.bool false, rest)
    | some 'n' :: rest => (dropWord? "ull" rest).map fun rest => (.null, rest)
    | rest => number? rest

/-- The items of an array up to its closing bracket, and the input behind that. -/
def items? : (fuel : Nat) → Input → Option (List JsonValue × Input)
  | 0, _ => none
  | fuel + 1, cs => do
    let (item, rest) ← value? fuel cs
    match skip rest with
    | some ']' :: rest => return ([item], rest)
    | some ',' :: rest =>
      let (items, rest) ← items? fuel rest
      return (item :: items, rest)
    | _ => none

/-- The members of an object up to its closing brace, and the input behind that. -/
def members? : (fuel : Nat) → Input → Option (List (Text × JsonValue) × Input)
  | 0, _ => none
  | fuel + 1, cs => do
    match skip cs with
    | some '"' :: rest =>
      let (key, rest) ← textParts? rest
      match skip rest with
      | some ':' :: rest =>
        let (value, rest) ← value? fuel rest
        match skip rest with
        | some '\x7d' :: rest => return ([(key, value)], rest)
        | some ',' :: rest =>
          let (members, rest) ← members? fuel rest
          return ((key, value) :: members, rest)
        | _ => none
      | _ => none
    | _ => none

end

/-- The value that the octets hold, with nothing but spaces around it. -/
def read? (bs : List UInt8) : Option JsonValue := do
  let cs := Utf8.decode bs
  let (value, rest) ← value? (2 * cs.length + 1) cs
  if skip rest = [] then some value else none

/-! ### Looking into values -/

/-- The characters of a text. -/
def text? : JsonValue → Option String
  | text t => t.value?.map String.ofList
  | _ => none

/-- The value of a number that is written as an unsigned integer of 64 bits. -/
def count? : JsonValue → Option UInt64
  | number cs => (Numeral.below? UInt64.size cs).map Nat.toUInt64
  | _ => none

/-- The items of an array. -/
def items : JsonValue → Option (List JsonValue)
  | array items => some items
  | _ => none

/-- The values of the fields of a record.  An object gives each of them once and may have other
members; an array gives exactly them, in order. -/
def fields? (names : List String) : JsonValue → Option (List JsonValue)
  | array items => if items.length = names.length then some items else none
  | object members => do
    let members ← members.mapM fun (key, value) => return (← key.value?, value)
    names.mapM fun name =>
      match members.filter fun m => m.1 = name.toList with
      | [(_, value)] => some value
      | _ => none
  | _ => none

end JsonValue

end MeshOnboard
