import MeshOnboard.Discovery.Resolver
import MeshOnboard.Table
import MeshOnboard.Text.Pieces
import MeshOnboard.Text.Punycode
import MeshOnboard.Text.Utf8

/-!
# Name servers

A name server holds records by name, in lower case and without a dot at the end.
`NameServer.resolver` answers look-ups from them: a look-up fails when the name is not well formed
or not known, when the server fails, and when the name has no record of the kind.  A text record is
a list of strings of octets; each is read as text on its own.
-/

namespace MeshOnboard

/-- What a name server holds for a name. -/
structure NameRecords where
  services : List ServiceTarget
  /-- The strings of each text record. -/
  texts : List (List (List UInt8))
  addresses : List HostAddress
  /-- Whether the server fails to answer. -/
  failing : Bool

/-- A name server. -/
structure NameServer where
  records : Table String NameRecords

namespace NameServer

/-! ### Names -/

/-- The octets that a label may have. -/
def maxLabel : Nat := 63

/-- The octets that a name may have, with one before each label and one at the end. -/
def maxName : Nat := 255

/-- The labels of a name; a dot at its end does not count. -/
def labels (name : List Char) : List (List Char) :=
  Text.pieces '.' (if name.getLast? = some '.' then name.dropLast else name)

/-- The octets of a text. -/
def octets (cs : List Char) : Nat := (String.ofList cs).utf8ByteSize

/-- Whether a name has no empty label and none that is too long, and is not too long itself. -/
def isWellFormed (name : List Char) : Bool :=
  (labels name).all (fun l => l ≠ [] && octets l ≤ maxLabel) &&
    (labels name).foldl (fun n l => n + octets l + 1) 1 ≤ maxName

/-- The form in which a name is looked up. -/
def key (name : List Char) : String :=
  String.ofList ((Text.joined '.' (labels name)).map Char.toLower)

/-- A label as it is shown: one with the mark of an encoded label is decoded if it can be. -/
def shownLabel (label : List Char) : List Char :=
  match label with
  | 'x' :: 'n' :: '-' :: '-' :: digits => (Punycode.decode? digits).getD label
  | _ => label

/-- The name of a target as it is shown: in lower case, without dots at its end. -/
def shownName (name : String) : String :=
  let lower := (Text.stripEnd (· = '.') name.toList).map Char.toLower
  String.ofList (Text.joined '.' ((Text.pieces '.' lower).map shownLabel))

/-! ### Answers -/

/-- The text of a text record. -/
def recordText (strings : List (List UInt8)) : String :=
  String.ofList (strings.flatMap Utf8.readLossy)

/-- The addresses that a host is reached at: those of version four, or the others if there are
none. -/
def preferred (addresses : List HostAddress) : List HostAddress :=
  let four := addresses.filter fun
    | .v4 _ => true
    | .v6 _ => false
  if four = [] then addresses else four

/-- The error of a look-up of the given kind. -/
def lookupError (kind name : String) : LookupError := ⟨s!"{kind} lookup failed for {name}", none⟩

/-- The records of one kind for a name. -/
def find {α : Type} (s : NameServer) (kind : String) (records : NameRecords → List α)
    (name : String) : Except LookupError (List α) :=
  if !isWellFormed name.toList then .error (lookupError kind name)
  else
    match s.records.find? (key name.toList) with
    | none => .error (lookupError kind name)
    | some r =>
      if r.failing ∨ (records r).isEmpty then .error (lookupError kind name) else .ok (records r)

/-- The look-ups that the server answers; an address stands for itself. -/
def resolver (s : NameServer) : Resolver where
  services := s.find "SRV" fun r => r.services.map fun t => { t with host := shownName t.host }
  texts := s.find "TXT" fun r => r.texts.map recordText
  addresses name :=
    match HostAddress.read? name.toList with
    | some address => .ok [address]
    | none => s.find "Address" (fun r => preferred r.addresses) name

end NameServer

end MeshOnboard
