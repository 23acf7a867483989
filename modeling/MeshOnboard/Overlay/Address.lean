import MeshOnboard.Address.IPv4

/-!
# The subnet and the lighthouse of an overlay

A `Subnet` is written `<IPv4>/<prefix>` with a prefix of at most 32; the network address may have
host bits.  A `Lighthouse` is the node every client is pointed at, written as its overlay address
and its public address joined by a colon.  A text that is refused is kept in the error.
-/

namespace MeshOnboard

/-- Why a text is not the address it should be. -/
inductive AddressError where
  | subnet (text : String)
  | lighthouse (text : String)
  deriving DecidableEq

/-- The wording of an address error. -/
def AddressError.message : AddressError → String
  | subnet text => s!"Invalid subnet {text}: expected <IPv4>/<prefix>"
  | lighthouse text =>
    s!"Invalid lighthouse {text}: expected <NebulaIP>:<PublicIP>, both IPv4"

/-- An IPv4 subnet of the overlay. -/
structure Subnet where
  network : IPv4
  prefixLength : Fin 33
  deriving DecidableEq

namespace Subnet

/-- The value of a prefix's text, which may start with a plus sign. -/
def prefixLength? (cs : List Char) : Option (Fin 33) := do
  let n ← Numeral.count? 256 cs
  if h : n < 33 then some ⟨n, h⟩ else none

/-- The subnet with the given text, cut at the first slash. -/
def read? (cs : List Char) : Option Subnet := do
  let (network, length) ← Text.cutAt? '/' cs
  let network ← IPv4.read? network
  let length ← prefixLength? length
  return ⟨network, length⟩

/-- The text of a subnet. -/
def text (s : Subnet) : List Char :=
  s.network.text ++ '/' :: Numeral.decimal s.prefixLength

instance : ToString Subnet := ⟨fun s => String.ofList s.text⟩

/-- The subnet with the given text, or an error that carries the text. -/
def parse (s : String) : Except AddressError Subnet :=
  match read? s.toList with
  | some subnet => .ok subnet
  | none => .error (.subnet s)

end Subnet

/-- The node every client is pointed at. -/
structure Lighthouse where
  /-- The address inside the overlay. -/
  overlay : IPv4
  /-- The address the overlay is reached through. -/
  outside : IPv4
  deriving DecidableEq

namespace Lighthouse

/-- The lighthouse with the given text, cut at the first colon. -/
def read? (cs : List Char) : Option Lighthouse := do
  let (overlay, outside) ← Text.cutAt? ':' cs
  let overlay ← IPv4.read? overlay
  let outside ← IPv4.read? outside
  return ⟨overlay, outside⟩

/-- The text of a lighthouse. -/
def text (l : Lighthouse) : List Char :=
  l.overlay.text ++ ':' :: l.outside.text

instance : ToString Lighthouse := ⟨fun l => String.ofList l.text⟩

/-- The lighthouse with the given text, or an error that carries the text. -/
def parse (s : String) : Except AddressError Lighthouse :=
  match read? s.toList with
  | some lighthouse => .ok lighthouse
  | none => .error (.lighthouse s)

end Lighthouse

end MeshOnboard
