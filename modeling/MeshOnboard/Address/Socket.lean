import MeshOnboard.Address.IPv6

/-!
# Host and socket addresses

A `HostAddress` is an address of either version.  A `SocketAddress` adds a port and, for version
six, a scope.  Its text is `<IPv4>:<port>`, `[<IPv6>]:<port>` or `[<IPv6>%<scope>]:<port>`; the
canonical text leaves out a scope of zero.
-/

namespace MeshOnboard

/-- An address of a host. -/
inductive HostAddress where
  | v4 (ip : IPv4)
  | v6 (ip : IPv6)
  deriving DecidableEq

namespace HostAddress

/-- The address with the given text. -/
def read? (cs : List Char) : Option HostAddress :=
  (IPv4.read? cs).map v4 <|> (IPv6.read? cs).map v6

/-- The canonical text of an address. -/
def text : HostAddress → List Char
  | v4 ip => ip.text
  | v6 ip => ip.text

instance : ToString HostAddress := ⟨fun a => String.ofList a.text⟩

end HostAddress

/-- An address a connection can be made to or accepted on. -/
inductive SocketAddress where
  | v4 (ip : IPv4) (port : UInt16)
  | v6 (ip : IPv6) (scope : UInt32) (port : UInt16)
  deriving DecidableEq

namespace SocketAddress

/-- The port of a socket address. -/
def port : SocketAddress → UInt16
  | v4 _ port => port
  | v6 _ _ port => port

/-- The value of a port's text: decimal digits without a sign, below 65536. -/
def port? (cs : List Char) : Option UInt16 :=
  (Numeral.below? UInt16.size cs).map Nat.toUInt16

/-- The value of a scope's text: decimal digits without a sign, below 2³². -/
def scope? (cs : List Char) : Option UInt32 :=
  (Numeral.below? UInt32.size cs).map Nat.toUInt32

/-- The address and the scope written between the brackets. -/
def bracketed? (cs : List Char) : Option (IPv6 × UInt32) :=
  match Text.cutAt? '%' cs with
  | none => (IPv6.read? cs).map fun ip => (ip, 0)
  | some (address, scope) => do
    let ip ← IPv6.read? address
    let scope ← scope? scope
    return (ip, scope)

/-- The socket address with the given text. -/
def read? : List Char → Option SocketAddress
  | '[' :: cs =>
    match Text.cutAt? ']' cs with
    | some (inside, ':' :: digits) => do
      let (ip, scope) ← bracketed? inside
      let port ← port? digits
      return v6 ip scope port
    | _ => none
  | cs => do
    let (address, digits) ← Text.cutAt? ':' cs
    let ip ← IPv4.read? address
    let port ← port? digits
    return v4 ip port

/-- The canonical text of a socket address. -/
def text : SocketAddress → List Char
  | v4 ip port => ip.text ++ ':' :: Numeral.decimal port.toNat
  | v6 ip scope port =>
    let zone := if scope = 0 then [] else '%' :: Numeral.decimal scope.toNat
    '[' :: ip.text ++ zone ++ ']' :: ':' :: Numeral.decimal port.toNat

instance : ToString SocketAddress := ⟨fun a => String.ofList a.text⟩

end SocketAddress

end MeshOnboard
