import MeshOnboard.Overlay.Address
import MeshOnboard.Overlay.Checksum

/-!
# Overlay addresses of clients

A client's address is the checksum of its login added to the network address of the subnet, as
numbers of 32 bits that wrap around.
-/

namespace MeshOnboard

/-- The bytes of a login, in UTF-8. -/
def loginBytes (login : String) : List UInt8 := login.toUTF8.toList

/-- The overlay address of the client with the given login. -/
def clientAddress (login : String) (subnet : Subnet) : IPv4 :=
  ⟨subnet.network.bits + (checksum (loginBytes login)).toUInt32⟩

end MeshOnboard
