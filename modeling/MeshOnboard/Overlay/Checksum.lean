/-!
# The sixteen-bit cyclic checksum

`checksum bytes` is the register left by shifting the bytes, most significant bit first, through a
register of sixteen bits that starts with all bits set and takes the generator
`x¹⁶ + x¹² + x⁵ + 1` away whenever a bit leaves it at the top.
-/

namespace MeshOnboard

namespace Checksum

/-- The generator without its leading term. -/
def generator : BitVec 16 := 0x1021#16

/-- The register before the first byte. -/
def initial : BitVec 16 := 0xFFFF#16

/-- The register after one more bit. -/
def shift (r : BitVec 16) : BitVec 16 :=
  if r.msb then (r <<< 1) ^^^ generator else r <<< 1

/-- The register after one more byte. -/
def absorb (r : BitVec 16) (byte : UInt8) : BitVec 16 :=
  Nat.repeat shift 8 (r ^^^ (byte.toBitVec.zeroExtend 16 <<< 8))

/-- The register after the bytes, started from `r`. -/
def run (r : BitVec 16) (bytes : List UInt8) : BitVec 16 :=
  bytes.foldl absorb r

end Checksum

/-- The checksum of a string of bytes. -/
def checksum (bytes : List UInt8) : UInt16 :=
  ⟨Checksum.run Checksum.initial bytes⟩

end MeshOnboard
