/-!
# Certificates

A client's certificate comes with the certificate of the authority that signed it and with the key
that belongs to it, each as a text.
-/

namespace MeshOnboard

/-- A signed certificate. -/
structure Certificate where
  authority : String
  certificate : String
  key : String
  deriving DecidableEq

end MeshOnboard
