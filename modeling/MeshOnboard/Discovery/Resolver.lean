import MeshOnboard.Address.Socket

/-!
# Resolvers

A resolver answers three questions about a name: the targets of a service, the descriptive texts of
a host and the addresses of a host.
-/

namespace MeshOnboard

/-- A look-up that failed, with the cause if one is known. -/
structure LookupError where
  summary : String
  cause : Option String
  deriving DecidableEq

/-- The wording of a failed look-up together with its cause. -/
def LookupError.chain (e : LookupError) : String :=
  match e.cause with
  | none => e.summary
  | some cause => s!"{e.summary}: {cause}"

/-- A target of a service. -/
structure ServiceTarget where
  host : String
  port : UInt16
  priority : UInt16
  weight : UInt16
  deriving DecidableEq

/-- The answers to the questions about names. -/
structure Resolver where
  services : String → Except LookupError (List ServiceTarget)
  texts : String → Except LookupError (List String)
  addresses : String → Except LookupError (List HostAddress)

end MeshOnboard
