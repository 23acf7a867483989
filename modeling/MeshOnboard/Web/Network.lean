import MeshOnboard.Discovery.NameServer
import MeshOnboard.Relay.Caller
import MeshOnboard.Web.Http

/-!
# A host without a network

A host that has no route to anywhere refuses every connection at once.  Its requests, its calls to
relays and its look-ups of names all fail, each with the text that the attempt leaves.  Only an
address that stands for itself and the host's own name are still found.
-/

namespace MeshOnboard.Offline

/-- Why a connection cannot be opened. -/
def connectError : String := "tcp connect error: Network is unreachable (os error 101)"

/-- What carries no request. -/
def transport {σ : Type} : Transport σ := fun _ world => (.error connectError, world)

/-- What every relay does when it is called. -/
def relay {α : Type} : CallBehaviour α := .closed

/-- The records that are known without asking anybody: the host's own name for itself. -/
def ownRecords : NameServer :=
  ⟨.ofList [("localhost", ⟨[], [], [.v4 (.ofOctets 127 0 0 1)], false⟩)]⟩

/-- The look-ups of names. -/
def resolver : Resolver := ownRecords.resolver

end MeshOnboard.Offline
