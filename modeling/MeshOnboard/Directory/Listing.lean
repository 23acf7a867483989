import MeshOnboard.Dialogue

/-!
# Directory listings

A directory lists the teams of an organization and the members of a team, a page at a time.  A page
may name the page that follows it.  `Query` holds the questions a directory answers; the answer to
a query is a page of the kind of item it asks for, or a `DirectoryError`.
-/

namespace MeshOnboard

/-- Why a directory gives no answer. -/
inductive DirectoryError where
  | request (url message : String)
  | status (url : String) (code : UInt16)
  | decode (url message : String)
  deriving DecidableEq

/-- The wording of a directory error. -/
def DirectoryError.message : DirectoryError → String
  | request url message => s!"Directory request to {url} failed: {message}"
  | status url code => s!"Directory returned HTTP {code.toNat} for {url}"
  | decode url message => s!"Failed to decode directory response from {url}: {message}"

/-- A team of an organization. -/
structure Team where
  id : UInt64
  name : String
  deriving DecidableEq

/-- The page of a listing that is asked for. -/
structure PageRequest where
  number : UInt32
  /-- The number of items wanted on a page. -/
  size : UInt32
  deriving DecidableEq

/-- A page of a listing. -/
structure Page (α : Type) where
  items : List α
  /-- The number of the page that follows. -/
  next : Option UInt32
  deriving DecidableEq

/-- The page after page `current`, which has to have a higher number. -/
def Page.following? {α : Type} (p : Page α) (current : UInt32) :
    Option { n : UInt32 // current < n } :=
  match p.next with
  | some n => if h : current < n then some ⟨n, h⟩ else none
  | none => none

/-- A question to a directory. -/
inductive DirectoryQuery where
  | teams (organization : String) (page : PageRequest)
  | members (team : Team) (page : PageRequest)
  deriving DecidableEq

namespace DirectoryQuery

/-- What a query lists. -/
abbrev Item : DirectoryQuery → Type
  | teams .. => Team
  | members .. => String

/-- The answer to a query. -/
abbrev Reply (q : DirectoryQuery) : Type := Except DirectoryError (Page q.Item)

/-- The page a query asks for. -/
def page : DirectoryQuery → PageRequest
  | teams _ page => page
  | members _ page => page

end DirectoryQuery

/-- A conversation with a directory. -/
abbrev DirectoryDialogue (α : Type) : Type :=
  Dialogue DirectoryQuery DirectoryQuery.Reply α

end MeshOnboard
