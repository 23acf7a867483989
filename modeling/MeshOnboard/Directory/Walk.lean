import MeshOnboard.Directory.Listing
import MeshOnboard.Directory.Roster

/-!
# Walking listings

A listing is walked from page one along the pages it names, as long as their numbers increase; a
page that names no higher page is the last.  `rebuild` walks the teams of an organization, walks
the members of every team before it goes on to the next, and ends with the roster of them all.  The
first query without an answer ends it with a `SyncError`.
-/

namespace MeshOnboard

/-- The listing that could not be read, the page it failed on and why. -/
inductive SyncError where
  | teams (organization : String) (page : UInt32) (cause : DirectoryError)
  | members (team : String) (page : UInt32) (cause : DirectoryError)
  deriving DecidableEq

namespace SyncError

/-- The page that could not be read. -/
def page : SyncError → UInt32
  | teams _ page _ => page
  | members _ page _ => page

/-- The wording of a synchronization error. -/
def message : SyncError → String
  | teams organization page cause =>
    s!"Failed to list teams of {organization} (page {page.toNat}): {cause.message}"
  | members team page cause =>
    s!"Failed to list members of team {team} (page {page.toNat}): {cause.message}"

end SyncError

namespace Directory

/-- The conversation that fetches the pages of a listing from `page` on, visits the items of each
before the next is fetched, and ends with what the visits yield. -/
def walk {α β : Type} (fetch : UInt32 → DirectoryDialogue (Except SyncError (Page α)))
    (visit : List α → DirectoryDialogue (Except SyncError (List β))) (page : UInt32) :
    DirectoryDialogue (Except SyncError (List β)) :=
  (fetch page).andThen fun p =>
    (visit p.items).andThen fun here =>
      match p.following? page with
      | none => .done (.ok here)
      | some next =>
        (walk fetch visit next.1).andThen fun later => .done (.ok (here ++ later))
termination_by UInt32.size - page.toNat
decreasing_by
  have h := UInt32.lt_iff_toNat_lt.1 next.2
  have hn := next.1.toNat_lt_size
  omega

/-- The question for a page of an organization's teams. -/
def fetchTeams (organization : String) (size page : UInt32) :
    DirectoryDialogue (Except SyncError (Page Team)) :=
  (Dialogue.query (DirectoryQuery.teams organization ⟨page, size⟩)).map fun reply =>
    reply.mapError (SyncError.teams organization page)

/-- The question for a page of a team's members. -/
def fetchMembers (team : Team) (size page : UInt32) :
    DirectoryDialogue (Except SyncError (Page String)) :=
  (Dialogue.query (DirectoryQuery.members team ⟨page, size⟩)).map fun reply =>
    reply.mapError (SyncError.members team.name page)

/-- The conversation that ends with the members of a team. -/
def members (size : UInt32) (team : Team) : DirectoryDialogue (Except SyncError (List String)) :=
  walk (fetchMembers team size) (fun logins => .done (.ok logins)) 1

/-- The conversation that ends with a team's name and its members. -/
def rosterEntry (size : UInt32) (team : Team) :
    DirectoryDialogue (Except SyncError (String × List String)) :=
  (members size team).andThen fun logins => .done (.ok (team.name, logins))

/-- The conversation that ends with the roster of an organization; of several teams of one name the
last one counts. -/
def rebuild (organization : String) (size : UInt32) : DirectoryDialogue (Except SyncError Roster) :=
  (walk (fetchTeams organization size) (Dialogue.forEach (rosterEntry size)) 1).andThen
    fun entries => .done (.ok (Table.ofList entries))

end Directory

end MeshOnboard
