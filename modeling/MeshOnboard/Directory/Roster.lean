import MeshOnboard.Table

/-!
# Rosters

A `Roster` maps the names of teams to the logins of their members.  `Roster.teamsOf` are the teams
that list a login, in the order of their names by code point.
-/

namespace MeshOnboard

/-- The members of each team. -/
abbrev Roster : Type := Table String (List String)

namespace Roster

/-- Whether `a` stands before `b` or is `b` in the order by code point. -/
def nameLe (a b : String) : Bool := !decide (b < a)

/-- The names of the teams that list a login, in increasing order. -/
def teamsOf (r : Roster) (login : String) : List String :=
  ((r.entries.filter fun e => e.2.contains login).map Prod.fst).mergeSort nameLe

/-- The number of places that teams give to logins. -/
def memberships (r : Roster) : Nat := r.values.flatten.length

end Roster

end MeshOnboard
