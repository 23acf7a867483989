import MeshOnboard.Directory.Roster

/-!
# The directory cache

The cache holds the roster of the last successful synchronization, the second it was stamped with
and whether there has been one at all.  It starts empty, one day old.  A new roster never moves the
stamp backwards.  `Cache.isStale` compares the age with a time to live whose seconds are read as a
signed number of 64 bits; an age that does not fit is cut to the nearest that does.
-/

namespace MeshOnboard

/-- The last known members of the teams. -/
structure Cache where
  roster : Roster
  /-- The second the roster was stamped with. -/
  updatedAt : Int64
  /-- Whether the roster comes from a synchronization. -/
  populated : Bool

namespace Cache

/-- The age in seconds that a new cache is given. -/
def initialAge : Int64 := 86400

/-- The cache before the first synchronization, made at second `now`. -/
def new (now : Int64) : Cache := ⟨∅, now - initialAge, false⟩

/-- The difference of two clock values, cut to the range of the clock. -/
def elapsed (now since : Int64) : Int :=
  max Int64.minValue.toInt (min Int64.maxValue.toInt (now.toInt - since.toInt))

/-- The seconds of a time to live as the clock counts them. -/
def lifetime (seconds : UInt64) : Int := seconds.toInt64.toInt

/-- Whether the roster is older than the time to live. -/
def isStale (c : Cache) (now : Int64) (seconds : UInt64) : Bool :=
  lifetime seconds < elapsed now c.updatedAt

/-- The cache with a new roster, stamped with `now` unless it already has a later stamp. -/
def replace (c : Cache) (roster : Roster) (now : Int64) : Cache where
  roster := roster
  updatedAt := if c.updatedAt < now then now else c.updatedAt
  populated := true

/-- The teams of a login. -/
def teamsOf (c : Cache) (login : String) : List String := c.roster.teamsOf login

end Cache

end MeshOnboard
