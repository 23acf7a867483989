import MeshOnboard.Proofs.Directory.Membership
import MeshOnboard.Proofs.Directory.Paging
import MeshOnboard.Proofs.Directory.SingleFlight

/-!
# Exactness of a synchronization

A call that finds nobody in the way and a stale cache, with a directory that serves an organization,
ends with a new roster: the names of the listed teams, each with the members of the last team of
that name.  The counts it reports are those of that roster, and how the lists are cut into pages
makes no difference.
-/

namespace MeshOnboard

namespace Directory

/-- The members of the last listed team of a name. -/
def lastNamed? (teams : List Team) (members : UInt64 → List String) (name : String) :
    Option (List String) :=
  (teams.reverse.find? fun t => t.name = name).map fun t => members t.id

theorem find?_listing (teams : List Team) (members : UInt64 → List String) (name : String) :
  (listing teams members).find? name = lastNamed? teams members name
  := by
  rw [listing, Table.find?_ofList, ← List.map_reverse, Table.lookup_map, lastNamed?]

theorem mem_keys_listing {teams : List Team} {members : UInt64 → List String} {name : String} :
  name ∈ (listing teams members).keys ↔ name ∈ teams.map Team.name
  := by
  rw [listing, Table.mem_keys_ofList, List.map_map]
  rfl

theorem toFinset_keys_listing (teams : List Team) (members : UInt64 → List String) :
  (listing teams members).keys.toFinset = (teams.map Team.name).toFinset
  := by
  ext name
  rw [List.mem_toFinset, mem_keys_listing, List.mem_toFinset]

end Directory

namespace Syncer

open Directory

variable {σ : Type}

/-- The one call that waits publishes the roster that the rest of its rebuild yields. -/
theorem finish_of_yields {s : Syncer} {answer : (q : DirectoryQuery) → σ → q.Reply × σ}
    {call : Nat} {r : Rebuild} {roster : Roster} (alone : s.waiting = .single call r)
    (h : r.rest.Yields answer (.ok roster)) (world : σ) (elapsed : σ → Int64) :
  (s.finish answer world elapsed).2.1 = some (.ok (.synced roster.size roster.memberships)) ∧
    (s.finish answer world elapsed).1.cache.roster = roster
  := by
  have first : s.waiting.entries.head? = some (call, r) := by rw [alone]; rfl
  simp only [finish, first, h world, SyncMove.advance]
  exact ⟨rfl, rfl⟩

/-- A call that finds nobody in the way and a stale cache publishes the roster that a rebuild
yields. -/
theorem syncTimed_of_yields {s : Syncer} {answer : (q : DirectoryQuery) → σ → q.Reply × σ}
    {now : Int64} {roster : Roster} (free : s.locked = false) (nobody : s.waiting = ∅)
    (stale : s.cache.isStale now s.settings.ttlSeconds = true)
    (h : (rebuild s.settings.organization s.settings.pageSize).Yields answer (.ok roster))
    (world : σ) (elapsed : σ → Int64) :
  (s.syncTimed answer world now elapsed).2.1 =
      some (.ok (.synced roster.size roster.memberships)) ∧
    (s.syncTimed answer world now elapsed).1.cache.roster = roster
  := by
  obtain ⟨r, -, whole, started⟩ := start_of_stale free nobody stale
  rw [syncTimed, begin, started]
  apply finish_of_yields rfl
  rw [whole]
  apply h

/-- From a directory that serves an organization, cut into pages in whatever way, a call that finds
nobody in the way and a stale cache publishes exactly the listed teams, each name with the members
of the last team of that name, and reports their numbers.  A login is then in the teams whose lists
have it, which are given in increasing order. -/
theorem publishes_listing (s : Syncer) (answer : (q : DirectoryQuery) → σ → q.Reply × σ)
    (world : σ) (now : Int64) (elapsed : σ → Int64) (teams : List Team)
    (members : UInt64 → List String) (free : s.locked = false) (nobody : s.waiting = ∅)
    (stale : s.cache.isStale now s.settings.ttlSeconds = true)
    (serves : Serves answer s.settings.organization s.settings.pageSize teams members) :
  let after := (s.syncTimed answer world now elapsed).1
  let names := (teams.map Team.name).toFinset
  let mapped := lastNamed? teams members
  (s.syncTimed answer world now elapsed).2.1 =
    some (.ok (.synced names.card (∑ name ∈ names, ((mapped name).getD []).length))) ∧
  (∀ name, name ∈ after.cache.roster.keys ↔ name ∈ teams.map Team.name) ∧
  (∀ name, after.cache.roster.find? name = mapped name) ∧
  (∀ login, (after.cache.teamsOf login).Pairwise (· < ·) ∧
    ∀ name, name ∈ after.cache.teamsOf login ↔
      ∃ logins, mapped name = some logins ∧ login ∈ logins) ∧
  ∀ {τ : Type} (answer' : (q : DirectoryQuery) → τ → q.Reply × τ) (world' : τ)
    (elapsed' : τ → Int64),
    Serves answer' s.settings.organization s.settings.pageSize teams members →
    (s.syncTimed answer' world' now elapsed').1.cache.roster = after.cache.roster
  := by
  intro after names mapped
  obtain ⟨result, roster⟩ :=
    syncTimed_of_yields free nobody stale (rebuild_yields serves) world elapsed
  have holds : after.cache.roster = listing teams members := roster
  refine ⟨?_, ?_, ?_, ?_, ?_⟩
  · rw [result, Roster.size_eq_card, Roster.memberships_eq_sum, toFinset_keys_listing]
    simp only [find?_listing]
    rfl
  · intro name
    rw [holds, mem_keys_listing]
  · intro name
    rw [holds, find?_listing]
  · intro login
    use Roster.pairwise_teamsOf _ _
    intro name
    rw [Cache.teamsOf, holds, Roster.mem_teamsOf, find?_listing]
  · intro τ answer' world' elapsed' serves'
    rw [holds]
    apply (syncTimed_of_yields free nobody stale (rebuild_yields serves') world' elapsed').2

/-! ### A small directory -/

/-- Three teams, two of which share a name. -/
def smallTeams : List Team := [⟨1, "core"⟩, ⟨2, "ops"⟩, ⟨3, "core"⟩]

/-- The members of the three teams. -/
def smallMembers (id : UInt64) : List String :=
  if id = 1 then ["ada"] else if id = 2 then ["bob", "ada"] else ["cyd"]

/-- A directory that lists the three teams on the pages one, two and five, the second of which is
empty, and the members of a team one on a page. -/
def smallDirectory (q : DirectoryQuery) (_ : Unit) : q.Reply × Unit :=
  match q with
  | .teams _ page =>
    let reply := if page.number = 1 then ⟨smallTeams.take 2, some 2⟩
      else if page.number = 2 then ⟨[], some 5⟩
      else ⟨smallTeams.drop 2, none⟩
    (.ok reply, ())
  | .members t page =>
    let reply := if t.id ≠ 2 then ⟨smallMembers t.id, none⟩
      else if page.number = 1 then ⟨["bob"], some 2⟩
      else ⟨["ada"], none⟩
    (.ok reply, ())

theorem smallDirectory_serves :
  Serves smallDirectory "acme" 2 smallTeams smallMembers
  where
  lists := by
    use ⟨[(1, smallTeams.take 2), (2, []), (5, smallTeams.drop 2)], rfl, by decide, rfl⟩
    simp [linked, smallDirectory]
  listsMembers t ht := by
    by_cases h : t.id = 2
    · use ⟨[(1, ["bob"]), (2, ["ada"])], rfl, by decide, by simp [smallMembers, h]⟩
      simp [linked, smallDirectory, h]
    · use ⟨[(1, smallMembers t.id)], rfl, List.pairwise_singleton _ _, by simp⟩
      simp [linked, smallDirectory, h]

theorem publishes_small_listing :
  let s := new ⟨"acme", 2, 3600⟩ (.new 100000)
  s.locked = false ∧ s.waiting = ∅ ∧ s.cache.isStale 100000 s.settings.ttlSeconds = true ∧
    Serves smallDirectory "acme" 2 smallTeams smallMembers ∧
    (s.sync smallDirectory () 100000).2.1 = some (.ok (.synced 2 3))
  := by
  intro s
  have stale : s.cache.isStale 100000 s.settings.ttlSeconds = true := by decide
  use rfl, rfl, stale, smallDirectory_serves
  obtain ⟨published, -⟩ := publishes_listing s smallDirectory () 100000 (fun _ => 0) smallTeams
    smallMembers rfl rfl stale smallDirectory_serves
  rw [sync, published]
  decide

end Syncer

end MeshOnboard
