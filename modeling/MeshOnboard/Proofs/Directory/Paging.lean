import MeshOnboard.Directory.Walk
import MeshOnboard.Proofs.Dialogue

/-!
# Paging

A `Cut` divides a list into pages with increasing numbers from one on; pages may have any length.
A directory serves a list when it answers for each page of some cut with the items of the page and
the number of the next one.  A walk over a list that is served visits every page in order, so that
`Directory.rebuild` ends with a roster that does not depend on the cuts.
-/

namespace MeshOnboard.Directory

/-- A list cut into numbered pages. -/
structure Cut {α : Type} (items : List α) where
  pages : List (UInt32 × List α)
  first : pages.head?.map Prod.fst = some 1
  increasing : (pages.map Prod.fst).Pairwise (· < ·)
  whole : (pages.map Prod.snd).flatten = items

/-- The pages that name the numbers of those that follow them, with their own numbers. -/
def linked {α : Type} : List (UInt32 × List α) → List (UInt32 × Page α)
  | [] => []
  | (n, items) :: rest => (n, ⟨items, rest.head?.map Prod.fst⟩) :: linked rest

/-- Asked for the pages of some cut, the directory gives them. -/
def Served {α σ : Type} (items : List α)
    (ask : UInt32 → σ → Except DirectoryError (Page α)) : Prop :=
  ∃ c : Cut items, ∀ p ∈ linked c.pages, ∀ world, ask p.1 world = .ok p.2

/-- A directory serves the teams of an organization and the members that belong to the number of
each of them. -/
structure Serves {σ : Type} (answer : (q : DirectoryQuery) → σ → q.Reply × σ)
    (organization : String) (size : UInt32) (teams : List Team)
    (members : UInt64 → List String) : Prop where
  lists : Served teams fun n world => (answer (.teams organization ⟨n, size⟩) world).1
  listsMembers : ∀ t ∈ teams,
    Served (members t.id) fun n world => (answer (.members t ⟨n, size⟩) world).1

variable {σ : Type} {answer : (q : DirectoryQuery) → σ → q.Reply × σ}

/-- A walk over linked pages visits each of them in order. -/
theorem walk_yields {α β : Type} {fetch : UInt32 → DirectoryDialogue (Except SyncError (Page α))}
    {visit : List α → DirectoryDialogue (Except SyncError (List β))} {g : List α → List β}
    {n : UInt32} {items : List α} {rest : List (UInt32 × List α)}
    (increasing : (((n, items) :: rest).map Prod.fst).Pairwise (· < ·))
    (hfetch : ∀ p ∈ linked ((n, items) :: rest), (fetch p.1).Yields answer (.ok p.2))
    (hvisit : ∀ p ∈ (n, items) :: rest, (visit p.2).Yields answer (.ok (g p.2))) :
  (walk fetch visit n).Yields answer (.ok (((n, items) :: rest).flatMap fun p => g p.2))
  := by
  induction rest generalizing n items with
  | nil =>
    rw [walk]
    apply (hfetch _ List.mem_cons_self).andThen
    apply (hvisit _ List.mem_cons_self).andThen
    simp only [Page.following?, List.head?_nil, Option.map_none, List.flatMap_cons,
      List.flatMap_nil, List.append_nil]
    apply Dialogue.yields_done
  | cons next rest ih =>
    obtain ⟨m, more⟩ := next
    obtain ⟨later, increasing⟩ := List.pairwise_cons.1 increasing
    have lt : n < m := later m List.mem_cons_self
    rw [walk]
    apply (hfetch _ List.mem_cons_self).andThen
    apply (hvisit _ List.mem_cons_self).andThen
    simp only [Page.following?, List.head?_cons, Option.map_some, dif_pos lt]
    have hrest := ih increasing (fun p hp => hfetch p (List.mem_cons_of_mem _ hp))
      fun p hp => hvisit p (List.mem_cons_of_mem _ hp)
    apply hrest.andThen
    apply Dialogue.yields_done

/-- A walk over a list that is served visits all its pages from the first on. -/
theorem walk_yields_of_served {α β : Type}
    {fetch : UInt32 → DirectoryDialogue (Except SyncError (Page α))}
    {visit : List α → DirectoryDialogue (Except SyncError (List β))} {f : α → β} {items : List α}
    {ask : UInt32 → σ → Except DirectoryError (Page α)} (served : Served items ask)
    (hfetch : ∀ n p, (∀ world, ask n world = .ok p) → (fetch n).Yields answer (.ok p))
    (hvisit : ∀ here, (∀ x ∈ here, x ∈ items) → (visit here).Yields answer (.ok (here.map f))) :
  (walk fetch visit 1).Yields answer (.ok (items.map f))
  := by
  obtain ⟨⟨pages, first, increasing, rfl⟩, gives⟩ := served
  cases pages with
  | nil => simp at first
  | cons page rest =>
    obtain ⟨n, here⟩ := page
    obtain rfl : n = 1 := by simpa using first
    rw [List.map_flatten, List.map_map]
    apply walk_yields increasing
    · intro p hp
      apply hfetch p.1 p.2 (gives p hp)
    · intro p hp
      apply hvisit
      intro x hx
      apply List.mem_flatten.2 ⟨p.2, List.mem_map_of_mem hp, hx⟩

theorem fetchTeams_yields {organization : String} {size n : UInt32} {p : Page Team}
    (h : ∀ world, (answer (.teams organization ⟨n, size⟩) world).1 = .ok p) :
  (fetchTeams organization size n).Yields answer (.ok p)
  := Dialogue.yields_query_map h

theorem fetchMembers_yields {team : Team} {size n : UInt32} {p : Page String}
    (h : ∀ world, (answer (.members team ⟨n, size⟩) world).1 = .ok p) :
  (fetchMembers team size n).Yields answer (.ok p)
  := Dialogue.yields_query_map h

theorem members_yields {size : UInt32} {team : Team} {logins : List String}
    (served : Served logins fun n world => (answer (.members team ⟨n, size⟩) world).1) :
  (members size team).Yields answer (.ok logins)
  := by
  have h : (members size team).Yields answer (.ok (logins.map id)) := by
    apply walk_yields_of_served served
    · intro n p hp
      apply fetchMembers_yields hp
    · intro here _
      rw [List.map_id]
      apply Dialogue.yields_done
  rwa [List.map_id] at h

/-- The roster of teams with the members that belong to their numbers; of several teams of one name
the last one counts. -/
def listing (teams : List Team) (members : UInt64 → List String) : Roster :=
  .ofList (teams.map fun t => (t.name, members t.id))

/-- A rebuild from a directory that serves an organization ends with its roster. -/
theorem rebuild_yields {organization : String} {size : UInt32} {teams : List Team}
    {members : UInt64 → List String} (h : Serves answer organization size teams members) :
  (rebuild organization size).Yields answer (.ok (listing teams members))
  := by
  have entries : (walk (fetchTeams organization size) (Dialogue.forEach (rosterEntry size)) 1).Yields
      answer (.ok (teams.map fun t => (t.name, members t.id))) := by
    apply walk_yields_of_served h.lists
    · intro n p hp
      apply fetchTeams_yields hp
    · intro here listed
      apply Dialogue.yields_forEach
      intro t ht
      apply (members_yields (h.listsMembers t (listed t ht))).andThen
      apply Dialogue.yields_done
  apply entries.andThen
  apply Dialogue.yields_done

end MeshOnboard.Directory
