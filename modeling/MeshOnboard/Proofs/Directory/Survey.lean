import MeshOnboard.Directory.Walk
import MeshOnboard.Proofs.Dialogue
import Mathlib.Data.List.Chain

/-!
# Surveys

A `Survey` is what a rebuild has seen of an organization: the pages of teams in the order in which
they were fetched and, for each team on a page, the pages of its members.  It is complete if every
listing in it was walked from page one along the pages that the pages named, up to one that names no
higher page.  `exists_of_rebuild` says that a rebuild that ends with a roster has made a complete
survey: this is all that was said, and the roster is the one read off it.
-/

namespace MeshOnboard

theorem Page.le_of_following?_eq_none {α : Type} {p : Page α} {current : UInt32}
    (h : p.following? current = none) {n : UInt32} (named : p.next = some n) :
  n ≤ current
  := by
  simp only [Page.following?, named, dite_eq_right_iff, reduceCtorEq] at h
  apply UInt32.not_lt.1 h

theorem Page.next_of_following?_eq_some {α : Type} {p : Page α} {current : UInt32}
    {next : { n : UInt32 // current < n }} (h : p.following? current = some next) :
  p.next = some next.1
  := by
  cases named : p.next with
  | none => simp [Page.following?, named] at h
  | some n =>
    simp only [Page.following?, named] at h
    obtain ⟨higher, same⟩ := Option.dite_none_right_eq_some.1 h
    rw [← Option.some.inj same]

namespace Directory

open Dialogue

/-! ### Walks -/

/-- A stop of a walk along a listing: a page that was fetched, with what was seen of its items. -/
structure Stop (α : Type) where
  number : UInt32
  seen : α
  /-- The number of the page that this one says follows it. -/
  next : Option UInt32

/-- The walk starts at page `first`, goes on to the page that each page names, which has a higher
number, and stops at a page that names no higher one. -/
structure Exhausted {α : Type} (first : UInt32) (walk : List (Stop α)) : Prop where
  starts : walk.head?.map Stop.number = some first
  linked : walk.IsChain fun s t => s.next = some t.number ∧ s.number < t.number
  ends : ∀ s ∈ walk.getLast?, ∀ n, s.next = some n → n ≤ s.number

theorem Exhausted.single {α : Type} {n : UInt32} {next : Option UInt32} (seen : α)
    (ends : ∀ m, next = some m → m ≤ n) :
  Exhausted n [⟨n, seen, next⟩]
  where
  starts := rfl
  linked := .singleton _
  ends s last := by
    obtain rfl : ⟨n, seen, next⟩ = s := by simpa using last
    apply ends

theorem Exhausted.cons {α : Type} {n m : UInt32} {walk : List (Stop α)} (seen : α)
    (h : Exhausted m walk) (higher : n < m) :
  Exhausted n (⟨n, seen, some m⟩ :: walk)
  := by
  obtain ⟨starts, linked, ends⟩ := h
  cases walk with
  | nil => simp at starts
  | cons t walk =>
    obtain rfl : t.number = m := by simpa using starts
    exact ⟨rfl, .cons_cons ⟨rfl, higher⟩ linked, by simpa using ends⟩

/-- What is said in a conversation with a directory. -/
abbrev DirectoryExchange : Type := Exchange DirectoryQuery DirectoryQuery.Reply

/-- A walk that yields something has exhausted its listing.  What is said at a stop, and what it
yields, is read off what was seen there. -/
theorem exists_of_walk {α β V : Type}
    {fetch : UInt32 → DirectoryDialogue (Except SyncError (Page α))}
    {visit : List α → DirectoryDialogue (Except SyncError (List β))}
    {exchange : UInt32 → Page α → DirectoryExchange} {items : V → List α}
    {talk : V → List DirectoryExchange} {result : V → List β} {Good : V → Prop}
    (hfetch : ∀ n said p, (fetch n).Course said (.ok p) → said = [exchange n p])
    (hvisit : ∀ xs said here, (visit xs).Course said (.ok here) →
      ∃ v, items v = xs ∧ Good v ∧ said = talk v ∧ here = result v)
    {n : UInt32} {said : List DirectoryExchange} {out : List β}
    (h : (walk fetch visit n).Course said (.ok out)) :
  ∃ stops : List (Stop V), Exhausted n stops ∧ (∀ s ∈ stops, Good s.seen) ∧
    said = stops.flatMap (fun s => exchange s.number ⟨items s.seen, s.next⟩ :: talk s.seen) ∧
    out = stops.flatMap fun s => result s.seen
  := by
  induction n using walk.induct generalizing said out with
  | case1 n ih =>
    rw [walk] at h
    obtain ⟨p, _, _, rfl, fetched, fromHere⟩ := h.of_andThen
    obtain rfl := hfetch n _ p fetched
    obtain ⟨here, _, _, rfl, visited, onward⟩ := fromHere.of_andThen
    obtain ⟨v, hv, good, rfl, rfl⟩ := hvisit p.items _ here visited
    have page : p = ⟨items v, p.next⟩ := by rw [hv]
    cases leads : p.following? n with
    | none =>
      simp only [leads] at onward
      obtain ⟨rfl, hout⟩ := onward.of_done
      obtain rfl := Except.ok.inj hout
      use [⟨n, v, p.next⟩], .single v fun m => Page.le_of_following?_eq_none leads
      exact ⟨by simpa using good, by simp [← page], by simp⟩
    | some next =>
      simp only [leads] at onward
      obtain ⟨later, rest, rfl⟩ := onward.of_andThen_done
      obtain ⟨stops, exhausted, goods, rfl, rfl⟩ := ih next rest
      rw [Page.next_of_following?_eq_some leads] at page
      use ⟨n, v, some next.1⟩ :: stops, exhausted.cons v next.2
      exact ⟨List.forall_mem_cons.2 ⟨good, goods⟩, by simp [← page], rfl⟩

/-! ### What a rebuild sees -/

/-- The pages of a team's members in the order in which they were fetched. -/
abbrev MembersWalk : Type := List (Stop (List String))

/-- The pages of teams in the order in which they were fetched, with the pages of the members of
each team on them. -/
abbrev Survey : Type := List (Stop (List (Team × MembersWalk)))

/-- What is said while the members of a team are walked. -/
def membersExchanges (size : UInt32) (t : Team) (walk : MembersWalk) : List DirectoryExchange :=
  walk.map fun s => ⟨.members t ⟨s.number, size⟩, .ok ⟨s.seen, s.next⟩⟩

namespace Survey

/-- What is said in the survey: each page of teams is followed by the pages of their members. -/
def exchanges (organization : String) (size : UInt32) (survey : Survey) : List DirectoryExchange :=
  survey.flatMap fun s =>
    ⟨.teams organization ⟨s.number, size⟩, .ok ⟨s.seen.map Prod.fst, s.next⟩⟩ ::
      s.seen.flatMap fun t => membersExchanges size t.1 t.2

/-- The roster of the teams that were seen, with all the members that were seen of each. -/
def roster (survey : Survey) : Roster :=
  .ofList (survey.flatMap fun s => s.seen.map fun t => (t.1.name, t.2.flatMap Stop.seen))

/-- The listing of the teams and the listing of the members of every team were walked to the end. -/
structure Complete (survey : Survey) : Prop where
  teams : Exhausted 1 survey
  members : ∀ s ∈ survey, ∀ t ∈ s.seen, Exhausted 1 t.2

end Survey

theorem said_of_fetchTeams {organization : String} {size n : UInt32} {p : Page Team}
    {said : List DirectoryExchange} (h : (fetchTeams organization size n).Course said (.ok p)) :
  said = [⟨.teams organization ⟨n, size⟩, .ok p⟩]
  := by
  obtain ⟨reply, rfl, ok⟩ := h.of_query_map
  cases reply with
  | ok p' => rw [Except.ok.inj ok]
  | error cause => contradiction

theorem said_of_fetchMembers {t : Team} {size n : UInt32} {p : Page String}
    {said : List DirectoryExchange} (h : (fetchMembers t size n).Course said (.ok p)) :
  said = [⟨.members t ⟨n, size⟩, .ok p⟩]
  := by
  obtain ⟨reply, rfl, ok⟩ := h.of_query_map
  cases reply with
  | ok p' => rw [Except.ok.inj ok]
  | error cause => contradiction

theorem exists_of_members {size : UInt32} {t : Team} {said : List DirectoryExchange}
    {logins : List String} (h : (members size t).Course said (.ok logins)) :
  ∃ walk : MembersWalk, Exhausted 1 walk ∧ said = membersExchanges size t walk ∧
    logins = walk.flatMap Stop.seen
  := by
  have visits (xs : List String) (said : List DirectoryExchange) (here : List String)
      (visited : (Dialogue.done (.ok xs) : DirectoryDialogue (Except SyncError _)).Course said
        (.ok here)) :
      ∃ v, id v = xs ∧ True ∧ said = [] ∧ here = id v := by
    obtain ⟨rfl, same⟩ := visited.of_done
    exact ⟨here, Except.ok.inj same, trivial, rfl, rfl⟩
  obtain ⟨walk, exhausted, -, rfl, rfl⟩ :=
    exists_of_walk (fun _ _ _ => said_of_fetchMembers) visits h
  use walk, exhausted, List.map_eq_flatMap.symm
  rfl

theorem exists_of_rosterEntry {size : UInt32} {t : Team} {said : List DirectoryExchange}
    {entry : String × List String} (h : (rosterEntry size t).Course said (.ok entry)) :
  ∃ v : Team × MembersWalk, v.1 = t ∧ Exhausted 1 v.2 ∧ said = membersExchanges size v.1 v.2 ∧
    entry = (v.1.name, v.2.flatMap Stop.seen)
  := by
  obtain ⟨logins, walked, rfl⟩ := h.of_andThen_done
  obtain ⟨walk, exhausted, rfl, rfl⟩ := exists_of_members walked
  exact ⟨(t, walk), rfl, exhausted, rfl, rfl⟩

/-- A rebuild that ends with a roster has made a complete survey. -/
theorem exists_of_rebuild {organization : String} {size : UInt32} {said : List DirectoryExchange}
    {roster : Roster} (h : (rebuild organization size).Course said (.ok roster)) :
  ∃ survey : Survey, survey.Complete ∧ said = survey.exchanges organization size ∧
    roster = survey.roster
  := by
  obtain ⟨entries, walked, rfl⟩ := h.of_andThen_done
  have visits (teams : List Team) (said : List DirectoryExchange)
      (here : List (String × List String))
      (visited : (forEach (rosterEntry size) teams).Course said (.ok here)) :=
    visited.of_forEach fun _ _ _ => exists_of_rosterEntry
  obtain ⟨survey, exhausted, members, rfl, rfl⟩ :=
    exists_of_walk (fun _ _ _ => said_of_fetchTeams) visits walked
  exact ⟨survey, ⟨exhausted, members⟩, rfl, rfl⟩

end Directory

end MeshOnboard
