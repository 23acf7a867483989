import MeshOnboard.Proofs.Directory.Survey

/-!
# Traversals

A `Traversal` is what a rebuild calls a directory for, whether it succeeds or fails: the calls for
the pages of teams and, for each team on a page, the calls for the pages of its members.  Every
listing is `Ascending`: it starts at page one, and each further page has a higher number, so that it
ends whatever pages the replies name.  `Upshot` says what a conversation with a directory comes to:
the first call that fails is the last, and the result is the error for it.  `rebuild_traverses` puts
these together for a directory that replies as it likes, call by call.
-/

namespace MeshOnboard

/-- The error that a rebuild ends with when a query fails. -/
def DirectoryQuery.failure : DirectoryQuery → DirectoryError → SyncError
  | .teams organization page => .teams organization page.number
  | .members team page => .members team.name page.number

namespace Directory

open Dialogue

/-! ### What a conversation comes to -/

/-- Every call is answered and the result is no error, or only the last call fails and the result is
the error for that. -/
inductive Upshot {α : Type} : List DirectoryExchange → Except SyncError α → Prop where
  | success {said : List DirectoryExchange} (a : α) (answered : ∀ x ∈ said, ∃ p, x.2 = .ok p) :
    Upshot said (.ok a)
  | failure {said : List DirectoryExchange} (q : DirectoryQuery) (cause : DirectoryError)
    (answered : ∀ x ∈ said, ∃ p, x.2 = .ok p) :
    Upshot (said ++ [⟨q, .error cause⟩]) (.error (q.failure cause))

namespace Upshot

variable {α : Type} {said : List DirectoryExchange} {result : Except SyncError α}

theorem answered_dropLast (h : Upshot said result) :
  ∀ x ∈ said.dropLast, ∃ p, x.2 = .ok p
  := by
  cases h with
  | success a answered => exact fun x hx => answered x (List.dropLast_subset _ hx)
  | failure q cause answered => simpa using answered

theorem eq_error_iff (h : Upshot said result) (e : SyncError) :
  result = .error e ↔
    ∃ x ∈ said.getLast?, ∃ cause, x.2 = .error cause ∧ e = x.1.failure cause
  := by
  cases h with
  | success a answered =>
    simp only [reduceCtorEq, false_iff]
    rintro ⟨x, last, cause, failed, -⟩
    obtain ⟨p, ok⟩ := answered x (List.mem_of_getLast? last)
    rw [ok] at failed
    contradiction
  | failure q cause answered => simp [eq_comm]

/-- What is said before a conversation that goes on changes nothing about what that comes to. -/
theorem prepend {first : List DirectoryExchange} (answered : ∀ x ∈ first, ∃ p, x.2 = .ok p)
    (h : Upshot said result) :
  Upshot (first ++ said) result
  := by
  cases h with
  | success a rest => exact .success a (List.forall_mem_append.2 ⟨answered, rest⟩)
  | failure q cause rest =>
    rw [← List.append_assoc]
    exact .failure q cause (List.forall_mem_append.2 ⟨answered, rest⟩)

end Upshot

/-- However the conversation goes, its result is what its calls come to. -/
def Accountable {α : Type} (d : DirectoryDialogue (Except SyncError α)) : Prop :=
  ∀ said result, d.Course said result → Upshot said result

theorem accountable_done {α : Type} (a : α) :
  Accountable (.done (.ok a))
  := by
  intro said result h
  obtain ⟨rfl, rfl⟩ := h.of_done
  apply Upshot.success
  simp

/-- A single call is answered or fails. -/
theorem accountable_query (q : DirectoryQuery) :
  Accountable ((Dialogue.query q : DirectoryDialogue q.Reply).map fun reply =>
    reply.mapError q.failure)
  := by
  intro said result h
  obtain ⟨reply, rfl, rfl⟩ := h.of_query_map
  cases reply with
  | ok p => exact .success p (by simp)
  | error cause =>
    change Upshot ([] ++ [⟨q, .error cause⟩]) (.error (q.failure cause))
    exact .failure q cause (by simp)

theorem Accountable.andThen {α β : Type} {d : DirectoryDialogue (Except SyncError α)}
    {f : α → DirectoryDialogue (Except SyncError β)} (hd : Accountable d)
    (hf : ∀ a, Accountable (f a)) :
  Accountable (d.andThen f)
  := by
  intro said result h
  rcases h.cases_andThen with ⟨e, failed, rfl⟩ | ⟨a, first, later, rfl, here, there⟩
  · cases hd _ _ failed with
    | failure q cause answered => exact .failure q cause answered
  · cases hd _ _ here with
    | success _ answered => exact (hf a _ _ there).prepend answered

theorem accountable_forEach {ι α : Type} {f : ι → DirectoryDialogue (Except SyncError α)}
    (hf : ∀ x, Accountable (f x)) (xs : List ι) :
  Accountable (forEach f xs)
  := by
  induction xs with
  | nil => apply accountable_done
  | cons x xs ih =>
    apply (hf x).andThen
    intro a
    apply ih.andThen
    intro as
    apply accountable_done

theorem accountable_walk {α β : Type}
    {fetch : UInt32 → DirectoryDialogue (Except SyncError (Page α))}
    {visit : List α → DirectoryDialogue (Except SyncError (List β))}
    (hfetch : ∀ n, Accountable (fetch n)) (hvisit : ∀ xs, Accountable (visit xs)) (n : UInt32) :
  Accountable (walk fetch visit n)
  := by
  induction n using walk.induct with
  | case1 n ih =>
    rw [walk]
    apply (hfetch n).andThen
    intro p
    apply (hvisit p.items).andThen
    intro here
    cases p.following? n with
    | none => apply accountable_done
    | some next =>
      apply (ih next).andThen
      intro later
      apply accountable_done

theorem accountable_members (size : UInt32) (team : Team) :
  Accountable (members size team)
  := by
  apply accountable_walk
  · intro n
    apply accountable_query (.members team ⟨n, size⟩)
  · apply accountable_done

theorem accountable_rebuild (organization : String) (size : UInt32) :
  Accountable (rebuild organization size)
  := by
  apply Accountable.andThen
  · apply accountable_walk
    · intro n
      apply accountable_query (.teams organization ⟨n, size⟩)
    · apply accountable_forEach
      intro team
      apply (accountable_members size team).andThen
      intro logins
      apply accountable_done
  · intro entries
    apply accountable_done

/-! ### Calls for a listing -/

/-- A call for a page of a listing, with what is asked about the items of the page. -/
structure Call (α V : Type) where
  number : UInt32
  reply : Except DirectoryError (Page α)
  visit : V

namespace Call

variable {α V : Type}

/-- The items on the page; a call that fails has none. -/
def items (c : Call α V) : List α :=
  match c.reply with
  | .ok p => p.items
  | .error _ => []

/-- The call fails or its page names no higher one. -/
def Final (c : Call α V) : Prop := ∀ p, c.reply = .ok p → ∀ n, p.next = some n → n ≤ c.number

theorem final_of_error {c : Call α V} {cause : DirectoryError} (failed : c.reply = .error cause) :
  c.Final
  := by
  intro p ok
  simp [ok] at failed

theorem final_of_following? {n : UInt32} {p : Page α} (last : p.following? n = none) (visit : V) :
  Final ⟨n, .ok p, visit⟩
  := by
  intro p' same m
  obtain rfl := Except.ok.inj same
  apply Page.le_of_following?_eq_none last

end Call

/-- The calls start at page `first`, and each further one is for the page that the reply before it
names, which has a higher number. -/
structure Ascending {α V : Type} (first : UInt32) (calls : List (Call α V)) : Prop where
  starts : calls.head?.map Call.number = some first
  linked : calls.IsChain fun c d =>
    (∃ p, c.reply = .ok p ∧ p.next = some d.number) ∧ c.number < d.number

namespace Ascending

variable {α V : Type} {n : UInt32} {calls : List (Call α V)}

theorem single (n : UInt32) (reply : Except DirectoryError (Page α)) (visit : V) :
  Ascending n [⟨n, reply, visit⟩]
  := ⟨rfl, .singleton _⟩

theorem cons {m : UInt32} {p : Page α} (visit : V) (h : Ascending m calls)
    (named : p.next = some m) (higher : n < m) :
  Ascending n (⟨n, .ok p, visit⟩ :: calls)
  := by
  obtain ⟨starts, linked⟩ := h
  cases calls with
  | nil => simp at starts
  | cons c calls =>
    obtain rfl : c.number = m := by simpa using starts
    exact ⟨rfl, .cons_cons ⟨⟨p, rfl, named⟩, higher⟩ linked⟩

theorem ne_nil (h : Ascending n calls) :
  calls ≠ []
  := by
  rintro rfl
  simpa using h.starts

theorem pairwise_numbers (h : Ascending n calls) :
  (calls.map Call.number).Pairwise (· < ·)
  := by
  rw [← List.isChain_iff_pairwise, List.isChain_map]
  exact h.linked.imp fun _ _ step => step.2

/-- There are not more calls than there are numbers from the first one on. -/
theorem length_le (h : Ascending n calls) :
  n.toNat + calls.length ≤ UInt32.size
  := by
  induction calls generalizing n with
  | nil => exact absurd rfl h.ne_nil
  | cons c calls ih =>
    obtain ⟨starts, linked⟩ := h
    obtain rfl : c.number = n := by simpa using starts
    cases calls with
    | nil => exact c.number.toNat_lt_size
    | cons d calls =>
      obtain ⟨⟨-, higher⟩, rest⟩ := List.isChain_cons_cons.1 linked
      have later := ih ⟨rfl, rest⟩
      have step := UInt32.lt_iff_toNat_lt.1 higher
      simp only [List.length_cons] at later ⊢
      omega

/-- From page one on no page is called for twice, and there are fewer calls than numbers. -/
theorem numbers_spec (h : Ascending 1 calls) :
  let numbers := calls.map Call.number
  numbers.head? = some 1 ∧ numbers.Pairwise (· < ·) ∧ numbers.Nodup ∧ numbers.length < UInt32.size
  := by
  have bound : 1 + calls.length ≤ UInt32.size := h.length_le
  refine ⟨?_, h.pairwise_numbers, h.pairwise_numbers.imp UInt32.ne_of_lt, ?_⟩
  · rw [List.head?_map, h.starts]
  · rw [List.length_map]
    omega

end Ascending

/-- The calls start at page one and go on to a final one. -/
structure RunsOut {α V : Type} (calls : List (Call α V)) : Prop where
  ascending : Ascending 1 calls
  final : ∀ c ∈ calls.getLast?, c.Final

/-- A conversation that starts with a call says no more if the call fails. -/
theorem cases_fetch {α β : Type} {d : DirectoryDialogue (Except SyncError (Page α))}
    {f : Page α → DirectoryDialogue (Except SyncError β)}
    {exchange : Except DirectoryError (Page α) → DirectoryExchange}
    {failure : DirectoryError → SyncError}
    (hd : ∀ said result, d.Course said result →
      ∃ reply, said = [exchange reply] ∧ result = reply.mapError failure)
    {said : List DirectoryExchange} {result : Except SyncError β}
    (h : (d.andThen f).Course said result) :
  (∃ cause, said = [exchange (.error cause)] ∧ result = .error (failure cause)) ∨
    ∃ p later, said = exchange (.ok p) :: later ∧ (f p).Course later result
  := by
  rcases h.cases_andThen with ⟨e, failed, rfl⟩ | ⟨p, first, later, rfl, fetched, onward⟩
  · obtain ⟨reply, rfl, same⟩ := hd _ _ failed
    cases reply with
    | ok p => contradiction
    | error cause =>
      obtain rfl := Except.error.inj same
      exact .inl ⟨cause, rfl, rfl⟩
  · obtain ⟨reply, rfl, same⟩ := hd _ _ fetched
    cases reply with
    | ok p' =>
      obtain rfl := Except.ok.inj same
      exact .inr ⟨p, later, rfl, onward⟩
    | error cause => contradiction

/-- A walk calls for pages in ascending order, whatever it comes to.  The items of a page are wholly
visited before the next is called for, and the walk succeeds only if it ends at a final page whose
items are wholly visited. -/
theorem exists_calls_of_walk {α β V : Type}
    {fetch : UInt32 → DirectoryDialogue (Except SyncError (Page α))}
    {visit : List α → DirectoryDialogue (Except SyncError (List β))}
    {exchange : UInt32 → Except DirectoryError (Page α) → DirectoryExchange}
    {failure : UInt32 → DirectoryError → SyncError}
    {talk : V → List DirectoryExchange} {Partly Wholly : List α → V → Prop} (unvisited : V)
    (silent : talk unvisited = []) (hunvisited : Partly [] unvisited)
    (hfetch : ∀ n said result, (fetch n).Course said result →
      ∃ reply, said = [exchange n reply] ∧ result = reply.mapError (failure n))
    (hvisit : ∀ xs said result, (visit xs).Course said result →
      ∃ v, said = talk v ∧ Partly xs v ∧ ∀ here, result = .ok here → Wholly xs v)
    {n : UInt32} {said : List DirectoryExchange} {result : Except SyncError (List β)}
    (h : (walk fetch visit n).Course said result) :
  ∃ calls : List (Call α V), Ascending n calls ∧
    said = calls.flatMap (fun c => exchange c.number c.reply :: talk c.visit) ∧
    (∀ c ∈ calls, Partly c.items c.visit) ∧
    (∀ c ∈ calls.dropLast, Wholly c.items c.visit) ∧
    ∀ out, result = .ok out → ∀ c ∈ calls.getLast?, c.Final ∧ Wholly c.items c.visit
  := by
  induction n using walk.induct generalizing said result with
  | case1 n ih =>
    rw [walk] at h
    rcases cases_fetch (hfetch n) h with ⟨cause, rfl, rfl⟩ | ⟨p, later, rfl, fromHere⟩
    · use [⟨n, .error cause, unvisited⟩], .single n _ _
      exact ⟨by simp [silent], by simpa [Call.items] using hunvisited, by simp, by simp⟩
    rcases fromHere.cases_andThen with
      ⟨e, visited, rfl⟩ | ⟨here, first, later, rfl, visited, onward⟩
    · obtain ⟨v, rfl, partly, -⟩ := hvisit p.items _ _ visited
      use [⟨n, .ok p, v⟩], .single n _ _
      exact ⟨by simp, by simpa [Call.items] using partly, by simp, by simp⟩
    obtain ⟨v, rfl, partly, wholly⟩ := hvisit p.items _ _ visited
    cases leads : p.following? n with
    | none =>
      simp only [leads] at onward
      obtain ⟨rfl, rfl⟩ := onward.of_done
      use [⟨n, .ok p, v⟩], .single n _ _
      exact ⟨by simp, by simpa [Call.items] using partly, by simp,
        fun _ _ => by simpa using ⟨Call.final_of_following? leads v, wholly here rfl⟩⟩
    | some next =>
      simp only [leads] at onward
      obtain ⟨ending, rest, rfl⟩ := onward.cases_andThen_done
      obtain ⟨calls, ascending, rfl, partlies, whollies, final⟩ := ih next rest
      use ⟨n, .ok p, v⟩ :: calls, ascending.cons v (Page.next_of_following?_eq_some leads) next.2
      rw [List.dropLast_cons_of_ne_nil ascending.ne_nil,
        List.getLast?_cons_of_ne_nil ascending.ne_nil]
      refine ⟨by simp, List.forall_mem_cons.2 ⟨partly, partlies⟩,
        List.forall_mem_cons.2 ⟨wholly here rfl, whollies⟩, fun out ok => ?_⟩
      cases ending with
      | ok later => apply final later rfl
      | error e => contradiction

/-! ### What a rebuild calls for -/

/-- The calls for the pages of a team's members. -/
abbrev MembersCalls : Type := List (Call String Unit)

/-- The calls for the pages of teams, with the calls for the members of teams on them. -/
abbrev Traversal : Type := List (Call Team (List (Team × MembersCalls)))

namespace Traversal

/-- What is said about the members of a team. -/
def membersExchanges (size : UInt32) (t : Team × MembersCalls) : List DirectoryExchange :=
  t.2.map fun c => ⟨.members t.1 ⟨c.number, size⟩, c.reply⟩

/-- What is said in the traversal. -/
def exchanges (organization : String) (size : UInt32) (traversal : Traversal) :
    List DirectoryExchange :=
  traversal.flatMap fun c =>
    ⟨.teams organization ⟨c.number, size⟩, c.reply⟩ :: c.visit.flatMap (membersExchanges size)

/-- The numbers of the pages that are called for, listing by listing. -/
def listings (traversal : Traversal) : List (List UInt32) :=
  traversal.map Call.number ::
    traversal.flatMap fun c => c.visit.map fun t => t.2.map Call.number

/-- Pages are called for in ascending order, a team's up to a final one.  The teams on a page are
visited one after the other, all of them before another page of teams is called for. -/
structure Orderly (traversal : Traversal) : Prop where
  teams : Ascending 1 traversal
  members : ∀ c ∈ traversal, ∀ t ∈ c.visit, RunsOut t.2
  visited : ∀ c ∈ traversal, c.visit.map Prod.fst <+: c.items
  all : ∀ c ∈ traversal.dropLast, c.visit.map Prod.fst = c.items

end Traversal

theorem exists_reply_of_fetchTeams {organization : String} {size n : UInt32}
    {said : List DirectoryExchange} {result : Except SyncError (Page Team)}
    (h : (fetchTeams organization size n).Course said result) :
  ∃ reply, said = [⟨.teams organization ⟨n, size⟩, reply⟩] ∧
    result = reply.mapError (SyncError.teams organization n)
  := h.of_query_map

theorem exists_reply_of_fetchMembers {t : Team} {size n : UInt32} {said : List DirectoryExchange}
    {result : Except SyncError (Page String)} (h : (fetchMembers t size n).Course said result) :
  ∃ reply, said = [⟨.members t ⟨n, size⟩, reply⟩] ∧
    result = reply.mapError (SyncError.members t.name n)
  := h.of_query_map

theorem exists_calls_of_members {size : UInt32} {t : Team} {said : List DirectoryExchange}
    {result : Except SyncError (List String)} (h : (members size t).Course said result) :
  ∃ calls : MembersCalls, RunsOut calls ∧ said = Traversal.membersExchanges size (t, calls)
  := by
  have visits (xs : List String) (said : List DirectoryExchange)
      (result : Except SyncError (List String))
      (visited : (Dialogue.done (.ok xs) : DirectoryDialogue _).Course said result) :
      ∃ v : Unit, said = [] ∧ True ∧ ∀ here, result = .ok here → True :=
    ⟨(), visited.of_done.1, trivial, fun _ _ => trivial⟩
  obtain ⟨calls, ascending, rfl, -, -, final⟩ :=
    exists_calls_of_walk () rfl trivial (fun _ _ _ => exists_reply_of_fetchMembers) visits h
  rw [← List.map_eq_flatMap] at h ⊢
  use calls, ⟨ascending, ?_⟩
  · rfl
  · intro c last
    cases result with
    | ok logins => exact (final logins rfl c last).1
    | error e =>
      -- the call that failed is the last one
      obtain ⟨x, hx, cause, failed, -⟩ := ((accountable_members size t _ _ h).eq_error_iff e).1 rfl
      rw [List.getLast?_map, last] at hx
      obtain rfl := Option.some.inj hx
      apply Call.final_of_error failed

theorem exists_calls_of_rosterEntry {size : UInt32} {t : Team} {said : List DirectoryExchange}
    {result : Except SyncError (String × List String)}
    (h : (rosterEntry size t).Course said result) :
  ∃ v : Team × MembersCalls, v.1 = t ∧ RunsOut v.2 ∧ said = Traversal.membersExchanges size v
  := by
  obtain ⟨ending, walked, rfl⟩ := h.cases_andThen_done
  obtain ⟨calls, runsOut, rfl⟩ := exists_calls_of_members walked
  exact ⟨(t, calls), rfl, runsOut, rfl⟩

/-- What is said in a rebuild is an orderly traversal, whatever the rebuild comes to.  If it
succeeds, the traversal has come to its end. -/
theorem exists_traversal_of_rebuild {organization : String} {size : UInt32}
    {said : List DirectoryExchange} {result : Except SyncError Roster}
    (h : (rebuild organization size).Course said result) :
  ∃ traversal : Traversal, traversal.Orderly ∧ said = traversal.exchanges organization size ∧
    ∀ roster, result = .ok roster →
      ∀ c ∈ traversal.getLast?, c.Final ∧ c.visit.map Prod.fst = c.items
  := by
  obtain ⟨ending, walked, rfl⟩ := h.cases_andThen_done
  have visits (teams : List Team) (said : List DirectoryExchange)
      (result : Except SyncError (List (String × List String)))
      (visited : (forEach (rosterEntry size) teams).Course said result) :
      ∃ v : List (Team × MembersCalls), said = v.flatMap (Traversal.membersExchanges size) ∧
        (v.map Prod.fst <+: teams ∧ ∀ t ∈ v, RunsOut t.2) ∧
        ∀ here, result = .ok here → v.map Prod.fst = teams := by
    obtain ⟨v, through, runOut, rfl, all⟩ :=
      visited.cases_forEach fun _ _ _ => exists_calls_of_rosterEntry
    exact ⟨v, rfl, ⟨through, runOut⟩, all⟩
  obtain ⟨traversal, ascending, rfl, partly, wholly, final⟩ :=
    exists_calls_of_walk [] rfl ⟨List.prefix_refl [], by simp⟩
      (fun _ _ _ => exists_reply_of_fetchTeams) visits walked
  use traversal, ⟨ascending, fun c hc => (partly c hc).2, fun c hc => (partly c hc).1, wholly⟩, rfl
  intro roster ok
  cases ending with
  | ok entries => apply final entries rfl
  | error e => contradiction

namespace Traversal

theorem size_of_mem_exchanges {organization : String} {size : UInt32} {traversal : Traversal}
    {x : DirectoryExchange} (h : x ∈ traversal.exchanges organization size) :
  x.1.page.size = size
  := by
  simp only [exchanges, membersExchanges, List.mem_flatMap, List.mem_cons, List.mem_map] at h
  obtain ⟨c, -, rfl | ⟨t, -, d, -, rfl⟩⟩ := h
  · rfl
  · rfl

theorem Orderly.spec_of_mem_listings {traversal : Traversal} (h : traversal.Orderly)
    {numbers : List UInt32} (listed : numbers ∈ traversal.listings) :
  numbers.head? = some 1 ∧ numbers.Pairwise (· < ·) ∧ numbers.Nodup ∧ numbers.length < UInt32.size
  := by
  simp only [listings, List.mem_cons, List.mem_flatMap, List.mem_map] at listed
  obtain rfl | ⟨c, hc, t, ht, rfl⟩ := listed
  · exact h.teams.numbers_spec
  · exact (h.members c hc t ht).ascending.numbers_spec

end Traversal

/-- Whatever a directory replies, call by call, a rebuild ends after finitely many calls, which are
an orderly traversal.  In every listing the pages called for start at one and ascend, so that none
is called for twice.  Each call asks for pages of the set size.  A call that fails is the last, and
the rebuild ends with the error for it; if none fails, the traversal has come to its end. -/
theorem rebuild_traverses (organization : String) (size : UInt32)
    (replies : Nat → (q : DirectoryQuery) → q.Reply) :
  ∃ calls result, ∃ traversal : Traversal,
    (rebuild organization size).follow ((List.range calls).map replies) = .done result ∧
    let said := (rebuild organization size).exchanges ((List.range calls).map replies)
    said.length = calls ∧ said = traversal.exchanges organization size ∧ traversal.Orderly ∧
    (∀ numbers ∈ traversal.listings, numbers.head? = some 1 ∧ numbers.Pairwise (· < ·) ∧
      numbers.Nodup ∧ numbers.length < UInt32.size) ∧
    (∀ x ∈ said, x.1.page.size = size) ∧
    (∀ x ∈ said.dropLast, ∃ p, x.2 = .ok p) ∧
    (∀ e, result = .error e ↔
      ∃ x ∈ said.getLast?, ∃ cause, x.2 = .error cause ∧ e = x.1.failure cause) ∧
    ∀ roster, result = .ok roster →
      ∀ c ∈ traversal.getLast?, c.Final ∧ c.visit.map Prod.fst = c.items
  := by
  obtain ⟨calls, result, ends, length⟩ :=
    (rebuild organization size).exists_follow_eq_done replies
  have course := course_exchanges ends
  have upshot := accountable_rebuild organization size _ _ course
  obtain ⟨traversal, orderly, same, complete⟩ := exists_traversal_of_rebuild course
  use calls, result, traversal, ends, length, same, orderly
  refine ⟨fun _ => orderly.spec_of_mem_listings, fun x hx => ?_, upshot.answered_dropLast,
    upshot.eq_error_iff, complete⟩
  rw [same] at hx
  apply Traversal.size_of_mem_exchanges hx

end Directory

end MeshOnboard
