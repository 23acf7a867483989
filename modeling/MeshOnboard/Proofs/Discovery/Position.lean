import MeshOnboard.Proofs.Discovery.Selection

/-!
# The position of the fastest endpoint

`Endpoint.LeadsAt es i millis` says that the endpoint at position `i` answers in `millis`, that no
endpoint answers sooner and that those before it answer later.  One position leads unless nothing is
reachable, and its endpoint is the one that is selected.  Where two lists follow one another, the
selection of the first stands unless there is none or that of the second is strictly faster.
-/

namespace MeshOnboard

/-- An answer that came in less time than another one. -/
def Latency.Faster (l l' : Latency) : Prop :=
  ∃ m m', l = reachable m ∧ l' = reachable m' ∧ m < m'

namespace Endpoint

/-- The endpoint at position `i` answers in the least time, and those before it take longer. -/
structure LeadsAt (es : List Endpoint) (i : Nat) (millis : UInt64) : Prop where
  time : es[i]?.map latency = some (.reachable millis)
  least : ∀ e ∈ es, ∀ m, e.latency = .reachable m → millis ≤ m
  first : ∀ j < i, ∀ e, es[j]? = some e → ∀ m, e.latency = .reachable m → millis < m

variable {es fs : List Endpoint} {i j : Nat} {m n : UInt64}

theorem LeadsAt.exists_mem (h : LeadsAt es i m) :
  ∃ e ∈ es, es[i]? = some e ∧ e.latency = .reachable m
  := by
  obtain ⟨e, there, time⟩ := Option.map_eq_some_iff.1 h.time
  exact ⟨e, List.mem_of_getElem? there, there, time⟩

theorem leadsAt_of_fastestPosition? (h : fastestPosition? es = some i) :
  ∃ millis, LeadsAt es i millis
  := by
  obtain ⟨before, e, after, millis, rfl, rfl, time, greater, notLess⟩ := exists_of_fastestPosition? h
  refine ⟨millis, by simp [time], ?_, ?_⟩
  · intro x mem n there
    rcases List.mem_append.1 mem with earlier | rest
    · exact UInt64.le_of_lt (greater x earlier n there)
    rcases List.mem_cons.1 rest with rfl | later
    · exact UInt64.le_of_eq (Latency.reachable.inj (time.symm.trans there))
    · exact notLess x later n there
  · intro j earlier x there
    rw [List.getElem?_append_left earlier] at there
    apply greater x (List.mem_of_getElem? there)

/-- Of two positions that lead, neither comes before the other. -/
private theorem LeadsAt.not_lt (h : LeadsAt es i m) (h' : LeadsAt es j n) :
  ¬ i < j
  := by
  intro before
  obtain ⟨e, mem, there, time⟩ := h.exists_mem
  obtain ⟨e', mem', -, time'⟩ := h'.exists_mem
  have less := h'.first i before e there m time
  exact UInt64.not_lt.2 (h.least e' mem' n time') less

/-- At most one position leads, in one time. -/
theorem LeadsAt.unique (h : LeadsAt es i m) (h' : LeadsAt es j n) :
  i = j ∧ m = n
  := by
  obtain rfl : i = j := Nat.le_antisymm (Nat.not_lt.1 (h'.not_lt h)) (Nat.not_lt.1 (h.not_lt h'))
  have time := h.time
  rw [h'.time] at time
  exact ⟨rfl, (Latency.reachable.inj (Option.some.inj time)).symm⟩

theorem LeadsAt.fastestPosition?_eq (h : LeadsAt es i m) :
  fastestPosition? es = some i
  := by
  cases found : fastestPosition? es with
  | none =>
    obtain ⟨e, mem, -, time⟩ := h.exists_mem
    have unreachable := fastestPosition?_eq_none_iff.1 found e mem
    rw [time] at unreachable
    contradiction
  | some j =>
    obtain ⟨n, h'⟩ := leadsAt_of_fastestPosition? found
    rw [(h.unique h').1]

theorem LeadsAt.fastest?_eq (h : LeadsAt es i m) :
  fastest? es = es[i]?
  := by
  rw [fastest?, h.fastestPosition?_eq, Option.bind_some]

/-- An endpoint that is selected leads at its position. -/
theorem exists_leadsAt {e : Endpoint} (h : fastest? es = some e) :
  ∃ i millis, LeadsAt es i millis ∧ e.latency = .reachable millis
  := by
  obtain ⟨i, position, there⟩ := Option.bind_eq_some_iff.1 h
  obtain ⟨millis, leads⟩ := leadsAt_of_fastestPosition? position
  use i, millis, leads
  simpa [there] using leads.time

/-! ### Two lists one after the other -/

/-- What leads still leads before endpoints that are not faster. -/
theorem LeadsAt.append_left (h : LeadsAt es i m)
    (notLess : ∀ f ∈ fs, ∀ n, f.latency = .reachable n → m ≤ n) :
  LeadsAt (es ++ fs) i m
  := by
  obtain ⟨e, mem, there, time⟩ := h.exists_mem
  have inside : i < es.length := (List.getElem?_eq_some_iff.1 there).1
  refine ⟨?_, ?_, ?_⟩
  · rw [List.getElem?_append_left inside, h.time]
  · intro x memAppend
    rcases List.mem_append.1 memAppend with left | right
    · exact h.least x left
    · exact notLess x right
  · intro j earlier x thereAppend
    rw [List.getElem?_append_left (Nat.lt_trans earlier inside)] at thereAppend
    exact h.first j earlier x thereAppend

/-- What leads still leads behind endpoints that are slower. -/
theorem LeadsAt.append_right (h : LeadsAt fs j n)
    (slower : ∀ e ∈ es, ∀ m, e.latency = .reachable m → n < m) :
  LeadsAt (es ++ fs) (es.length + j) n
  := by
  refine ⟨?_, ?_, ?_⟩
  · rw [List.getElem?_append_right (Nat.le_add_right _ _), Nat.add_sub_cancel_left, h.time]
  · intro x mem m time
    rcases List.mem_append.1 mem with left | right
    · exact UInt64.le_of_lt (slower x left m time)
    · exact h.least x right m time
  · intro k earlier x there
    by_cases left : k < es.length
    · rw [List.getElem?_append_left left] at there
      apply slower x (List.mem_of_getElem? there)
    · rw [List.getElem?_append_right (Nat.not_lt.1 left)] at there
      apply h.first (k - es.length) (by omega) x there

/-- Nothing of the first list is reachable, or the selection of the second is strictly faster than
that of the first. -/
def Overtaken (es fs : List Endpoint) : Prop :=
  fastest? es = none ∨
    ∃ e f, fastest? es = some e ∧ fastest? fs = some f ∧ f.latency.Faster e.latency

/-- What overtakes a list is faster than everything in it. -/
theorem Overtaken.slower (h : Overtaken es fs) (leads : LeadsAt fs j n) :
  ∀ e ∈ es, ∀ m, e.latency = .reachable m → n < m
  := by
  intro x mem k time
  rcases h with none | ⟨e, f, left, right, n', m', faster, slower, less⟩
  · have unreachable := fastest?_eq_none_iff.1 none x mem
    rw [time] at unreachable
    contradiction
  · obtain ⟨i, m, leads', time'⟩ := exists_leadsAt left
    obtain ⟨j', _, leads'', time''⟩ := exists_leadsAt right
    obtain ⟨rfl, rfl⟩ := leads.unique leads''
    obtain rfl := Latency.reachable.inj (time''.symm.trans faster)
    obtain rfl := Latency.reachable.inj (time'.symm.trans slower)
    exact UInt64.lt_of_lt_of_le less (leads'.least x mem k time)

/-- Nothing behind a list that is not overtaken is faster than what leads it. -/
theorem le_of_not_overtaken (h : ¬ Overtaken es fs) (leads : LeadsAt es i m) :
  ∀ f ∈ fs, ∀ n, f.latency = .reachable n → m ≤ n
  := by
  intro x mem n time
  obtain ⟨e, -, there, time'⟩ := leads.exists_mem
  cases found : fastest? fs with
  | none =>
    have unreachable := fastest?_eq_none_iff.1 found x mem
    rw [time] at unreachable
    contradiction
  | some f =>
    obtain ⟨j, least, leads', time''⟩ := exists_leadsAt found
    have stands : ¬ least < m := by
      intro less
      exact h (.inr ⟨e, f, leads.fastest?_eq.trans there, found, least, m, time'', time', less⟩)
    exact UInt64.le_trans (UInt64.not_lt.1 stands) (leads'.least x mem n time)

theorem fastestPosition?_append_of_overtaken (h : Overtaken es fs) :
  fastestPosition? (es ++ fs) = (fastestPosition? fs).map (es.length + ·)
  := by
  cases found : fastestPosition? fs with
  | none =>
    rw [fastestPosition?_eq_none_iff] at found
    rw [Option.map_none, fastestPosition?_eq_none_iff]
    rcases h with none | ⟨e, f, -, selected, -⟩
    · exact List.forall_mem_append.2 ⟨fastest?_eq_none_iff.1 none, found⟩
    · rw [fastest?_eq_none_iff.2 found] at selected
      contradiction
  | some j =>
    obtain ⟨n, leads⟩ := leadsAt_of_fastestPosition? found
    exact (leads.append_right (h.slower leads)).fastestPosition?_eq

theorem exists_leadsAt_of_not_overtaken (h : ¬ Overtaken es fs) :
  ∃ i m, LeadsAt es i m ∧ LeadsAt (es ++ fs) i m
  := by
  obtain ⟨e, found⟩ := Option.ne_none_iff_exists'.1 fun none => h (.inl none)
  obtain ⟨i, m, leads, -⟩ := exists_leadsAt found
  exact ⟨i, m, leads, leads.append_left (le_of_not_overtaken h leads)⟩

/-- The selection is the first of the least: there is none exactly when nothing is reachable, and
otherwise one position leads and its endpoint is selected.  Of two lists one after the other, the
selection of the first stands unless it is overtaken. -/
theorem selects_first_least (es fs : List Endpoint) :
  (fastest? es = none ↔ ∀ e ∈ es, e.latency.isReachable = false) ∧
  ((∃ e ∈ es, e.latency.isReachable) → ∃! i, ∃ millis, LeadsAt es i millis) ∧
  (∀ i millis, LeadsAt es i millis → fastestPosition? es = some i ∧ fastest? es = es[i]?) ∧
  (Overtaken es fs →
    fastestPosition? (es ++ fs) = (fastestPosition? fs).map (es.length + ·) ∧
    fastest? (es ++ fs) = fastest? fs) ∧
  (¬ Overtaken es fs →
    fastestPosition? (es ++ fs) = fastestPosition? es ∧
    fastest? (es ++ fs) = fastest? es)
  := by
  refine ⟨fastest?_eq_none_iff, ?_, ?_, ?_, ?_⟩
  · rintro ⟨e, mem, reachable⟩
    cases found : fastestPosition? es with
    | none => simp [fastestPosition?_eq_none_iff.1 found e mem] at reachable
    | some i =>
      use i, leadsAt_of_fastestPosition? found
      rintro j ⟨millis, leads⟩
      rw [leads.fastestPosition?_eq] at found
      exact Option.some.inj found
  · intro i millis leads
    exact ⟨leads.fastestPosition?_eq, leads.fastest?_eq⟩
  · intro overtaken
    have position := fastestPosition?_append_of_overtaken overtaken
    have shifted (j : Nat) : (es ++ fs)[es.length + j]? = fs[j]? := by
      rw [List.getElem?_append_right (Nat.le_add_right _ _), Nat.add_sub_cancel_left]
    use position
    rw [fastest?, position, Option.bind_map, fastest?]
    congr 1
    funext j
    apply shifted
  · intro stands
    obtain ⟨i, m, leads, leads'⟩ := exists_leadsAt_of_not_overtaken stands
    obtain ⟨e, -, there, -⟩ := leads.exists_mem
    have inside : i < es.length := (List.getElem?_eq_some_iff.1 there).1
    rw [leads'.fastestPosition?_eq, leads.fastestPosition?_eq, leads'.fastest?_eq, leads.fastest?_eq,
      List.getElem?_append_left inside]
    exact ⟨rfl, rfl⟩

end Endpoint

end MeshOnboard
