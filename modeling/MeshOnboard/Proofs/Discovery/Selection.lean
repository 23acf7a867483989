import MeshOnboard.Discovery.Endpoint
import Mathlib.Data.List.Basic

/-!
# Selection of the fastest endpoint

`Endpoint.Leads` says that an endpoint is reachable, strictly faster than every reachable endpoint
before it and at least as fast as every one after it.  This is the endpoint that
`Endpoint.fastest?` gives (`fastest?_eq_some_iff`); it gives none exactly when no endpoint is
reachable.  An endpoint that leads still leads when others are left out.
-/

namespace MeshOnboard

namespace Endpoint

theorem leastTime?_unreachable (reason : ProbeFailure) (ls : List Latency) :
  leastTime? (.unreachable reason :: ls) =
    (leastTime? ls).map fun (i, millis) => (i + 1, millis)
  := by
  simp [leastTime?]

theorem leastTime?_reachable_of_none {ls : List Latency} (millis : UInt64)
    (h : leastTime? ls = none) :
  leastTime? (.reachable millis :: ls) = some (0, millis)
  := by
  simp [leastTime?, h]

theorem leastTime?_reachable_of_some {ls : List Latency} {i : Nat} {least : UInt64}
    (millis : UInt64) (h : leastTime? ls = some (i, least)) :
  leastTime? (.reachable millis :: ls) =
    if least < millis then some (i + 1, least) else some (0, millis)
  := by
  simp [leastTime?, h]

/-- There is a least time unless nothing is reachable. -/
theorem leastTime?_eq_none_iff {ls : List Latency} :
  leastTime? ls = none ↔ ∀ l ∈ ls, l.isReachable = false
  := by
  induction ls with
  | nil => simp [leastTime?]
  | cons l ls ih =>
    cases l with
    | unreachable reason =>
      simp [leastTime?_unreachable, ih, Latency.isReachable, Latency.millis?]
    | reachable millis =>
      have some : leastTime? (.reachable millis :: ls) ≠ none := by
        cases h : leastTime? ls with
        | none => simp [leastTime?_reachable_of_none millis h]
        | some least =>
          rw [leastTime?_reachable_of_some millis h]
          split <;> simp
      simp [some, Latency.isReachable, Latency.millis?]

/-- The least time stands first at a place before which all times are greater and after which none
is less. -/
theorem exists_of_leastTime? {ls : List Latency} {i : Nat} {least : UInt64}
    (h : leastTime? ls = some (i, least)) :
  ∃ before after, ls = before ++ .reachable least :: after ∧ before.length = i ∧
    (∀ millis, .reachable millis ∈ before → least < millis) ∧
    ∀ millis, .reachable millis ∈ after → least ≤ millis
  := by
  induction ls generalizing i least with
  | nil => simp [leastTime?] at h
  | cons l ls ih =>
    cases l with
    | unreachable reason =>
      rw [leastTime?_unreachable] at h
      obtain ⟨⟨j, least⟩, later, same⟩ := Option.map_eq_some_iff.1 h
      obtain ⟨rfl, rfl⟩ := Prod.mk.inj same
      obtain ⟨before, after, rfl, rfl, greater, notLess⟩ := ih later
      exact ⟨.unreachable reason :: before, after, rfl, rfl, by simpa using greater, notLess⟩
    | reachable millis =>
      cases later : leastTime? ls with
      | none =>
        rw [leastTime?_reachable_of_none millis later] at h
        obtain ⟨rfl, rfl⟩ := Prod.mk.inj (Option.some.inj h)
        use [], ls, rfl, rfl, by simp
        intro m hm
        have := leastTime?_eq_none_iff.1 later _ hm
        simp [Latency.isReachable, Latency.millis?] at this
      | some found =>
        obtain ⟨j, next⟩ := found
        rw [leastTime?_reachable_of_some millis later] at h
        obtain ⟨before, after, rfl, rfl, greater, notLess⟩ := ih later
        split at h
        · next less =>
          obtain ⟨rfl, rfl⟩ := Prod.mk.inj (Option.some.inj h)
          refine ⟨.reachable millis :: before, after, rfl, rfl, ?_, notLess⟩
          intro m hm
          rcases List.mem_cons.1 hm with same | hm
          · rwa [Latency.reachable.inj same]
          · apply greater m hm
        · next notLess' =>
          obtain ⟨rfl, rfl⟩ := Prod.mk.inj (Option.some.inj h)
          have le : millis ≤ next := UInt64.not_lt.1 notLess'
          refine ⟨[], _, rfl, rfl, by simp, ?_⟩
          intro m hm
          rcases List.mem_append.1 hm with hm | hm
          · apply UInt64.le_trans le (UInt64.le_of_lt (greater m hm))
          rcases List.mem_cons.1 hm with same | hm
          · rwa [Latency.reachable.inj same]
          · apply UInt64.le_trans le (notLess m hm)

/-- Reachable, strictly faster than every reachable endpoint before it and at least as fast as every
reachable endpoint after it. -/
def Leads (e : Endpoint) (es : List Endpoint) : Prop :=
  ∃ before after millis, es = before ++ e :: after ∧ e.latency = .reachable millis ∧
    (∀ x ∈ before, ∀ m, x.latency = .reachable m → millis < m) ∧
    ∀ x ∈ after, ∀ m, x.latency = .reachable m → millis ≤ m

theorem Leads.mem {e : Endpoint} {es : List Endpoint} (h : e.Leads es) :
  e ∈ es
  := by
  obtain ⟨before, after, -, rfl, -⟩ := h
  apply List.mem_append_cons_self

theorem Leads.isReachable {e : Endpoint} {es : List Endpoint} (h : e.Leads es) :
  e.latency.isReachable = true
  := by
  obtain ⟨-, -, millis, -, time, -⟩ := h
  rw [time]
  rfl

/-- An endpoint that leads still leads when others are left out. -/
theorem Leads.filter {e : Endpoint} {es : List Endpoint} (h : e.Leads es) {keep : Endpoint → Bool}
    (kept : keep e = true) :
  e.Leads (es.filter keep)
  := by
  obtain ⟨before, after, millis, rfl, time, greater, notLess⟩ := h
  refine ⟨before.filter keep, after.filter keep, millis, ?_, time, ?_, ?_⟩
  · rw [List.filter_append, List.filter_cons_of_pos kept]
  · intro x hx
    apply greater x (List.mem_of_mem_filter hx)
  · intro x hx
    apply notLess x (List.mem_of_mem_filter hx)

/-- Of two endpoints that lead, neither stands before the other. -/
private theorem eq_of_leads_before {e e' : Endpoint} {between after after' : List Endpoint}
    {millis millis' : UInt64} (same : e :: after = between ++ e' :: after')
    (time : e.latency = .reachable millis) (time' : e'.latency = .reachable millis')
    (notLess : ∀ x ∈ after, ∀ m, x.latency = .reachable m → millis ≤ m)
    (greater : ∀ x ∈ between, ∀ m, x.latency = .reachable m → millis' < m) :
  e = e'
  := by
  cases between with
  | nil => exact (List.cons.inj same).1
  | cons first between =>
    obtain ⟨rfl, rfl⟩ := List.cons.inj same
    have less := greater e List.mem_cons_self millis time
    have le := notLess e' List.mem_append_cons_self millis' time'
    exact absurd less (UInt64.not_lt.2 le)

/-- At most one endpoint leads. -/
theorem Leads.unique {e e' : Endpoint} {es : List Endpoint} (h : e.Leads es) (h' : e'.Leads es) :
  e = e'
  := by
  obtain ⟨before, after, millis, rfl, time, greater, notLess⟩ := h
  obtain ⟨before', after', millis', same, time', greater', notLess'⟩ := h'
  obtain ⟨between, rfl, rest⟩ | ⟨between, rfl, rest⟩ := List.append_eq_append_iff.1 same
  · apply eq_of_leads_before rest time time' notLess
    intro x hx
    apply greater' x (List.mem_append_right _ hx)
  · symm
    apply eq_of_leads_before rest time' time notLess'
    intro x hx
    apply greater x (List.mem_append_right _ hx)

/-- The fastest endpoint stands at a place before which all are slower and after which none is
faster. -/
theorem exists_of_fastestPosition? {es : List Endpoint} {i : Nat}
    (h : fastestPosition? es = some i) :
  ∃ before e after millis, es = before ++ e :: after ∧ before.length = i ∧
    e.latency = .reachable millis ∧
    (∀ x ∈ before, ∀ m, x.latency = .reachable m → millis < m) ∧
    ∀ x ∈ after, ∀ m, x.latency = .reachable m → millis ≤ m
  := by
  obtain ⟨⟨i, least⟩, found, rfl⟩ := Option.map_eq_some_iff.1 h
  obtain ⟨before, after, split, rfl, greater, notLess⟩ := exists_of_leastTime? found
  obtain ⟨before, rest, rfl, rfl, cut⟩ := List.map_eq_append_iff.1 split
  obtain ⟨e, after, rfl, time, rfl⟩ := List.map_eq_cons_iff.1 cut
  refine ⟨before, e, after, least, rfl, by simp, time, ?_, ?_⟩
  · intro x hx m hm
    apply greater m (hm ▸ List.mem_map_of_mem hx)
  · intro x hx m hm
    apply notLess m (hm ▸ List.mem_map_of_mem hx)

theorem leads_of_fastest? {e : Endpoint} {es : List Endpoint} (h : fastest? es = some e) :
  e.Leads es
  := by
  obtain ⟨i, position, there⟩ := Option.bind_eq_some_iff.1 h
  obtain ⟨before, e', after, millis, rfl, rfl, leads⟩ := exists_of_fastestPosition? position
  obtain rfl : e' = e := by simpa using there
  exact ⟨before, after, millis, rfl, leads⟩

theorem fastestPosition?_eq_none_iff {es : List Endpoint} :
  fastestPosition? es = none ↔ ∀ e ∈ es, e.latency.isReachable = false
  := by
  rw [fastestPosition?, Option.map_eq_none_iff, leastTime?_eq_none_iff, List.forall_mem_map]

/-- There is a fastest endpoint unless none is reachable. -/
theorem fastest?_eq_none_iff {es : List Endpoint} :
  fastest? es = none ↔ ∀ e ∈ es, e.latency.isReachable = false
  := by
  rw [← fastestPosition?_eq_none_iff]
  constructor
  · intro h
    by_contra found
    obtain ⟨i, position⟩ := Option.ne_none_iff_exists'.1 found
    obtain ⟨before, e, after, millis, rfl, rfl, -⟩ := exists_of_fastestPosition? position
    simp [fastest?, position] at h
  · intro h
    rw [fastest?, h, Option.bind_none]

/-- The fastest endpoint is the one that leads. -/
theorem fastest?_eq_some_iff {e : Endpoint} {es : List Endpoint} :
  fastest? es = some e ↔ e.Leads es
  := by
  use leads_of_fastest?
  intro leads
  cases found : fastest? es with
  | none =>
    have unreachable := fastest?_eq_none_iff.1 found e leads.mem
    rw [leads.isReachable] at unreachable
    contradiction
  | some e' => rw [(leads_of_fastest? found).unique leads]

end Endpoint

end MeshOnboard
