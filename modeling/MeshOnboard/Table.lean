/-!
# Tables

A `Table κ ν` maps finitely many keys to values and keeps the order in which the keys came first.
A table is read through `find?`; `put` and `erase` are described by what they do to it, and two
tables with the same `entries` are equal.
-/

namespace MeshOnboard

/-- A finite map whose keys stand in the order of their first insertion. -/
structure Table (κ : Type) (ν : Type) where
  entries : List (κ × ν)
  nodup : (entries.map Prod.fst).Nodup

namespace Table

variable {κ ν : Type}

theorem ext_entries {s t : Table κ ν} (h : s.entries = t.entries) :
  s = t
  := by
  cases s
  cases t
  cases h
  rfl

/-- The table without keys. -/
def empty : Table κ ν := ⟨[], List.nodup_nil⟩

instance : EmptyCollection (Table κ ν) := ⟨empty⟩

instance : Inhabited (Table κ ν) := ⟨∅⟩

/-- The keys, in order. -/
def keys (t : Table κ ν) : List κ := t.entries.map Prod.fst

/-- The values, in the order of their keys. -/
def values (t : Table κ ν) : List ν := t.entries.map Prod.snd

/-- The number of keys. -/
def size (t : Table κ ν) : Nat := t.entries.length

@[simp]
theorem keys_empty :
  (∅ : Table κ ν).keys = []
  := rfl

@[simp]
theorem size_empty :
  (∅ : Table κ ν).size = 0
  := rfl

theorem nodup_keys (t : Table κ ν) :
  t.keys.Nodup
  := t.nodup

theorem length_keys (t : Table κ ν) :
  t.keys.length = t.size
  := by
  simp [keys, size]

variable [DecidableEq κ]

/-- The value of a key. -/
def find? (t : Table κ ν) (k : κ) : Option ν := t.entries.lookup k

/-- The value of `k` in `entries` replaced, or a new last entry when `k` has none. -/
private def putEntry (k : κ) (v : ν) : List (κ × ν) → List (κ × ν)
  | [] => [(k, v)]
  | e :: es => if e.1 = k then (k, v) :: es else e :: putEntry k v es

private theorem mem_keys_putEntry {k x : κ} {v : ν} {es : List (κ × ν)} :
  x ∈ (putEntry k v es).map Prod.fst ↔ x = k ∨ x ∈ es.map Prod.fst
  := by
  induction es with
  | nil => simp [putEntry]
  | cons e es ih =>
    unfold putEntry
    split
    · next h =>
      subst h
      simp
    · simp only [List.map_cons, List.mem_cons, ih]
      constructor
      · rintro (h | h | h)
        · exact .inr (.inl h)
        · exact .inl h
        · exact .inr (.inr h)
      · rintro (h | h | h)
        · exact .inr (.inl h)
        · exact .inl h
        · exact .inr (.inr h)

private theorem nodup_putEntry (k : κ) (v : ν) {es : List (κ × ν)}
    (h : (es.map Prod.fst).Nodup) :
  ((putEntry k v es).map Prod.fst).Nodup
  := by
  induction es with
  | nil => simp [putEntry]
  | cons e es ih =>
    simp only [List.map_cons, List.nodup_cons] at h
    unfold putEntry
    split
    · next hk =>
      subst hk
      simpa using h
    · next hk =>
      simp only [List.map_cons, List.nodup_cons, mem_keys_putEntry, not_or]
      exact ⟨⟨hk, h.1⟩, ih h.2⟩

/-- The table in which `k` has the value `v`. -/
def put (t : Table κ ν) (k : κ) (v : ν) : Table κ ν :=
  ⟨putEntry k v t.entries, nodup_putEntry k v t.nodup⟩

/-- The table without the key `k`. -/
def erase (t : Table κ ν) (k : κ) : Table κ ν where
  entries := t.entries.filter fun e => e.1 ≠ k
  nodup := t.nodup.sublist (List.filter_sublist.map _)

/-- The table with the given entries; of several values of one key the last one counts. -/
def ofList (es : List (κ × ν)) : Table κ ν :=
  es.foldl (fun t e => t.put e.1 e.2) ∅

/-- The table with one key. -/
def single (k : κ) (v : ν) : Table κ ν := (∅ : Table κ ν).put k v

/-- The value of `k` changed by `f`, which gets `none` when `k` has none. -/
def alter (t : Table κ ν) (k : κ) (f : Option ν → ν) : Table κ ν :=
  t.put k (f (t.find? k))

/-! ### What the operations do to the view -/

@[simp]
theorem find?_empty (k : κ) :
  (∅ : Table κ ν).find? k = none
  := rfl

private theorem lookup_cons_ite (x : κ) (e : κ × ν) (es : List (κ × ν)) :
  (e :: es).lookup x = if x = e.1 then some e.2 else es.lookup x
  := by
  obtain ⟨k, v⟩ := e
  by_cases h : x = k
  · simp [h]
  · have hx : (x == k) = false := by simpa using h
    simp [List.lookup_cons, h, hx]

/-- Among pairs made from the elements of a list the first element with the key is found, whichever
lawful comparison the keys are looked up with. -/
theorem lookup_map {α β : Type} [BEq β] [LawfulBEq β] [DecidableEq β] (key : α → β)
    (value : α → ν) (as : List α) (x : β) :
  (as.map fun a => (key a, value a)).lookup x = (as.find? fun a => key a = x).map value
  := by
  induction as with
  | nil => rfl
  | cons a as ih =>
    by_cases h : key a = x
    · simp [h]
    · have other : (x == key a) = false := by simpa using Ne.symm h
      simp [List.lookup_cons, h, other, ih]

private theorem lookup_putEntry (k x : κ) (v : ν) (es : List (κ × ν)) :
  (putEntry k v es).lookup x = if x = k then some v else es.lookup x
  := by
  induction es with
  | nil => simp [putEntry, lookup_cons_ite]
  | cons e es ih =>
    unfold putEntry
    split
    · next hk =>
      subst hk
      simp only [lookup_cons_ite]
      split <;> rfl
    · next hk =>
      simp only [lookup_cons_ite, ih]
      by_cases h : x = e.1
      · subst h
        simp [hk]
      · simp [h]

/-- After `put` the key has the new value and every other key the value it had. -/
theorem find?_put (t : Table κ ν) (k x : κ) (v : ν) :
  (t.put k v).find? x = if x = k then some v else t.find? x
  := lookup_putEntry k x v t.entries

@[simp]
theorem find?_put_self (t : Table κ ν) (k : κ) (v : ν) :
  (t.put k v).find? k = some v
  := by
  simp [find?_put]

private theorem putEntry_eq_self {k : κ} {v : ν} {es : List (κ × ν)} (h : es.lookup k = some v) :
  putEntry k v es = es
  := by
  induction es with
  | nil => simp at h
  | cons e es ih =>
    rw [lookup_cons_ite] at h
    unfold putEntry
    split
    · next same =>
      rw [if_pos same.symm] at h
      rw [← same, ← Option.some.inj h]
    · next other =>
      rw [if_neg (Ne.symm other)] at h
      rw [ih h]

/-- To put the value that a key has changes nothing. -/
theorem put_eq_self {t : Table κ ν} {k : κ} {v : ν} (h : t.find? k = some v) :
  t.put k v = t
  := ext_entries (putEntry_eq_self h)

theorem find?_alter (t : Table κ ν) (k x : κ) (f : Option ν → ν) :
  (t.alter k f).find? x = if x = k then some (f (t.find? x)) else t.find? x
  := by
  rw [alter, find?_put]
  split
  · next same => rw [same]
  · rfl

private theorem lookup_filter_ne (k x : κ) (es : List (κ × ν)) :
  (es.filter fun e => e.1 ≠ k).lookup x = if x = k then none else es.lookup x
  := by
  induction es with
  | nil => simp
  | cons e es ih =>
    by_cases hk : e.1 = k
    · rw [List.filter_cons_of_neg (by simpa using hk), ih, lookup_cons_ite]
      split
      · rfl
      · next hx =>
        rw [if_neg]
        rintro rfl
        exact hx hk
    · rw [List.filter_cons_of_pos (by simpa using hk)]
      simp only [lookup_cons_ite, ih]
      by_cases h : x = e.1
      · subst h
        simp [hk]
      · simp [h]

/-- After `erase` the key has no value and every other key the value it had. -/
theorem find?_erase (t : Table κ ν) (k x : κ) :
  (t.erase k).find? x = if x = k then none else t.find? x
  := lookup_filter_ne k x t.entries

theorem mem_keys_put {t : Table κ ν} {k x : κ} {v : ν} :
  x ∈ (t.put k v).keys ↔ x = k ∨ x ∈ t.keys
  := mem_keys_putEntry

theorem mem_keys_iff {t : Table κ ν} {k : κ} :
  k ∈ t.keys ↔ (t.find? k).isSome
  := by
  obtain ⟨es, h⟩ := t
  simp only [keys, find?]
  clear h
  induction es with
  | nil => simp
  | cons e es ih =>
    rw [lookup_cons_ite, List.map_cons, List.mem_cons, ih]
    by_cases hk : k = e.1
    · simp [hk]
    · simp [hk]

theorem find?_eq_some_iff {t : Table κ ν} {k : κ} {v : ν} :
  t.find? k = some v ↔ (k, v) ∈ t.entries
  := by
  obtain ⟨es, h⟩ := t
  simp only [find?]
  induction es with
  | nil => simp
  | cons e es ih =>
    obtain ⟨x, w⟩ := e
    obtain ⟨hx, hes⟩ := List.nodup_cons.1 h
    rw [lookup_cons_ite, List.mem_cons, Prod.mk.injEq]
    split
    · next hk =>
      -- the remaining entries have other keys
      have hv : (k, v) ∉ es := fun hv => hx (hk ▸ List.mem_map_of_mem hv)
      simp [hk ▸ hv, hk, eq_comm]
    · next hk =>
      rw [ih hes]
      simp [hk]

/-! ### Tables with one key -/

@[simp]
theorem put_empty (k : κ) (v : ν) :
  (∅ : Table κ ν).put k v = single k v
  := rfl

@[simp]
theorem put_single (k : κ) (v w : ν) :
  (single k v).put k w = single k w
  := by
  apply ext_entries
  simp [single, put, putEntry, EmptyCollection.emptyCollection, empty]

@[simp]
theorem erase_empty (k : κ) :
  (∅ : Table κ ν).erase k = ∅
  := rfl

@[simp]
theorem erase_single (k : κ) (v : ν) :
  (single k v).erase k = ∅
  := by
  apply ext_entries
  simp [single, put, putEntry, erase, EmptyCollection.emptyCollection, empty]

@[simp]
theorem keys_single (k : κ) (v : ν) :
  (single k v).keys = [k]
  := rfl

theorem find?_single (k x : κ) (v : ν) :
  (single k v).find? x = if x = k then some v else none
  := find?_put ∅ k x v

theorem find?_single_eq_some {k x : κ} {v w : ν} :
  (single k v).find? x = some w ↔ x = k ∧ w = v
  := by
  rw [find?_single]
  split
  · next h => simp [h, eq_comm]
  · next h => simp [h]

/-! ### Tables from lists -/

private theorem foldl_put_concat (es : List (κ × ν)) (k : κ) (v : ν) :
  ofList (es ++ [(k, v)]) = (ofList es).put k v
  := by
  simp [ofList, List.foldl_append]

/-- In a table from a list a key has the value that stands last beside it. -/
theorem find?_ofList (es : List (κ × ν)) (k : κ) :
  (ofList es).find? k = es.reverse.lookup k
  := by
  rw [← es.reverse_reverse]
  generalize es.reverse = fs
  induction fs with
  | nil => rfl
  | cons e fs ih =>
    rw [List.reverse_cons, foldl_put_concat, find?_put, ih, List.reverse_append]
    simp only [List.reverse_reverse, List.reverse_cons, List.reverse_nil, List.nil_append,
      List.singleton_append, lookup_cons_ite]

/-- The keys of a table from a list are those that stand in the list. -/
theorem mem_keys_ofList {es : List (κ × ν)} {k : κ} :
  k ∈ (ofList es).keys ↔ k ∈ es.map Prod.fst
  := by
  rw [← es.reverse_reverse]
  generalize es.reverse = fs
  induction fs with
  | nil => simp [ofList]
  | cons e fs ih =>
    rw [List.reverse_cons, foldl_put_concat, mem_keys_put, ih]
    simp [or_comm]

end Table

end MeshOnboard
