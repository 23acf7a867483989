import MeshOnboard.Proofs.Files.Pruning

/-!
# Writing files

A file that was written is read with what was written.  `Tree.Grown t t'` says that `t'` is `t` with
more directories, at places where nothing was, and a file reads the same in a tree that has grown.
-/

namespace MeshOnboard.Tree

theorem node?_put (t : Tree) (p q : Place) (n : FileNode) :
  (t.put p n).node? q = if q = p ∧ p ≠ [] then some n else t.node? q
  := by
  unfold node? put
  by_cases root : q = []
  · subst root
    simp [eq_comm (a := ([] : Place))]
  · rw [if_neg root, if_neg root, Table.find?_put]
    by_cases same : q = p
    · subst same
      simp [root]
    · simp [same]

/-- A file is written at the place that its path leads to, where there is no directory. -/
theorem exists_of_write {t t' : Tree} {p : Path} {content : List UInt8}
    (h : t.write p content = (t', .ok ())) :
  ∃ place, t.locate p = .ok place ∧ t.node? place ≠ some .directory ∧
    t' = t.put place (.file content)
  := by
  unfold write at h
  split at h
  · simp at h
  · next place located =>
    split at h
    · simp at h
    · next notDirectory => exact ⟨place, located, notDirectory, (Prod.mk.inj h).1.symm⟩

/-- Directories stay when a file is put where there is none. -/
theorem directory_put {t : Tree} {place q : Place} {content : List UInt8}
    (notDirectory : t.node? place ≠ some .directory) (directory : t.node? q = some .directory) :
  (t.put place (.file content)).node? q = some .directory
  := by
  rw [node?_put, if_neg, directory]
  rintro ⟨rfl, -⟩
  exact notDirectory directory

/-- A file that was written is read. -/
theorem read_write {t t' : Tree} {p : Path} {content : List UInt8}
    (h : t.write p content = (t', .ok ())) :
  t'.read p = .ok content
  := by
  obtain ⟨place, located, notDirectory, rfl⟩ := exists_of_write h
  have notRoot : place ≠ [] := by
    rintro rfl
    exact notDirectory (if_pos rfl)
  rw [read_eq_ok_iff]
  refine ⟨place, locate_eq_ok (fun q => directory_put notDirectory) located, ?_⟩
  rw [node?_put, if_pos ⟨rfl, notRoot⟩]

theorem put_eq_self {t : Tree} {place : Place} {content : List UInt8}
    (h : t.node? place = some (.file content)) :
  t.put place (.file content) = t
  := by
  unfold node? at h
  split at h
  · simp at h
  · rw [put, Table.put_eq_self h]

/-- To write what a file holds changes nothing. -/
theorem write_eq_self {t : Tree} {p : Path} {content : List UInt8} (h : t.read p = .ok content) :
  t.write p content = (t, .ok ())
  := by
  obtain ⟨place, located, file⟩ := read_eq_ok_iff.1 h
  simp only [write, located, file, put_eq_self file]

/-- A file reads the same when another is written. -/
theorem read_write_of_ne {t t' : Tree} {p other : Path} {content content' : List UInt8}
    (h : t.write other content' = (t', .ok ()))
    (ne : ∀ place, t.locate p = .ok place → t.locate other ≠ .ok place)
    (was : t.read p = .ok content) :
  t'.read p = .ok content
  := by
  obtain ⟨place', located', notDirectory, rfl⟩ := exists_of_write h
  obtain ⟨place, located, file⟩ := read_eq_ok_iff.1 was
  rw [read_eq_ok_iff]
  refine ⟨place, locate_eq_ok (fun q => directory_put notDirectory) located, ?_⟩
  rw [node?_put, if_neg, file]
  rintro ⟨rfl, -⟩
  exact ne place located located'

theorem eq_of_write_error {t t' : Tree} {p : Path} {content : List UInt8} {e : FileError}
    (h : t.write p content = (t', .error e)) :
  t' = t
  := by
  unfold write at h
  split at h
  · exact (Prod.mk.inj h).1.symm
  · split at h
    · exact (Prod.mk.inj h).1.symm
    · simp at h

/-! ### Trees with more directories -/

/-- `t'` is `t` with more directories, at places where nothing was. -/
def Grown (t t' : Tree) : Prop :=
  ∀ q, t'.node? q = t.node? q ∨ t.node? q = none ∧ t'.node? q = some .directory

variable {t t' : Tree}

theorem Grown.refl (t : Tree) :
  Grown t t
  := fun _ => .inl rfl

/-- What was at a place is still there. -/
theorem Grown.node?_eq_some (h : Grown t t') {q : Place} {n : FileNode} (was : t.node? q = some n) :
  t'.node? q = some n
  := by
  rcases h q with same | ⟨none, -⟩
  · rw [same, was]
  · simp [none] at was

/-- A file reads the same. -/
theorem Grown.read_eq_ok (h : Grown t t') {p : Path} {content : List UInt8}
    (was : t.read p = .ok content) :
  t'.read p = .ok content
  := by
  rw [read_eq_ok_iff] at was ⊢
  obtain ⟨place, located, file⟩ := was
  exact ⟨place, locate_eq_ok (fun q => h.node?_eq_some) located, h.node?_eq_some file⟩

end MeshOnboard.Tree
