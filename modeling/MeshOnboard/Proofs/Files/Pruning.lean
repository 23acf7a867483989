import MeshOnboard.Files.Tree

/-!
# Removing files

`Tree.Pruned gone t t'` says that `t'` is `t` without some of its files, all of them at places that
satisfy `gone`.  Directories are the same in both, so paths lead to the same places, and what is at
a place that does not satisfy `gone` is the same.  `Tree.IsVacant t p` says that the path `p` leads
to nothing: so it does once a file is removed there, whatever is removed afterwards.
-/

namespace MeshOnboard.Tree

/-! ### Following names one after the other -/

theorem follow_append (t : Tree) (here : Place) (names later : List FileName) :
  t.follow here (names ++ later) = (t.follow here names).bind fun there => t.follow there later
  := by
  induction names generalizing here with
  | nil => rfl
  | cons name names ih =>
    rw [List.cons_append, follow, follow]
    cases t.step here name with
    | error e => rfl
    | ok next => exact ih next

/-- A name leads on only from a directory. -/
theorem node?_of_step {t : Tree} {here there : Place} {name : FileName}
    (h : t.step here name = .ok there) :
  t.node? here = some .directory
  := by
  unfold step at h
  split at h
  · contradiction
  · contradiction
  · assumption

/-- A name that is not one of the two for the directory itself and the one above it leads to a
place in the directory. -/
theorem place_of_step {t : Tree} {here there : Place} {name : FileName} (stays : name ≠ ['.'])
    (up : name ≠ ['.', '.']) (h : t.step here name = .ok there) :
  there = here ++ [name]
  := by
  rw [step, node?_of_step h] at h
  simp only [if_neg stays, if_neg up] at h
  split at h
  · contradiction
  · exact (Except.ok.inj h).symm

/-- Names lead to the same places in a tree that has the same directories and maybe more. -/
theorem follow_eq_ok {t t' : Tree}
    (kept : ∀ q, t.node? q = some .directory → t'.node? q = some .directory) {here there : Place}
    {names : List FileName} (h : t.follow here names = .ok there) :
  t'.follow here names = .ok there
  := by
  induction names generalizing here with
  | nil => exact h
  | cons name names ih =>
    rw [follow] at h
    cases stepped : t.step here name with
    | error e =>
      rw [stepped] at h
      contradiction
    | ok next =>
      have directory := node?_of_step stepped
      rw [stepped] at h
      rw [step, directory] at stepped
      rw [follow, step, kept here directory, stepped]
      exact ih h

/-- A path that is located is located again in a tree that has the same directories and maybe
more. -/
theorem locate_eq_ok {t t' : Tree}
    (kept : ∀ q, t.node? q = some .directory → t'.node? q = some .directory) {p : Path}
    {place : Place} (h : t.locate p = .ok place) :
  t'.locate p = .ok place
  := by
  unfold locate at h ⊢
  cases named : namesOf p with
  | error e =>
    rw [named] at h
    contradiction
  | ok names =>
    rw [named] at h
    exact follow_eq_ok kept h

theorem read_eq_ok_iff {t : Tree} {p : Path} {content : List UInt8} :
  t.read p = .ok content ↔
    ∃ place, t.locate p = .ok place ∧ t.node? place = some (.file content)
  := by
  unfold read
  cases t.locate p with
  | error e => simp
  | ok place =>
    cases at_place : t.node? place with
    | none => simp [at_place]
    | some node =>
      cases node with
      | directory => simp [at_place]
      | file content' => simp [at_place]

/-- What is read depends only on what is at the places. -/
theorem read_congr {t t' : Tree} (same : ∀ q, t'.node? q = t.node? q) (p : Path) :
  t'.read p = t.read p
  := by
  have step (here : Place) (name : FileName) : t'.step here name = t.step here name := by
    rw [Tree.step, Tree.step, same]
  have follow (here : Place) (names : List FileName) : t'.follow here names = t.follow here names := by
    induction names generalizing here with
    | nil => rfl
    | cons name names ih =>
      rw [Tree.follow, Tree.follow, step]
      congr 1
      funext next
      apply ih
  have locate : t'.locate p = t.locate p := by
    rw [Tree.locate, Tree.locate]
    congr 1
    funext names
    apply follow
  unfold read
  rw [locate]
  cases t.locate p with
  | error e => rfl
  | ok place => simp only [same]

/-! ### Names in a directory -/

/-- A name that leads from a directory to a place in it. -/
structure Proper (name : FileName) : Prop where
  nonempty : name ≠ []
  noSlash : '/' ∉ name
  stays : name ≠ ['.']
  up : name ≠ ['.', '.']

variable {name : FileName} {p : Path}

theorem eq_names_of_namesOf {names : List FileName} (h : namesOf p = .ok names) :
  names = p.names
  := by
  unfold namesOf at h
  split at h
  · contradiction
  split at h
  · contradiction
  split at h
  · contradiction
  · exact (Except.ok.inj h).symm

/-- A name joined to a path is followed from where the path leads to. -/
theorem locate_join (t : Tree) (proper : Proper name) :
  t.locate (p.join ⟨name⟩) =
    (namesOf (p.join ⟨name⟩)).bind fun _ =>
      (t.follow [] p.names).bind fun directory => t.step directory name
  := by
  rw [locate]
  cases h : namesOf (p.join ⟨name⟩) with
  | error e => rfl
  | ok names =>
    change t.follow [] names = (t.follow [] p.names).bind _
    rw [eq_names_of_namesOf h, p.names_join proper.nonempty proper.noSlash, follow_append]
    congr 1
    funext there
    rw [follow]
    cases t.step there name with
    | error e => rfl
    | ok next => rfl

/-- A path leads to a place in the directory that all its names but the last lead to. -/
theorem exists_of_locate {t : Tree} {names : List FileName} (split : p.names = names ++ [name])
    (stays : name ≠ ['.']) (up : name ≠ ['.', '.']) {q : Place} (h : t.locate p = .ok q) :
  ∃ directory, t.follow [] names = .ok directory ∧ t.node? directory = some .directory ∧
    q = directory ++ [name]
  := by
  unfold locate at h
  cases named : namesOf p with
  | error e => simp [named, Except.bind] at h
  | ok all =>
    rw [named, eq_names_of_namesOf named, split] at h
    simp only [Except.bind] at h
    rw [follow_append] at h
    cases found : t.follow [] names with
    | error e => simp [found, Except.bind] at h
    | ok directory =>
      simp only [found, Except.bind, follow] at h
      cases stepped : t.step directory name with
      | error e => simp [stepped] at h
      | ok there =>
        simp only [stepped, Except.ok.injEq] at h
        subst h
        exact ⟨directory, rfl, node?_of_step stepped, place_of_step stays up stepped⟩

/-- A name joined to a path leads to a place in the directory that the path leads to. -/
theorem exists_of_locate_join {t : Tree} (proper : Proper name) {q : Place}
    (h : t.locate (p.join ⟨name⟩) = .ok q) :
  ∃ directory, t.follow [] p.names = .ok directory ∧ t.node? directory = some .directory ∧
    q = directory ++ [name]
  := exists_of_locate (p.names_join proper.nonempty proper.noSlash) proper.stays proper.up h

/-! ### Trees without some files -/

/-- `t'` is `t` without some of its files, all of them at places that satisfy `gone`. -/
def Pruned (gone : Place → Prop) (t t' : Tree) : Prop :=
  ∀ q, t'.node? q = t.node? q ∨
    gone q ∧ t'.node? q = none ∧ ∃ content, t.node? q = some (.file content)

variable {gone : Place → Prop} {t t' t'' : Tree}

theorem Pruned.refl (gone : Place → Prop) (t : Tree) :
  Pruned gone t t
  := fun _ => .inl rfl

theorem Pruned.mono {gone' : Place → Prop} (h : Pruned gone t t') (sub : ∀ q, gone q → gone' q) :
  Pruned gone' t t'
  := by
  intro q
  rcases h q with same | ⟨here, none, file⟩
  · exact .inl same
  · exact .inr ⟨sub q here, none, file⟩

theorem Pruned.trans (h : Pruned gone t t') (h' : Pruned gone t' t'') :
  Pruned gone t t''
  := by
  intro q
  rcases h' q with same' | ⟨here, none, file⟩
  · rw [same']
    exact h q
  · rcases h q with same | ⟨_, none', _⟩
    · rw [same] at file
      exact .inr ⟨here, none, file⟩
    · simp [none'] at file

namespace Pruned

theorem node?_eq (h : Pruned gone t t') {q : Place} (spared : ¬ gone q) :
  t'.node? q = t.node? q
  := by
  rcases h q with same | ⟨here, -⟩
  · exact same
  · contradiction

/-- The directories are the same. -/
theorem directory_iff (h : Pruned gone t t') {q : Place} :
  t'.node? q = some .directory ↔ t.node? q = some .directory
  := by
  rcases h q with same | ⟨_, none, _, file⟩
  · rw [same]
  · simp [none, file]

/-- From a directory a name leads to the same. -/
theorem step_eq (h : Pruned gone t t') {here : Place} (directory : t.node? here = some .directory)
    (name : FileName) :
  t'.step here name = t.step here name
  := by
  rw [step, step, h.directory_iff.2 directory, directory]

/-- A path that leads to a place led to it before. -/
theorem ok_of_locate (h : Pruned gone t t') {q : Place} (found : t'.locate p = .ok q) :
  t.locate p = .ok q
  := locate_eq_ok (fun _ => h.directory_iff.1) found

/-- A file that is still there reads as before. -/
theorem read_eq_ok (h : Pruned gone t t') {content : List UInt8} (found : t'.read p = .ok content) :
  t.read p = .ok content
  := by
  rw [read_eq_ok_iff] at found ⊢
  obtain ⟨place, located, file⟩ := found
  rcases h place with same | ⟨-, none, -⟩
  · exact ⟨place, h.ok_of_locate located, same ▸ file⟩
  · simp [none] at file

/-- If files are gone only from the directory that a path leads to, and not the one with a given
name, that one reads the same. -/
theorem read_join (h : Pruned gone t t') (proper : Proper name)
    (inside : ∀ q, gone q →
      ∃ directory, t.follow [] p.names = .ok directory ∧ t.node? directory = some .directory)
    (spared : ∀ directory, t.follow [] p.names = .ok directory → ¬ gone (directory ++ [name])) :
  t'.read (p.join ⟨name⟩) = t.read (p.join ⟨name⟩)
  := by
  by_cases anyGone : ∃ q, gone q
  · obtain ⟨q, here⟩ := anyGone
    obtain ⟨directory, found, isDirectory⟩ := inside q here
    have located : t'.locate (p.join ⟨name⟩) = t.locate (p.join ⟨name⟩) := by
      rw [locate_join t' proper, locate_join t proper, found,
        follow_eq_ok (fun _ => h.directory_iff.2) found]
      simp only [Except.bind, h.step_eq isDirectory]
    unfold read
    rw [located]
    cases leads : t.locate (p.join ⟨name⟩) with
    | error e => rfl
    | ok place =>
      obtain ⟨directory, found, -, rfl⟩ := exists_of_locate_join proper leads
      simp only [h.node?_eq (spared directory found)]
  · apply read_congr
    intro q
    apply h.node?_eq
    intro here
    exact anyGone ⟨q, here⟩

end Pruned

theorem node?_erase (t : Tree) (p q : Place) :
  (t.erase p).node? q = if q = p ∧ p ≠ [] then none else t.node? q
  := by
  unfold node? erase
  simp only [Table.find?_erase]
  grind

/-- The removal of a file. -/
theorem pruned_remove (t : Tree) (p : Path) :
  Pruned (fun q => t.locate p = .ok q) t (t.remove p).1
  := by
  unfold remove
  split
  · apply Pruned.refl
  next place found =>
    split
    · apply Pruned.refl
    · apply Pruned.refl
    next content file =>
      intro q
      rw [node?_erase]
      split
      · next there => exact .inr ⟨by rw [found, there.1], rfl, content, there.1 ▸ file⟩
      · exact .inl rfl

/-! ### Paths that lead to nothing -/

/-- Nothing is where the path leads. -/
def IsVacant (t : Tree) (p : Path) : Prop := ∀ place, t.locate p = .ok place → t.node? place = none

theorem Pruned.isVacant (h : Pruned gone t t') (vacant : t.IsVacant p) :
  t'.IsVacant p
  := by
  intro place located
  have nothing := vacant place (h.ok_of_locate located)
  rcases h place with same | ⟨-, none, -⟩
  · rw [same, nothing]
  · exact none

/-- After its removal a file is no longer there, and neither is one that was not found. -/
theorem isVacant_remove (h : ∀ e, (t.remove p).2 = .error e → e = .notFound) :
  (t.remove p).1.IsVacant p
  := by
  intro place located
  have before := (pruned_remove t p).ok_of_locate located
  simp only [remove, before] at h ⊢
  cases there : t.node? place with
  | none => exact there
  | some node =>
    cases node with
    | directory => simp [there] at h
    | file content =>
      have notRoot : place ≠ [] := by
        rintro rfl
        simp [node?] at there
      rw [node?_erase, if_pos ⟨rfl, notRoot⟩]

theorem IsVacant.readText_ne (h : t.IsVacant p) (text : String) :
  t.readText p ≠ .ok text
  := by
  have unread (content : List UInt8) : t.read p ≠ .ok content := by
    intro found
    obtain ⟨place, located, file⟩ := read_eq_ok_iff.1 found
    simp [h place located] at file
  unfold readText
  cases found : t.read p with
  | error e => simp
  | ok content => exact absurd found (unread content)

theorem read_eq_notFound_iff :
  t.read p = .error .notFound ↔
    t.locate p = .error .notFound ∨ ∃ place, t.locate p = .ok place ∧ t.node? place = none
  := by
  unfold read
  cases t.locate p with
  | error e => simp
  | ok place =>
    cases there : t.node? place with
    | none => simp [there]
    | some node => cases node <;> simp [there]

theorem remove_of_read_eq_notFound (h : t.read p = .error .notFound) :
  (t.remove p).2 = .error .notFound
  := by
  rcases read_eq_notFound_iff.1 h with lost | ⟨place, located, nothing⟩
  · simp only [remove, lost]
  · simp only [remove, located, nothing]

/-- Names that lead to a place that is missing lead there without some files as well. -/
theorem Pruned.follow_eq_notFound (h : Pruned gone t t') {here : Place} {names : List FileName}
    (lost : t.follow here names = .error .notFound) :
  t'.follow here names = .error .notFound
  := by
  induction names generalizing here with
  | nil => contradiction
  | cons name names ih =>
    rw [follow] at lost ⊢
    cases at_here : t.node? here with
    | none =>
      have none' : t'.node? here = none := by
        rcases h here with same | ⟨-, none, -⟩
        · rw [same, at_here]
        · exact none
      simp only [step, none']
      rfl
    | some node =>
      cases node with
      | file content => simp [step, at_here, Except.bind] at lost
      | directory =>
        rw [h.step_eq at_here]
        cases stepped : t.step here name with
        | error e => rwa [stepped] at lost
        | ok next =>
          rw [stepped] at lost
          exact ih lost

/-- A file that is not found is not found without some other files either. -/
theorem Pruned.read_eq_notFound (h : Pruned gone t t') (lost : t.read p = .error .notFound) :
  t'.read p = .error .notFound
  := by
  rw [read_eq_notFound_iff] at lost ⊢
  rcases lost with lost | ⟨place, located, nothing⟩
  · left
    unfold locate at lost ⊢
    cases named : namesOf p with
    | error e => rwa [named] at lost
    | ok names =>
      rw [named] at lost
      exact h.follow_eq_notFound lost
  · right
    refine ⟨place, locate_eq_ok (fun _ => h.directory_iff.2) located, ?_⟩
    rcases h place with same | ⟨-, none, -⟩
    · rw [same, nothing]
    · exact none

end MeshOnboard.Tree
