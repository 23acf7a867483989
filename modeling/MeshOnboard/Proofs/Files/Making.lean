import MeshOnboard.Proofs.Files.Writing
import Mathlib.Data.List.Infix

/-!
# Where directories are made

`Tree.GrownAlong names t t'` says that `t'` is `t` with more directories, each of them at a place to
which a beginning of the names leads.  To make the directory that names lead to lets a tree grow
along the names, and along all of them but the last if it fails.  Once there is such a directory,
making it again changes nothing, and a file that is kept from being written there by a directory in
its place is kept by one that is not newer.
-/

namespace MeshOnboard.Tree

variable {t t' t'' : Tree} {names names' : List FileName} {here q : Place}

/-! ### Places on the way -/

/-- A beginning of the names leads to the place. -/
def Passes (t : Tree) (here : Place) (names : List FileName) (q : Place) : Prop :=
  ∃ before, before <+: names ∧ t.follow here before = .ok q

theorem Passes.mono (h : t.Passes here names q) (sub : names <+: names') :
  t.Passes here names' q
  := by
  obtain ⟨before, beginning, leads⟩ := h
  exact ⟨before, beginning.trans sub, leads⟩

/-- The way is the same in a tree that has the same directories and maybe more. -/
theorem Passes.of_kept (h : t.Passes here names q)
    (kept : ∀ q, t.node? q = some .directory → t'.node? q = some .directory) :
  t'.Passes here names q
  := by
  obtain ⟨before, beginning, leads⟩ := h
  exact ⟨before, beginning, follow_eq_ok kept leads⟩

theorem follow_cons_eq_ok_iff {name : FileName} :
  t.follow here (name :: names) = .ok q ↔
    ∃ next, t.step here name = .ok next ∧ t.follow next names = .ok q
  := by
  rw [follow]
  cases t.step here name with
  | error e => simp [Except.bind]
  | ok next => simp [Except.bind]

theorem follow_concat_eq_ok_iff {name : FileName} :
  t.follow here (names ++ [name]) = .ok q ↔
    ∃ last, t.follow here names = .ok last ∧ t.step last name = .ok q
  := by
  rw [follow_append]
  cases t.follow here names with
  | error e => simp [Except.bind]
  | ok last =>
    change t.follow last [name] = .ok q ↔ _
    rw [follow_cons_eq_ok_iff]
    simp [follow]

/-- The name of a directory for itself can be put in anywhere on the way. -/
theorem Passes.cons_stay (h : t.Passes here names q) :
  t.Passes here (['.'] :: names) q
  := by
  obtain ⟨before, beginning, leads⟩ := h
  cases before with
  | nil => exact ⟨[], List.nil_prefix, leads⟩
  | cons name before =>
    obtain ⟨next, stepped, -⟩ := follow_cons_eq_ok_iff.1 leads
    have stays : t.step here ['.'] = .ok here := by simp [step, node?_of_step stepped]
    exact ⟨['.'] :: name :: before, List.cons_prefix_cons.2 ⟨rfl, beginning⟩,
      follow_cons_eq_ok_iff.2 ⟨here, stays, leads⟩⟩

theorem Passes.of_filter (h : t.Passes here (names.filter (· ≠ ['.'])) q) :
  t.Passes here names q
  := by
  induction names generalizing here with
  | nil => exact h
  | cons name names ih =>
    by_cases stay : name = ['.']
    · subst stay
      rw [List.filter_cons_of_neg (by simp)] at h
      exact (ih h).cons_stay
    · rw [List.filter_cons_of_pos (by simpa using stay)] at h
      obtain ⟨before, beginning, leads⟩ := h
      cases before with
      | nil => exact ⟨[], List.nil_prefix, leads⟩
      | cons first before =>
        obtain ⟨rfl, further⟩ := List.cons_prefix_cons.1 beginning
        obtain ⟨next, stepped, leads⟩ := follow_cons_eq_ok_iff.1 leads
        obtain ⟨before', beginning', leads'⟩ := ih ⟨before, further, leads⟩
        exact ⟨first :: before', List.cons_prefix_cons.2 ⟨rfl, beginning'⟩,
          follow_cons_eq_ok_iff.2 ⟨next, stepped, leads'⟩⟩

theorem parent_prefix_dropLast (names : List FileName) :
  parent names <+: names.dropLast.filter (· ≠ ['.'])
  := by
  cases names using List.reverseRecOn with
  | nil => exact List.nil_prefix
  | append_singleton names last =>
    rw [parent, List.dropLast_concat, List.filter_append]
    by_cases stay : last = ['.']
    · simpa [stay] using List.dropLast_prefix _
    · simp [stay]

/-- What is on the way to the directory above is on the way but for the last name. -/
theorem Passes.of_parent (h : t.Passes here (parent names) q) :
  t.Passes here names.dropLast q
  := (h.mono (parent_prefix_dropLast names)).of_filter

/-! ### Trees with more directories on the way -/

/-- There is a new directory at the place, on the way that the names lead. -/
def MadeAlong (names : List FileName) (t t' : Tree) (q : Place) : Prop :=
  t.node? q = none ∧ t'.node? q = some .directory ∧ t'.Passes [] names q

/-- `t'` is `t` with more directories, on the way that the names lead. -/
def GrownAlong (names : List FileName) (t t' : Tree) : Prop :=
  ∀ q, t'.node? q = t.node? q ∨ MadeAlong names t t' q

theorem GrownAlong.grown (h : GrownAlong names t t') :
  Grown t t'
  := by
  intro q
  rcases h q with same | ⟨none, directory, -⟩
  · exact .inl same
  · exact .inr ⟨none, directory⟩

theorem GrownAlong.refl (names : List FileName) (t : Tree) :
  GrownAlong names t t
  := fun _ => .inl rfl

theorem GrownAlong.trans (h : GrownAlong names t t') (h' : GrownAlong names t' t'') :
  GrownAlong names t t''
  := by
  intro q
  rcases h' q with same' | ⟨none', directory, passes⟩
  · rw [same', MadeAlong, same']
    rcases h q with same | ⟨none, directory, passes⟩
    · exact .inl same
    · exact .inr ⟨none, directory, passes.of_kept fun _ => h'.grown.node?_eq_some⟩
  · rcases h q with same | ⟨none, directory', -⟩
    · exact .inr ⟨same ▸ none', directory, passes⟩
    · rw [none'] at directory'
      contradiction

theorem GrownAlong.mono (h : GrownAlong names t t')
    (sub : ∀ q, t'.Passes [] names q → t'.Passes [] names' q) :
  GrownAlong names' t t'
  := by
  intro q
  rcases h q with same | ⟨none, directory, passes⟩
  · exact .inl same
  · exact .inr ⟨none, directory, sub q passes⟩

/-! ### Making directories -/

theorem isDirectory_iff :
  t.isDirectory names ↔ ∃ place, t.follow [] names = .ok place ∧ t.node? place = some .directory
  := by
  unfold isDirectory
  cases t.follow [] names with
  | error e => simp
  | ok place => simp

/-- A directory is made where names lead and nothing is. -/
theorem exists_of_makeDirectory (h : t.makeDirectory names = (t', .ok ())) :
  ∃ place, t.follow [] names = .ok place ∧ t.node? place = none ∧ t' = t.put place .directory
  := by
  unfold makeDirectory at h
  split at h
  · simp at h
  · next place leads =>
    split at h
    · simp at h
    · next vacant => exact ⟨place, leads, vacant, (Prod.mk.inj h).1.symm⟩

theorem eq_of_makeDirectory_error {e : FileError} (h : t.makeDirectory names = (t', .error e)) :
  t' = t
  := by
  unfold makeDirectory at h
  split at h
  · exact (Prod.mk.inj h).1.symm
  · split at h
    · exact (Prod.mk.inj h).1.symm
    · simp at h

/-- A directory that was made is where the names lead, and nothing else has changed. -/
theorem of_makeDirectory (h : t.makeDirectory names = (t', .ok ())) :
  GrownAlong names t t' ∧ t'.isDirectory names
  := by
  obtain ⟨place, leads, vacant, rfl⟩ := exists_of_makeDirectory h
  have notRoot : place ≠ [] := by
    rintro rfl
    simp [node?] at vacant
  have made : (t.put place .directory).node? place = some .directory := by
    rw [node?_put, if_pos ⟨rfl, notRoot⟩]
  have leads' : (t.put place .directory).follow [] names = .ok place := by
    apply follow_eq_ok _ leads
    intro q directory
    rw [node?_put]
    split
    · rfl
    · exact directory
  constructor
  · intro q
    by_cases here : q = place
    · subst here
      exact .inr ⟨vacant, made, names, List.prefix_rfl, leads'⟩
    · left
      rw [node?_put, if_neg (by simp [here])]
  · exact isDirectory_iff.2 ⟨place, leads', made⟩

/-- What has grown along all names but the last has grown along the names. -/
theorem GrownAlong.of_dropLast (h : GrownAlong names.dropLast t t') :
  GrownAlong names t t'
  := h.mono fun _ passes => passes.mono (List.dropLast_prefix names)

theorem GrownAlong.of_parent (h : GrownAlong (parent names) t t') :
  GrownAlong names.dropLast t t'
  := h.mono fun _ => Passes.of_parent

theorem fst_orExisting (t : Tree) (names : List FileName) (e : FileError) :
  (t.orExisting names e).1 = t
  := by
  unfold orExisting
  split
  · rfl
  · rfl

/-- When directories are made, a tree grows along the names, and if that fails, along all names but
the last. -/
theorem grownAlong_makeDirectories (t : Tree) (names : List FileName) :
  GrownAlong names t (t.makeDirectories names).1 ∧
  ∀ e, (t.makeDirectories names).2 = .error e →
    GrownAlong names.dropLast t (t.makeDirectories names).1
  := by
  fun_induction makeDirectories t names with
  | case1 t => exact ⟨GrownAlong.refl _ t, by simp⟩
  | case2 t names _ t₁ made => exact ⟨(of_makeDirectory made).1, by simp⟩
  | case3 t names _ t₁ first t₂ e above ih =>
    obtain rfl := eq_of_makeDirectory_error first
    rw [above] at ih
    exact ⟨ih.1.of_parent.of_dropLast, fun _ _ => ih.1.of_parent⟩
  | case4 t names _ t₁ first t₂ above t₃ made ih =>
    obtain rfl := eq_of_makeDirectory_error first
    rw [above] at ih
    exact ⟨ih.1.of_parent.of_dropLast.trans (of_makeDirectory made).1, by simp⟩
  | case5 t names _ t₁ first t₂ above t₃ e second ih =>
    obtain rfl := eq_of_makeDirectory_error first
    obtain rfl := eq_of_makeDirectory_error second
    rw [above] at ih
    rw [fst_orExisting]
    exact ⟨ih.1.of_parent.of_dropLast, fun _ _ => ih.1.of_parent⟩
  | case6 t names _ t₁ e _ first =>
    obtain rfl := eq_of_makeDirectory_error first
    rw [fst_orExisting]
    exact ⟨GrownAlong.refl _ t₁, fun _ _ => GrownAlong.refl _ t₁⟩

theorem isDirectory_of_orExisting {e : FileError} (h : t.orExisting names e = (t', .ok ())) :
  t'.isDirectory names
  := by
  unfold orExisting at h
  split at h
  · next directory => rwa [← (Prod.mk.inj h).1]
  · simp at h

/-- Once directories are made, the names lead to one. -/
theorem isDirectory_of_makeDirectories (h : t.makeDirectories names = (t', .ok ())) :
  t'.isDirectory names
  := by
  revert h
  fun_cases makeDirectories t names with
  | case1 none =>
    intro h
    rw [← (Prod.mk.inj h).1, none, isDirectory_iff]
    exact ⟨[], rfl, if_pos rfl⟩
  | case2 _ t₁ made =>
    intro h
    rw [← (Prod.mk.inj h).1]
    exact (of_makeDirectory made).2
  | case3 => simp
  | case4 _ t₁ first t₂ above t₃ made =>
    intro h
    rw [← (Prod.mk.inj h).1]
    exact (of_makeDirectory made).2
  | case5 => exact isDirectory_of_orExisting
  | case6 => exact isDirectory_of_orExisting

/-- Where there is a directory, making it changes nothing. -/
theorem makeDirectories_of_isDirectory (h : t.isDirectory names) :
  t.makeDirectories names = (t, .ok ())
  := by
  obtain ⟨place, leads, directory⟩ := isDirectory_iff.1 h
  have refused : t.makeDirectory names = (t, .error .alreadyExists) := by
    simp only [makeDirectory, leads, directory]
  rw [makeDirectories]
  split
  · rfl
  · simp only [refused, orExisting, if_pos h]

/-! ### Paths of directories -/

variable {p p' : Path} {name : FileName}

theorem octets_append (cs ds : List Char) :
  octets (cs ++ ds) = octets cs + octets ds
  := by
  rw [octets, octets, octets, String.ofList_append, String.utf8ByteSize_append]

theorem octets_slashes (n : Nat) :
  octets (List.replicate n '/') = n
  := by
  induction n with
  | zero => rfl
  | succ n ih =>
    rw [List.replicate_succ, ← List.singleton_append, octets_append, ih]
    exact Nat.add_comm 1 n

/-- The system takes the text of a path for names, or it is the empty text, without names. -/
def Accepted (p : Path) : Prop := p.chars = [] ∨ namesOf p = .ok p.names

/-- A text that begins an accepted one is accepted. -/
theorem accepted_of_beginning (sub : p.chars <+: p'.chars) (h : namesOf p' = .ok p'.names) :
  Accepted p
  := by
  obtain ⟨rest, whole⟩ := sub
  by_cases none : p.chars = []
  · exact .inl none
  right
  unfold namesOf at h
  split at h
  · contradiction
  next noNul =>
    split at h
    · contradiction
    split at h
    · contradiction
    next short =>
      rw [← whole] at noNul short
      rw [octets_append] at short
      have noNul' : '\x00' ∉ p.chars := mt (List.mem_append_left rest) noNul
      have short' : ¬ maxPath < octets p.chars := by omega
      rw [namesOf, if_neg noNul', if_neg none, if_neg short']

/-- An accepted path is not too long. -/
theorem Accepted.octets_le (h : Accepted p) :
  octets p.chars ≤ maxPath
  := by
  by_cases none : p.chars = []
  · rw [none]
    decide
  have named := h.resolve_left none
  by_contra long
  rw [namesOf] at named
  split at named
  · contradiction
  · rw [if_pos (Nat.lt_of_not_le long)] at named
    contradiction

/-- Only its length keeps the text of a name in an accepted directory from being accepted. -/
theorem tooLong_of_namesOf_join {e : FileError} (accepted : Accepted p)
    (nonempty : name ≠ []) (noNul : '\x00' ∉ name) (h : namesOf (p.join ⟨name⟩) = .error e) :
  e = .nameTooLong ∧ maxPath < octets (p.join ⟨name⟩).chars
  := by
  have noNul' : '\x00' ∉ p.chars := by
    rcases accepted with none | named
    · simp [none]
    · intro nul
      simp [namesOf, nul] at named
  unfold namesOf at h
  split at h
  · next nul =>
    rcases Path.mem_chars_join nul with first | slash | last
    · contradiction
    · contradiction
    · contradiction
  split at h
  · next none => exact absurd none (p.chars_join_ne_nil nonempty)
  split at h
  · next long => exact ⟨(Except.error.inj h).symm, long⟩
  · contradiction

/-- The names of an accepted path are followed to make a directory. -/
theorem createDirectory_of_accepted (h : Accepted p) (t : Tree) :
  t.createDirectory p = t.makeDirectories p.names
  := by
  unfold createDirectory
  split
  · next none =>
    have noNames : p.names = [] := by simp [Path.names, none, Text.pieces]
    rw [noNames, makeDirectories, dif_pos rfl]
  · next some => rw [h.resolve_left some]

/-- No directory is made at a path that is not accepted. -/
theorem createDirectory_of_not_accepted (h : ¬ Accepted p) (t : Tree) :
  ∃ e, t.createDirectory p = (t, .error e)
  := by
  unfold createDirectory
  rw [if_neg (mt .inl h)]
  cases named : namesOf p with
  | error e => exact ⟨e, rfl⟩
  | ok names =>
    obtain rfl := eq_names_of_namesOf named
    exact absurd (.inr named) h

/-- A tree in which the directory that a path leads to was made has grown along the path. -/
theorem of_createDirectory_eq_ok (h : t.createDirectory p = (t', .ok ())) :
  Accepted p ∧ GrownAlong p.names t t' ∧ t'.isDirectory p.names
  := by
  by_cases accepted : Accepted p
  · rw [createDirectory_of_accepted accepted] at h
    have grown := (grownAlong_makeDirectories t p.names).1
    rw [h] at grown
    exact ⟨accepted, grown, isDirectory_of_makeDirectories h⟩
  · obtain ⟨e, refused⟩ := createDirectory_of_not_accepted accepted t
    rw [refused] at h
    simp at h

theorem grownAlong_of_createDirectory_error {e : FileError}
    (h : t.createDirectory p = (t', .error e)) :
  GrownAlong p.names.dropLast t t'
  := by
  by_cases accepted : Accepted p
  · rw [createDirectory_of_accepted accepted] at h
    have grown := (grownAlong_makeDirectories t p.names).2 e
    rw [h] at grown
    exact grown rfl
  · obtain ⟨e', refused⟩ := createDirectory_of_not_accepted accepted t
    rw [refused] at h
    rw [← (Prod.mk.inj h).1]
    apply GrownAlong.refl

/-- To make the directory in which a name leads to a place changes nothing. -/
theorem createDirectory_of_locate_join (proper : Proper name)
    (h : t.locate (p.join ⟨name⟩) = .ok q) :
  t.createDirectory p = (t, .ok ())
  := by
  obtain ⟨place, leads, directory, -⟩ := exists_of_locate_join proper h
  have named : namesOf (p.join ⟨name⟩) = .ok (p.join ⟨name⟩).names := by
    cases named : namesOf (p.join ⟨name⟩) with
    | error e => simp [locate, named, Except.bind] at h
    | ok names => rw [eq_names_of_namesOf named]
  have relative : ¬ (⟨name⟩ : Path).isAbsolute := Path.not_isAbsolute_of_not_mem proper.noSlash
  rw [createDirectory_of_accepted (accepted_of_beginning (p.chars_prefix_join relative) named),
    makeDirectories_of_isDirectory (isDirectory_iff.2 ⟨place, leads, directory⟩)]

/-! ### Names in the directory that was made -/

/-- Above everything in the tree there is a directory. -/
def IsRooted (t : Tree) : Prop :=
  ∀ q name, t.node? (q ++ [name]) ≠ none → t.node? q = some .directory

theorem isRooted_of_keys (h : ∀ q ∈ t.nodes.keys, t.node? q.dropLast = some .directory) :
  t.IsRooted
  := by
  intro q name some
  rw [node?, if_neg (by simp)] at some
  have above := h (q ++ [name]) (Table.mem_keys_iff.2 (Option.isSome_iff_ne_none.2 some))
  rwa [List.dropLast_concat] at above

/-- A name leads to where it is followed from, to the place above or to one in it. -/
theorem step_cases {there : Place} (h : t.step here name = .ok there) :
  there = here ∨ there = here.dropLast ∨ there = here ++ [name]
  := by
  by_cases stays : name = ['.']
  · simp only [step, node?_of_step h, if_pos stays, Except.ok.injEq] at h
    exact .inl h.symm
  by_cases up : name = ['.', '.']
  · simp only [step, node?_of_step h, if_neg stays, if_pos up, Except.ok.injEq] at h
    exact .inr (.inl h.symm)
  · exact .inr (.inr (place_of_step stays up h))

/-- The way to a place passes the places above it before the last name. -/
theorem passes_of_follow {there : Place} (leads : t.follow [] names = .ok there)
    (above : q <+: there) (strictly : q ≠ there) :
  t.Passes [] names.dropLast q
  := by
  induction names using List.reverseRecOn generalizing there with
  | nil =>
    obtain rfl := Except.ok.inj leads
    exact absurd (List.prefix_nil.1 above) strictly
  | append_singleton names last ih =>
    rw [List.dropLast_concat]
    obtain ⟨here, found, stepped⟩ := follow_concat_eq_ok_iff.1 leads
    -- the place lies above the one before the last name, unless it is that one
    by_cases same : q = here
    · exact ⟨names, List.prefix_rfl, same ▸ found⟩
    have above' : q <+: here := by
      rcases step_cases stepped with rfl | rfl | rfl
      · exact above
      · exact above.trans (List.dropLast_prefix here)
      · exact (List.prefix_concat_iff.1 above).resolve_left strictly
    exact (ih found above' same).mono (List.dropLast_prefix names)

theorem eq_or_prefix_dropLast (h : names <+: names') :
  names = names' ∨ names <+: names'.dropLast
  := by
  cases names' using List.reverseRecOn with
  | nil => exact .inl (List.prefix_nil.1 h)
  | append_singleton names' last =>
    rw [List.dropLast_concat]
    exact List.prefix_concat_iff.1 h

/-- If there is a directory in the one that names lead to, this one is not new, or it was passed
before the last name. -/
theorem GrownAlong.dropLast_of_directory (h : GrownAlong names t t') (rooted : t.IsRooted)
    (leads : t'.follow [] names = .ok here)
    (directory : t'.node? (here ++ [name]) = some .directory) :
  GrownAlong names.dropLast t t'
  := by
  intro q
  rcases h q with same | ⟨none, made, before, beginning, passes⟩
  · exact .inl same
  right
  use none, made
  rcases eq_or_prefix_dropLast beginning with rfl | earlier
  · obtain rfl : here = q := by
      rw [leads] at passes
      exact Except.ok.inj passes
    rcases h (here ++ [name]) with same | ⟨-, -, before', beginning', passes'⟩
    · have old := rooted here name (by simp [← same, directory])
      rw [none] at old
      contradiction
    · have passed := passes_of_follow passes' (List.prefix_append _ _) (by simp)
      apply passed.mono
      rcases eq_or_prefix_dropLast beginning' with rfl | earlier'
      · exact List.prefix_rfl
      · exact (List.dropLast_prefix _).trans earlier'
  · exact ⟨before, earlier, passes⟩

/-- A file in an accepted directory cannot be written if its path is too long or if there is a
directory in its place. -/
theorem of_write_join_error {content : List UInt8} {e : FileError} (accepted : Accepted p)
    (holds : t.isDirectory p.names) (proper : Proper name) (noNul : '\x00' ∉ name)
    (short : octets name ≤ maxName) (h : t.write (p.join ⟨name⟩) content = (t', .error e)) :
  (e = .nameTooLong ∧ maxPath < octets (p.join ⟨name⟩).chars) ∨
  ∃ here, t.follow [] p.names = .ok here ∧ t.node? (here ++ [name]) = some .directory
  := by
  obtain ⟨here, leads, directory⟩ := isDirectory_iff.1 holds
  have stepped : t.step here name = .ok (here ++ [name]) := by
    simp [step, directory, proper.stays, proper.up, Nat.not_lt.2 short]
  rw [write, t.locate_join proper, leads] at h
  cases named : namesOf (p.join ⟨name⟩) with
  | error e' =>
    obtain ⟨rfl, long⟩ := tooLong_of_namesOf_join accepted proper.nonempty noNul named
    simp only [named, Except.bind] at h
    exact .inl ⟨(Except.error.inj (Prod.mk.inj h).2).symm, long⟩
  | ok names =>
    simp only [named, stepped, Except.bind] at h
    split at h
    · next blocked => exact .inr ⟨here, leads, blocked⟩
    · simp at h

end MeshOnboard.Tree
