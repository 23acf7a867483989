import MeshOnboard.Program.ClientSession
import MeshOnboard.Proofs.Files.Making
import MeshOnboard.Proofs.Text.Utf8
import Mathlib

/-!
# The configuration file

To write the configuration file of a directory replaces one file and no other, and adds directories
only where the path of the directory passes.  If it fails, no file has changed, and the directory
itself is new only if its path, but not that of the file, is one that the system takes.
-/

namespace MeshOnboard.ConfigFile

open MeshOnboard.Tree (GrownAlong MadeAlong)

variable {t t' : Tree} {directory file : Path} {text : String} {e : ConfigFileError}

theorem proper_name :
  Tree.Proper "config.yml".toList
  := ⟨by decide, by decide, by decide, by decide⟩

/-- A configuration file is written once its directory was made. -/
theorem of_write_eq_ok (h : write t directory text = (t', .ok file)) :
  file = path directory ∧
  ∃ t₁ : Tree, GrownAlong directory.names t t₁ ∧
    t₁.write (path directory) (Utf8.write text) = (t', .ok ())
  := by
  unfold write at h
  split at h
  · simp at h
  · next t₁ made =>
    split at h
    · simp at h
    · next t₂ written =>
      obtain ⟨rfl, same⟩ := Prod.mk.inj h
      exact ⟨(Except.ok.inj same).symm, t₁, (Tree.of_createDirectory_eq_ok made).2.1, written⟩

/-- A configuration file that was written holds what was written. -/
theorem read_of_write (h : write t directory text = (t', .ok file)) :
  file = path directory ∧ t'.read (path directory) = .ok (Utf8.write text)
  := by
  obtain ⟨same, t₁, -, written⟩ := of_write_eq_ok h
  exact ⟨same, Tree.read_write written⟩

/-- To write what the configuration file holds changes nothing. -/
theorem write_eq_self (h : t.read (path directory) = .ok (Utf8.write text)) :
  write t directory text = (t, .ok (path directory))
  := by
  obtain ⟨place, located, -⟩ := Tree.read_eq_ok_iff.1 h
  have made := Tree.createDirectory_of_locate_join proper_name located
  simp only [write, made, Tree.write_eq_self h]

/-- Without the configuration file, the tree has grown where the path of the directory passes. -/
theorem frame_of_write (h : write t directory text = (t', .ok file)) :
  ∃ place, t'.locate (path directory) = .ok place ∧ t.node? place ≠ some .directory ∧
    t'.node? place = some (.file (Utf8.write text)) ∧
    ∀ q, q ≠ place → t'.node? q = t.node? q ∨ MadeAlong directory.names t t' q
  := by
  obtain ⟨place, located, holds⟩ := Tree.read_eq_ok_iff.1 (read_of_write h).2
  obtain ⟨-, t₁, grown, written⟩ := of_write_eq_ok h
  obtain ⟨place', located', notDirectory, rfl⟩ := Tree.exists_of_write written
  have kept (q : Place) (directory : t₁.node? q = some .directory) :
      (t₁.put place' (.file (Utf8.write text))).node? q = some .directory :=
    Tree.directory_put notDirectory directory
  obtain rfl : place' = place := by
    rw [Tree.locate_eq_ok kept located'] at located
    exact Except.ok.inj located
  refine ⟨place', located, fun was => notDirectory (grown.grown.node?_eq_some was), holds, ?_⟩
  intro q elsewhere
  have same : (t₁.put place' (.file (Utf8.write text))).node? q = t₁.node? q := by
    rw [Tree.node?_put, if_neg (by simp [elsewhere])]
  rw [MadeAlong, same]
  rcases grown q with old | ⟨none, made, passes⟩
  · exact .inl old
  · exact .inr ⟨none, made, passes.of_kept kept⟩

/-- A configuration file cannot be written if its directory cannot be made, or if it cannot be
written once its directory was made. -/
theorem of_write_eq_error (h : write t directory text = (t', .error e)) :
  (∃ reason, t.createDirectory directory = (t', .error reason)) ∨
  ∃ reason, t.createDirectory directory = (t', .ok ()) ∧
    t'.write (path directory) (Utf8.write text) = (t', .error reason) ∧
    e = .write (path directory) reason
  := by
  unfold write at h
  split at h
  · next t₁ reason failed =>
    obtain ⟨rfl, -⟩ := Prod.mk.inj h
    exact .inl ⟨reason, failed⟩
  · next t₁ made =>
    split at h
    · next t₂ reason failed =>
      obtain ⟨rfl, same⟩ := Prod.mk.inj h
      obtain rfl := Tree.eq_of_write_error failed
      exact .inr ⟨reason, made, failed, (Except.error.inj same).symm⟩
    · simp at h

/-- If the configuration file cannot be written, the tree has grown where the path of the directory
passes. -/
theorem grownAlong_of_write_error (h : write t directory text = (t', .error e)) :
  GrownAlong directory.names t t'
  := by
  rcases of_write_eq_error h with ⟨reason, failed⟩ | ⟨reason, made, -⟩
  · exact (Tree.grownAlong_of_createDirectory_error failed).of_dropLast
  · exact (Tree.of_createDirectory_eq_ok made).2.1

/-- If the configuration file cannot be written the directory is not new, unless the file's path is
too long and that of the directory is not. -/
theorem grownAlong_dropLast_of_write_error (h : write t directory text = (t', .error e))
    (rooted : t.IsRooted) :
  GrownAlong directory.names.dropLast t t' ∨
    (e = .write (path directory) .nameTooLong ∧ Tree.octets directory.chars ≤ Tree.maxPath ∧
      Tree.maxPath < Tree.octets (path directory).chars)
  := by
  rcases of_write_eq_error h with ⟨reason, failed⟩ | ⟨reason, made, failed, rfl⟩
  · exact .inl (Tree.grownAlong_of_createDirectory_error failed)
  · obtain ⟨accepted, grown, holds⟩ := Tree.of_createDirectory_eq_ok made
    rcases Tree.of_write_join_error accepted holds proper_name (by decide) (by decide) failed with
      ⟨rfl, long⟩ | ⟨here, leads, blocked⟩
    · exact .inr ⟨rfl, accepted.octets_le, long⟩
    · exact .inl (grown.dropLast_of_directory rooted leads blocked)

/-- If the configuration file of a directory is written, it holds the text, no other file has
changed and the new directories are where the path of the directory passes; to write it again
changes nothing.  If it cannot be written, no file has changed and the new directories are where the
path of the directory passes; one of them is the directory itself only if the path of the file, but
not that of the directory, is too long. -/
theorem write_replaces (t : Tree) (directory : Path) (text : String) :
  (∀ t' file, write t directory text = (t', .ok file) →
    file = directory.join "config.yml" ∧ t'.readText file = .ok text ∧
    (∃ place, t'.locate file = .ok place ∧ t.node? place ≠ some .directory ∧
      t'.node? place = some (.file (Utf8.write text)) ∧
      ∀ q, q ≠ place → t'.node? q = t.node? q ∨ MadeAlong directory.names t t' q) ∧
    write t' directory text = (t', .ok file)) ∧
  ∀ t' e, write t directory text = (t', .error e) →
    GrownAlong directory.names t t' ∧
    (t.IsRooted → GrownAlong directory.names.dropLast t t' ∨
      (e = .write (directory.join "config.yml") .nameTooLong ∧
        Tree.octets directory.chars ≤ Tree.maxPath ∧
        Tree.maxPath < Tree.octets (directory.join "config.yml").chars))
  := by
  constructor
  · intro t' file written
    obtain ⟨rfl, holds⟩ := read_of_write written
    use rfl
    constructor
    · simp only [Tree.readText, holds, Utf8.read?_write, String.ofList_toList]
    · exact ⟨frame_of_write written, write_eq_self holds⟩
  · intro t' e failed
    use grownAlong_of_write_error failed
    exact grownAlong_dropLast_of_write_error failed

/-- A directory `d` with a configuration file and notes, and more. -/
def withNotes (config : String) (more : List (Place × FileNode)) : Tree :=
  ⟨.ofList ([
    (["d".toList], .directory),
    (["d".toList, "config.yml".toList], .file (Utf8.write config)),
    (["d".toList, "notes".toList], .file (Utf8.write "kept\n"))] ++ more)⟩

/-- A longer file is replaced, a directory is made for a new one, and one is left where the way goes
on to a file. -/
theorem write_replaces_longer_file :
  (write (withNotes "older and longer\n" []) "d" "new\n" =
      (withNotes "new\n" [], .ok "d/config.yml") ∧
    (withNotes "new\n" []).readText "d/config.yml" = .ok "new\n" ∧
    write (withNotes "new\n" []) "d" "new\n" = (withNotes "new\n" [], .ok "d/config.yml")) ∧
  (write (withNotes "older\n" []) "d/e" "new\n" =
      (withNotes "older\n" [(["d".toList, "e".toList], .directory),
        (["d".toList, "e".toList, "config.yml".toList], .file (Utf8.write "new\n"))],
      .ok "d/e/config.yml") ∧
    (withNotes "older\n" [(["d".toList, "e".toList], .directory),
      (["d".toList, "e".toList, "config.yml".toList], .file (Utf8.write "new\n"))]).readText
        "d/e/config.yml" = .ok "new\n") ∧
  write (withNotes "older\n" []) "d/e/../notes/f" "new\n" =
    (withNotes "older\n" [(["d".toList, "e".toList], .directory)],
      .error (.create "d/e/../notes/f" .alreadyExists)) ∧
  GrownAlong ["d".toList, "e".toList, "..".toList, "notes".toList] (withNotes "older\n" [])
    (withNotes "older\n" [(["d".toList, "e".toList], .directory)])
  := by
  have replaced : write (withNotes "older and longer\n" []) "d" "new\n" =
      (withNotes "new\n" [], .ok "d/config.yml") := by cbv
  have made : write (withNotes "older\n" []) "d/e" "new\n" =
      (withNotes "older\n" [(["d".toList, "e".toList], .directory),
        (["d".toList, "e".toList, "config.yml".toList], .file (Utf8.write "new\n"))],
      .ok "d/e/config.yml") := by cbv
  have failed : write (withNotes "older\n" []) "d/e/../notes/f" "new\n" =
      (withNotes "older\n" [(["d".toList, "e".toList], .directory)],
        .error (.create "d/e/../notes/f" .alreadyExists)) := by cbv
  have rooted : (withNotes "older\n" []).IsRooted := Tree.isRooted_of_keys (by decide)
  obtain ⟨-, holds, -, again⟩ := (write_replaces _ _ _).1 _ _ replaced
  obtain ⟨-, holds', -, -⟩ := (write_replaces _ _ _).1 _ _ made
  refine ⟨⟨replaced, holds, again⟩, ⟨made, holds'⟩, failed, ?grown⟩
  case grown =>
    rcases ((write_replaces _ _ _).2 _ _ failed).2 rooted with grown | ⟨other, -⟩
    · exact grown
    · contradiction

/-! ### A directory with too long a path for its file -/

/-- A missing directory is made before the path of its configuration file turns out to be too
long. -/
theorem write_of_tooLong (named : Tree.namesOf directory = .ok directory.names)
    (made : t.makeDirectory directory.names = (t', .ok ()))
    (noNul : '\x00' ∉ (path directory).chars)
    (long : Tree.maxPath < Tree.octets (path directory).chars) (text : String) :
  write t directory text = (t', .error (.write (path directory) .nameTooLong))
  := by
  have some : directory.names ≠ [] := by
    intro none
    simp [none, Tree.makeDirectory, Tree.follow, Tree.node?] at made
  have created : t.createDirectory directory = (t', .ok ()) := by
    rw [Tree.createDirectory_of_accepted (.inr named), Tree.makeDirectories, dif_neg some, made]
  have nonempty : (path directory).chars ≠ [] := directory.chars_join_ne_nil (by decide)
  have refused : t'.write (path directory) (Utf8.write text) = (t', .error .nameTooLong) := by
    rw [Tree.write, Tree.locate, Tree.namesOf, if_neg noNul, if_neg nonempty, if_pos long]
    rfl
  simp only [write, created, refused]

/-- The directory `/tmp/fresh`, with more slashes before its last name. -/
def slashed (slashes : Nat) : Path :=
  ⟨"/tmp".toList ++ '/' :: (List.replicate slashes '/' ++ "fresh".toList)⟩

theorem names_slashed (slashes : Nat) :
  (slashed slashes).names = ["tmp".toList, "fresh".toList]
  := by
  rw [slashed, Path.names_append_cons, Path.names_slashes]
  decide

theorem octets_slashed (slashes : Nat) :
  Tree.octets (slashed slashes).chars = slashes + 10
  := by
  have ends : Tree.octets ("/tmp".toList ++ ['/']) + Tree.octets "fresh".toList = 10 := by decide
  rw [Tree.octets_append] at ends
  rw [slashed, Tree.octets_append, ← List.singleton_append, Tree.octets_append, Tree.octets_append,
    Tree.octets_slashes]
  omega

theorem chars_path_slashed (slashes : Nat) :
  (path (slashed slashes)).chars = (slashed slashes).chars ++ "/config.yml".toList
  := by
  have ending : (slashed slashes).chars.getLast? = some 'h' := by
    rw [slashed, List.getLast?_append, List.getLast?_cons, List.getLast?_append]
    rfl
  have apart : ¬ ((slashed slashes).chars = [] ∨ (slashed slashes).chars.getLast? = some '/') := by
    rw [ending]
    simp [slashed]
  rw [path, Path.join, if_neg (by decide), if_neg apart]
  rfl

/-- A directory whose path has 4090 octets is new after its configuration file could not be
written. -/
theorem write_leaves_new_directory :
  let t : Tree := ⟨.single ["tmp".toList] .directory⟩
  let t' := t.put ["tmp".toList, "fresh".toList] .directory
  t.IsRooted ∧
  write t (slashed 4080) "new\n" =
    (t', .error (.write ((slashed 4080).join "config.yml") .nameTooLong)) ∧
  t'.locate (slashed 4080) = .ok ["tmp".toList, "fresh".toList] ∧
  t.node? ["tmp".toList, "fresh".toList] = none ∧
  t'.node? ["tmp".toList, "fresh".toList] = some .directory ∧
  ¬ GrownAlong (slashed 4080).names.dropLast t t'
  := by
  intro t t'
  have noNul : '\x00' ∉ (slashed 4080).chars ++ "/config.yml".toList := by
    rw [slashed]
    generalize 4080 = slashes
    simp [List.mem_replicate]
  have named : Tree.namesOf (slashed 4080) = .ok (slashed 4080).names := by
    rw [Tree.namesOf, if_neg (mt (List.mem_append_left _) noNul), octets_slashed]
    rfl
  have made : t.makeDirectory (slashed 4080).names = (t', .ok ()) := by
    rw [names_slashed]
    cbv
  refine ⟨Tree.isRooted_of_keys (by decide), ?written, ?located, by cbv, by cbv, ?new⟩
  case written =>
    apply write_of_tooLong named made
    · rwa [chars_path_slashed]
    · rw [chars_path_slashed, Tree.octets_append, octets_slashed]
      decide
  case located =>
    rw [Tree.locate, named, names_slashed]
    cbv
  case new =>
    intro grown
    rw [names_slashed] at grown
    rcases grown ["tmp".toList, "fresh".toList] with same | ⟨-, -, before, beginning, leads⟩
    · revert same
      decide
    · have few : before = [] ∨ before = ["tmp".toList] := by
        simpa [List.prefix_cons_iff] using beginning
      rcases few with rfl | rfl
      · exact absurd (Except.ok.inj leads) (by decide)
      · have top : t'.follow [] ["tmp".toList] = .ok ["tmp".toList] := by cbv
        rw [top] at leads
        exact absurd (Except.ok.inj leads) (by decide)

end MeshOnboard.ConfigFile
