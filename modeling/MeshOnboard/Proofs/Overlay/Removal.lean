import MeshOnboard.Overlay.Workshop
import MeshOnboard.Proofs.Dialogue
import MeshOnboard.Proofs.Files.Pruning

/-!
# What issuing a certificate removes

Before the signing program is run, the two output files of the login are removed and nothing else
happens to the tree.  A login without a slash has its output in the directory of the signer, and
there every other such login keeps its files.  The files of the authority are those of the login
`ca`, which is therefore one that must not be signed for.
-/

namespace MeshOnboard

/-- The workshop after the removal of a file. -/
def Workshop.without (w : Workshop) (path : Path) : Workshop :=
  { w with tree := (w.tree.remove path).1 }

namespace Signer

open Dialogue

variable {s : Signer} {r : SigningRequest} {w : Workshop}

/-- The steps of issuing a certificate.  The program is run in the workshop without the two output
files. -/
theorem step_of_encounters {x : IssueStep × Workshop}
    (h : x ∈ (s.issue r).encounters Workshop.answer w) :
  x = (.remove (s.certificatePath r.login), w) ∨
  x = (.remove (s.keyPath r.login), w.without (s.certificatePath r.login)) ∨
  x = (.run s.program (s.arguments r),
    (w.without (s.certificatePath r.login)).without (s.keyPath r.login)) ∨
  ∃ path, x.1 = .read path
  := by
  rcases mem_encounters_andThen h with here | ⟨_, _, afterRemoval⟩
  · exact .inl (List.mem_singleton.1 here)
  rcases mem_encounters_andThen afterRemoval with here | ⟨_, _, afterRemovals⟩
  · exact .inr (.inl (List.mem_singleton.1 here))
  rcases mem_encounters_andThen afterRemovals with here | ⟨_, _, afterRun⟩
  · exact .inr (.inr (.inl (List.mem_singleton.1 here)))
  right; right; right
  rcases mem_encounters_andThen afterRun with here | ⟨_, _, afterRead⟩
  · exact ⟨_, congrArg Prod.fst (List.mem_singleton.1 here)⟩
  rcases mem_encounters_andThen afterRead with here | ⟨_, _, afterReads⟩
  · exact ⟨_, congrArg Prod.fst (List.mem_singleton.1 here)⟩
  rcases mem_encounters_andThen afterReads with here | ⟨_, _, nothing⟩
  · exact ⟨_, congrArg Prod.fst (List.mem_singleton.1 here)⟩
  · exact absurd nothing List.not_mem_nil

/-! ### Output files -/

/-- One of the two files that the signing program writes. -/
inductive Output where
  | certificate
  | key

namespace Output

/-- What its name ends in. -/
def ending : Output → List Char
  | certificate => ".crt".toList
  | key => ".key".toList

/-- Its name for a login. -/
def name (o : Output) (login : String) : FileName := login.toList ++ o.ending

/-- Its path for a login. -/
def path (o : Output) (s : Signer) (login : String) : Path :=
  match o with
  | certificate => s.certificatePath login
  | key => s.keyPath login

theorem path_eq (o : Output) (s : Signer) (login : String) :
  o.path s login = s.directory.join ⟨o.name login⟩
  := by
  cases o with
  | certificate => exact congrArg (fun cs => s.directory.join ⟨cs⟩) String.toList_append
  | key => exact congrArg (fun cs => s.directory.join ⟨cs⟩) String.toList_append

theorem length_ending (o : Output) :
  o.ending.length = 4
  := by
  cases o
  · rfl
  · rfl

theorem noSlash_ending (o : Output) :
  '/' ∉ o.ending
  := by
  cases o
  · decide
  · decide

theorem length_name (o : Output) (login : String) :
  (o.name login).length = login.toList.length + 4
  := by
  rw [name, List.length_append, length_ending]

end Output

/-- The files of the authority are the output of one login. -/
theorem authorityPath_eq (s : Signer) :
  s.authorityPath = s.certificatePath "ca"
  := rfl

theorem authorityKeyPath_eq (s : Signer) :
  s.authorityKeyPath = s.keyPath "ca"
  := rfl

/-- A login that is a name, and not a path of several. -/
def Plain (login : String) : Prop := '/' ∉ login.toList

variable {login other : String}

theorem Plain.proper_name (plain : Plain login) (o : Output) :
  Tree.Proper (o.name login)
  := by
  have length := o.length_name login
  refine ⟨?_, ?_, ?_, ?_⟩
  · intro isEmpty
    simp [isEmpty] at length
  · rw [Output.name, List.mem_append, not_or]
    exact ⟨plain, o.noSlash_ending⟩
  · intro stays
    simp [stays] at length
  · intro up
    simp [up] at length

/-- Output files of different logins have different names. -/
theorem login_eq_of_name {o o' : Output} (same : o.name login = o'.name other) :
  login = other
  := by
  have lengths : o.ending.length = o'.ending.length := by
    rw [o.length_ending, o'.length_ending]
  apply String.toList_inj.1
  exact (List.append_inj' same lengths).1

/-! ### What is removed -/

/-- An output file of the login has this place. -/
def OutputAt (s : Signer) (w : Workshop) (login : String) (q : Place) : Prop :=
  ∃ o : Output, w.tree.locate (o.path s login) = .ok q

/-- The removal of both output files, one after the other. -/
theorem pruned_without (s : Signer) (w : Workshop) (login : String) :
  Tree.Pruned (s.OutputAt w login) w.tree
    ((w.without (s.certificatePath login)).without (s.keyPath login)).tree
  := by
  have first := Tree.pruned_remove w.tree (s.certificatePath login)
  have second := Tree.pruned_remove (w.without (s.certificatePath login)).tree (s.keyPath login)
  apply Tree.Pruned.trans
  · apply first.mono
    intro q found
    exact ⟨.certificate, found⟩
  · apply second.mono
    intro q found
    exact ⟨.key, first.ok_of_locate found⟩

/-- The output of a plain login lies in the signer's directory. -/
theorem Plain.exists_directory {q : Place} (plain : Plain login) (h : s.OutputAt w login q) :
  ∃ directory, w.tree.follow [] s.directory.names = .ok directory ∧
    w.tree.node? directory = some .directory ∧ ∃ o : Output, q = directory ++ [o.name login]
  := by
  obtain ⟨o, found⟩ := h
  rw [o.path_eq] at found
  obtain ⟨directory, leads, isDirectory, rfl⟩ :=
    Tree.exists_of_locate_join (plain.proper_name o) found
  exact ⟨directory, leads, isDirectory, o, rfl⟩

/-- The output files of another plain login read the same. -/
theorem Plain.read_path (plain : Plain login) (plain' : Plain other) (ne : other ≠ login) {t : Tree}
    (pruned : Tree.Pruned (s.OutputAt w login) w.tree t) (o : Output) :
  t.read (o.path s other) = w.tree.read (o.path s other)
  := by
  rw [o.path_eq]
  apply pruned.read_join (plain'.proper_name o)
  · intro q output
    obtain ⟨directory, leads, isDirectory, -⟩ := plain.exists_directory output
    exact ⟨directory, leads, isDirectory⟩
  · intro directory _ output
    obtain ⟨_, _, _, _, same⟩ := plain.exists_directory output
    have names := List.singleton_inj.1 (List.append_inj_right' same rfl)
    exact ne (login_eq_of_name names)

/-- When the program is run, the tree is without some of the output files. -/
theorem pruned_of_run {program : Path} {arguments : List String} {w' : Workshop}
    (h : (.run program arguments, w') ∈ (s.issue r).encounters Workshop.answer w) :
  Tree.Pruned (s.OutputAt w r.login) w.tree w'.tree
  := by
  rcases step_of_encounters h with same | same | same | ⟨_, read⟩
  · cases same
  · cases same
  · cases same
    apply pruned_without
  · cases read

/-- The steps of removal are about the output files. -/
theorem path_of_remove {path : Path} {w' : Workshop}
    (h : (.remove path, w') ∈ (s.issue r).encounters Workshop.answer w) :
  ∃ o : Output, path = o.path s r.login
  := by
  rcases step_of_encounters h with same | same | same | ⟨_, read⟩
  · cases same
    exact ⟨.certificate, rfl⟩
  · cases same
    exact ⟨.key, rfl⟩
  · cases same
  · cases read

/-- Nothing but the two output files is removed, and when the program is run the tree is only
without those.  If the login is plain, they lie in the signer's directory, and the output files of
every other plain login read the same; so do the files of the authority, unless the login is the one
whose output they would be. -/
theorem removes_only_output (s : Signer) (r : SigningRequest) (w : Workshop) :
  let asked := (s.issue r).encounters Workshop.answer w
  (∀ path w', (.remove path, w') ∈ asked → ∃ o : Output, path = o.path s r.login) ∧
  ∀ program arguments w', (.run program arguments, w') ∈ asked →
    Tree.Pruned (fun q => ∃ o : Output, w.tree.locate (o.path s r.login) = .ok q)
      w.tree w'.tree ∧
    (Plain r.login →
      Tree.Pruned (fun q => ∃ directory, w.tree.follow [] s.directory.names = .ok directory ∧
        ∃ o : Output, q = directory ++ [o.name r.login]) w.tree w'.tree ∧
      (∀ other, Plain other → other ≠ r.login → ∀ o : Output,
        w'.tree.read (o.path s other) = w.tree.read (o.path s other)) ∧
      (r.login ≠ "ca" →
        w'.tree.read s.authorityPath = w.tree.read s.authorityPath ∧
        w'.tree.read s.authorityKeyPath = w.tree.read s.authorityKeyPath))
  := by
  refine ⟨fun _ _ => path_of_remove, ?_⟩
  intro program arguments w' step
  have pruned := pruned_of_run step
  refine ⟨pruned, ?_⟩
  intro plain
  refine ⟨?inside, ?others, ?authority⟩
  case inside =>
    apply pruned.mono
    intro q output
    obtain ⟨directory, leads, -, o, rfl⟩ := plain.exists_directory output
    exact ⟨directory, leads, o, rfl⟩
  case others =>
    intro other plain' ne
    apply plain.read_path plain' ne pruned
  case authority =>
    intro ne
    have ca : Plain "ca" := by simp [Plain]
    rw [authorityPath_eq, authorityKeyPath_eq]
    exact ⟨plain.read_path ca ne.symm pruned .certificate, plain.read_path ca ne.symm pruned .key⟩

/-- A signer whose directory is `certs`. -/
def certs : Signer := ⟨"nebula-cert", "certs", "48h"⟩

/-- A workshop with the authority's files and the certificate of `alice` in `certs`, and a tool that
does nothing. -/
def stocked : Workshop where
  tree := ⟨.ofList [
    (["certs".toList], .directory),
    (["certs".toList, "ca.crt".toList], .file [67]),
    (["certs".toList, "ca.key".toList], .file [75]),
    (["certs".toList, "alice.crt".toList], .file [65])]⟩
  tools _ := some fun _ t => (t, ⟨.exited 0, []⟩)
  runs := []

/-- A request for a certificate of the given login. -/
def requestOf (login : String) : SigningRequest := ⟨login, .ofOctets 10 0 0 5, 16, ["core"]⟩

/-- The workshop when the program is run for a login. -/
def whenRun (login : String) : Workshop :=
  (stocked.without (certs.certificatePath login)).without (certs.keyPath login)

/-- The certificate of `alice` is removed, and the files of the authority are kept. -/
theorem removes_output_of_alice :
  (whenRun "alice").tree.read (certs.certificatePath "alice") = .error .notFound ∧
  (whenRun "alice").tree.read certs.authorityPath = stocked.tree.read certs.authorityPath ∧
  (whenRun "alice").tree.read certs.authorityKeyPath = stocked.tree.read certs.authorityKeyPath
  := by
  have run : (.run certs.program (certs.arguments (requestOf "alice")), whenRun "alice") ∈
      (certs.issue (requestOf "alice")).encounters Workshop.answer stocked :=
    .tail _ (.tail _ (.head _))
  have plain : Plain (requestOf "alice").login := by simp [Plain, requestOf]
  obtain ⟨-, spared⟩ := removes_only_output certs (requestOf "alice") stocked
  obtain ⟨-, ofPlain⟩ := spared _ _ _ run
  obtain ⟨-, -, authority⟩ := ofPlain plain
  exact ⟨rfl, authority (by simp [requestOf])⟩

/-- For the login `ca` the files of the authority are removed. -/
theorem removes_authority :
  (.run certs.program (certs.arguments (requestOf "ca")), whenRun "ca") ∈
    (certs.issue (requestOf "ca")).encounters Workshop.answer stocked ∧
  stocked.tree.read certs.authorityPath = .ok [67] ∧
  stocked.tree.read certs.authorityKeyPath = .ok [75] ∧
  (whenRun "ca").tree.read certs.authorityPath = .error .notFound ∧
  (whenRun "ca").tree.read certs.authorityKeyPath = .error .notFound
  := ⟨.tail _ (.tail _ (.head _)), rfl, rfl, rfl, rfl⟩

-- A login that is a path may have the output of another login.
example : (whenRun "./alice").tree.read (certs.certificatePath "alice") = .error .notFound := rfl

end Signer

end MeshOnboard
