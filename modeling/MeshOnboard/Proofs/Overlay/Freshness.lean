import MeshOnboard.Proofs.Overlay.Removal

/-!
# Certificates are fresh

Issuing a certificate goes through seven phases (`Signer.phases`), each of which may fail, and fails
with the error of the first that does.  If none fails, the program was run once, when neither output
was there, and the certificate consists of what is in the files after that run (`issues_fresh`).
-/

namespace MeshOnboard

namespace Workshop

/-- A program that is run does something to the tree, and its run is noted. -/
theorem exists_of_run_eq_ok {w w' : Workshop} {program : Path} {arguments : List String}
    {report : ToolReport} (h : w.run program arguments = (w', .ok report)) :
  ∃ tool, w.tools program = some tool ∧ tool arguments w.tree = (w'.tree, report) ∧
    w'.runs = w.runs ++ [arguments]
  := by
  unfold run at h
  split at h
  · simp at h
  · split at h
    · simp at h
    next tool known =>
      split at h
      · simp at h
      · obtain ⟨rfl, same⟩ := Prod.mk.inj h
        obtain rfl := Except.ok.inj same
        exact ⟨tool, known, rfl, rfl⟩

end Workshop

namespace Signer

open Dialogue

variable {s : Signer} {r : SigningRequest} {w w' : Workshop}

/-! ### Phases -/

/-- A phase of issuing a certificate. -/
inductive Phase where
  /-- An old output is removed. -/
  | remove (o : Output)
  /-- The program is started. -/
  | start
  /-- The program ends. -/
  | finish
  | readAuthority
  | read (o : Output)

/-- The phases in their order. -/
def phases : List Phase :=
  [.remove .certificate, .remove .key, .start, .finish, .readAuthority, .read .certificate,
    .read .key]

/-- The error of the removal of a file; that there is none is no error. -/
def removalError? (t : Tree) (path : Path) : Option IssueError :=
  match (t.remove path).2 with
  | .ok () => none
  | .error .notFound => none
  | .error reason => some (.remove path reason)

/-- The error of starting a program, given what came of it. -/
def startError? (program : Path) : Except FileError ToolReport → Option IssueError
  | .error reason => some (.spawn program reason)
  | .ok _ => none

/-- The error of a program that was started. -/
def finishError? (program : Path) : Except FileError ToolReport → Option IssueError
  | .error _ => none
  | .ok report =>
    if report.status = .exited 0 then none
    else some (.failed program report.status report.complaintText)

/-- The error of reading a file. -/
def readingError? (t : Tree) (path : Path) : Option IssueError :=
  match t.readText path with
  | .ok _ => none
  | .error reason => some (.read path reason)

/-- The workshop in which an output is to be removed. -/
def beforeRemoval (s : Signer) (login : String) (w : Workshop) : Output → Workshop
  | .certificate => w
  | .key => w.without (s.certificatePath login)

/-- The workshop without either output. -/
def cleared (s : Signer) (login : String) (w : Workshop) : Workshop :=
  (w.without (s.certificatePath login)).without (s.keyPath login)

/-- The run of the program when both outputs are removed. -/
def attempt (s : Signer) (r : SigningRequest) (w : Workshop) :
    Workshop × Except FileError ToolReport :=
  (s.cleared r.login w).run s.program (s.arguments r)

/-- The error of a phase, if it comes to the phase and it fails. -/
def error? (s : Signer) (r : SigningRequest) (w : Workshop) : Phase → Option IssueError
  | .remove o => removalError? (s.beforeRemoval r.login w o).tree (o.path s r.login)
  | .start => startError? s.program (s.attempt r w).2
  | .finish => finishError? s.program (s.attempt r w).2
  | .readAuthority => readingError? (s.attempt r w).1.tree s.authorityPath
  | .read o => readingError? (s.attempt r w).1.tree (o.path s r.login)

/-! ### What the steps come to -/

theorem settles_removeStale (path : Path) (w : Workshop) :
  (removeStale path).Settles Workshop.answer w [removalError? w.tree path]
    fun _ w' => w' = w.without path
  := by
  cases outcome : (w.tree.remove path).2 with
  | ok =>
    refine settles_of_ok () (w.without path) ?_ ?_ rfl
    · simp [removalError?, outcome]
    · simp [removeStale, query, map, run, Workshop.answer, outcome, Workshop.without]
  | error reason =>
    by_cases absent : reason = .notFound
    · refine settles_of_ok () (w.without path) ?_ ?_ rfl
      · simp [removalError?, outcome, absent]
      · simp [removeStale, query, map, run, Workshop.answer, outcome, absent, Workshop.without]
    · apply settles_of_error (.remove path reason)
      · simp [removalError?, outcome]
      · simp [removeStale, query, map, run, Workshop.answer, outcome]

theorem settles_runProgram (s : Signer) (r : SigningRequest) (w : Workshop) :
  let ran := w.run s.program (s.arguments r)
  (s.runProgram r).Settles Workshop.answer w
    [startError? s.program ran.2, finishError? s.program ran.2] fun _ w' =>
      ∃ report, ran = (w', .ok report) ∧ report.status = .exited 0
  := by
  intro ran
  cases outcome : ran.2 with
  | error reason =>
    apply settles_of_error (.spawn s.program reason)
    · simp [startError?]
    · simp [runProgram, query, map, run, Workshop.answer, outcome, ran]
  | ok report =>
    by_cases well : report.status = .exited 0
    · apply settles_of_ok () ran.1
      · simp [startError?, finishError?, well]
      · simp [runProgram, query, map, run, Workshop.answer, outcome, ran, well,
          ExitStatus.isSuccess]
      · exact ⟨report, Prod.ext rfl outcome, well⟩
    · apply settles_of_error (.failed s.program report.status report.complaintText)
      · simp [startError?, finishError?, well]
      · simp [runProgram, query, map, run, Workshop.answer, outcome, ran, well,
          ExitStatus.isSuccess]

theorem settles_readOutput (path : Path) (w : Workshop) :
  (readOutput path).Settles Workshop.answer w [readingError? w.tree path] fun text w' =>
    w' = w ∧ w'.tree.readText path = .ok text
  := by
  have read : (readOutput path).run Workshop.answer w =
      ((w.tree.readText path).mapError (.read path), w) := rfl
  cases outcome : w.tree.readText path with
  | error reason =>
    apply settles_of_error (.read path reason)
    · simp [readingError?, outcome]
    · rw [read, outcome]
      rfl
  | ok text =>
    refine settles_of_ok text w ?_ ?_ ⟨rfl, outcome⟩
    · simp [readingError?, outcome]
    · rw [read, outcome]
      rfl

/-- The files hold the three texts of a certificate. -/
structure Holds (s : Signer) (login : String) (t : Tree) (c : Certificate) : Prop where
  authority : t.readText s.authorityPath = .ok c.authority
  certificate : t.readText (s.certificatePath login) = .ok c.certificate
  key : t.readText (s.keyPath login) = .ok c.key

/-- The reading of the three texts. -/
theorem settles_reading (s : Signer) (login : String) (w : Workshop) :
  ((readOutput s.authorityPath).andThen fun authority =>
    (readOutput (s.certificatePath login)).andThen fun certificate =>
      (readOutput (s.keyPath login)).andThen fun key =>
        .done (.ok ⟨authority, certificate, key⟩)).Settles Workshop.answer w
    [readingError? w.tree s.authorityPath, readingError? w.tree (s.certificatePath login),
      readingError? w.tree (s.keyPath login)]
    fun c w' => w' = w ∧ s.Holds login w'.tree c
  := by
  apply (settles_readOutput s.authorityPath w).andThen
  rintro authority _ ⟨rfl, authorityText⟩
  apply (settles_readOutput (s.certificatePath login) _).andThen
  rintro certificate _ ⟨rfl, certificateText⟩
  apply (settles_readOutput (s.keyPath login) _).andThen
  rintro key _ ⟨rfl, keyText⟩
  exact settles_done ⟨rfl, authorityText, certificateText, keyText⟩

/-- The conversation fails with the error of the first phase that fails. -/
theorem settles_issue (s : Signer) (r : SigningRequest) (w : Workshop) :
  (s.issue r).Settles Workshop.answer w (phases.map (s.error? r w)) fun c w' =>
    (∃ report, s.attempt r w = (w', .ok report) ∧ report.status = .exited 0) ∧
    s.Holds r.login w'.tree c
  := by
  apply (settles_removeStale _ w).andThen
  rintro _ _ rfl
  apply (settles_removeStale _ _).andThen
  rintro _ _ rfl
  apply (settles_runProgram s r _).andThen
  rintro _ w' ⟨report, attempted, well⟩
  obtain rfl : (s.attempt r w).1 = w' := congrArg Prod.fst attempted
  apply (settles_reading s r.login (s.attempt r w).1).mono
  rintro c _ ⟨rfl, holds⟩
  exact ⟨⟨report, attempted, well⟩, holds⟩

/-! ### Removals -/

theorem removalError?_eq_none_iff {t : Tree} {path : Path} :
  removalError? t path = none ↔ ∀ reason, (t.remove path).2 = .error reason → reason = .notFound
  := by
  unfold removalError?
  split
  · next done => simp [done]
  · next absent => simp [absent]
  · next reason other => simpa [other] using fun same => absurd same (by assumption)

/-- When no removal fails, neither output is there. -/
theorem isVacant_cleared (removed : ∀ o, s.error? r w (.remove o) = none) (o : Output) :
  (s.cleared r.login w).tree.IsVacant (o.path s r.login)
  := by
  cases o with
  | certificate =>
    have first := Tree.isVacant_remove (removalError?_eq_none_iff.1 (removed .certificate))
    exact (Tree.pruned_remove _ _).isVacant first
  | key => exact Tree.isVacant_remove (removalError?_eq_none_iff.1 (removed .key))

/-- An output that is not found at the beginning is no failure. -/
theorem error?_remove_eq_none {o : Output}
    (absent : w.tree.read (o.path s r.login) = .error .notFound) :
  s.error? r w (.remove o) = none
  := by
  have absentThen : (s.beforeRemoval r.login w o).tree.read (o.path s r.login) =
      .error .notFound := by
    cases o with
    | certificate => exact absent
    | key => exact (Tree.pruned_remove _ _).read_eq_notFound absent
  rw [error?, removalError?_eq_none_iff, Tree.remove_of_read_eq_notFound absentThen]
  intro reason same
  exact (Except.error.inj same).symm

/-- The program is asked for only when no removal has failed. -/
theorem removed_of_run {program : Path} {arguments : List String}
    (h : (.run program arguments, w') ∈ (s.issue r).encounters Workshop.answer w) (o : Output) :
  s.error? r w (.remove o) = none
  := by
  have removed {path : Path} {w : Workshop} {u : Unit}
      (ok : ((removeStale path).run Workshop.answer w).1 = .ok u) :
      removalError? w.tree path = none := by
    simpa using ((settles_removeStale path w).of_ok ok).1
  rcases mem_encounters_andThen h with here | ⟨_, first, afterRemoval⟩
  · cases List.mem_singleton.1 here
  rcases mem_encounters_andThen afterRemoval with here | ⟨_, second, _⟩
  · cases List.mem_singleton.1 here
  cases o with
  | certificate => exact removed first
  | key => exact removed second

/-- A certificate is issued only if the program was run once, in a tree without either output, and
ended with status zero; it then consists of the texts that the files hold after the run, and there
is none if the run has left an output unwritten.  Otherwise the error is that of the first phase
that fails.  To remove an output that is not found is no failure, and after a failed removal the
program is not asked for. -/
theorem issues_fresh (s : Signer) (r : SigningRequest) (w : Workshop) :
  let result := ((s.issue r).run Workshop.answer w).1
  let w' := ((s.issue r).run Workshop.answer w).2
  (∀ c, result = .ok c →
    (∀ o : Output, (s.cleared r.login w).tree.IsVacant (o.path s r.login)) ∧
    (∃ tool report, w.tools s.program = some tool ∧
      tool (s.arguments r) (s.cleared r.login w).tree = (w'.tree, report) ∧
      report.status = .exited 0) ∧
    w'.runs = w.runs ++ [s.arguments r] ∧
    s.Holds r.login w'.tree c) ∧
  (∀ o : Output, w'.tree.IsVacant (o.path s r.login) → ∀ c, result ≠ .ok c) ∧
  (∀ e, result = .error e ↔ phases.findSome? (s.error? r w) = some e) ∧
  (∀ o : Output, w.tree.read (o.path s r.login) = .error .notFound →
    s.error? r w (.remove o) = none) ∧
  ∀ o : Output, s.error? r w (.remove o) ≠ none → ∀ program arguments w₁,
    (.run program arguments, w₁) ∉ (s.issue r).encounters Workshop.answer w
  := by
  intro result w'
  have settles := settles_issue s r w
  refine ⟨?fresh, ?written, ?first, ?absent, ?unasked⟩
  case fresh =>
    intro c ok
    obtain ⟨none, ⟨report, ran, well⟩, holds⟩ := settles.of_ok ok
    obtain ⟨tool, known, does, noted⟩ := Workshop.exists_of_run_eq_ok ran
    refine ⟨?_, ⟨tool, report, known, does, well⟩, noted, holds⟩
    rw [List.findSome?_map, List.findSome?_eq_none_iff] at none
    apply isVacant_cleared
    rintro (_ | _)
    · exact none (.remove .certificate) (.head _)
    · exact none (.remove .key) (.tail _ (.head _))
  case written =>
    intro o vacant c ok
    obtain ⟨-, -, holds⟩ := settles.of_ok ok
    cases o with
    | certificate => exact vacant.readText_ne _ holds.certificate
    | key => exact vacant.readText_ne _ holds.key
  case first =>
    intro e
    rw [settles.eq_error_iff, List.findSome?_map]
    rfl
  case absent =>
    intro o
    apply error?_remove_eq_none
  case unasked =>
    intro o failed program arguments w₁ asked
    exact failed (removed_of_run asked o)

end Signer

end MeshOnboard
