import MeshOnboard.Proofs.Files.Writing
import MeshOnboard.Proofs.Overlay.Removal
import Mathlib.Logic.Function.Basic
import Mathlib.Tactic.Use

/-!
# Certificates that are issued at the same time

Several calls that issue certificates for one login share a directory, and their steps are taken in
any order (`Dialogue.interleave`).  The signing program refuses to overwrite output and writes a
pair of its own at each run.  A call returns a certificate and a key that are not older than its own
run, and the key is not older than the certificate (`issue_interleaved`).  They need not be a pair,
for another call may remove the output and sign anew between the two reads
(`overtaken_returns_no_pair`).
-/

namespace MeshOnboard

/-! ### Conversations that are held at the same time -/

namespace Dialogue

variable {Q : Type} {R : Q → Type} {α σ ι : Type}

/-- The conversation after one more answer, and the answerer after it. -/
def advance (answer : (q : Q) → σ → R q × σ) : Dialogue Q R α → σ → Dialogue Q R α × σ
  | done a, world => (done a, world)
  | ask q next, world =>
    let (r, world) := answer q world
    (next r, world)

/-- The result of a conversation that has succeeded. -/
def returned? {ε : Type} : Dialogue Q R (Except ε α) → Option α
  | done (.ok a) => some a
  | _ => none

theorem returned?_eq_some_iff {ε : Type} {d : Dialogue Q R (Except ε α)} {a : α} :
  d.returned? = some a ↔ d = done (.ok a)
  := by
  cases d with
  | done result =>
    cases result with
    | error e => simp [returned?]
    | ok b => simp [returned?]
  | ask q next => simp [returned?]

theorem advance_andThen {ε β : Type} {q : Q} {f : R q → Except ε α}
    {g : α → Dialogue Q R (Except ε β)} (answer : (q : Q) → σ → R q × σ) (world : σ) :
  (((query q).map f).andThen g).advance answer world =
    ((done (f (answer q world).1)).andThen g, (answer q world).2)
  := rfl

variable [DecidableEq ι]

/-- Conversations with one answerer, who hears which of them asks.  The schedule says whose question
is answered next. -/
def interleave (answer : ι → (q : Q) → σ → R q × σ) :
    List ι → (ι → Dialogue Q R α) → σ → (ι → Dialogue Q R α) × σ
  | [], ds, world => (ds, world)
  | i :: schedule, ds, world =>
    let (d, world) := (ds i).advance (answer i) world
    interleave answer schedule (Function.update ds i d) world

/-- What an answer preserves for the conversation that hears it and for the others is preserved by
every schedule. -/
theorem interleave_preserves {answer : ι → (q : Q) → σ → R q × σ} {Inv : σ → Prop}
    {Stage : ι → σ → Dialogue Q R α → Prop}
    (preserves : ∀ i d world, Inv world → Stage i world d →
      Inv (d.advance (answer i) world).2 ∧
      Stage i (d.advance (answer i) world).2 (d.advance (answer i) world).1 ∧
      ∀ j d', Stage j world d' → Stage j (d.advance (answer i) world).2 d')
    (schedule : List ι) (ds : ι → Dialogue Q R α) {world : σ} (inv : Inv world)
    (stages : ∀ i, Stage i world (ds i)) :
  Inv (interleave answer schedule ds world).2 ∧
  ∀ i, Stage i (interleave answer schedule ds world).2 ((interleave answer schedule ds world).1 i)
  := by
  induction schedule generalizing ds world with
  | nil => exact ⟨inv, stages⟩
  | cons i schedule ih =>
    obtain ⟨inv', stage, others⟩ := preserves i (ds i) world inv (stages i)
    apply ih _ inv'
    intro j
    by_cases same : j = i
    · subst same
      rwa [Function.update_self]
    · rw [Function.update_of_ne same]
      exact others j (ds j) (stages j)

end Dialogue

/-! ### The places of the output -/

namespace Signer.Output

variable {t : Tree} {s : Signer} {login : String} {q : Place}

/-- The path of an output ends in the ending of the output. -/
theorem exists_chars_path (o : Output) (s : Signer) (login : String) :
  ∃ before, (o.path s login).chars = before ++ o.ending
  := by
  rw [path_eq, Path.join, name]
  split
  · exact ⟨login.toList, rfl⟩
  · split
    · exact ⟨s.directory.chars ++ login.toList, (List.append_assoc ..).symm⟩
    · exact ⟨s.directory.chars ++ '/' :: login.toList, by simp⟩

/-- The path of an output leads to a place whose name ends in the ending of the output. -/
theorem exists_of_locate_path (o : Output) (h : t.locate (o.path s login) = .ok q) :
  ∃ here last, q = here ++ [last ++ o.ending]
  := by
  obtain ⟨before, chars⟩ := o.exists_chars_path s login
  have nonempty : o.ending ≠ [] := by
    intro isEmpty
    simpa [isEmpty] using o.length_ending
  obtain ⟨names, last, split⟩ := Path.exists_names_append before nonempty o.noSlash_ending
  rw [← chars] at split
  have long : 4 ≤ (last ++ o.ending).length := by simp [o.length_ending]
  have stays : last ++ o.ending ≠ ['.'] := by
    intro same
    simp [same] at long
  have up : last ++ o.ending ≠ ['.', '.'] := by
    intro same
    simp [same] at long
  obtain ⟨here, -, -, place⟩ := Tree.exists_of_locate split stays up h
  use here, last

/-- The two outputs are not at the same place. -/
theorem eq_of_locate_path {o o' : Output} (h : t.locate (o.path s login) = .ok q)
    (h' : t.locate (o'.path s login) = .ok q) :
  o = o'
  := by
  obtain ⟨here, last, rfl⟩ := o.exists_of_locate_path h
  obtain ⟨here', last', same⟩ := o'.exists_of_locate_path h'
  have names : last ++ o.ending = last' ++ o'.ending := by
    simpa using (List.append_inj' same rfl).2
  have endings : o.ending = o'.ending :=
    (List.append_inj' names (by rw [o.length_ending, o'.length_ending])).2
  cases o with
  | certificate => cases o' with
    | certificate => rfl
    | key => exact absurd endings (by decide)
  | key => cases o' with
    | certificate => exact absurd endings (by decide)
    | key => rfl

end Signer.Output

/-! ### A directory that calls share -/

/-- What is written to the outputs at each run of a signing program. -/
abbrev Press : Type := Signer.Output → Nat → List UInt8

namespace Press

/-- What is written at a run, if it is a text. -/
def text? (m : Press) (o : Signer.Output) (run : Nat) : Option String :=
  (Utf8.read? (m o run)).map String.ofList

/-- Whether something is where a path leads. -/
def isTaken (t : Tree) (p : Path) : Bool :=
  match t.locate p with
  | .error _ => false
  | .ok place => (t.node? place).isSome

/-- The tree after a run that writes both outputs.  There is none if there is output already, or if
an output cannot be written. -/
def write? (m : Press) (run : Nat) (certificate key : Path) (t : Tree) : Option Tree :=
  if isTaken t certificate ∨ isTaken t key then none
  else
    match t.write certificate (m .certificate run) with
    | (_, .error _) => none
    | (t, .ok ()) =>
      match t.write key (m .key run) with
      | (_, .error _) => none
      | (t, .ok ()) => some t

end Press

/-- A directory that several calls share, and the calls whose runs have written output so far. -/
structure SharedDirectory (ι : Type) where
  tree : Tree
  written : List ι

namespace SharedDirectory

variable {ι : Type}

/-- The answer to a step of a call, and the directory after it.  A run that writes nothing ends
badly. -/
def answer (m : Press) (i : ι) (step : IssueStep) (w : SharedDirectory ι) :
    step.Outcome × SharedDirectory ι :=
  match step with
  | .remove path =>
    let (tree, outcome) := w.tree.remove path
    (outcome, { w with tree })
  | .run _ arguments =>
    let output (flag : String) : Path := (ToolScript.flag? flag (arguments.drop 1)).getD ""
    match m.write? w.written.length (output "-out-crt") (output "-out-key") w.tree with
    | none => (.ok ⟨.exited 1, Utf8.write "output exists"⟩, w)
    | some tree => (.ok ⟨.exited 0, []⟩, ⟨tree, w.written ++ [i]⟩)
  | .read path => (w.tree.readText path, w)

end SharedDirectory

namespace Signer

variable {ι : Type} {s : Signer} {m : Press} {login : String} {r : SigningRequest}

/-- A run writes both outputs. -/
theorem read_path_of_write? {t t' : Tree} {run : Nat}
    (h : m.write? run (s.certificatePath login) (s.keyPath login) t = some t') (o : Output) :
  t'.read (o.path s login) = .ok (m o run)
  := by
  unfold Press.write? at h
  split at h
  · contradiction
  split at h
  · contradiction
  next t₁ first =>
    split at h
    · contradiction
    next t₂ second =>
      obtain rfl := Option.some.inj h
      cases o with
      | key => exact Tree.read_write second
      | certificate =>
        apply Tree.read_write_of_ne second _ (Tree.read_write first)
        intro q certificate key
        have same : Output.certificate = Output.key := Output.eq_of_locate_path certificate key
        contradiction

/-- What is in an output file is what the last run has written, if there was one. -/
def Fresh (s : Signer) (m : Press) (login : String) (w : SharedDirectory ι) : Prop :=
  ∀ run, w.written.length = run + 1 →
    ∀ (o : Output) content, w.tree.read (o.path s login) = .ok content → content = m o run

/-- Nothing else is in an output file after a file was removed. -/
theorem Fresh.remove {w : SharedDirectory ι} (h : s.Fresh m login w) (path : Path) (i : ι) :
  s.Fresh m login (SharedDirectory.answer m i (.remove path) w).2
  := by
  intro run length o content was
  exact h run length o content ((Tree.pruned_remove w.tree path).read_eq_ok was)

/-- The program writes to the output files of the login. -/
theorem answer_run (i : ι) (w : SharedDirectory ι) :
  SharedDirectory.answer m i (.run s.program (s.arguments r)) w =
    match m.write? w.written.length (s.certificatePath r.login) (s.keyPath r.login) w.tree with
    | none => (.ok ⟨.exited 1, Utf8.write "output exists"⟩, w)
    | some tree => (.ok ⟨.exited 0, []⟩, ⟨tree, w.written ++ [i]⟩)
  := by
  have certificate : ToolScript.flag? "-out-crt" ((s.arguments r).drop 1) =
      some (toString (s.certificatePath r.login)) := by
    simp [arguments, ToolScript.flag?]
  have key : ToolScript.flag? "-out-key" ((s.arguments r).drop 1) =
      some (toString (s.keyPath r.login)) := by
    simp [arguments, ToolScript.flag?]
  simp only [SharedDirectory.answer, certificate, key, Option.getD_some, Path.ofString_toString]

/-- After a run that has written output, this is what is in the output files. -/
theorem fresh_of_write? {w : SharedDirectory ι} {tree : Tree} (i : ι)
    (h : m.write? w.written.length (s.certificatePath login) (s.keyPath login) w.tree = some tree) :
  s.Fresh m login (⟨tree, w.written ++ [i]⟩ : SharedDirectory ι)
  := by
  intro run length o content was
  obtain rfl : w.written.length = run := by simpa using length
  rw [read_path_of_write? h o] at was
  exact (Except.ok.inj was).symm

/-! ### The stages of a call -/

/-- What is said after the texts before the key are read. -/
def readingKey (s : Signer) (r : SigningRequest) (authority certificate : String) :
    IssueDialogue Certificate :=
  (readOutput (s.keyPath r.login)).andThen fun key => .done (.ok ⟨authority, certificate, key⟩)

/-- What is said after the certificate of the authority is read. -/
def readingPair (s : Signer) (r : SigningRequest) (authority : String) :
    IssueDialogue Certificate :=
  (readOutput (s.certificatePath r.login)).andThen (s.readingKey r authority)

/-- What is said after the program has run. -/
def reading (s : Signer) (r : SigningRequest) : IssueDialogue Certificate :=
  (readOutput s.authorityPath).andThen (s.readingPair r)

/-- What is said after old output is removed. -/
def signing (s : Signer) (r : SigningRequest) : IssueDialogue Certificate :=
  (s.runProgram r).andThen fun _ => s.reading r

/-- What is said after an old certificate is removed. -/
def removingKey (s : Signer) (r : SigningRequest) : IssueDialogue Certificate :=
  (removeStale (s.keyPath r.login)).andThen fun _ => s.signing r

theorem issue_eq (s : Signer) (r : SigningRequest) :
  s.issue r = (removeStale (s.certificatePath r.login)).andThen fun _ => s.removingKey r
  := rfl

/-- A certificate that a call returns, with the runs that have written it: its own run, the one of
its certificate and the one of its key, none earlier than the one before. -/
structure Drawn (m : Press) (i : ι) (written : List ι) (c : Certificate) (own first later : Nat) :
    Prop where
  mine : written[own]? = some i
  own_le : own ≤ first
  first_le : first ≤ later
  lt : later < written.length
  certificate : m.text? .certificate first = some c.certificate
  key : m.text? .key later = some c.key

/-- How far a call has come. -/
inductive Stage (s : Signer) (m : Press) (r : SigningRequest) (i : ι) (written : List ι) :
    IssueDialogue Certificate → Prop where
  | begun : Stage s m r i written (s.issue r)
  | removingKey : Stage s m r i written (s.removingKey r)
  | signing : Stage s m r i written (s.signing r)
  /-- Its own run has written output. -/
  | reading (own : Nat) (mine : written[own]? = some i) : Stage s m r i written (s.reading r)
  | readingPair (own : Nat) (mine : written[own]? = some i) (authority : String) :
      Stage s m r i written (s.readingPair r authority)
  /-- It has read what some run has written, its own or a later one. -/
  | readingKey (own first : Nat) (mine : written[own]? = some i) (own_le : own ≤ first)
      (lt : first < written.length) (authority : String) {certificate : String}
      (text : m.text? .certificate first = some certificate) :
      Stage s m r i written (s.readingKey r authority certificate)
  | returned (own first later : Nat) {c : Certificate}
      (drawn : Drawn m i written c own first later) : Stage s m r i written (.done (.ok c))
  | failed (e : IssueError) : Stage s m r i written (.done (.error e))

/-- A call is not set back by further runs. -/
theorem Stage.mono {i : ι} {written written' : List ι} {d : IssueDialogue Certificate}
    (h : Stage s m r i written d) (more : written <+: written') :
  Stage s m r i written' d
  := by
  have kept {own : Nat} (mine : written[own]? = some i) : written'[own]? = some i := by
    obtain ⟨_, rfl⟩ := more
    obtain ⟨lt, -⟩ := List.getElem?_eq_some_iff.1 mine
    rwa [List.getElem?_append_left lt]
  have length := more.length_le
  cases h with
  | begun => exact .begun
  | removingKey => exact .removingKey
  | signing => exact .signing
  | reading own mine => exact .reading own (kept mine)
  | readingPair own mine authority => exact .readingPair own (kept mine) authority
  | readingKey own first mine own_le lt authority text =>
    exact .readingKey own first (kept mine) own_le (Nat.lt_of_lt_of_le lt length) authority text
  | returned own first later drawn =>
    exact .returned own first later
      { drawn with mine := kept drawn.mine, lt := Nat.lt_of_lt_of_le drawn.lt length }
  | failed e => exact .failed e

/-- A text that is read from an output file is what the last run has written. -/
theorem Fresh.text?_of_readText {w : SharedDirectory ι} (h : s.Fresh m login w) {run : Nat}
    (length : w.written.length = run + 1) {o : Output} {text : String}
    (found : w.tree.readText (o.path s login) = .ok text) :
  m.text? o run = some text
  := by
  unfold Tree.readText at found
  split at found
  · contradiction
  next content was =>
    obtain rfl := h run length o content was
    split at found
    · contradiction
    next cs decoded =>
      rw [Press.text?, decoded, Option.map_some, Except.ok.inj found]

theorem ok_of_mapError {α ε ε' : Type} {f : ε → ε'} {x : Except ε α} {a : α}
    (h : x.mapError f = .ok a) :
  x = .ok a
  := by
  cases x with
  | error e => contradiction
  | ok b => exact congrArg Except.ok (Except.ok.inj h)

/-- If a call has run the program, there is a last run, which is not before that of the call. -/
theorem exists_last_run {written : List ι} {own : Nat} {i : ι} (mine : written[own]? = some i) :
  ∃ run, written.length = run + 1 ∧ own ≤ run
  := by
  obtain ⟨lt, -⟩ := List.getElem?_eq_some_iff.1 mine
  exact ⟨written.length - 1, by omega, by omega⟩

theorem Stage.andThen_done {α : Type} {i : ι} {written : List ι} {x : Except IssueError α}
    {f : α → IssueDialogue Certificate} (h : ∀ a, x = .ok a → Stage s m r i written (f a)) :
  Stage s m r i written ((Dialogue.done x).andThen f)
  := by
  cases x with
  | error e => exact .failed e
  | ok a => exact h a rfl

/-- A call comes one stage further with an answer, or it has failed or returned. -/
theorem stage_advance {w : SharedDirectory ι} {i : ι} {d : IssueDialogue Certificate}
    (fresh : s.Fresh m r.login w) (stage : Stage s m r i w.written d) :
  let (d', w') := d.advance (SharedDirectory.answer m i) w
  s.Fresh m r.login w' ∧ Stage s m r i w'.written d' ∧ w.written <+: w'.written
  := by
  cases stage with
  | begun =>
    rw [issue_eq, removeStale, Dialogue.advance_andThen]
    exact ⟨fresh.remove _ i, .andThen_done fun _ _ => .removingKey, List.prefix_rfl⟩
  | removingKey =>
    rw [removingKey, removeStale, Dialogue.advance_andThen]
    exact ⟨fresh.remove _ i, .andThen_done fun _ _ => .signing, List.prefix_rfl⟩
  | signing =>
    rw [signing, runProgram, Dialogue.advance_andThen, answer_run]
    cases written : m.write? w.written.length (s.certificatePath r.login) (s.keyPath r.login)
      w.tree with
    | none => exact ⟨fresh, .failed _, List.prefix_rfl⟩
    | some tree =>
      refine ⟨fresh_of_write? i written, ?_, List.prefix_append ..⟩
      exact .andThen_done fun _ _ => .reading w.written.length (by simp)
  | reading own mine =>
    rw [reading, readOutput, Dialogue.advance_andThen]
    exact ⟨fresh, .andThen_done fun authority _ => .readingPair own mine authority, List.prefix_rfl⟩
  | readingPair own mine authority =>
    rw [readingPair, readOutput, Dialogue.advance_andThen]
    refine ⟨fresh, .andThen_done fun certificate found => ?_, List.prefix_rfl⟩
    obtain ⟨run, length, own_le⟩ := exists_last_run mine
    have text := fresh.text?_of_readText length (o := .certificate) (ok_of_mapError found)
    exact .readingKey own run mine own_le (by omega) authority text
  | readingKey own first mine own_le lt authority text =>
    rw [readingKey, readOutput, Dialogue.advance_andThen]
    refine ⟨fresh, .andThen_done fun key found => ?_, List.prefix_rfl⟩
    obtain ⟨run, length, -⟩ := exists_last_run mine
    have text' := fresh.text?_of_readText length (o := .key) (ok_of_mapError found)
    have first_le : first ≤ run := by omega
    have last : run < w.written.length := by omega
    exact .returned own first run ⟨mine, own_le, first_le, last, text, text'⟩
  | returned own first later drawn =>
    exact ⟨fresh, .returned own first later drawn, List.prefix_rfl⟩
  | failed e => exact ⟨fresh, .failed e, List.prefix_rfl⟩

/-- Calls for one login that share a directory, in whatever order their steps are taken: what a call
returns was written by its own run or a later one, and its key not before its certificate.  So they
are a pair if no run has come after its own. -/
theorem issue_interleaved [DecidableEq ι] (s : Signer) (m : Press) (t : Tree) (login : String)
    (requests : ι → SigningRequest) (schedule : List ι) :
  let (calls, w) := Dialogue.interleave (SharedDirectory.answer m) schedule
    (fun i => s.issue { requests i with login }) ⟨t, []⟩
  ∀ i c, calls i = .done (.ok c) →
    ∃ own first later, Drawn m i w.written c own first later ∧
      (w.written.length = own + 1 → first = own ∧ later = own)
  := by
  have advances (i : ι) (d : IssueDialogue Certificate) (w : SharedDirectory ι)
      (fresh : s.Fresh m login w) (stage : Stage s m { requests i with login } i w.written d) :
      s.Fresh m login (d.advance (SharedDirectory.answer m i) w).2 ∧
      Stage s m { requests i with login } i (d.advance (SharedDirectory.answer m i) w).2.written
        (d.advance (SharedDirectory.answer m i) w).1 ∧
      ∀ j d', Stage s m { requests j with login } j w.written d' →
        Stage s m { requests j with login } j
          (d.advance (SharedDirectory.answer m i) w).2.written d' := by
    obtain ⟨fresh', stage', more⟩ := stage_advance (r := { requests i with login }) fresh stage
    exact ⟨fresh', stage', fun j d' stage => stage.mono more⟩
  have begun : s.Fresh m login (⟨t, []⟩ : SharedDirectory ι) := by
    intro run length
    contradiction
  obtain ⟨-, stages⟩ := Dialogue.interleave_preserves advances schedule
    (fun i => s.issue { requests i with login }) begun fun i => Stage.begun
  intro i c returned
  have stage := stages i
  rw [returned] at stage
  cases stage with
  | returned own first later drawn =>
    use own, first, later, drawn
    have := drawn.own_le
    have := drawn.first_le
    have := drawn.lt
    omega

/-- A press whose certificates are `c`, `cc`, … and whose keys are `k`, `kk`, …. -/
def numbered : Press
  | .certificate, run => List.replicate (run + 1) 99
  | .key, run => List.replicate (run + 1) 107

/-- Two calls for `alice`: before the first reads the key, the second removes the output and runs
the program. -/
def overtaken : (Bool → IssueDialogue Certificate) × SharedDirectory Bool :=
  Dialogue.interleave (SharedDirectory.answer numbered)
    [false, false, false, false, false, true, true, true, false]
    (fun _ => certs.issue (requestOf "alice")) ⟨stocked.tree, []⟩

/-- The first call returns a certificate and a key that no run has written together. -/
theorem overtaken_returns_no_pair :
  overtaken.1 false = .done (.ok ⟨"C", "c", "kk"⟩) ∧ overtaken.2.written = [false, true] ∧
  ∀ run < 2, ¬ (numbered.text? .certificate run = some "c" ∧ numbered.text? .key run = some "kk")
  := by
  rw [← Dialogue.returned?_eq_some_iff]
  decide +kernel

end Signer

end MeshOnboard
