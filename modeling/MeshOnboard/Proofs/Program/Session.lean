import MeshOnboard.Program.ClientHost
import MeshOnboard.Proofs.Dialogue
import MeshOnboard.Proofs.Discovery.Outcome
import MeshOnboard.Proofs.Program.ConfigFile

/-!
# The order of a session

A session goes through its steps in one order.  `Passage.course` lists them, each with what has to
come of it for the next to follow, and `Progress` says how far a session has come on such a course:
it waits for the answer to the next step, it has come to the end, or a step has failed and ended it.
Whatever is answered, a session has come so far and not elsewhere (`progress_run`).

On a host every step is `Warranted` by what went before: the relay is the fastest that was
discovered, the configuration file holds what this relay sent, and the daemon runs with that file.
-/

namespace MeshOnboard

namespace ClientSession

/-- A step with what comes of it. -/
abbrev Exchange : Type := Dialogue.Exchange SessionStep SessionStep.Outcome

/-- What a session meets with when no step stops it. -/
structure Passage where
  endpoint : Endpoint
  enrolment : Enrolment
  file : Path
  ending : WaitOutcome
  farewell : Except CallError Unit
  killing : Except FileError Unit

instance : Inhabited Passage where
  default := {
    endpoint := ⟨"", "", "", .unreachable .timeout⟩
    enrolment := ⟨"", .ofOctets 0 0 0 0, .ofOctets 0 0 0 0, []⟩
    file := default
    ending := .interrupted
    farewell := .ok ()
    killing := .ok () }

/-- The steps of a session that no step stops, with what comes of them.  The first five succeed. -/
def Passage.course (v : Passage) (c : ClientSettings) : List Exchange :=
  [⟨.discover, .ok v.endpoint⟩,
    ⟨.connect v.endpoint.host, .ok ()⟩,
    ⟨.enrol v.endpoint.host c.login c.token, .ok v.enrolment⟩,
    ⟨.writeConfig c.overlayDir v.enrolment.config, .ok v.file⟩,
    ⟨.spawn c.daemon (daemonArguments v.file), .ok ()⟩,
    ⟨.wait, v.ending⟩,
    ⟨.leave v.endpoint.host c.login, v.farewell⟩,
    ⟨.kill, v.killing⟩]

/-- The error that a step ends a session with. -/
def failure? : Exchange → Option SessionError
  | ⟨.discover, .error reason⟩ => some (.discovery reason)
  | ⟨.connect _, .error reason⟩ => some (.connection reason)
  | ⟨.enrol .., .error reason⟩ => some (.enrolment reason)
  | ⟨.writeConfig .., .error reason⟩ => some (.configFile reason)
  | ⟨.spawn program _, .error reason⟩ => some (.daemon program reason)
  | _ => none

/-- How far a session has come, with what was said and what is still to be said. -/
inductive Progress (c : ClientSettings) : List Exchange → SessionDialogue → Prop where
  /-- It waits for the answer to the next step of a course. -/
  | underway (v : Passage) (n : Nat) {step : SessionStep} {next : step.Outcome → SessionDialogue}
      (here : (v.course c)[n]?.map Sigma.fst = some step) :
      Progress c ((v.course c).take n) (.ask step next)
  /-- It has come to the end of a course. -/
  | finished (v : Passage) : Progress c (v.course c) (.done (.ok ()))
  /-- The next step of a course, one of the first five, has failed. -/
  | failed (v : Passage) (n : Nat) (early : n < 5) {x : Exchange} {e : SessionError}
      (here : (v.course c)[n]?.map Sigma.fst = some x.1) (failure : failure? x = some e) :
      Progress c ((v.course c).take n ++ [x]) (.done (.error e))

variable {c : ClientSettings}

theorem progress_follow (v : Passage) (answers : List ((step : SessionStep) → step.Outcome)) :
  Progress c ((v.course c).take 5 ++ (follow c v.endpoint.host).exchanges answers)
    ((follow c v.endpoint.host).follow answers)
  := by
  match answers with
  | [] => exact .underway v 5 rfl
  | [a] => exact .underway { v with ending := a .wait } 6 rfl
  | [a, b] =>
    let w : Passage := { v with
      ending := a .wait
      farewell := b (.leave v.endpoint.host c.login) }
    exact .underway w 7 rfl
  | a :: b :: d :: answers =>
    let w : Passage := { v with
      ending := a .wait
      farewell := b (.leave v.endpoint.host c.login)
      killing := d .kill }
    exact .finished w

theorem progress_apply (v : Passage) (answers : List ((step : SessionStep) → step.Outcome)) :
  Progress c ((v.course c).take 3 ++ (apply c v.endpoint.host v.enrolment).exchanges answers)
    ((apply c v.endpoint.host v.enrolment).follow answers)
  := by
  match answers with
  | [] => exact .underway v 3 rfl
  | a :: answers =>
    rw [apply, Dialogue.exchanges, Dialogue.follow]
    cases a (.writeConfig c.overlayDir v.enrolment.config) with
    | error reason => exact .failed v 3 (by decide) rfl rfl
    | ok file =>
      match answers with
      | [] => exact .underway { v with file } 4 rfl
      | b :: answers =>
        simp only [Dialogue.exchanges, Dialogue.follow]
        cases b (.spawn c.daemon (daemonArguments file)) with
        | error reason => exact .failed { v with file } 4 (by decide) rfl rfl
        | ok _ => exact progress_follow { v with file } answers

theorem progress_join (v : Passage) (answers : List ((step : SessionStep) → step.Outcome)) :
  Progress c ((v.course c).take 1 ++ (join c v.endpoint.host).exchanges answers)
    ((join c v.endpoint.host).follow answers)
  := by
  match answers with
  | [] => exact .underway v 1 rfl
  | a :: answers =>
    rw [join, Dialogue.exchanges, Dialogue.follow]
    cases a (.connect v.endpoint.host) with
    | error reason => exact .failed v 1 (by decide) rfl rfl
    | ok _ =>
      match answers with
      | [] => exact .underway v 2 rfl
      | b :: answers =>
        simp only [Dialogue.exchanges, Dialogue.follow]
        cases b (.enrol v.endpoint.host c.login c.token) with
        | error reason => exact .failed v 2 (by decide) rfl rfl
        | ok enrolment => exact progress_apply { v with enrolment } answers

/-- Whatever is answered, a session keeps to its course. -/
theorem progress_run (c : ClientSettings) (answers : List ((step : SessionStep) → step.Outcome)) :
  Progress c ((run c).exchanges answers) ((run c).follow answers)
  := by
  match answers with
  | [] => exact .underway default 0 rfl
  | a :: answers =>
    rw [run, Dialogue.exchanges, Dialogue.follow]
    cases a .discover with
    | error reason => exact .failed default 0 (by decide) rfl rfl
    | ok endpoint => exact progress_join { (default : Passage) with endpoint } answers

/-! ### Sessions that have ended -/

/-- Whether the daemon was started. -/
def starts : Exchange → Bool
  | ⟨.spawn .., .ok _⟩ => true
  | _ => false

/-- Whether leave was taken of a relay. -/
def leaves : Exchange → Bool
  | ⟨.leave .., _⟩ => true
  | _ => false

/-- Whether the daemon was killed. -/
def kills : Exchange → Bool
  | ⟨.kill, _⟩ => true
  | _ => false

/-- The step is none that starts the daemon or comes after its start. -/
def Preliminary (x : Exchange) : Prop :=
  starts x = false ∧ leaves x = false ∧ kills x = false

/-- A step that ends a session is preliminary. -/
theorem preliminary_of_failure? {x : Exchange} {e : SessionError} (h : failure? x = some e) :
  Preliminary x
  := by
  unfold failure? at h
  split at h
  · exact ⟨rfl, rfl, rfl⟩
  · exact ⟨rfl, rfl, rfl⟩
  · exact ⟨rfl, rfl, rfl⟩
  · exact ⟨rfl, rfl, rfl⟩
  · exact ⟨rfl, rfl, rfl⟩
  · contradiction

/-- The first four steps of a course are preliminary. -/
theorem preliminary_of_mem_take (v : Passage) {n : Nat} (early : n < 5) {x : Exchange}
    (mem : x ∈ (v.course c).take n) :
  Preliminary x
  := by
  have mem : x ∈ (v.course c).take 4 := by
    apply List.mem_of_mem_take (i := n)
    rwa [List.take_take, Nat.min_eq_left (Nat.le_of_lt_succ early)]
  simp only [Passage.course, List.take_succ_cons, List.take_zero, List.mem_cons, List.not_mem_nil,
    or_false] at mem
  rcases mem with rfl | rfl | rfl | rfl
  · exact ⟨rfl, rfl, rfl⟩
  · exact ⟨rfl, rfl, rfl⟩
  · exact ⟨rfl, rfl, rfl⟩
  · exact ⟨rfl, rfl, rfl⟩

/-- A session ends well if the daemon was started, and then, and only then, it takes leave and kills
the daemon. -/
theorem Progress.ended {said : List Exchange} {result : Except SessionError Unit}
    (h : Progress c said (.done result)) :
  (result = .ok () ↔ said.any starts) ∧ said.any leaves = said.any starts ∧
  said.any kills = said.any starts
  := by
  cases h with
  | finished v => exact ⟨⟨fun _ => rfl, fun _ => rfl⟩, rfl, rfl⟩
  | @failed v n early x e here failure =>
    have preliminary : ∀ y ∈ (v.course c).take n ++ [x], Preliminary y := by
      intro y mem
      rcases List.mem_append.1 mem with before | last
      · exact preliminary_of_mem_take v early before
      · obtain rfl := List.mem_singleton.1 last
        exact preliminary_of_failure? failure
    have noStart : ((v.course c).take n ++ [x]).any starts = false :=
      List.any_eq_false.2 fun y mem => by simp [(preliminary y mem).1]
    have noLeave : ((v.course c).take n ++ [x]).any leaves = false :=
      List.any_eq_false.2 fun y mem => by simp [(preliminary y mem).2.1]
    have noKill : ((v.course c).take n ++ [x]).any kills = false :=
      List.any_eq_false.2 fun y mem => by simp [(preliminary y mem).2.2]
    simp only [noStart, noLeave, noKill]
    simp

end ClientSession

/-! ### Sessions on a host -/

namespace ClientHost

open ClientSession

variable {h : ClientHost} {c : ClientSettings} {host : String} {e : Enrolment}

/-- A relay is the fastest of those that the client discovers. -/
def Chosen (h : ClientHost) (c : ClientSettings) (host : String) : Prop :=
  ∃ endpoint : Endpoint,
    endpoint.Leads ((discovery c).endpoints h.resolver h.prober) ∧ endpoint.host = host

/-- The chosen relay has enrolled the client. -/
def Granted (h : ClientHost) (c : ClientSettings) (e : Enrolment) : Prop :=
  ∃ host, h.Chosen c host ∧ h.enrol host c.login c.token = .ok e

/-- What has to hold of a step of a session that began on `h`, and of the host before the step. -/
def Warranted (h : ClientHost) (c : ClientSettings) : SessionStep → ClientHost → Prop
  | .discover, _ => True
  | .connect host, _ => h.Chosen c host
  | .enrol host login token, _ => h.Chosen c host ∧ login = c.login ∧ token = c.token
  | .writeConfig directory config, before =>
    directory = c.overlayDir ∧ before.tree = h.tree ∧ ∃ e, h.Granted c e ∧ config = e.config
  | .spawn program arguments, before =>
    program = c.daemon ∧ arguments = ClientSession.daemonArguments (ConfigFile.path c.overlayDir) ∧
    ∃ e, h.Granted c e ∧
      before.tree.read (ConfigFile.path c.overlayDir) = .ok (Utf8.write e.config)
  | .wait, _ => True
  | .leave host login, _ => h.Chosen c host ∧ login = c.login
  | .kill, _ => True

theorem warranted_follow (chosen : h.Chosen c host) (now : ClientHost) :
  ∀ x ∈ (follow c host).encounters (answer c) now, h.Warranted c x.1 x.2
  := by
  simp [follow, Dialogue.encounters, Warranted, chosen]

theorem warranted_apply (chosen : h.Chosen c host) (granted : h.Granted c e) :
  ∀ x ∈ (apply c host e).encounters (answer c) h, h.Warranted c x.1 x.2
  := by
  rw [apply, Dialogue.encounters, List.forall_mem_cons]
  use ⟨rfl, rfl, e, granted, rfl⟩
  simp only [answer]
  cases written : ConfigFile.write h.tree c.overlayDir e.config with
  | mk tree outcome =>
    cases outcome with
    | error reason => simp [Dialogue.encounters]
    | ok file =>
      obtain ⟨rfl, holds⟩ := ConfigFile.read_of_write written
      simp only [Dialogue.encounters, List.forall_mem_cons]
      use ⟨rfl, rfl, e, granted, holds⟩
      split
      · simp [Dialogue.encounters]
      · exact warranted_follow chosen _

theorem warranted_join (chosen : h.Chosen c host) :
  ∀ x ∈ (join c host).encounters (answer c) h, h.Warranted c x.1 x.2
  := by
  rw [join, Dialogue.encounters, List.forall_mem_cons]
  use chosen
  simp only [answer]
  split
  · simp [Dialogue.encounters]
  · rw [Dialogue.encounters, List.forall_mem_cons]
    use ⟨chosen, rfl, rfl⟩
    simp only [answer]
    cases asked : h.enrol host c.login c.token with
    | error reason => simp [Relay.enrol, Except.mapError, Dialogue.encounters]
    | ok e => exact warranted_apply chosen ⟨host, chosen, asked⟩

/-- Every step of a session is warranted by what the host was like at its beginning. -/
theorem warranted_run (h : ClientHost) (c : ClientSettings) :
  ∀ x ∈ (ClientSession.run c).encounters (answer c) h, h.Warranted c x.1 x.2
  := by
  rw [ClientSession.run, Dialogue.encounters, List.forall_mem_cons]
  use trivial
  simp only [answer]
  cases found : (discovery c).fastest h.resolver h.prober with
  | error reason => simp [Dialogue.encounters]
  | ok endpoint => exact warranted_join ⟨endpoint, Discovery.fastest_eq_ok_iff.1 found, rfl⟩

/-! ### Sessions that fail before the daemon is to start -/

theorem grown_apply {error : SessionError}
    (failed : ((apply c host e).run (answer c) h).1 = .error error)
    (noDaemon : ∀ program reason, error ≠ .daemon program reason) :
  Tree.Grown h.tree ((apply c host e).run (answer c) h).2.tree
  := by
  simp only [apply, Dialogue.run, answer] at failed ⊢
  cases written : ConfigFile.write h.tree c.overlayDir e.config with
  | mk tree outcome =>
    simp only [written] at failed ⊢
    cases outcome with
    | error reason => exact (ConfigFile.grownAlong_of_write_error written).grown
    | ok file =>
      simp only [Dialogue.run, answer] at failed
      split at failed
      · next reason _ =>
        exact absurd (Except.error.inj failed).symm (noDaemon c.daemon reason)
      · contradiction

theorem grown_join {error : SessionError}
    (failed : ((join c host).run (answer c) h).1 = .error error)
    (noDaemon : ∀ program reason, error ≠ .daemon program reason) :
  Tree.Grown h.tree ((join c host).run (answer c) h).2.tree
  := by
  simp only [join, Dialogue.run, answer] at failed ⊢
  cases connected : Relay.connect h.isUp host h.port with
  | error reason => apply Tree.Grown.refl
  | ok _ =>
    simp only [connected, Dialogue.run, answer] at failed ⊢
    cases enrolled : Relay.enrol host (h.enrol host c.login c.token) with
    | error reason => apply Tree.Grown.refl
    | ok e =>
      simp only [enrolled] at failed ⊢
      exact grown_apply failed noDaemon

/-- A session that fails, but not because of the daemon, makes some directories at most. -/
theorem grown_run {error : SessionError} (failed : (h.run c).1 = .error error)
    (noDaemon : ∀ program reason, error ≠ .daemon program reason) :
  Tree.Grown h.tree (h.run c).2.tree
  := by
  simp only [run, ClientSession.run, Dialogue.run, answer] at failed ⊢
  cases found : (discovery c).fastest h.resolver h.prober with
  | error reason => apply Tree.Grown.refl
  | ok endpoint =>
    simp only [found] at failed ⊢
    exact grown_join failed noDaemon

end ClientHost

/-- Whatever is answered, a session keeps to its course.  When it has ended, it has ended well
exactly if the daemon was started, and exactly then it has taken leave and killed the daemon.  On a
host every step is warranted, and if the session fails before the daemon is to start, every file
reads as before. -/
theorem ClientSession.run_keeps_course (c : ClientSettings) :
  (∀ answers : List ((step : SessionStep) → step.Outcome),
    Progress c ((run c).exchanges answers) ((run c).follow answers) ∧
    ∀ result, (run c).follow answers = .done result →
      (result = .ok () ↔ ((run c).exchanges answers).any starts) ∧
      ((run c).exchanges answers).any leaves = ((run c).exchanges answers).any starts ∧
      ((run c).exchanges answers).any kills = ((run c).exchanges answers).any starts) ∧
  ∀ h : ClientHost,
    (∀ step before, (step, before) ∈ (run c).encounters (ClientHost.answer c) h →
      h.Warranted c step before) ∧
    ∀ error, (h.run c).1 = .error error → (∀ program reason, error ≠ .daemon program reason) →
      ∀ p content, h.tree.read p = .ok content → (h.run c).2.tree.read p = .ok content
  := by
  constructor
  · intro answers
    have progress := progress_run c answers
    use progress
    intro result ended
    rw [ended] at progress
    exact progress.ended
  · intro h
    use fun step before asked => h.warranted_run c (step, before) asked
    intro error failed noDaemon p content was
    exact (ClientHost.grown_run failed noDaemon).read_eq_ok was

end MeshOnboard
