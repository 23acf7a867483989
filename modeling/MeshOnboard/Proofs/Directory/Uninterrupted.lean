import MeshOnboard.Proofs.Dialogue
import MeshOnboard.Proofs.Directory.SingleFlight

/-!
# Calls held to their end

`Syncer.finish` and `Syncer.syncTimed` hold a conversation with the directory in one go.  They do
what a run of steps does in which nothing comes between the start of a call and its last answer, so
that what is known of runs is known of them.
-/

namespace MeshOnboard.Syncer

variable {σ : Type}

/-- The steps in which a call hears answers, each of them `late` seconds after its start. -/
def resumes (call : Nat) (late : Int64) (answers : List ((q : DirectoryQuery) → q.Reply)) :
    List SyncStep :=
  answers.map fun answer => .resume call answer late

/-- The question that a call waits at makes no difference to what its end leaves. -/
theorem advance_done_of_alone {s : Syncer} {call : Nat} {r r' : Rebuild} (startedAt now : Int64)
    (alone : s.waiting = .single call r) (result : Except SyncError Roster) :
  make { s with waiting := s.waiting.put call r' } (.advance call startedAt now (.done result)) =
    s.make (.advance call startedAt now (.done result))
  := by
  cases result with
  | ok roster => simp [SyncMove.advance, make, write, leave, alone]
  | error cause => simp [SyncMove.advance, make, write, leave, alone]

/-- The one call that waits comes to its end when it hears what an answerer says. -/
theorem run_resumes {s : Syncer} {call : Nat} {r : Rebuild} (alone : s.waiting = .single call r)
    (answer : (q : DirectoryQuery) → σ → q.Reply × σ) (world : σ) (late : Int64) :
  let ending := SyncMove.advance call r.startedAt (r.startedAt + late)
    (.done (r.rest.run answer world).1)
  ∃ log a, s.run (resumes call late (r.rest.answers answer world)) =
    ((s.make ending).1, log ++ [(a, ending.event)])
  := by
  intro ending
  obtain ⟨startedAt, question, next⟩ := r
  simp only [ending, Rebuild.rest]
  clear ending
  generalize whole : Dialogue.ask question next = d
  induction d generalizing s question world with
  | done a => contradiction
  | ask q next' ih =>
    obtain ⟨rfl, rfl⟩ := Dialogue.ask.inj whole
    let heard : SyncStep := .resume call (fun q => (answer q world).1) late
    have first : s.step heard =
        s.make (.advance call startedAt (startedAt + late) (next (answer question world).1)) := by
      simp [heard, step, move, resumeMove, alone, Table.find?_single]
    simp only [Dialogue.answers, Dialogue.run, resumes, List.map_cons]
    rw [run_cons, first]
    cases onward : next (answer question world).1 with
    | done result =>
      use [], heard
      rfl
    | ask q' next' =>
      let s' := { s with waiting := s.waiting.put call ⟨startedAt, q', next'⟩ }
      have alone' : s'.waiting = .single call ⟨startedAt, q', next'⟩ := by simp [s', alone]
      obtain ⟨log, a, later⟩ := ih _ (answer question world).2 q' next' alone' onward.symm
      rw [onward, advance_done_of_alone _ _ alone] at later
      use (heard, .asked call q') :: log, a
      change ((s'.run (resumes call late _)).1, _ :: (s'.run (resumes call late _)).2) = _
      rw [later]
      rfl

/-- The one call that waits, held to its end in one go, ends as in a run of answers. -/
theorem finish_eq_run {s : Syncer} {call : Nat} {r : Rebuild} (alone : s.waiting = .single call r)
    (answer : (q : DirectoryQuery) → σ → q.Reply × σ) (world : σ) (elapsed : σ → Int64) :
  ∃ answers late log a e, s.run (resumes call late answers) =
      ((s.finish answer world elapsed).1, log ++ [(a, e)]) ∧
    e.result? = (s.finish answer world elapsed).2.1
  := by
  have first : s.waiting.entries.head? = some (call, r) := by rw [alone]; rfl
  obtain ⟨log, a, h⟩ := run_resumes alone answer world (elapsed (r.rest.run answer world).2)
  simp only [finish, first]
  exact ⟨_, _, log, a, _, h, rfl⟩

/-- A call that is held to its end in one go ends as in a run in which nothing comes between its
start and its last answer. -/
theorem syncTimed_eq_run {s : Syncer} (h : s.Exclusive)
    (answer : (q : DirectoryQuery) → σ → q.Reply × σ) (world : σ) (now : Int64)
    (elapsed : σ → Int64) :
  ∃ answers late log a e, s.run (.start now :: resumes s.started late answers) =
      ((s.syncTimed answer world now elapsed).1, log ++ [(a, e)]) ∧
    e.result? = (s.syncTimed answer world now elapsed).2.1
  := by
  have ends_at_once {event : SyncEvent} {result : SyncResult} {s' : Syncer}
      (ended : s.step (.start now) = (s', event)) (has : event.result? = some result) :
      ∃ answers late log a e, s.run (.start now :: resumes s.started late answers) =
          ((s.syncTimed answer world now elapsed).1, log ++ [(a, e)]) ∧
        e.result? = (s.syncTimed answer world now elapsed).2.1 := by
    use [], 0, [], .start now, event
    have at_once : s.syncTimed answer world now elapsed = (s', some result, world) := by
      rw [Syncer.syncTimed, begin, ended]
      simp only [has]
    rw [at_once, run_cons, ended]
    use rfl, has
  cases h with
  | held call r lock alone old => apply ends_at_once (start_of_locked lock now) rfl
  | free lock nobody =>
    cases stale : s.cache.isStale now s.settings.ttlSeconds with
    | false => apply ends_at_once (start_of_fresh lock nobody stale) rfl
    | true =>
      obtain ⟨r, -, -, started⟩ := start_of_stale lock nobody stale
      obtain ⟨answers, late, log, a, e, ends, result⟩ :=
        finish_eq_run (s := (s.step (.start now)).1) (by rw [started]) answer world elapsed
      use answers, late, (.start now, (s.step (.start now)).2) :: log, a, e
      have waits : s.syncTimed answer world now elapsed =
          (s.step (.start now)).1.finish answer world elapsed := by
        rw [syncTimed, begin, started]
        rfl
      rw [waits]
      use by rw [run_cons, ends]; rfl, result

/-- A call that is held to its end in one go keeps the lock with the one call that waits. -/
theorem Exclusive.syncTimed {s : Syncer} (h : s.Exclusive)
    (answer : (q : DirectoryQuery) → σ → q.Reply × σ) (world : σ) (now : Int64)
    (elapsed : σ → Int64) :
  (s.syncTimed answer world now elapsed).1.Exclusive
  := by
  obtain ⟨answers, late, log, a, e, ends, -⟩ := syncTimed_eq_run h answer world now elapsed
  have kept := h.run (.start now :: resumes s.started late answers)
  rwa [ends] at kept

end MeshOnboard.Syncer
