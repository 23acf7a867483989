import MeshOnboard.Directory.Cadence
import MeshOnboard.Directory.Syncer
import MeshOnboard.Log

/-!
# The synchronization task

The task starts a synchronization at every tick, on a time line in milliseconds from its start.
`SyncTask.events` lists the questions asked and the synchronizations ended up to a horizon, with
their times; `SyncTask.stateAt` is the state at a time and `SyncTask.logs` what failures leave in
the log.  Without a positive interval the task stops before its first tick.
-/

namespace MeshOnboard

/-- How the task reads its clocks. -/
structure Timekeeping where
  /-- The second that is shown at a millisecond of the time line. -/
  second : Nat → Int64
  /-- The whole seconds counted for a span of milliseconds. -/
  wholeSeconds : Nat → Int64

namespace Timekeeping

/-- Clocks that stand still at a second. -/
def frozen (second : Int64) : Timekeeping := ⟨fun _ => second, fun _ => 0⟩

/-- Clocks that show second `start` at the beginning of the time line and run with it. -/
def running (start : Int64) : Timekeeping :=
  ⟨fun t => start + Int64.ofNat (t / 1000), fun t => Int64.ofNat (t / 1000)⟩

end Timekeeping

/-- Something that happens on a time line. -/
structure Timed (α : Type) where
  time : Nat
  event : α

namespace SyncTask

/-- What happens while the task runs. -/
inductive Event where
  /-- A question was put to the directory. -/
  | asked (question : DirectoryQuery)
  /-- A synchronization ended, with the state it left. -/
  | ended (result : SyncResult) (state : Syncer)

/-- An answerer that names the milliseconds each answer takes. -/
abbrev TimedAnswerer (σ : Type) : Type :=
  (q : DirectoryQuery) → σ → (Nat × q.Reply) × σ

/-- The time, the questions asked so far with their times, and the answerer's own state. -/
structure World (σ : Type) where
  time : Nat
  asked : List (Timed Event)
  inner : σ

/-- The answerer that notes each question and lets the time of its answer pass. -/
def World.answer {σ : Type} (answer : TimedAnswerer σ) (q : DirectoryQuery) (w : World σ) :
    q.Reply × World σ :=
  let ((delay, reply), inner) := answer q w.inner
  (reply, ⟨w.time + delay, w.asked ++ [⟨w.time, .asked q⟩], inner⟩)

/-- The synchronization of a tick acted on at `started`: what happens, the time it ends at, and the
states after it. -/
def tick {σ : Type} (timing : Timekeeping) (answer : TimedAnswerer σ) (started : Nat) (s : Syncer)
    (inner : σ) : List (Timed Event) × Nat × Syncer × σ :=
  match s.begin (timing.second started) with
  | (s, some result) => ([⟨started, .ended result s⟩], started, s, inner)
  | (s, none) =>
    let (s, result, w) := s.finish (World.answer answer) ⟨started, [], inner⟩
      fun w => timing.wholeSeconds (w.time - started)
    let ending := result.toList.map fun r => ⟨w.time, Event.ended r s⟩
    (w.asked ++ ending, w.time, s, w.inner)

/-- What happens at the ticks from the one due at `due` on that are acted on up to the horizon;
before `free` the task is busy. -/
def eventsFrom {σ : Type} (period : Nat) (hp : 0 < period) (timing : Timekeeping)
    (answer : TimedAnswerer σ) (horizon due free : Nat) (s : Syncer) (inner : σ) :
    List (Timed Event) :=
  let started := max due free
  if _h : horizon < started then []
  else
    let (here, ended, s, inner) := tick timing answer started s inner
    here ++ eventsFrom period hp timing answer horizon (Cadence.next period due started) ended s
      inner
termination_by horizon + 1 - due
decreasing_by
  have := Cadence.lt_next hp (Nat.le_max_left due free)
  have := Nat.le_max_left due free
  omega

/-- What happens up to the horizon while the task runs with ticks every `period` milliseconds. -/
def events {σ : Type} (period : Nat) (timing : Timekeeping) (answer : TimedAnswerer σ)
    (horizon : Nat) (s : Syncer) (inner : σ) : List (Timed Event) :=
  if hp : 0 < period then
    (eventsFrom period hp timing answer horizon 0 0 s inner).filter (·.time ≤ horizon)
  else []

/-- Whether a task with the given interval keeps running. -/
def keepsRunning (period : Nat) : Bool := period ≠ 0

/-- The state after the events, `s` being the state before them. -/
def stateAfter (s : Syncer) (es : List (Timed Event)) : Syncer :=
  es.foldl (fun s e => match e.event with
    | .asked _ => s
    | .ended _ after => after) s

/-- The questions among the events. -/
def questions (es : List (Timed Event)) : List DirectoryQuery :=
  es.filterMap fun e => match e.event with
    | .asked q => some q
    | .ended .. => none

/-- The warning about a failed synchronization. -/
def failureNotice (e : SyncError) : LogEntry :=
  .warning s!"Directory sync failed, keeping last known teams: {e.message}"

/-- What the events leave in the log. -/
def logs (es : List (Timed Event)) : List LogEntry :=
  es.filterMap fun e => match e.event with
    | .ended (.error cause) _ => some (failureNotice cause)
    | _ => none

end SyncTask

end MeshOnboard
