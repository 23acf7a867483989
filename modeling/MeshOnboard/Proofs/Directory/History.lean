import MeshOnboard.Proofs.Directory.Transition
import Mathlib.Data.Finset.Basic

/-!
# Histories of synchronizations

A `SyncLog` is what has been done to the synchronizations of a directory, with what it led to.  It
tells when calls were started, which answers a call was given, which calls are unfinished and which
of them was the last to end with a new roster, without a look at the state.
-/

namespace MeshOnboard

/-- Steps with what they led to, in order. -/
abbrev SyncLog : Type := List (SyncStep × SyncEvent)

namespace SyncLog

/-- The second that a step starts a call at. -/
def startTime? : SyncStep × SyncEvent → Option Int64
  | (.start now, _) => some now
  | _ => none

/-- The seconds that calls were started at, in the order of their numbers. -/
def startTimes (log : SyncLog) : List Int64 := log.filterMap startTime?

/-- The answer that a step gives to a call that waits. -/
def answerTo? (call : Nat) : SyncStep × SyncEvent → Option ((q : DirectoryQuery) → q.Reply)
  | (.resume .., .ignored) => none
  | (.resume c answer _, _) => if c = call then some answer else none
  | _ => none

/-- The answers that a call was given, in order. -/
def answersTo (log : SyncLog) (call : Nat) : List ((q : DirectoryQuery) → q.Reply) :=
  log.filterMap (answerTo? call)

/-- The call that a step lets end with a new roster. -/
def synced? : SyncStep × SyncEvent → Option Nat
  | (_, .ended call (.ok (.synced ..))) => some call
  | _ => none

/-- The call that was the last to end with a new roster. -/
def lastSynced? (log : SyncLog) : Option Nat := (log.filterMap synced?).getLast?

/-- Some call has ended with a new roster. -/
def Synced (log : SyncLog) : Prop :=
  ∃ a call teams places, (a, SyncEvent.ended call (.ok (.synced teams places))) ∈ log

/-- The unfinished calls after one more event, when they were `calls` before it. -/
def track (calls : Finset Nat) : SyncEvent → Finset Nat
  | .asked call _ => insert call calls
  | .ended call _ => calls.erase call
  | .cancelled call => calls.erase call
  | _ => calls

/-- The calls that have put a question to the directory and have neither ended nor been given up. -/
def unfinished (log : SyncLog) : Finset Nat := log.foldl (fun calls e => track calls e.2) ∅

theorem startTimes_concat (log : SyncLog) (e : SyncStep × SyncEvent) :
  startTimes (log ++ [e]) = startTimes log ++ (startTime? e).toList
  := by
  simp only [startTimes, List.filterMap_append]
  cases h : startTime? e
  · simp [h]
  · simp [h]

theorem answersTo_concat (log : SyncLog) (e : SyncStep × SyncEvent) (call : Nat) :
  answersTo (log ++ [e]) call = answersTo log call ++ (answerTo? call e).toList
  := by
  simp only [answersTo, List.filterMap_append]
  cases h : answerTo? call e
  · simp [h]
  · simp [h]

theorem lastSynced?_concat (log : SyncLog) (e : SyncStep × SyncEvent) :
  lastSynced? (log ++ [e]) = (synced? e).or (lastSynced? log)
  := by
  simp only [lastSynced?, List.filterMap_append, List.getLast?_append]
  cases h : synced? e
  · simp [h]
  · simp [h]

theorem unfinished_concat (log : SyncLog) (e : SyncStep × SyncEvent) :
  unfinished (log ++ [e]) = track (unfinished log) e.2
  := by
  simp [unfinished, List.foldl_append]

theorem Synced.append {log : SyncLog} (h : log.Synced) (later : SyncLog) :
  Synced (log ++ later)
  := by
  obtain ⟨a, call, teams, places, h⟩ := h
  use a, call, teams, places
  apply List.mem_append_left _ h

theorem synced?_eq_some {x : SyncStep × SyncEvent} {call : Nat} :
  synced? x = some call ↔ ∃ a teams places, x = (a, .ended call (.ok (.synced teams places)))
  := by
  constructor
  · intro h
    unfold synced? at h
    split at h
    · next a c teams places =>
      obtain rfl := Option.some.inj h
      use a, teams, places
    · contradiction
  · rintro ⟨a, teams, places, rfl⟩
    rfl

/-- There is a last call with a new roster if there is any. -/
theorem isSome_lastSynced? {log : SyncLog} :
  log.lastSynced?.isSome = true ↔ log.Synced
  := by
  rw [lastSynced?, List.getLast?_isSome]
  constructor
  · intro some
    obtain ⟨call, h⟩ := List.exists_mem_of_ne_nil _ some
    obtain ⟨x, hx, synced⟩ := List.mem_filterMap.1 h
    obtain ⟨a, teams, places, rfl⟩ := synced?_eq_some.1 synced
    use a, call, teams, places
  · rintro ⟨a, call, teams, places, h⟩
    have listed : call ∈ log.filterMap synced? := List.mem_filterMap.2 ⟨_, h, rfl⟩
    apply List.ne_nil_of_mem listed

end SyncLog

namespace Syncer

/-- No transition changes the settings. -/
theorem Transition.settings_eq {s s' : Syncer} {a : SyncStep} {e : SyncEvent}
    (t : s.Transition a s' e) :
  s'.settings = s.settings
  := by
  cases t <;> rfl

/-- Calls are counted as they are started. -/
theorem Transition.started_eq {s s' : Syncer} {a : SyncStep} {e : SyncEvent}
    (t : s.Transition a s' e) :
  s'.started = s.started + (SyncLog.startTime? (a, e)).toList.length
  := by
  cases t <;> rfl

/-- The unfinished calls are those that wait. -/
theorem Exclusive.track {s s' : Syncer} {a : SyncStep} {e : SyncEvent} (h : s.Exclusive)
    (t : s.Transition a s' e) :
  SyncLog.track s.waiting.keys.toFinset e = s'.waiting.keys.toFinset
  := by
  have leaves {call : Nat} {r : Rebuild} (waits : s.waiting.find? call = some r) :
      s.waiting.keys.toFinset.erase call = (s.waiting.erase call).keys.toFinset := by
    obtain ⟨-, alone, -⟩ := h.of_waits waits
    simp [alone]
  cases t with
  | turnedAway now held =>
    apply Finset.erase_eq_of_notMem
    cases h with
    | free lock nobody => simp [nobody]
    | held call r lock alone old => simp [alone, old.ne']
  | spared now free young => simp [SyncLog.track, Syncer.leave, h.of_free free]
  | opened r free stale whole => simp [SyncLog.track, h.of_free free]
  | continued call answer elapsed r r' waits since rest =>
    obtain ⟨-, alone, -⟩ := h.of_waits waits
    simp [SyncLog.track, alone]
  | failed call answer elapsed r cause waits rest => apply leaves waits
  | completed call answer elapsed r roster waits rest => apply leaves waits
  | givenUp call r waits => apply leaves waits
  | unanswered call answer elapsed absent => rfl
  | missed call absent => rfl
  | lookedUp login => rfl

/-- A call that waits is given up when it is cancelled. -/
theorem step_cancel_of_waits {s : Syncer} {call : Nat} {r : Rebuild}
    (waits : s.waiting.find? call = some r) :
  s.step (.cancel call) = (s.leave call, .cancelled call)
  := by
  rw [step, move, cancelMove, waits]
  rfl

/-! ### From an idle start -/

section Idle

variable (settings : SyncSettings) (cache : Cache) (latch : Latch) (as : List SyncStep)

theorem settings_run :
  ((idle settings cache latch).run as).1.settings = settings
  := by
  apply run_induction (P := fun _ s => s.settings = settings) rfl
  intro log s a s' e h t
  rw [t.settings_eq, h]

theorem exclusive_run :
  ((idle settings cache latch).run as).1.Exclusive
  := by
  apply Exclusive.run
  apply Exclusive.free rfl rfl

theorem unfinished_run :
  SyncLog.unfinished ((idle settings cache latch).run as).2 =
    ((idle settings cache latch).run as).1.waiting.keys.toFinset
  := by
  apply run_induction_under (J := fun _ s => s.Exclusive)
    (P := fun log s => SyncLog.unfinished log = s.waiting.keys.toFinset)
  · apply Exclusive.free rfl rfl
  · intro log s a s' e hs t
    apply hs.transition t
  · rfl
  · intro log s a s' e hs h t
    rw [SyncLog.unfinished_concat, h, hs.track t]

/-- A call that is unfinished can be given up, and none is unfinished then. -/
theorem cancel_of_unfinished {call : Nat}
    (h : call ∈ SyncLog.unfinished ((idle settings cache latch).run as).2) :
  (((idle settings cache latch).run as).1.step (.cancel call)).2 = .cancelled call ∧
    SyncLog.unfinished ((idle settings cache latch).run (as ++ [.cancel call])).2 = ∅
  := by
  rw [unfinished_run] at h
  cases exclusive_run settings cache latch as with
  | free lock nobody => simp [nobody] at h
  | held c r lock alone old =>
    obtain rfl : call = c := by simpa [alone] using h
    have waits : ((idle settings cache latch).run as).1.waiting.find? call = some r := by
      rw [alone, Table.find?_single, if_pos rfl]
    have givenUp := step_cancel_of_waits waits
    use congrArg Prod.snd givenUp
    rw [unfinished_run, run_concat, givenUp]
    simp [leave, alone]

end Idle

end Syncer

end MeshOnboard
