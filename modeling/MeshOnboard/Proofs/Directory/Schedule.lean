import MeshOnboard.Directory.SyncTask
import MeshOnboard.Proofs.Directory.SingleFlight
import Mathlib

/-!
# When the task synchronizes

The task takes one turn after the other.  A turn waits for its tick and for the end of the turn
before it, and holds one call to its end.  The ticks stay on multiples of the period: the tick after
a turn is the least multiple later than its start (`Cadence.isLeast_next`), however late the turn
was.  A turn finds the lock free and leaves it free, so that its call is never turned away, and what
comes of a call has no influence on the times of later turns.
-/

namespace MeshOnboard

namespace Cadence

/-- The tick after one on the grid is the first point of the grid after the start. -/
theorem next_eq {period due started : Nat} (hp : tolerance < period) (grid : period ∣ due)
    (h : due ≤ started) :
  next period due started = period * (started / period + 1)
  := by
  obtain ⟨n, rfl⟩ := grid
  obtain ⟨late, rfl⟩ := Nat.exists_eq_add_of_le h
  have pos : 0 < period := Nat.zero_lt_of_lt hp
  have quotient : (period * n + late) / period = n + late / period :=
    Nat.mul_add_div pos n late
  have division := Nat.div_add_mod late period
  rw [next, Nat.add_sub_cancel_left, quotient, Nat.mul_add, Nat.mul_add, Nat.mul_one]
  split
  · next onTime =>
    rw [Nat.div_eq_of_lt (Nat.lt_of_le_of_lt onTime hp)]
    omega
  · omega

/-- The tick after one on the grid is the least multiple of the period that is later than the
start. -/
theorem isLeast_next {period due started : Nat} (hp : tolerance < period) (grid : period ∣ due)
    (h : due ≤ started) :
  IsLeast {t | period ∣ t ∧ started < t} (next period due started)
  := by
  have pos : 0 < period := Nat.zero_lt_of_lt hp
  rw [next_eq hp grid h]
  constructor
  · use Nat.dvd_mul_right _ _
    apply Nat.lt_mul_div_succ started pos
  · rintro t ⟨⟨n, rfl⟩, later⟩
    apply Nat.mul_le_mul_left
    apply Nat.div_lt_of_lt_mul later

end Cadence

/-! ### Calls with nobody else about -/

namespace Syncer

/-- A call that is started with nobody else about is over at once, with nobody about again, or it is
the one that waits. -/
theorem AtRest.begin {s : Syncer} (h : s.AtRest) (now : Int64) :
  (∃ s', s.begin now = (s', some (.ok .fresh)) ∧ s'.AtRest) ∨
    ∃ s' call r, s.begin now = (s', none) ∧ s'.waiting = .single call r
  := by
  cases stale : s.cache.isStale now s.settings.ttlSeconds with
  | false =>
    left
    rw [Syncer.begin, start_of_fresh h.lock h.nobody stale]
    exact ⟨_, rfl, h.lock, h.nobody⟩
  | true =>
    right
    obtain ⟨r, -, -, started⟩ := start_of_stale h.lock h.nobody stale
    rw [Syncer.begin, started]
    exact ⟨_, _, r, rfl, rfl⟩

/-- The one call that waits leaves nobody behind at its end, and was not turned away. -/
theorem advance_done {s : Syncer} {call : Nat} {r : Rebuild} (alone : s.waiting = .single call r)
    (startedAt now : Int64) (roster : Except SyncError Roster) :
  ∃ s' result, s.make (.advance call startedAt now (.done roster)) = (s', .ended call result) ∧
    s'.AtRest ∧ result ≠ .ok .inFlight
  := by
  cases roster with
  | ok roster =>
    exact ⟨_, _, rfl, ⟨rfl, by simp [SyncMove.advance, write, leave, alone]⟩, by simp⟩
  | error cause =>
    exact ⟨_, _, rfl, ⟨rfl, by simp [SyncMove.advance, write, leave, alone]⟩, by simp⟩

end Syncer

namespace SyncTask

/-- A call of the task: its questions with their times, its end, and the state that it leaves. -/
structure Call where
  questions : List (Timed DirectoryQuery)
  ended : Nat
  result : SyncResult
  state : Syncer

/-- What a call lets happen. -/
def Call.events (c : Call) : List (Timed Event) :=
  c.questions.map (fun q => ⟨q.time, .asked q.event⟩) ++ [⟨c.ended, .ended c.result c.state⟩]

variable {σ : Type}

/-- Time passes in a conversation, and its questions are noted with their times. -/
theorem run_answer {α : Type} (answer : TimedAnswerer σ) (d : DirectoryDialogue α) (w : World σ) :
  ∃ questions : List (Timed DirectoryQuery),
    (d.run (World.answer answer) w).2.asked =
      w.asked ++ questions.map (fun q => ⟨q.time, .asked q.event⟩) ∧
    w.time ≤ (d.run (World.answer answer) w).2.time ∧
    ∀ q ∈ questions, w.time ≤ q.time ∧ q.time ≤ (d.run (World.answer answer) w).2.time
  := by
  induction d generalizing w with
  | done a =>
    use []
    simp [Dialogue.run]
  | ask q next ih =>
    obtain ⟨questions, noted, passed, within⟩ := ih (World.answer answer q w).1
      (World.answer answer q w).2
    have first : w.time ≤ (World.answer answer q w).2.time := Nat.le_add_right _ _
    use ⟨w.time, q⟩ :: questions
    rw [Dialogue.run]
    use noted.trans (by simp [World.answer]), first.trans passed
    intro x hx
    rcases List.mem_cons.1 hx with rfl | hx
    · use le_rfl, first.trans passed
    · obtain ⟨after, before⟩ := within x hx
      use first.trans after, before

/-- A call of the task with nobody else about puts its questions between its start and its end, is
not turned away, and leaves nobody behind. -/
theorem tick_of_atRest (timing : Timekeeping) (answer : TimedAnswerer σ) (started : Nat)
    {s : Syncer} (h : s.AtRest) (inner : σ) :
  ∃ (c : Call) (inner' : σ),
    tick timing answer started s inner = (c.events, c.ended, c.state, inner') ∧
    c.state.AtRest ∧ c.result ≠ .ok .inFlight ∧ started ≤ c.ended ∧
    ∀ q ∈ c.questions, started ≤ q.time ∧ q.time ≤ c.ended
  := by
  obtain ⟨s', begun, rest⟩ | ⟨s', call, r, begun, alone⟩ := h.begin (timing.second started)
  · use ⟨[], started, .ok .fresh, s'⟩, inner
    rw [tick, begun]
    use rfl, rest, by simp, le_rfl
    simp
  · have first : s'.waiting.entries.head? = some (call, r) := by rw [alone]; rfl
    let w := (r.rest.run (World.answer answer) ⟨started, [], inner⟩).2
    obtain ⟨questions, noted, passed, within⟩ := run_answer answer r.rest ⟨started, [], inner⟩
    obtain ⟨s'', result, ends, rest, heard⟩ := Syncer.advance_done alone r.startedAt
      (r.startedAt + timing.wholeSeconds (w.time - started))
      (r.rest.run (World.answer answer) ⟨started, [], inner⟩).1
    use ⟨questions, w.time, result, s''⟩, w.inner
    refine ⟨?_, rest, heard, passed, within⟩
    simp only [tick, begun, Syncer.finish, first]
    rw [ends]
    simp [Call.events, SyncEvent.result?, noted, w]

/-! ### Turns -/

/-- A turn of the task: when its tick is due, from when on the task is free, and the states then. -/
structure Turn (σ : Type) where
  due : Nat
  free : Nat
  syncer : Syncer
  inner : σ

namespace Turn

/-- The time at which the call of the turn starts. -/
def started (t : Turn σ) : Nat := max t.due t.free

variable (period : Nat) (timing : Timekeeping) (answer : TimedAnswerer σ)

/-- What happens in the turn. -/
def events (t : Turn σ) : List (Timed Event) :=
  (tick timing answer t.started t.syncer t.inner).1

/-- The time at which the call of the turn ends. -/
def ended (t : Turn σ) : Nat := (tick timing answer t.started t.syncer t.inner).2.1

/-- The turn that begins with the task. -/
def first (syncer : Syncer) (inner : σ) : Turn σ := ⟨0, 0, syncer, inner⟩

/-- The turn after this one. -/
def next (t : Turn σ) : Turn σ where
  due := Cadence.next period t.due t.started
  free := t.ended timing answer
  syncer := (tick timing answer t.started t.syncer t.inner).2.2.1
  inner := (tick timing answer t.started t.syncer t.inner).2.2.2

/-- The turn with the given number, when this one has number 0. -/
def later (t : Turn σ) (k : Nat) : Turn σ := (next period timing answer)^[k] t

/-- The tick is on the grid and nobody else is about. -/
structure Regular (t : Turn σ) : Prop where
  grid : period ∣ t.due
  rest : t.syncer.AtRest

theorem due_le_started (t : Turn σ) :
  t.due ≤ t.started
  := Nat.le_max_left _ _

variable {period : Nat} {timing : Timekeeping} {answer : TimedAnswerer σ}

theorem later_succ (t : Turn σ) (k : Nat) :
  t.later period timing answer (k + 1) = (t.next period timing answer).later period timing answer k
  := rfl

theorem later_succ' (t : Turn σ) (k : Nat) :
  t.later period timing answer (k + 1) = (t.later period timing answer k).next period timing answer
  := by
  apply Function.iterate_succ_apply'

variable (timing answer)

/-- The call of a turn with nobody else about. -/
theorem Regular.call {t : Turn σ} (h : t.Regular period) :
  ∃ c : Call, t.events timing answer = c.events ∧ t.ended timing answer = c.ended ∧
    (t.next period timing answer).syncer = c.state ∧ c.state.AtRest ∧ c.result ≠ .ok .inFlight ∧
    t.started ≤ t.ended timing answer ∧
    ∀ q ∈ c.questions, t.started ≤ q.time ∧ q.time ≤ t.ended timing answer
  := by
  obtain ⟨c, inner', ticked, rest⟩ := tick_of_atRest timing answer t.started h.rest t.inner
  use c
  simp only [events, ended, next, ticked, true_and]
  exact rest

theorem Regular.next (hp : Cadence.tolerance < period) {t : Turn σ} (h : t.Regular period) :
  (t.next period timing answer).Regular period
  := by
  obtain ⟨c, -, -, left, rest, -⟩ := h.call timing answer
  constructor
  · apply (Cadence.isLeast_next hp h.grid t.due_le_started).1.1
  · rw [left]
    apply rest

theorem Regular.later (hp : Cadence.tolerance < period) {t : Turn σ} (h : t.Regular period)
    (k : Nat) :
  (t.later period timing answer k).Regular period
  := by
  induction k with
  | zero => apply h
  | succ k ih =>
    rw [later_succ']
    apply ih.next timing answer hp

/-- The next turn starts when this one has ended and the least multiple of the period after its
start has come. -/
theorem Regular.started_next (hp : Cadence.tolerance < period) {t : Turn σ}
    (h : t.Regular period) :
  (t.next period timing answer).started =
    max (t.ended timing answer) (period * (t.started / period + 1))
  := by
  rw [← Cadence.next_eq hp h.grid t.due_le_started, Nat.max_comm]
  rfl

/-- No later turn starts earlier. -/
theorem Regular.started_le_later (hp : Cadence.tolerance < period) {t : Turn σ}
    (h : t.Regular period) (k : Nat) :
  t.started ≤ (t.later period timing answer k).started
  := by
  induction k with
  | zero => apply le_rfl
  | succ k ih =>
    have before := h.later timing answer hp k
    obtain ⟨c, -, -, -, -, -, passed, -⟩ := before.call timing answer
    rw [later_succ', before.started_next timing answer hp]
    apply (ih.trans passed).trans (Nat.le_max_left _ _)

/-- Ticks are at least a period apart. -/
theorem Regular.le_due_later (hp : Cadence.tolerance < period) {t : Turn σ} (h : t.Regular period)
    (k : Nat) :
  period * k ≤ (t.later period timing answer k).due
  := by
  induction k with
  | zero => apply Nat.zero_le
  | succ k ih =>
    have onward := Cadence.next_eq hp (h.later timing answer hp k).grid
      (due_le_started (t.later period timing answer k))
    rw [later_succ']
    apply le_of_le_of_eq _ onward.symm
    apply Nat.mul_le_mul_left
    apply Nat.succ_le_succ
    apply (Nat.le_div_iff_mul_le (Nat.zero_lt_of_lt hp)).2
    rw [Nat.mul_comm]
    apply ih.trans (due_le_started _)

/-- By any time at most one more turn has started than there were full periods. -/
theorem Regular.encard_started_le (hp : Cadence.tolerance < period) {t : Turn σ}
    (h : t.Regular period) (time : Nat) :
  {k | (t.later period timing answer k).started ≤ time}.encard ≤ ↑(time / period + 1)
  := by
  have few : {k | (t.later period timing answer k).started ≤ time} ⊆
      (Finset.range (time / period + 1) : Set Nat) := by
    intro k started
    rw [Finset.coe_range, Set.mem_Iio, Nat.lt_succ_iff,
      Nat.le_div_iff_mul_le (Nat.zero_lt_of_lt hp), Nat.mul_comm]
    calc period * k ≤ (t.later period timing answer k).due := h.le_due_later timing answer hp k
      _ ≤ (t.later period timing answer k).started := due_le_started _
      _ ≤ time := started
  apply (Set.encard_le_encard few).trans
  rw [Set.encard_coe_eq_coe_finsetCard, Finset.card_range]

/-- The starts of turns are those of pieces of work that take as long as the calls. -/
theorem Regular.map_started (hp : Cadence.tolerance < period) {t : Turn σ} (h : t.Regular period)
    (n : Nat) :
  (List.range n).map (fun k => (t.later period timing answer k).started) =
    Cadence.startsFrom period t.due t.free ((List.range n).map fun k =>
      (t.later period timing answer k).ended timing answer -
        (t.later period timing answer k).started)
  := by
  induction n generalizing t with
  | zero => rfl
  | succ n ih =>
    obtain ⟨c, -, -, -, -, -, passed, -⟩ := h.call timing answer
    have free : t.started + (t.ended timing answer - t.started) = t.ended timing answer :=
      Nat.add_sub_of_le passed
    rw [List.range_succ_eq_map, List.map_cons, List.map_cons, List.map_map, List.map_map]
    change t.started :: _ = t.started :: Cadence.startsFrom period _
      (t.started + (t.ended timing answer - t.started)) _
    rw [free]
    apply congrArg (List.cons _) (ih (h.next timing answer hp))

/-- The events of the task are those of the turns that start up to the horizon. -/
theorem Regular.eventsFrom_eq (hp : Cadence.tolerance < period) (pos : 0 < period) (horizon : Nat)
    {t : Turn σ} (h : t.Regular period) :
  ∃ n, (∀ k, k < n ↔ (t.later period timing answer k).started ≤ horizon) ∧
    eventsFrom period pos timing answer horizon t.due t.free t.syncer t.inner =
      (List.range n).flatMap fun k => (t.later period timing answer k).events timing answer
  := by
  induction left : horizon + 1 - t.due using Nat.strong_induction_on generalizing t with
  | h left' ih =>
    rw [eventsFrom]
    split
    · next beyond =>
      use 0
      constructor
      · intro k
        have := h.started_le_later timing answer hp k
        have : horizon < t.started := beyond
        omega
      · rfl
    · next reached =>
      have sooner : horizon + 1 - (t.next period timing answer).due < left' := by
        have : t.due < (t.next period timing answer).due :=
          Cadence.lt_next pos t.due_le_started
        have : ¬ horizon < t.started := reached
        have := t.due_le_started
        omega
      obtain ⟨n, counts, rest⟩ := ih _ sooner (h.next timing answer hp) rfl
      use n + 1
      constructor
      · intro k
        cases k with
        | zero =>
          have within : t.started ≤ horizon := Nat.not_lt.1 reached
          exact ⟨fun _ => within, fun _ => n.succ_pos⟩
        | succ k => rw [Nat.succ_lt_succ_iff, counts, later_succ]
      · rw [List.range_succ_eq_map, List.flatMap_cons, List.flatMap_map]
        apply congrArg _ rest

end Turn

/-- The first call starts with the task, and every other one when the call before it has ended and
the least multiple of the period after that call's start has come.  No call is turned away, each
puts its questions and ends before the next one starts, and by any time at most one more has started
than there were full periods.  After a call that lasts beyond the next tick there is one late call,
and then, unless that one lasts too long itself, the calls are on the ticks again.  What comes of
the calls has no influence on the times at which they start, which are those of pieces of work of
the same lengths.  Up to any horizon, the events of the task are those of the calls that start by
then. -/
theorem keeps_cadence {σ : Type} (period : Nat) (hp : Cadence.tolerance < period)
    (timing : Timekeeping) (answer : TimedAnswerer σ) (settings : SyncSettings) (cache : Cache)
    (latch : Latch) (inner : σ) :
  let syncer := Syncer.idle settings cache latch
  let turn (k : Nat) : Turn σ := (Turn.first syncer inner).later period timing answer k
  let s (k : Nat) : Nat := (turn k).started
  let e (k : Nat) : Nat := (turn k).ended timing answer
  let tick (k : Nat) : Nat := period * (s k / period + 1)
  (∀ k, IsLeast {t | period ∣ t ∧ s k < t} (tick k)) ∧
  s 0 = 0 ∧ (∀ k, s (k + 1) = max (e k) (tick k)) ∧
  (∀ k, ∃ c : Call, (turn k).events timing answer = c.events ∧ c.ended = e k ∧
    c.result ≠ .ok .inFlight ∧ s k ≤ e k ∧ ∀ q ∈ c.questions, s k ≤ q.time ∧ q.time ≤ e k) ∧
  (∀ time, {k | s k ≤ time}.encard ≤ ↑(time / period + 1)) ∧
  (∀ k, tick k < e k →
    s (k + 1) = e k ∧ (∀ j, s k < s j → s j < tick (k + 1) → j = k + 1) ∧
    (e (k + 1) ≤ tick (k + 1) → s (k + 2) = tick (k + 1))) ∧
  (∀ n, (List.range n).map s = Cadence.starts period ((List.range n).map fun k => e k - s k)) ∧
  ∀ horizon, ∃ n, (∀ k, k < n ↔ s k ≤ horizon) ∧
    events period timing answer horizon syncer inner =
      ((List.range n).flatMap fun k => (turn k).events timing answer).filter (·.time ≤ horizon)
  := by
  intro syncer turn s e tick
  have regular (k : Nat) : (turn k).Regular period :=
    have first : (Turn.first syncer inner).Regular period := ⟨Nat.dvd_zero _, rfl, rfl⟩
    first.later timing answer hp k
  have least (k : Nat) : IsLeast {t | period ∣ t ∧ s k < t} (tick k) := by
    have onward := Cadence.isLeast_next hp (regular k).grid (turn k).due_le_started
    rwa [Cadence.next_eq hp (regular k).grid (turn k).due_le_started] at onward
  have step (k : Nat) : s (k + 1) = max (e k) (tick k) := by
    have onward := (regular k).started_next timing answer hp
    rwa [← Turn.later_succ'] at onward
  have increasing : StrictMono s := by
    apply strictMono_nat_of_lt_succ
    intro k
    rw [step]
    apply lt_max_of_lt_right (least k).1.2
  refine ⟨least, rfl, step, ?calls, ?count, ?late, ?lengths, ?horizon⟩
  case calls =>
    intro k
    obtain ⟨c, events, ended, -, -, heard, passed, within⟩ := (regular k).call timing answer
    exact ⟨c, events, ended.symm, heard, passed, within⟩
  case count =>
    intro time
    apply (regular 0).encard_started_le timing answer hp
  case late =>
    intro k overrun
    use by rw [step, max_eq_left overrun.le]
    constructor
    · intro j after before
      have lower : k < j := increasing.lt_iff_lt.1 after
      have upper : j < k + 2 := by
        apply increasing.lt_iff_lt.1
        rw [step (k + 1)]
        apply lt_max_of_lt_right before
      omega
    · intro inTime
      rw [step (k + 1), max_eq_right inTime]
  case lengths =>
    intro n
    apply (regular 0).map_started timing answer hp
  case horizon =>
    intro horizon
    have pos : 0 < period := Nat.zero_lt_of_lt hp
    obtain ⟨n, counts, whole⟩ := (regular 0).eventsFrom_eq timing answer hp pos horizon
    use n, counts
    rw [events, dif_pos pos]
    apply congrArg _ whole

/-- With ticks every second and a first call that takes two and a half, the second call is late and
the third is on time again. -/
theorem keeps_cadence_of_slow_answer :
  let answer : TimedAnswerer Unit := fun
    | .teams .., _ => ((2500, .ok ⟨[], none⟩), ())
    | .members .., _ => ((0, .ok ⟨[], none⟩), ())
  let turn := Turn.later 1000 (.running 7000) answer
    (.first (.idle ⟨"acme", 100, 3600⟩ (.new 7000) .closed) ())
  Cadence.tolerance < 1000 ∧ (turn 0).started = 0 ∧ (turn 1).started = 2500 ∧
    (turn 2).started = 3000
  := by
  intro answer turn
  have hp : Cadence.tolerance < 1000 := by decide
  obtain ⟨-, begins, step, -⟩ := keeps_cadence 1000 hp (.running 7000) answer ⟨"acme", 100, 3600⟩
    (.new 7000) .closed ()
  have slow : (turn 0).ended (.running 7000) answer = 2500 := by cbv
  have quick : (turn 1).ended (.running 7000) answer = 2500 := by cbv
  have first : (turn 0).started = 0 := begins
  have second : (turn 1).started = 2500 := by
    have h : (turn 1).started =
      max ((turn 0).ended _ answer) (1000 * ((turn 0).started / 1000 + 1)) := step 0
    rwa [slow, first] at h
  have third : (turn 2).started = 3000 := by
    have h : (turn 2).started =
      max ((turn 1).ended _ answer) (1000 * ((turn 1).started / 1000 + 1)) := step 1
    rwa [quick, second] at h
  exact ⟨hp, first, second, third⟩

end SyncTask

end MeshOnboard
