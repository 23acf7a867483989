import MeshOnboard.Directory.Syncer
import Mathlib.Data.List.Induction

/-!
# Transitions of synchronizations

`Syncer.Transition` lists what a step may do to the synchronizations of a directory, one case for
each way in and out of a call, and `transition_step` says that every step is one of them.  What is
seen between the writes of a step is told by `onWay_of_mem_passes`: the cache changes before the
latch, and nothing else changes either.  A run is taken apart at its last step by `run_concat`.
`Exclusive` is the invariant of the lock: it is free and nobody waits, or it is held and exactly one
call waits.
-/

namespace MeshOnboard

/-- A rebuild starts with the question for the first page of teams. -/
theorem Directory.rebuild_eq_ask (organization : String) (size : UInt32) :
  ∃ next, rebuild organization size = .ask (.teams organization ⟨1, size⟩) next
  := by
  unfold rebuild
  rw [walk]
  exact ⟨_, rfl⟩

/-- A write to neither cache nor latch. -/
def SyncWrite.Spares : SyncWrite → Prop
  | replace .. => False
  | mark => False
  | _ => True

namespace Syncer

/-- What a step does to the synchronizations, and what it leads to. -/
inductive Transition (s : Syncer) : SyncStep → Syncer → SyncEvent → Prop where
  /-- While the lock is held a call is turned away. -/
  | turnedAway (now : Int64) (held : s.locked = true) :
    Transition s (.start now) { s with started := s.started + 1 }
      (.ended s.started (.ok .inFlight))
  /-- While the cache is fresh a call is over at once. -/
  | spared (now : Int64) (free : s.locked = false)
      (young : s.cache.isStale now s.settings.ttlSeconds = false) :
    Transition s (.start now) (leave { s with started := s.started + 1 } s.started)
      (.ended s.started (.ok .fresh))
  /-- Else a call takes the lock and begins a rebuild. -/
  | opened (r : Rebuild) (free : s.locked = false)
      (stale : s.cache.isStale r.startedAt s.settings.ttlSeconds = true)
      (whole : r.rest = Directory.rebuild s.settings.organization s.settings.pageSize) :
    Transition s (.start r.startedAt)
      { s with locked := true, waiting := s.waiting.put s.started r, started := s.started + 1 }
      (.asked s.started r.question)
  /-- An answer leads to another question. -/
  | continued (call : Nat) (answer : (q : DirectoryQuery) → q.Reply) (elapsed : Int64)
      (r r' : Rebuild) (waits : s.waiting.find? call = some r) (since : r'.startedAt = r.startedAt)
      (rest : r.next (answer r.question) = r'.rest) :
    Transition s (.resume call answer elapsed) { s with waiting := s.waiting.put call r' }
      (.asked call r'.question)
  /-- An answer ends a rebuild with an error. -/
  | failed (call : Nat) (answer : (q : DirectoryQuery) → q.Reply) (elapsed : Int64)
      (r : Rebuild) (cause : SyncError) (waits : s.waiting.find? call = some r)
      (rest : r.next (answer r.question) = .done (.error cause)) :
    Transition s (.resume call answer elapsed) (s.leave call) (.ended call (.error cause))
  /-- An answer ends a rebuild with a roster, which is published. -/
  | completed (call : Nat) (answer : (q : DirectoryQuery) → q.Reply) (elapsed : Int64)
      (r : Rebuild) (roster : Roster) (waits : s.waiting.find? call = some r)
      (rest : r.next (answer r.question) = .done (.ok roster)) :
    Transition s (.resume call answer elapsed)
      (((s.write (.replace roster (r.startedAt + elapsed))).write .mark).leave call)
      (.ended call (.ok (.synced roster.size roster.memberships)))
  /-- A call is given up where it waits. -/
  | givenUp (call : Nat) (r : Rebuild) (waits : s.waiting.find? call = some r) :
    Transition s (.cancel call) (s.leave call) (.cancelled call)
  /-- A call that does not wait takes no answer. -/
  | unanswered (call : Nat) (answer : (q : DirectoryQuery) → q.Reply) (elapsed : Int64)
      (absent : s.waiting.find? call = none) :
    Transition s (.resume call answer elapsed) s .ignored
  /-- A call that does not wait cannot be given up. -/
  | missed (call : Nat) (absent : s.waiting.find? call = none) :
    Transition s (.cancel call) s .ignored
  /-- Teams are looked up in the cache. -/
  | lookedUp (login : String) :
    Transition s (.lookUp login) s (.found (s.cache.teamsOf login))

private theorem transition_start (s : Syncer) (now : Int64) :
  s.Transition (.start now) (s.make (s.startMove now)).1 (s.make (s.startMove now)).2
  := by
  simp only [startMove]
  split
  · next held => apply Transition.turnedAway now held
  · next held =>
    have free : s.locked = false := by simpa using held
    split
    · next stale =>
      obtain ⟨next, hnext⟩ :=
        Directory.rebuild_eq_ask s.settings.organization s.settings.pageSize
      simp only [hnext, SyncMove.advance]
      apply Transition.opened ⟨now, _, next⟩ free stale hnext.symm
    · next young => apply Transition.spared now free (by simpa using young)

private theorem transition_resume (s : Syncer) (call : Nat)
    (answer : (q : DirectoryQuery) → q.Reply) (elapsed : Int64) :
  s.Transition (.resume call answer elapsed) (s.make (s.resumeMove call answer elapsed)).1
    (s.make (s.resumeMove call answer elapsed)).2
  := by
  unfold resumeMove
  split
  · next absent => apply Transition.unanswered call answer elapsed absent
  · next r waits =>
    cases rest : r.next (answer r.question) with
    | done result =>
      cases result with
      | ok roster => apply Transition.completed call answer elapsed r roster waits rest
      | error cause => apply Transition.failed call answer elapsed r cause waits rest
    | ask question next =>
      apply Transition.continued call answer elapsed r ⟨r.startedAt, question, next⟩ waits rfl rest

private theorem transition_cancel (s : Syncer) (call : Nat) :
  s.Transition (.cancel call) (s.make (s.cancelMove call)).1 (s.make (s.cancelMove call)).2
  := by
  unfold cancelMove
  split
  · next absent => apply Transition.missed call absent
  · next r waits => apply Transition.givenUp call r waits

/-- Every step is one of the transitions. -/
theorem transition_step (s : Syncer) (a : SyncStep) :
  s.Transition a (s.step a).1 (s.step a).2
  := by
  cases a with
  | start now => apply transition_start s now
  | resume call answer elapsed => apply transition_resume s call answer elapsed
  | cancel call => apply transition_cancel s call
  | lookUp login => apply Transition.lookedUp login

/-! ### Between writes -/

/-- How far a state on the way from `s` to `s'` has come with cache and latch. -/
inductive OnWay (s s' m : Syncer) : Prop where
  | before (cache : m.cache = s.cache) (latch : m.latch = s.latch)
  | replaced (cache : m.cache = s'.cache) (latch : m.latch = s.latch)
  | opened (cache : m.cache = s'.cache) (latch : m.latch = s'.latch)

theorem head?_passes (s : Syncer) (m : SyncMove) :
  (s.passes m).head? = some s
  := List.head?_scanl

theorem getLast?_passes (s : Syncer) (m : SyncMove) :
  (s.passes m).getLast? = some (s.make m).1
  := List.getLast?_scanl

theorem write_of_spares {w : SyncWrite} (h : w.Spares) (s : Syncer) :
  (s.write w).cache = s.cache ∧ (s.write w).latch = s.latch
  := by
  cases w with
  | replace roster now => exact h.elim
  | mark => exact h.elim
  | _ => exact ⟨rfl, rfl⟩

theorem mem_scanl_of_spares {ws : List SyncWrite} (h : ∀ w ∈ ws, w.Spares) {s m : Syncer}
    (hm : m ∈ ws.scanl write s) :
  m.cache = s.cache ∧ m.latch = s.latch
  := by
  induction ws generalizing s with
  | nil =>
    obtain rfl := List.mem_singleton.1 hm
    exact ⟨rfl, rfl⟩
  | cons w ws ih =>
    rw [List.forall_mem_cons] at h
    rw [List.scanl_cons] at hm
    rcases List.mem_cons.1 hm with rfl | later
    · exact ⟨rfl, rfl⟩
    · obtain ⟨cache, latch⟩ := ih h.2 later
      rw [cache, latch]
      apply write_of_spares h.1

theorem writes_advance (call : Nat) (startedAt now : Int64)
    (d : DirectoryDialogue (Except SyncError Roster)) :
  (∀ w ∈ (SyncMove.advance call startedAt now d).writes, w.Spares) ∨
    ∃ roster, (SyncMove.advance call startedAt now d).writes =
      [.replace roster now, .mark, .leave call]
  := by
  cases d with
  | ask question next =>
    left
    simp [SyncMove.advance, SyncWrite.Spares]
  | done result =>
    cases result with
    | error e =>
      left
      simp [SyncMove.advance, SyncWrite.Spares]
    | ok roster =>
      right
      use roster
      rfl

/-- The writes of a step spare cache and latch, or replace the roster, open the latch and give back
the lock, in this order. -/
theorem writes_move (s : Syncer) (a : SyncStep) :
  (∀ w ∈ (s.move a).writes, w.Spares) ∨
    ∃ roster now call, (s.move a).writes = [.replace roster now, .mark, .leave call]
  := by
  cases a with
  | start now =>
    left
    obtain ⟨next, hnext⟩ := Directory.rebuild_eq_ask s.settings.organization s.settings.pageSize
    simp only [move, startMove, hnext, SyncMove.advance]
    split
    · simp [SyncWrite.Spares]
    · split
      · simp [SyncWrite.Spares]
      · simp [SyncWrite.Spares]
  | resume call answer elapsed =>
    simp only [move, resumeMove]
    split
    · left
      simp
    · next r waits =>
      rcases writes_advance call r.startedAt (r.startedAt + elapsed) (r.next (answer r.question))
        with spared | ⟨roster, writes⟩
      · left
        apply spared
      · right
        exact ⟨roster, _, call, writes⟩
  | cancel call =>
    left
    simp only [move, cancelMove]
    split
    · simp
    · simp [SyncWrite.Spares]
  | lookUp login =>
    left
    simp [move]

/-- On the way through a step the cache changes before the latch. -/
theorem onWay_of_mem_passes {s m : Syncer} {a : SyncStep} (h : m ∈ s.passes (s.move a)) :
  s.OnWay (s.step a).1 m
  := by
  rcases writes_move s a with spared | ⟨roster, now, call, writes⟩
  · obtain ⟨cache, latch⟩ := mem_scanl_of_spares spared h
    apply OnWay.before cache latch
  · simp only [passes, writes, List.scanl_cons, List.scanl_nil, List.mem_cons, List.not_mem_nil,
      or_false] at h
    simp only [step, make, writes]
    rcases h with rfl | rfl | rfl | rfl
    · exact .before rfl rfl
    · exact .replaced rfl rfl
    · exact .opened rfl rfl
    · exact .opened rfl rfl

/-! ### Runs -/

theorem run_cons (s : Syncer) (a : SyncStep) (as : List SyncStep) :
  s.run (a :: as) =
    (((s.step a).1.run as).1, (a, (s.step a).2) :: ((s.step a).1.run as).2)
  := rfl

theorem run_concat (s : Syncer) (as : List SyncStep) (a : SyncStep) :
  s.run (as ++ [a]) =
    (((s.run as).1.step a).1, (s.run as).2 ++ [(a, ((s.run as).1.step a).2)])
  := by
  induction as generalizing s with
  | nil => rfl
  | cons b bs ih =>
    rw [List.cons_append, run_cons, run_cons, ih]
    rfl

theorem run_append (s : Syncer) (as bs : List SyncStep) :
  s.run (as ++ bs) = (((s.run as).1.run bs).1, (s.run as).2 ++ ((s.run as).1.run bs).2)
  := by
  induction as generalizing s with
  | nil => rfl
  | cons a as ih =>
    rw [List.cons_append, run_cons, run_cons, ih]
    rfl

/-- A property of a log and a state that holds at the beginning and is kept by every transition
holds after every run. -/
theorem run_induction {P : List (SyncStep × SyncEvent) → Syncer → Prop} {s : Syncer}
    (begins : P [] s)
    (keeps : ∀ log s a s' e, P log s → Transition s a s' e → P (log ++ [(a, e)]) s')
    (as : List SyncStep) :
  P (s.run as).2 (s.run as).1
  := by
  induction as using List.reverseRecOn with
  | nil => apply begins
  | append_singleton as a ih =>
    rw [run_concat]
    apply keeps _ _ _ _ _ ih (transition_step _ a)

/-- A property that every transition keeps as long as an invariant `J` holds. -/
theorem run_induction_under {J P : List (SyncStep × SyncEvent) → Syncer → Prop} {s : Syncer}
    (invariant : J [] s)
    (keepsInvariant : ∀ log s a s' e, J log s → Transition s a s' e → J (log ++ [(a, e)]) s')
    (begins : P [] s)
    (keeps : ∀ log s a s' e, J log s → P log s → Transition s a s' e → P (log ++ [(a, e)]) s')
    (as : List SyncStep) :
  P (s.run as).2 (s.run as).1
  := by
  have h : J (s.run as).2 (s.run as).1 ∧ P (s.run as).2 (s.run as).1 := by
    apply run_induction (P := fun log s => J log s ∧ P log s) ⟨invariant, begins⟩
    rintro log s a s' e ⟨hj, hp⟩ t
    exact ⟨keepsInvariant log s a s' e hj t, keeps log s a s' e hj hp t⟩
  apply h.2

/-! ### The lock -/

/-- The lock is free and nobody waits, or one call holds it and waits. -/
inductive Exclusive (s : Syncer) : Prop where
  | free (lock : s.locked = false) (nobody : s.waiting = ∅)
  | held (call : Nat) (r : Rebuild) (lock : s.locked = true) (alone : s.waiting = .single call r)
      (old : call < s.started)

/-- A call that waits is the only one, and it holds the lock. -/
theorem Exclusive.of_waits {s : Syncer} {call : Nat} {r : Rebuild} (h : s.Exclusive)
    (waits : s.waiting.find? call = some r) :
  s.locked = true ∧ s.waiting = .single call r ∧ call < s.started
  := by
  cases h with
  | free lock nobody => simp [nobody] at waits
  | held c r₀ lock alone old =>
    obtain ⟨rfl, rfl⟩ := Table.find?_single_eq_some.1 (alone ▸ waits)
    use lock, alone

/-- While the lock is free nobody waits. -/
theorem Exclusive.of_free {s : Syncer} (h : s.Exclusive) (free : s.locked = false) :
  s.waiting = ∅
  := by
  cases h with
  | free lock nobody => apply nobody
  | held call r lock alone old => simp [lock] at free

/-- The call that holds the lock gives it back when it leaves. -/
theorem Exclusive.leave {s : Syncer} {call : Nat} {r : Rebuild} (h : s.Exclusive)
    (waits : s.waiting.find? call = some r) :
  (s.leave call).Exclusive
  := by
  obtain ⟨-, alone, -⟩ := h.of_waits waits
  apply Exclusive.free rfl
  simp [Syncer.leave, alone]

theorem Exclusive.publish {s : Syncer} (h : s.Exclusive) (roster : Roster) (now : Int64) :
  ((s.write (.replace roster now)).write .mark).Exclusive
  := by
  cases h with
  | free lock nobody => exact .free lock nobody
  | held call r lock alone old => exact .held call r lock alone old

/-- Every transition keeps the lock with the one call that waits. -/
theorem Exclusive.transition {s s' : Syncer} {a : SyncStep} {e : SyncEvent} (h : s.Exclusive)
    (t : s.Transition a s' e) :
  s'.Exclusive
  := by
  cases t with
  | turnedAway now held =>
    cases h with
    | free lock nobody => exact .free lock nobody
    | held call r lock alone old => exact .held call r lock alone (Nat.lt_succ_of_lt old)
  | spared now free young =>
    apply Exclusive.free rfl
    simp [Syncer.leave, h.of_free free]
  | opened r free stale whole =>
    apply Exclusive.held s.started r rfl
    · simp [h.of_free free]
    · simp
  | continued call answer elapsed r r' waits since rest =>
    obtain ⟨lock, alone, old⟩ := h.of_waits waits
    exact .held call r' lock (by simp [alone]) old
  | failed call answer elapsed r cause waits rest => apply h.leave waits
  | completed call answer elapsed r roster waits rest => apply (h.publish _ _).leave waits
  | givenUp call r waits => apply h.leave waits
  | unanswered call answer elapsed absent => apply h
  | missed call absent => apply h
  | lookedUp login => apply h

theorem Exclusive.run {s : Syncer} (h : s.Exclusive) (as : List SyncStep) :
  (s.run as).1.Exclusive
  := by
  apply run_induction (P := fun _ s => s.Exclusive) h
  intro log s a s' e h t
  apply h.transition t

end Syncer

end MeshOnboard
