import MeshOnboard.Proofs.Directory.History
import Mathlib.Data.Finset.Card

/-!
# One rebuild at a time

Whatever calls are started, answered and given up in whatever order, at most one of them is
unfinished, a call that is started meanwhile is turned away, and a call that is started when none is
unfinished is never turned away.  A call that is over puts no more questions.
-/

namespace MeshOnboard.Syncer

/-! ### Calls that are over -/

/-- A call that has been started and does not wait does not wait later either, and asks nothing. -/
theorem Transition.stays_gone {s s' : Syncer} {a : SyncStep} {e : SyncEvent} {call : Nat}
    (t : s.Transition a s' e) (old : call < s.started) (gone : s.waiting.find? call = none) :
  s'.waiting.find? call = none ∧ ∀ q, e ≠ .asked call q
  := by
  cases t with
  | turnedAway now held => exact ⟨gone, by simp⟩
  | spared now free young => simp [leave, Table.find?_erase, gone]
  | opened r free stale whole =>
    have other : call ≠ s.started := old.ne
    simp [Table.find?_put, other, other.symm, gone]
  | continued c answer elapsed r r' waits since rest =>
    have other : call ≠ c := by
      rintro rfl
      simp [gone] at waits
    simp [Table.find?_put, other, other.symm, gone]
  | failed c answer elapsed r cause waits rest => simp [leave, Table.find?_erase, gone]
  | completed c answer elapsed r roster waits rest =>
    simp [leave, write, Table.find?_erase, gone]
  | givenUp c r waits => simp [leave, Table.find?_erase, gone]
  | unanswered c answer elapsed absent => exact ⟨gone, by simp⟩
  | missed c absent => exact ⟨gone, by simp⟩
  | lookedUp login => exact ⟨gone, by simp⟩

/-- A call that is over asks nothing, whatever happens later. -/
theorem not_asked_of_gone {s : Syncer} {call : Nat} (old : call < s.started)
    (gone : s.waiting.find? call = none) (as : List SyncStep) (a : SyncStep) (q : DirectoryQuery) :
  (a, .asked call q) ∉ (s.run as).2
  := by
  have h : call < (s.run as).1.started ∧ (s.run as).1.waiting.find? call = none ∧
      ∀ a q, (a, .asked call q) ∉ (s.run as).2 := by
    apply run_induction (P := fun log s =>
      call < s.started ∧ s.waiting.find? call = none ∧ ∀ a q, (a, .asked call q) ∉ log)
      ⟨old, gone, by simp⟩
    rintro log s a s' e ⟨old, gone, h⟩ t
    obtain ⟨gone', asks⟩ := t.stays_gone old gone
    use by rw [t.started_eq]; omega, gone'
    intro b q hb
    rcases List.mem_append.1 hb with hb | hb
    · apply h b q hb
    · simp only [List.mem_singleton, Prod.mk.injEq] at hb
      apply asks q hb.2.symm
  apply h.2.2 a q

/-! ### Starting a call -/

/-- The lock is free and nobody waits. -/
structure AtRest (s : Syncer) : Prop where
  lock : s.locked = false
  nobody : s.waiting = ∅

theorem start_of_locked {s : Syncer} (held : s.locked = true) (now : Int64) :
  s.step (.start now) = ({ s with started := s.started + 1 }, .ended s.started (.ok .inFlight))
  := by
  simp [step, move, startMove, held, make, write]

theorem start_of_fresh {s : Syncer} (free : s.locked = false) (nobody : s.waiting = ∅)
    {now : Int64} (young : s.cache.isStale now s.settings.ttlSeconds = false) :
  s.step (.start now) = ({ s with started := s.started + 1 }, .ended s.started (.ok .fresh))
  := by
  cases s
  subst free nobody
  simp_all [step, move, startMove, make, write, leave]

theorem start_of_stale {s : Syncer} (free : s.locked = false) (nobody : s.waiting = ∅)
    {now : Int64} (stale : s.cache.isStale now s.settings.ttlSeconds = true) :
  ∃ r : Rebuild, r.startedAt = now ∧
    r.rest = Directory.rebuild s.settings.organization s.settings.pageSize ∧
    s.step (.start now) =
      ({ s with locked := true, waiting := .single s.started r, started := s.started + 1 },
        .asked s.started (.teams s.settings.organization ⟨1, s.settings.pageSize⟩))
  := by
  obtain ⟨next, hnext⟩ := Directory.rebuild_eq_ask s.settings.organization s.settings.pageSize
  use ⟨now, _, next⟩, rfl, hnext.symm
  simp [step, move, startMove, free, stale, hnext, SyncMove.advance, make, write, nobody]

/-- At any time at most one call is unfinished, and it is the one that waits with a rebuild.  It can
be given up there, and then none is unfinished.  While there is one, a call that is started is
turned away: it changes nothing and never asks anything.  While there is none, a call that is
started is over at once if the cache is fresh and else waits at the first question of a rebuild of
its own. -/
theorem single_flight (settings : SyncSettings) (cache : Cache) (latch : Latch)
    (steps : List SyncStep) (now : Int64) :
  let s := ((idle settings cache latch).run steps).1
  let log : SyncLog := ((idle settings cache latch).run steps).2
  log.unfinished.card ≤ 1 ∧ log.unfinished = s.waiting.keys.toFinset ∧
  (∀ call ∈ log.unfinished, (s.step (.cancel call)).2 = .cancelled call ∧
    SyncLog.unfinished ((idle settings cache latch).run (steps ++ [.cancel call])).2 = ∅) ∧
  if log.unfinished.Nonempty then
    s.step (.start now) =
      ({ s with started := s.started + 1 }, .ended s.started (.ok .inFlight)) ∧
    ∀ later a q, (a, .asked s.started q) ∉ ((s.step (.start now)).1.run later).2
  else if s.cache.isStale now settings.ttlSeconds then
    ∃ r : Rebuild, r.startedAt = now ∧
      r.rest = Directory.rebuild settings.organization settings.pageSize ∧
      s.step (.start now) =
        ({ s with locked := true, waiting := .single s.started r, started := s.started + 1 },
          .asked s.started (.teams settings.organization ⟨1, settings.pageSize⟩))
  else
    s.step (.start now) = ({ s with started := s.started + 1 }, .ended s.started (.ok .fresh))
  := by
  intro s log
  have hlog : log.unfinished = s.waiting.keys.toFinset := unfinished_run settings cache latch steps
  have hsettings : s.settings = settings := settings_run settings cache latch steps
  have hs : s.Exclusive := exclusive_run settings cache latch steps
  have givenUp (call : Nat) (h : call ∈ log.unfinished) :=
    cancel_of_unfinished settings cache latch steps h
  obtain ⟨lock, nobody⟩ | ⟨call, r, lock, alone, old⟩ := hs
  · have none : log.unfinished = ∅ := by simp [hlog, nobody]
    use by simp [none], hlog, givenUp
    rw [none, if_neg Finset.not_nonempty_empty]
    split
    · next stale =>
      rw [← hsettings] at stale ⊢
      apply start_of_stale lock nobody stale
    · next young =>
      apply start_of_fresh lock nobody
      rw [hsettings]
      simpa using young
  · have one : log.unfinished = {call} := by simp [hlog, alone]
    have turned := start_of_locked lock now
    use by simp [one], hlog, givenUp
    rw [one, if_pos (Finset.singleton_nonempty call)]
    use turned
    intro later a q
    rw [turned]
    apply not_asked_of_gone (by simp)
    simp [alone, Table.find?_single, old.ne']

end MeshOnboard.Syncer
