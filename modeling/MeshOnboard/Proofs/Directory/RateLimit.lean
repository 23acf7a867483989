import MeshOnboard.Proofs.Directory.Retention
import MeshOnboard.Proofs.Directory.SingleFlight
import Mathlib

/-!
# How often the directory is asked

The time to live keeps rebuilds apart.  The invariant behind this is `Due`: a call that waits was
started when the cache was stale, and the cache is stale for it as long as it waits, since the cache
changes only where the call that holds the lock ends.  Stamps never move backwards, so that a call
which ends with a new roster was started more than a time to live after every earlier stamp.  A call
that fails or is given up leaves the stamp alone and with it the reason for the next attempt.
-/

namespace MeshOnboard

namespace Cache

theorem lifetime_of_lt {seconds : UInt64} (fits : seconds.toNat < 2 ^ 63) :
  lifetime seconds = seconds.toNat
  := by
  change seconds.toBitVec.toInt = seconds.toBitVec.toNat
  apply BitVec.toInt_eq_toNat_of_lt
  change 2 * seconds.toNat < 2 ^ 64
  omega

/-- An age that is counted beyond the time to live is beyond it. -/
theorem lt_of_isStale {c : Cache} {now : Int64} {seconds : UInt64} (fits : seconds.toNat < 2 ^ 63)
    (stale : c.isStale now seconds = true) :
  (seconds.toNat : Int) < now.toInt - c.updatedAt.toInt
  := by
  rw [isStale, decide_eq_true_iff, lifetime_of_lt fits] at stale
  have : Int64.minValue.toInt = -2 ^ 63 := by decide
  unfold elapsed at stale
  omega

/-- Unless the age is cut, the cache is stale when its age exceeds the time to live. -/
theorem isStale_iff {c : Cache} {now : Int64} {seconds : UInt64} (fits : seconds.toNat < 2 ^ 63)
    (uncut : now.toInt - c.updatedAt.toInt ≤ Int64.maxValue.toInt) :
  c.isStale now seconds = true ↔ (seconds.toNat : Int) < now.toInt - c.updatedAt.toInt
  := by
  constructor
  · apply lt_of_isStale fits
  · intro old
    rw [isStale, decide_eq_true_iff, lifetime_of_lt fits, elapsed, min_eq_right uncut]
    apply lt_max_of_lt_right old

theorem isStale_mono {c : Cache} {now later : Int64} {seconds : UInt64} (h : now ≤ later)
    (stale : c.isStale now seconds = true) :
  c.isStale later seconds = true
  := by
  rw [isStale, decide_eq_true_iff] at stale ⊢
  rw [Int64.le_iff_toInt_le] at h
  apply lt_of_lt_of_le stale
  apply max_le_max_left
  apply min_le_min_left
  apply Int.sub_le_sub_right h

theorem le_updatedAt_replace (c : Cache) (roster : Roster) (now : Int64) :
  c.updatedAt ≤ (c.replace roster now).updatedAt
  := by
  unfold replace
  dsimp only
  split
  · next later => apply Int64.le_of_lt later
  · apply Int64.le_refl

theorem le_updatedAt_replace_self (c : Cache) (roster : Roster) (now : Int64) :
  now ≤ (c.replace roster now).updatedAt
  := by
  unfold replace
  dsimp only
  split
  · apply Int64.le_refl
  · next earlier => apply Int64.not_lt.1 earlier

end Cache

namespace Syncer

/-! ### Stamps -/

/-- No transition moves the stamp backwards. -/
theorem Transition.updatedAt_le {s s' : Syncer} {a : SyncStep} {e : SyncEvent}
    (t : s.Transition a s' e) :
  s.cache.updatedAt ≤ s'.cache.updatedAt
  := by
  cases t with
  | completed call answer elapsed r roster waits rest => apply Cache.le_updatedAt_replace
  | _ => apply Int64.le_refl

theorem updatedAt_le_run (s : Syncer) (as : List SyncStep) :
  s.cache.updatedAt ≤ (s.run as).1.cache.updatedAt
  := by
  apply run_induction (P := fun _ s' => s.cache.updatedAt ≤ s'.cache.updatedAt)
    (Int64.le_refl _)
  intro log s' a s'' e h t
  apply Int64.le_trans h t.updatedAt_le

/-! ### Calls that are due -/

/-- The cache is stale for every call that waits. -/
def Due (s : Syncer) : Prop :=
  ∀ call r, s.waiting.find? call = some r →
    s.cache.isStale r.startedAt s.settings.ttlSeconds = true

/-- Nobody waits once the call that holds the lock has left. -/
theorem Exclusive.not_waits_leave {s : Syncer} {call c : Nat} {r r' : Rebuild} (h : s.Exclusive)
    (waits : s.waiting.find? call = some r) :
  (s.leave call).waiting.find? c ≠ some r'
  := by
  obtain ⟨-, alone, -⟩ := h.of_waits waits
  simp [Syncer.leave, alone]

/-- Every transition keeps the cache stale for the call that waits. -/
theorem Due.transition {s s' : Syncer} {a : SyncStep} {e : SyncEvent} (h : s.Due)
    (hs : s.Exclusive) (t : s.Transition a s' e) :
  s'.Due
  := by
  intro call r' waits'
  cases t with
  | turnedAway now held => apply h call r' waits'
  | spared now free young => apply h call r' (waits_of_leave waits').2
  | opened r free stale whole =>
    simp only [hs.of_free free, Table.put_empty] at waits'
    obtain ⟨-, rfl⟩ := Table.find?_single_eq_some.1 waits'
    apply stale
  | continued c answer elapsed r r₁ waits since rest =>
    obtain ⟨-, alone, -⟩ := hs.of_waits waits
    simp only [alone, Table.put_single] at waits'
    obtain ⟨-, rfl⟩ := Table.find?_single_eq_some.1 waits'
    simpa only [since] using h c r waits
  | failed c answer elapsed r cause waits rest => exact absurd waits' (hs.not_waits_leave waits)
  | completed c answer elapsed r roster waits rest =>
    -- the roster is new, but nobody waits any more
    exact absurd waits' ((hs.publish _ _).not_waits_leave waits)
  | givenUp c r waits => exact absurd waits' (hs.not_waits_leave waits)
  | unanswered c answer elapsed absent => apply h call r' waits'
  | missed c absent => apply h call r' waits'
  | lookedUp login => apply h call r' waits'

/-- A call that ends with a new roster was started more than a time to live after the stamp that it
replaces. -/
theorem Due.lt_of_synced {s s' : Syncer} {a : SyncStep} {call teams places : Nat} (h : s.Due)
    (fits : s.settings.ttlSeconds.toNat < 2 ^ 63)
    (t : s.Transition a s' (.ended call (.ok (.synced teams places)))) :
  ∃ r, s.waiting.find? call = some r ∧
    s.cache.updatedAt.toInt + s.settings.ttlSeconds.toNat < r.startedAt.toInt
  := by
  cases t with
  | completed c answer elapsed r roster waits rest =>
    have := Cache.lt_of_isStale fits (h call r waits)
    use r, waits
    omega

/-- After a call that fails or is given up the cache is as before, and the next call that is not
started earlier begins a rebuild. -/
theorem Due.asks_again {s s' : Syncer} {a : SyncStep} {e : SyncEvent} {call : Nat} (h : s.Due)
    (hs : s.Exclusive) (t : s.Transition a s' e)
    (fruitless : (∃ cause, e = .ended call (.error cause)) ∨ e = .cancelled call) :
  s'.cache = s.cache ∧
  ∃ r, s.waiting.find? call = some r ∧ ∀ now, r.startedAt ≤ now →
    (s'.step (.start now)).2 =
      .asked s'.started (.teams s.settings.organization ⟨1, s.settings.pageSize⟩)
  := by
  have again {r : Rebuild} (waits : s.waiting.find? call = some r) (now : Int64)
      (later : r.startedAt ≤ now) :
      ((s.leave call).step (.start now)).2 =
        .asked s.started (.teams s.settings.organization ⟨1, s.settings.pageSize⟩) := by
    obtain ⟨-, alone, -⟩ := hs.of_waits waits
    have stale := Cache.isStale_mono later (h call r waits)
    obtain ⟨r', -, -, started⟩ :=
      start_of_stale (s := s.leave call) rfl (by simp [leave, alone]) stale
    rw [started]
    rfl
  cases t with
  | failed c answer elapsed r cause waits rest =>
    obtain rfl : c = call := by simpa using fruitless
    exact ⟨rfl, r, waits, again waits⟩
  | givenUp c r waits =>
    obtain rfl : c = call := by simpa using fruitless
    exact ⟨rfl, r, waits, again waits⟩
  | _ => simp at fruitless

/-- While nobody waits, a call that is started puts a question to the directory exactly if the age
of the cache exceeds the time to live. -/
theorem AtRest.start_of_age {s : Syncer} (h : s.AtRest) {settings : SyncSettings}
    (same : s.settings = settings) (fits : settings.ttlSeconds.toNat < 2 ^ 63) {now : Int64}
    (uncut : now.toInt - s.cache.updatedAt.toInt ≤ Int64.maxValue.toInt) :
  if settings.ttlSeconds.toNat < now.toInt - s.cache.updatedAt.toInt then
    (s.step (.start now)).2 = .asked s.started (.teams settings.organization ⟨1, settings.pageSize⟩)
  else
    s.step (.start now) = ({ s with started := s.started + 1 }, .ended s.started (.ok .fresh)) ∧
    ∀ later a q, (a, .asked s.started q) ∉ ((s.step (.start now)).1.run later).2
  := by
  obtain rfl := same
  have exceeds := Cache.isStale_iff fits uncut
  split
  · next old =>
    obtain ⟨r, -, -, started⟩ := start_of_stale h.lock h.nobody (exceeds.2 old)
    rw [started]
  · next young =>
    have fresh := start_of_fresh h.lock h.nobody (by simpa [← exceeds] using young)
    use fresh
    intro later a q
    rw [fresh]
    apply not_asked_of_gone (by simp)
    simp [h.nobody]

section Idle

variable (settings : SyncSettings) (cache : Cache) (latch : Latch) (as : List SyncStep)

theorem due_run :
  ((idle settings cache latch).run as).1.Due
  := by
  apply run_induction_under (J := fun _ s => s.Exclusive) (P := fun _ s => s.Due)
  · apply Exclusive.free rfl rfl
  · intro log s a s' e hs t
    apply hs.transition t
  · simp [Due, idle]
  · intro log s a s' e hs h t
    apply h.transition hs t

/-- When no call is unfinished the lock is free and nobody waits. -/
theorem atRest_of_unfinished (h : SyncLog.unfinished ((idle settings cache latch).run as).2 = ∅) :
  ((idle settings cache latch).run as).1.AtRest
  := by
  rw [unfinished_run] at h
  cases exclusive_run settings cache latch as with
  | free lock nobody => exact ⟨lock, nobody⟩
  | held call r lock alone old => simp [alone] at h

end Idle

/-- Along any run, a call that is started while none is unfinished puts a question to the directory
exactly if the age of the cache exceeds the time to live, and else is over at once, without a
question then or later.  The stamp never moves backwards.  A call that ends with a new roster stamps
it with the second at which it is over, unless the stamp was later already, and whatever call ends
with a new roster after it was started more than a time to live after that second and after that
stamp.  A call that is unfinished can be given up.  A call that fails or is given up leaves the
cache as it was, and the next call, if it is not started at an earlier second, asks the directory
again. -/
theorem rate_limited (settings : SyncSettings) (fits : settings.ttlSeconds.toNat < 2 ^ 63)
    (cache : Cache) (latch : Latch) (steps : List SyncStep) :
  let s := ((idle settings cache latch).run steps).1
  let log : SyncLog := ((idle settings cache latch).run steps).2
  let ttl : Int := settings.ttlSeconds.toNat
  let first : DirectoryQuery := .teams settings.organization ⟨1, settings.pageSize⟩
  (log.unfinished = ∅ → ∀ now, now.toInt - s.cache.updatedAt.toInt ≤ Int64.maxValue.toInt →
    if ttl < now.toInt - s.cache.updatedAt.toInt then
      (s.step (.start now)).2 = .asked s.started first
    else
      s.step (.start now) = ({ s with started := s.started + 1 }, .ended s.started (.ok .fresh)) ∧
      ∀ later a q, (a, .asked s.started q) ∉ ((s.step (.start now)).1.run later).2) ∧
  (∀ later, s.cache.updatedAt ≤ (s.run later).1.cache.updatedAt) ∧
  (∀ a call teams places, (s.step a).2 = .ended call (.ok (.synced teams places)) →
    let s' := (s.step a).1
    ∃ began answer elapsed, log.startTimes[call]? = some began ∧ a = .resume call answer elapsed ∧
      s'.cache.updatedAt = max s.cache.updatedAt (began + elapsed) ∧
      ∀ later b call' teams' places',
        let log' : SyncLog := log ++ (a, (s.step a).2) :: (s'.run later).2
        ((s'.run later).1.step b).2 = .ended call' (.ok (.synced teams' places')) →
        ∃ now, log'.startTimes[call']? = some now ∧
          (began + elapsed).toInt + ttl < now.toInt ∧
          s'.cache.updatedAt.toInt + ttl < now.toInt) ∧
  (∀ call ∈ log.unfinished, (s.step (.cancel call)).2 = .cancelled call ∧
    SyncLog.unfinished ((idle settings cache latch).run (steps ++ [.cancel call])).2 = ∅) ∧
  ∀ a call, (∃ cause, (s.step a).2 = .ended call (.error cause)) ∨ (s.step a).2 = .cancelled call →
    let s' := (s.step a).1
    s'.cache = s.cache ∧
    ∃ began, log.startTimes[call]? = some began ∧
      ∀ now, began ≤ now → (s'.step (.start now)).2 = .asked s'.started first
  := by
  intro s log ttl first
  have hsettings : s.settings = settings := settings_run settings cache latch steps
  have hf : Faithful log s := faithful_run settings cache latch steps
  refine ⟨?contact, ?stamps, ?apart, ?givenUp, ?again⟩
  case contact =>
    intro none now uncut
    apply (atRest_of_unfinished settings cache latch steps none).start_of_age hsettings fits uncut
  case stamps => apply updatedAt_le_run
  case apart =>
    intro a call teams places ended s'
    have t : s.Transition a s' (s.step a).2 := transition_step s a
    obtain ⟨began, answer, elapsed, roster, since, resumed, -, -, -, cached, -⟩ :=
      hf.completed (ended ▸ t)
    have stamped : s'.cache.updatedAt = max s.cache.updatedAt (began + elapsed) := by rw [cached]
    use began, answer, elapsed, since, resumed, stamped
    intro later b call' teams' places' log' synced
    have whole : (idle settings cache latch).run (steps ++ a :: later) = ((s'.run later).1, log') :=
      run_append _ steps (a :: later)
    have hd := due_run settings cache latch (steps ++ a :: later)
    have hf' := faithful_run settings cache latch (steps ++ a :: later)
    have hlater := settings_run settings cache latch (steps ++ a :: later)
    simp only [whole] at hd hf' hlater
    have t' := transition_step (s'.run later).1 b
    rw [synced] at t'
    obtain ⟨r, waits, old⟩ := hd.lt_of_synced (hlater ▸ fits) t'
    rw [hlater] at old
    have stamps := Int64.le_iff_toInt_le.1 (updatedAt_le_run s' later)
    have reached : began + elapsed ≤ s'.cache.updatedAt := by
      rw [cached, ← Cache.replace_eq]
      apply Cache.le_updatedAt_replace_self
    rw [Int64.le_iff_toInt_le] at reached
    use r.startedAt, hf'.since call' r waits
    constructor
    · omega
    · omega
  case givenUp =>
    intro call unfinished
    apply cancel_of_unfinished settings cache latch steps unfinished
  case again =>
    intro a call fruitless s'
    obtain ⟨kept, r, waits, asks⟩ := (due_run settings cache latch steps).asks_again
      (exclusive_run settings cache latch steps) (transition_step s a) fruitless
    rw [settings_run] at asks
    exact ⟨kept, r.startedAt, hf.since call r waits, asks⟩

/-- With a time to live of a minute and a cache stamped at second 1000, a call at second 1060 has
nothing to do, and one at second 1061 asks the directory and ends with a new roster after four
seconds.  At second 1125 there is nothing to do again, and the next call that ends with a new roster
was started later than that.  Neither a call that fails nor one that is given up at second 1126
keeps another from asking in that very second. -/
theorem rate_limited_to_a_minute :
  let lists : (q : DirectoryQuery) → q.Reply
    | .teams .. => .ok ⟨[⟨1, "core"⟩], none⟩
    | .members .. => .ok ⟨["ada"], none⟩
  let fails (_ : DirectoryQuery) := .error (.status "https://directory.example" 500)
  let s := idle ⟨"acme", 100, 60⟩ ⟨∅, 1000, true⟩ .closed
  let first : DirectoryQuery := .teams "acme" ⟨1, 100⟩
  let asking : List SyncStep := [.start 1061, .resume 0 lists 2]
  let synced := asking ++ [.resume 0 lists 4]
  let failing := synced ++ [.start 1126]
  let waiting := failing ++ [.resume 1 fails 1, .start 1126]
  let later : List SyncStep :=
    [.start 1126, .resume 1 fails 1, .start 1126, .cancel 2, .start 1126, .resume 3 lists 1]
  (60 : UInt64).toNat < 2 ^ 63 ∧
  (s.step (.start 1060)).2 = .ended 0 (.ok .fresh) ∧
  (s.step (.start 1061)).2 = .asked 0 first ∧
  ((s.run asking).1.step (.resume 0 lists 4)).2 = .ended 0 (.ok (.synced 1 1)) ∧
  (s.run synced).1.cache.updatedAt = 1065 ∧
  ((s.run synced).1.step (.start 1125)).2 = .ended 1 (.ok .fresh) ∧
  ((s.run synced).1.step (.start 1126)).2 = .asked 1 first ∧
  (((s.run failing).1.step (.resume 1 fails 1)).1.step (.start 1126)).2 = .asked 2 first ∧
  ((s.run waiting).1.step (.cancel 2)).2 = .cancelled 2 ∧
  (((s.run waiting).1.step (.cancel 2)).1.step (.start 1126)).2 = .asked 3 first ∧
  (((s.run synced).1.run later).1.step (.resume 3 lists 2)).2 = .ended 3 (.ok (.synced 1 1)) ∧
  ∃ now, (SyncLog.startTimes (s.run (asking ++ .resume 0 lists 4 :: later)).2)[3]? = some now ∧
    (1061 + 4 : Int64).toInt + 60 < now.toInt
  := by
  intro lists fails s first asking synced failing waiting later
  have fits : (60 : UInt64).toNat < 2 ^ 63 := by decide
  have limited := rate_limited ⟨"acme", 100, 60⟩ fits ⟨∅, 1000, true⟩ .closed
  have ended : ((s.run asking).1.step (.resume 0 lists 4)).2 = .ended 0 (.ok (.synced 1 1)) := by
    cbv
  have ended' : (((s.run synced).1.run later).1.step (.resume 3 lists 2)).2 =
      .ended 3 (.ok (.synced 1 1)) := by
    cbv
  have stamp : (s.run synced).1.cache.updatedAt = 1065 := by cbv
  have young := (limited []).1 rfl 1060 (by decide)
  have old := (limited []).1 rfl 1061 (by decide)
  rw [if_neg (by decide)] at young
  rw [if_pos (by decide)] at old
  have later_contact : ((s.run synced).1.step (.start 1125)).2 = .ended 1 (.ok .fresh) ∧
      ((s.run synced).1.step (.start 1126)).2 = .asked 1 first := by
    have done : SyncLog.unfinished (s.run synced).2 = ∅ := by cbv
    have count : (s.run synced).1.started = 1 := by cbv
    have contact := (limited synced).1
    -- with the run as an opaque state only its stamp and its counter are looked at
    generalize s.run synced = t at contact stamp done count ⊢
    have young := contact done 1125 (by rw [stamp]; decide)
    have old := contact done 1126 (by rw [stamp]; decide)
    rw [stamp, if_neg (by decide), count] at young
    rw [stamp, if_pos (by decide), count] at old
    exact ⟨congrArg Prod.snd young.1, old⟩
  have apart : ∃ now,
      (SyncLog.startTimes (s.run (asking ++ .resume 0 lists 4 :: later)).2)[3]? = some now ∧
      (1061 + 4 : Int64).toInt + 60 < now.toInt := by
    have since : (SyncLog.startTimes (s.run asking).2)[0]? = some 1061 := by cbv
    obtain ⟨began, answer, elapsed, since', resumed, -, apart⟩ :=
      (limited asking).2.2.1 _ 0 1 1 ended
    obtain rfl : 1061 = began := Option.some.inj (since.symm.trans since')
    obtain ⟨-, -, rfl⟩ := SyncStep.resume.inj resumed
    obtain ⟨now, started, beyond, -⟩ := apart later _ 3 1 1 ended'
    rw [run_append, run_cons]
    exact ⟨now, started, beyond⟩
  have after_failure : (((s.run failing).1.step (.resume 1 fails 1)).1.step (.start 1126)).2 =
      .asked 2 first := by
    have failed : ∃ cause, ((s.run failing).1.step (.resume 1 fails 1)).2 =
        .ended 1 (.error cause) := ⟨_, by cbv⟩
    have since : (SyncLog.startTimes (s.run failing).2)[1]? = some 1126 := by cbv
    have count : ((s.run failing).1.step (.resume 1 fails 1)).1.started = 2 := by cbv
    obtain ⟨-, began, since', asks⟩ := (limited failing).2.2.2.2 _ 1 (.inl failed)
    obtain rfl : 1126 = began := Option.some.inj (since.symm.trans since')
    rw [← count]
    apply asks 1126 (Int64.le_refl _)
  obtain ⟨cancelled, -⟩ := (limited waiting).2.2.2.1 2 (by cbv; apply List.Mem.head)
  have after_cancel : (((s.run waiting).1.step (.cancel 2)).1.step (.start 1126)).2 =
      .asked 3 first := by
    have since : (SyncLog.startTimes (s.run waiting).2)[2]? = some 1126 := by cbv
    have count : ((s.run waiting).1.step (.cancel 2)).1.started = 3 := by cbv
    obtain ⟨-, began, since', asks⟩ := (limited waiting).2.2.2.2 _ 2 (.inr cancelled)
    obtain rfl : 1126 = began := Option.some.inj (since.symm.trans since')
    rw [← count]
    apply asks 1126 (Int64.le_refl _)
  exact ⟨fits, congrArg Prod.snd young.1, old, ended, stamp, later_contact.1, later_contact.2,
    after_failure, cancelled, after_cancel, ended', apart⟩

end Syncer

end MeshOnboard
