import MeshOnboard.Proofs.Directory.History

/-!
# What a synchronization leaves behind

A call that waits has come as far in its own rebuild as the answers it was given lead
(`Faithful.transition`), and the cache holds the roster that the answers to the last call with a new
roster lead to.  From this it follows that cache and latch change only where a call ends with a new
roster, and then to what that call's complete rebuild yields, whatever calls are started, answered,
given up and interleaved with look-ups.
-/

namespace MeshOnboard

namespace Cache

theorem updatedAt_replace (c : Cache) (roster : Roster) (now : Int64) :
  (c.replace roster now).updatedAt = max c.updatedAt now
  := by
  change (if c.updatedAt < now then now else c.updatedAt) =
    if c.updatedAt ≤ now then now else c.updatedAt
  split
  · next later => rw [if_pos (Int64.le_of_lt later)]
  · next later =>
    split
    · next le => apply Int64.le_antisymm le (Int64.not_lt.1 later)
    · rfl

theorem replace_eq (c : Cache) (roster : Roster) (now : Int64) :
  c.replace roster now = ⟨roster, max c.updatedAt now, true⟩
  := by
  rw [← updatedAt_replace c roster]
  rfl

theorem teamsOf_new (now : Int64) (login : String) :
  (Cache.new now).teamsOf login = []
  := by
  change ([] : List String).mergeSort Roster.nameLe = []
  apply List.mergeSort_nil

end Cache

namespace Syncer

/-! ### Calls and their answers -/

/-- An answer is heard by a call that waits, and by no other. -/
theorem Transition.waits_of_answer {s s' : Syncer} {a : SyncStep} {e : SyncEvent}
    (t : s.Transition a s' e) {call : Nat} {answer : (q : DirectoryQuery) → q.Reply}
    (h : SyncLog.answerTo? call (a, e) = some answer) :
  ∃ r, s.waiting.find? call = some r
  := by
  cases t with
  | continued c answer' elapsed r r' waits since rest =>
    obtain ⟨rfl, -⟩ := Option.ite_none_right_eq_some.1 h
    use r
  | failed c answer' elapsed r cause waits rest =>
    obtain ⟨rfl, -⟩ := Option.ite_none_right_eq_some.1 h
    use r
  | completed c answer' elapsed r roster waits rest =>
    obtain ⟨rfl, -⟩ := Option.ite_none_right_eq_some.1 h
    use r
  | _ => simp [SyncLog.answerTo?] at h

/-- A call that waits after another has left is not that one and has waited before. -/
theorem waits_of_leave {s : Syncer} {call c : Nat} {r : Rebuild}
    (h : (s.leave c).waiting.find? call = some r) :
  c ≠ call ∧ s.waiting.find? call = some r
  := by
  rw [leave, Table.find?_erase] at h
  obtain ⟨other, waits⟩ := Option.ite_none_left_eq_some.1 h
  use Ne.symm other

/-- A call that waits after a transition has waited before it and heard nothing, or begins its
rebuild, or has heard an answer and goes on from there. -/
theorem Transition.waits_after {s s' : Syncer} {a : SyncStep} {e : SyncEvent}
    (t : s.Transition a s' e) {call : Nat} {r' : Rebuild}
    (h : s'.waiting.find? call = some r') :
  (s.waiting.find? call = some r' ∧ SyncLog.answerTo? call (a, e) = none) ∨
    (call = s.started ∧ a = .start r'.startedAt ∧
      r'.rest = Directory.rebuild s.settings.organization s.settings.pageSize) ∨
    ∃ r answer, s.waiting.find? call = some r ∧
      SyncLog.answerTo? call (a, e) = some answer ∧ r'.startedAt = r.startedAt ∧
      r.next (answer r.question) = r'.rest
  := by
  cases t with
  | turnedAway now held =>
    left
    exact ⟨h, rfl⟩
  | spared now free young =>
    left
    exact ⟨(waits_of_leave h).2, rfl⟩
  | opened r free stale whole =>
    rw [Table.find?_put] at h
    split at h
    · next same =>
      obtain rfl := Option.some.inj h
      right; left
      use same, rfl
    · left
      exact ⟨h, rfl⟩
  | continued c answer elapsed r r₁ waits since rest =>
    rw [Table.find?_put] at h
    split at h
    · next same =>
      obtain rfl := same
      obtain rfl := Option.some.inj h
      right; right
      use r, answer, waits, if_pos rfl, since
    · next other =>
      left
      use h, if_neg (Ne.symm other)
  | failed c answer elapsed r cause waits rest =>
    obtain ⟨other, waited⟩ := waits_of_leave h
    left
    use waited, if_neg other
  | completed c answer elapsed r roster waits rest =>
    obtain ⟨other, waited⟩ := waits_of_leave h
    left
    use waited, if_neg other
  | givenUp c r waits =>
    left
    exact ⟨(waits_of_leave h).2, rfl⟩
  | unanswered c answer elapsed absent =>
    left
    exact ⟨h, rfl⟩
  | missed c absent =>
    left
    exact ⟨h, rfl⟩
  | lookedUp login =>
    left
    exact ⟨h, rfl⟩

/-- Every call that waits has been started at the second it says and has come as far in a rebuild
as the answers that it was given lead. -/
structure Faithful (log : SyncLog) (s : Syncer) : Prop where
  numbered : s.started = log.startTimes.length
  /-- Calls that are still to come have heard nothing. -/
  unheard : ∀ call, s.started ≤ call → log.answersTo call = []
  since : ∀ call r, s.waiting.find? call = some r → log.startTimes[call]? = some r.startedAt
  onWay : ∀ call r, s.waiting.find? call = some r →
    (Directory.rebuild s.settings.organization s.settings.pageSize).follow (log.answersTo call) =
      r.rest

/-- A call that waits has been started. -/
theorem Faithful.lt_started {log : SyncLog} {s : Syncer} (h : Faithful log s) {call : Nat}
    {r : Rebuild} (waits : s.waiting.find? call = some r) :
  call < s.started
  := by
  rw [h.numbered]
  apply (List.getElem?_eq_some_iff.1 (h.since call r waits)).1

theorem Faithful.startTimes_concat {log : SyncLog} {s : Syncer} (h : Faithful log s) {call : Nat}
    {r : Rebuild} (waits : s.waiting.find? call = some r) (x : SyncStep × SyncEvent) :
  (SyncLog.startTimes (log ++ [x]))[call]? = some r.startedAt
  := by
  rw [SyncLog.startTimes_concat, List.getElem?_append_left]
  · apply h.since call r waits
  · apply h.numbered ▸ h.lt_started waits

theorem Faithful.answersTo_concat {log : SyncLog} {s s' : Syncer} {a : SyncStep} {e : SyncEvent}
    (h : Faithful log s) (t : s.Transition a s' e) {call : Nat} (later : s.started ≤ call) :
  SyncLog.answersTo (log ++ [(a, e)]) call = []
  := by
  rw [SyncLog.answersTo_concat, h.unheard call later]
  cases heard : SyncLog.answerTo? call (a, e) with
  | none => rfl
  | some answer =>
    obtain ⟨r, waits⟩ := t.waits_of_answer heard
    have := h.lt_started waits
    omega

/-- Calls that wait stay faithful to the answers that they are given. -/
theorem Faithful.transition {log : SyncLog} {s s' : Syncer} {a : SyncStep} {e : SyncEvent}
    (h : Faithful log s) (t : s.Transition a s' e) :
  Faithful (log ++ [(a, e)]) s'
  where
  numbered := by
    rw [t.started_eq, SyncLog.startTimes_concat, List.length_append, h.numbered]
  unheard call later := by
    apply h.answersTo_concat t
    have := t.started_eq
    omega
  since call r waits := by
    obtain ⟨before, -⟩ | ⟨rfl, rfl, -⟩ | ⟨r₀, answer, before, -, since, -⟩ := t.waits_after waits
    · apply h.startTimes_concat before (a, e)
    · simp [SyncLog.startTimes_concat, h.numbered, SyncLog.startTime?]
    · rw [since]
      apply h.startTimes_concat before (a, e)
  onWay call r waits := by
    rw [t.settings_eq]
    obtain ⟨before, heard⟩ | ⟨rfl, rfl, whole⟩ | ⟨r₀, answer, before, heard, -, rest⟩ :=
      t.waits_after waits
    · rw [SyncLog.answersTo_concat, heard]
      simpa using h.onWay call r before
    · rw [h.answersTo_concat t le_rfl, Dialogue.follow_nil, whole]
    · rw [SyncLog.answersTo_concat, heard, Dialogue.follow_append, h.onWay call r₀ before]
      simpa [Rebuild.rest] using rest

/-! ### Changes of the cache -/

/-- A call that ends with a new roster publishes what the answers to it lead to. -/
theorem Faithful.completed {log : SyncLog} {s s' : Syncer} {a : SyncStep} {call teams places : Nat}
    (h : Faithful log s) (t : s.Transition a s' (.ended call (.ok (.synced teams places)))) :
  ∃ now answer elapsed roster,
    log.startTimes[call]? = some now ∧ a = .resume call answer elapsed ∧
    (Directory.rebuild s.settings.organization s.settings.pageSize).follow
      (log.answersTo call ++ [answer]) = .done (.ok roster) ∧
    teams = roster.size ∧ places = roster.memberships ∧
    s'.cache = ⟨roster, max s.cache.updatedAt (now + elapsed), true⟩ ∧ s'.latch.isOpen = true
  := by
  cases t with
  | completed c answer elapsed r roster waits rest =>
    use r.startedAt, answer, elapsed, roster, h.since call r waits, rfl
    rw [Dialogue.follow_append, h.onWay call r waits, ← Cache.replace_eq]
    exact ⟨by simpa [Rebuild.rest] using rest, rfl, rfl, rfl, rfl⟩

/-- Where no call ends with a new roster, cache and latch stay as they are. -/
theorem Transition.keeps {s s' : Syncer} {a : SyncStep} {e : SyncEvent} (t : s.Transition a s' e)
    (h : SyncLog.synced? (a, e) = none) :
  s'.cache = s.cache ∧ s'.latch = s.latch
  := by
  cases t with
  | completed c answer elapsed r roster waits rest => simp [SyncLog.synced?] at h
  | _ => exact ⟨rfl, rfl⟩

/-- The cache holds what the answers to the last call with a new roster lead to, or, without such a
call, the roster it started with. -/
def Current (first : Roster) (log : SyncLog) (s : Syncer) : Prop :=
  match log.lastSynced? with
  | none => s.cache.roster = first
  | some call =>
    (Directory.rebuild s.settings.organization s.settings.pageSize).follow (log.answersTo call) =
      .done (.ok s.cache.roster)

theorem Current.transition {first : Roster} {log : SyncLog} {s s' : Syncer} {a : SyncStep}
    {e : SyncEvent} (h : Current first log s) (hf : Faithful log s) (t : s.Transition a s' e) :
  Current first (log ++ [(a, e)]) s'
  := by
  unfold Current at h ⊢
  rw [SyncLog.lastSynced?_concat, t.settings_eq]
  cases synced : SyncLog.synced? (a, e) with
  | none =>
    rw [(t.keeps synced).1, Option.none_or]
    split
    · next last => simpa only [last] using h
    · next call last =>
      -- what is said to a call after its end is not heard
      simp only [last] at h
      rw [SyncLog.answersTo_concat, Dialogue.follow_append, h, Dialogue.follow_done]
  | some call =>
    cases t with
    | completed c answer elapsed r roster waits rest =>
      obtain rfl := Option.some.inj synced
      simp only [Option.some_or]
      rw [SyncLog.answersTo_concat, Dialogue.follow_append, hf.onWay _ r waits]
      simp only [SyncLog.answerTo?, Rebuild.rest, if_true, Option.toList_some,
        Dialogue.follow_ask_cons, Dialogue.follow_nil]
      apply rest
    | _ => simp [SyncLog.synced?] at synced

/-- The latch is open and the cache populated if a call has ended with a new roster, and only
then. -/
structure Opened (log : SyncLog) (s : Syncer) : Prop where
  latch : s.latch.isOpen = log.lastSynced?.isSome
  cache : s.cache.populated = log.lastSynced?.isSome

theorem Opened.transition {log : SyncLog} {s s' : Syncer} {a : SyncStep} {e : SyncEvent}
    (h : Opened log s) (t : s.Transition a s' e) :
  Opened (log ++ [(a, e)]) s'
  := by
  cases synced : SyncLog.synced? (a, e) with
  | none =>
    obtain ⟨cache, latch⟩ := t.keeps synced
    constructor
    · rw [latch, h.latch, SyncLog.lastSynced?_concat, synced, Option.none_or]
    · rw [cache, h.cache, SyncLog.lastSynced?_concat, synced, Option.none_or]
  | some call =>
    cases t with
    | completed c answer elapsed r roster waits rest =>
      constructor
      · rw [SyncLog.lastSynced?_concat, synced]
        rfl
      · rw [SyncLog.lastSynced?_concat, synced]
        rfl
    | _ => simp [SyncLog.synced?] at synced

theorem opened_run (settings : SyncSettings) (now : Int64) (as : List SyncStep) :
  Opened ((new settings (.new now)).run as).2 ((new settings (.new now)).run as).1
  := by
  apply run_induction (P := Opened)
  · exact ⟨rfl, rfl⟩
  · intro log s a s' e h t
    apply h.transition t

section Idle

variable (settings : SyncSettings) (cache : Cache) (latch : Latch) (as : List SyncStep)

theorem faithful_run :
  Faithful ((idle settings cache latch).run as).2 ((idle settings cache latch).run as).1
  := by
  apply run_induction (P := Faithful)
  · constructor <;> simp [idle, SyncLog.startTimes, SyncLog.answersTo]
  · intro log s a s' e h t
    apply h.transition t

theorem current_run :
  Current cache.roster ((idle settings cache latch).run as).2
    ((idle settings cache latch).run as).1
  := by
  apply run_induction_under (J := Faithful) (P := Current cache.roster)
  · apply faithful_run settings cache latch []
  · intro log s a s' e hf t
    apply hf.transition t
  · rfl
  · intro log s a s' e hf h t
    apply h.transition hf t

end Idle

/-- After any run, a step changes the cache and the latch only where a call ends with a new roster.
Then the cache holds the roster that the complete rebuild of that call, with the answers given to
it, ends with, its stamp is the second the call was started at plus the seconds that it took, unless
it was later already, and the latch is open.  A call that is unfinished can be given up where it
waits, and then none is unfinished.  Every look-up is answered from the roster of the last such
call, and before the first one from the roster at the beginning, which is empty in a new cache. -/
theorem changes_only_when_synced (settings : SyncSettings) (cache : Cache) (latch : Latch)
    (steps : List SyncStep) (a : SyncStep) :
  let s := ((idle settings cache latch).run steps).1
  let log : SyncLog := ((idle settings cache latch).run steps).2
  let s' := (s.step a).1
  let rebuild := Directory.rebuild settings.organization settings.pageSize
  (match (s.step a).2 with
    | .ended call (.ok (.synced teams places)) =>
      ∃ now answer elapsed roster,
        log.startTimes[call]? = some now ∧ a = .resume call answer elapsed ∧
        rebuild.follow (log.answersTo call ++ [answer]) = .done (.ok roster) ∧
        teams = roster.size ∧ places = roster.memberships ∧
        s'.cache = ⟨roster, max s.cache.updatedAt (now + elapsed), true⟩ ∧ s'.latch.isOpen = true
    | _ => s'.cache = s.cache ∧ s'.latch = s.latch) ∧
  (∀ call ∈ log.unfinished, (s.step (.cancel call)).2 = .cancelled call ∧
    SyncLog.unfinished ((idle settings cache latch).run (steps ++ [.cancel call])).2 = ∅) ∧
  (∀ login, ∃ roster : Roster, (s.step (.lookUp login)).2 = .found (roster.teamsOf login) ∧
    match log.lastSynced? with
    | some call => rebuild.follow (log.answersTo call) = .done (.ok roster)
    | none => roster = cache.roster) ∧
  ∀ now login, (Cache.new now).teamsOf login = []
  := by
  intro s log s' rebuild
  have hsettings : s.settings = settings := settings_run settings cache latch steps
  have hf : Faithful log s := faithful_run settings cache latch steps
  have hc : Current cache.roster log s := current_run settings cache latch steps
  have t : s.Transition a s' (s.step a).2 := transition_step s a
  refine ⟨?changes, ?givenUp, ?lookedUp, Cache.teamsOf_new⟩
  case changes =>
    split
    · next call teams places ended =>
      rw [ended] at t
      simpa only [hsettings] using hf.completed t
    · next other =>
      apply t.keeps
      unfold SyncLog.synced?
      split
      · next h => exact absurd (Prod.mk.inj h).2 (other _ _ _)
      · rfl
  case givenUp =>
    intro call unfinished
    apply cancel_of_unfinished settings cache latch steps unfinished
  case lookedUp =>
    intro login
    use s.cache.roster, rfl
    unfold Current at hc
    rw [hsettings] at hc
    split at hc
    · next last => simpa only [last] using hc
    · next call last => simpa only [last] using hc

end Syncer

end MeshOnboard
