import MeshOnboard.Proofs.Directory.Waiting

/-!
# No wake-up of a latch is lost

Those who share a latch take turns in any order.  `Latch.Sound` is what every step keeps: the channel
has a sender for each handle that is held, nobody waits on a handle that has been given up, and who
sleeps saw the latch closed.  From this follows what runs of any length lead to
(`opens_for_every_waiter`): the latch is open once it has been marked, and every waiter gets through,
whether it was started before the mark or after it.
-/

namespace MeshOnboard

/-- What has happened to a latch. -/
abbrev LatchLog : Type := List (LatchStep × LatchEvent)

/-- The latch has been marked through some handle. -/
def LatchLog.Marked (log : LatchLog) : Prop := ∃ handle, (.use handle .mark, .done) ∈ log

theorem LatchLog.marked_cons (entry : LatchStep × LatchEvent) (log : LatchLog) :
  Marked (entry :: log) ↔ Marked [entry] ∨ Marked log
  := by
  simp only [Marked, List.mem_cons, exists_or, List.not_mem_nil, or_false]

namespace Latch

variable {w : Watch Bool} {l : Latch w}

/-- There is a sender for each handle that is held, whoever waits has a handle that is held, and
waiters have seen what they believe. -/
structure Sound (l : Latch w) : Prop where
  senders : w.senders l.channel = l.handles.count true
  held : ∀ x ∈ l.waiters, x.phase.isPending = true → l.holds x.handle = true
  truthful : ∀ x ∈ l.waiters, x.phase.Truthful l.channel

theorem holds_iff {handle : Nat} :
  l.holds handle = true ↔ l.handles[handle]? = some true
  := by
  simp [holds]

/-- While a handle is held the channel is not abandoned. -/
theorem Sound.alive (h : l.Sound) {handle : Nat} (held : l.holds handle = true) :
  w.senders l.channel ≠ 0
  := by
  have mem : true ∈ l.handles := List.mem_of_getElem? (holds_iff.1 held)
  rw [h.senders]
  apply Nat.ne_of_gt (List.count_pos_iff.2 mem)

theorem sound_closed (lawful : w.Lawful) :
  (closed : Latch w).Sound
  where
  senders := lawful.senders_new false
  held x h := by contradiction
  truthful x h := by contradiction

theorem Sound.mark (lawful : w.Lawful) (h : l.Sound) :
  l.mark.Sound
  where
  senders := by
    simp only [Latch.mark, lawful.senders_act]
    apply h.senders
  held := h.held
  truthful x hx := by
    apply (h.truthful x hx).act SenderAct.candid_raise
    rw [lawful.value_act]
    exact fun _ => rfl

theorem Sound.clone (lawful : w.Lawful) (h : l.Sound) :
  l.clone.Sound
  where
  senders := by
    simp only [Latch.clone, lawful.senders_act, List.count_append]
    rw [h.senders]
    rfl
  held x hx pending := by
    have held := holds_iff.1 (h.held x hx pending)
    rw [holds_iff]
    apply (List.getElem?_append_left (List.getElem?_eq_some_iff.1 held).1).trans held
  truthful x hx := by
    apply (h.truthful x hx).act SenderAct.candid_clone
    rw [lawful.value_act]
    apply id

/-- Nobody waits on a handle that is given up. -/
theorem Sound.drop (lawful : w.Lawful) (h : l.Sound) {handle : Nat}
    (held : l.holds handle = true) (free : l.awaits handle = false) :
  (l.drop handle).Sound
  where
  senders := by
    obtain ⟨lt, eq⟩ := List.getElem?_eq_some_iff.1 (holds_iff.1 held)
    simp only [Latch.drop, lawful.senders_act, List.count_set lt, eq]
    rw [h.senders]
    rfl
  held x hx pending := by
    have other : handle ≠ x.handle := by
      rintro rfl
      have waits : l.awaits x.handle = true := List.any_eq_true.2 ⟨x, hx, by simp [pending]⟩
      rw [free] at waits
      contradiction
    rw [holds_iff]
    apply (List.getElem?_set_ne other).trans (holds_iff.1 (h.held x hx pending))
  truthful x hx := by
    apply (h.truthful x hx).act SenderAct.candid_drop
    rw [lawful.value_act]
    apply id

theorem Sound.start (h : l.Sound) {handle : Nat} (held : l.holds handle = true) (bounded : Bool) :
  (l.start handle bounded).Sound
  where
  senders := h.senders
  held x hx pending := by
    rcases List.mem_append.1 hx with hx | hx
    · apply h.held x hx pending
    · rw [List.mem_singleton.1 hx]
      apply held
  truthful x hx := by
    rcases List.mem_append.1 hx with hx | hx
    · apply h.truthful x hx
    · rw [List.mem_singleton.1 hx]
      trivial

private theorem mem_or_of_mem_modify {α : Type} {f : α → α} {i : Nat} {xs : List α} {y : α}
    (h : y ∈ xs.modify i f) :
  y ∈ xs ∨ ∃ x ∈ xs, y = f x
  := by
  obtain ⟨j, hj⟩ := List.mem_iff_getElem?.1 h
  rw [List.getElem?_modify] at hj
  obtain ⟨x, hx, rfl⟩ := Option.map_eq_some_iff.1 hj
  split
  · right
    use x, List.mem_of_getElem? hx
  · left
    apply List.mem_of_getElem? hx

/-- A waiter goes on as long as its handle is held, and believes what it sees. -/
theorem Sound.modify (h : l.Sound) (i : Nat) {f : Waiter w → Waiter w}
    (handle : ∀ x, (f x).handle = x.handle)
    (pending : ∀ x, (f x).phase.isPending = true → x.phase.isPending = true)
    (truthful : ∀ x ∈ l.waiters, (f x).phase.Truthful l.channel) :
  ({ l with waiters := l.waiters.modify i f } : Latch w).Sound
  where
  senders := h.senders
  held y hy waits := by
    rcases mem_or_of_mem_modify hy with hy | ⟨x, hx, rfl⟩
    · apply h.held y hy waits
    · rw [handle]
      apply h.held x hx (pending x waits)
  truthful y hy := by
    rcases mem_or_of_mem_modify hy with hy | ⟨x, hx, rfl⟩
    · apply h.truthful y hy
    · apply truthful x hx

theorem allows_iff {handle : Nat} {what : LatchUse} :
  l.allows handle what = true ↔
    l.holds handle = true ∧ (what = .drop → l.awaits handle = false)
  := by
  by_cases drops : what = .drop
  · simp [allows, drops]
  · simp [allows, drops]

theorem step_use {handle : Nat} {what : LatchUse} (allowed : l.allows handle what = true) :
  l.step (.use handle what) = l.use handle what
  := if_pos allowed

theorem Sound.use (lawful : w.Lawful) (h : l.Sound) {handle : Nat} {what : LatchUse}
    (allowed : l.allows handle what = true) :
  (l.use handle what).1.Sound
  := by
  obtain ⟨held, free⟩ := allows_iff.1 allowed
  cases what with
  | mark => apply h.mark lawful
  | check => apply h
  | clone => apply h.clone lawful
  | drop => apply h.drop lawful held (free rfl)
  | start bounded => apply h.start held

/-- Every step keeps a latch sound. -/
theorem Sound.step (lawful : w.Lawful) (h : l.Sound) (a : LatchStep) :
  (l.step a).1.Sound
  := by
  have alive (x : Waiter w) (hx : x ∈ l.waiters) (pending : x.phase.isPending = true) :
      w.senders l.channel ≠ 0 := h.alive (h.held x hx pending)
  cases a with
  | use handle what =>
    simp only [Latch.step]
    split
    · next allowed => apply h.use lawful allowed
    · apply h
  | move i =>
    apply h.modify i
    · intro x
      rfl
    · intro x
      apply Phase.isPending_of_next
    · intro x hx
      apply (h.truthful x hx).next (alive x hx)
  | expire i =>
    apply h.modify i
    · intro x
      unfold Waiter.expire
      split <;> rfl
    · intro x
      apply x.isPending_of_expire
    · intro x hx
      apply x.truthful_expire (h.truthful x hx) (alive x hx)

/-- A mark opens the latch, and whatever else a handle is used for leaves it as it is. -/
theorem isOpen_use (lawful : w.Lawful) (l : Latch w) (handle : Nat) (what : LatchUse) :
  (l.use handle what).1.isOpen = true ↔ l.isOpen = true ∨ what = .mark
  := by
  cases what with
  | mark => simp [use, isOpen, mark, lawful.value_act, SenderAct.onValue, raise]
  | check => simp [use]
  | clone => simp [use, isOpen, clone, lawful.value_act, SenderAct.onValue]
  | drop => simp [use, isOpen, drop, lawful.value_act, SenderAct.onValue]
  | start bounded => simp [use, isOpen, start]

/-- A step opens the latch only by marking it, and none closes it. -/
theorem isOpen_step (lawful : w.Lawful) (l : Latch w) (a : LatchStep) :
  (l.step a).1.isOpen = true ↔ l.isOpen = true ∨ LatchLog.Marked [(a, (l.step a).2)]
  := by
  cases a with
  | use handle what =>
    simp only [step]
    split
    · rw [isOpen_use lawful]
      by_cases marks : what = .mark
      · simp [LatchLog.Marked, marks, use]
      · simp [LatchLog.Marked, marks, Ne.symm marks]
    · simp [LatchLog.Marked]
  | move i => simp [step, isOpen, LatchLog.Marked]
  | expire i => simp [step, isOpen, LatchLog.Marked]

/-- A mark changes nothing when the latch is open. -/
theorem mark_of_isOpen (lawful : w.Lawful) (isOpen : l.isOpen = true) :
  l.mark = l
  := by
  have idle : raise (w.value l.channel) = (w.value l.channel, false) := by
    rw [show w.value l.channel = true from isOpen]
    rfl
  rw [mark, lawful.modify_eq_self l.channel raise idle]

/-! ### What a step does to the waiters -/

/-- Who is new has just been called. -/
theorem waiters_use (l : Latch w) (handle : Nat) (what : LatchUse) :
  ∃ new, (l.use handle what).1.waiters = l.waiters ++ new ∧ ∀ y ∈ new, y.phase = .called
  := by
  cases what with
  | start bounded => exact ⟨[⟨handle, bounded, .called⟩], rfl, by simp⟩
  | _ => exact ⟨[], (List.append_nil _).symm, by simp⟩

private theorem modify_eq_mapIdx {α : Type} (f : α → α) (i : Nat) (xs : List α) :
  xs.modify i f = xs.mapIdx fun j x => if i = j then f x else x
  := by
  apply List.ext_getElem?
  simp [List.getElem?_modify]

/-- A step moves no waiter but the one it is about. -/
theorem waiters_step (l : Latch w) (a : LatchStep) :
  ∃ new, (l.step a).1.waiters = (l.waiters.mapIdx fun i x => x.after l.channel i a) ++ new ∧
    ∀ y ∈ new, y.phase = .called
  := by
  cases a with
  | use handle what =>
    have still : (l.waiters.mapIdx fun i x => x.after l.channel i (.use handle what)) = l.waiters :=
      List.ext_getElem? fun i => by simp [Waiter.after]
    rw [still]
    simp only [step]
    split
    · apply l.waiters_use handle what
    · exact ⟨[], (List.append_nil _).symm, by simp⟩
  | move j =>
    use []
    rw [List.append_nil]
    exact ⟨modify_eq_mapIdx _ _ _, by simp⟩
  | expire j =>
    use []
    rw [List.append_nil]
    exact ⟨modify_eq_mapIdx _ _ _, by simp⟩

theorem getElem?_step {i : Nat} {x : Waiter w} (hx : l.waiters[i]? = some x) (a : LatchStep) :
  (l.step a).1.waiters[i]? = some (x.after l.channel i a)
  := by
  obtain ⟨new, eq, -⟩ := l.waiters_step a
  rw [eq, List.getElem?_append_left, List.getElem?_mapIdx, hx]
  · rfl
  · simpa using (List.getElem?_eq_some_iff.1 hx).1

theorem of_getElem?_step {i : Nat} {a : LatchStep} {y : Waiter w}
    (hy : (l.step a).1.waiters[i]? = some y) :
  (∃ x, l.waiters[i]? = some x ∧ y = x.after l.channel i a) ∨ y.phase = .called
  := by
  obtain ⟨new, eq, called⟩ := l.waiters_step a
  rw [eq, List.getElem?_append] at hy
  split at hy
  · left
    rw [List.getElem?_mapIdx] at hy
    obtain ⟨x, hx, rfl⟩ := Option.map_eq_some_iff.1 hy
    use x, hx
  · right
    apply called y (List.mem_of_getElem? hy)

/-! ### Runs -/

theorem run_cons (l : Latch w) (a : LatchStep) (as : List LatchStep) :
  l.run (a :: as) = (((l.step a).1.run as).1, (a, (l.step a).2) :: ((l.step a).1.run as).2)
  := rfl

theorem Sound.run (lawful : w.Lawful) (h : l.Sound) (as : List LatchStep) :
  (l.run as).1.Sound
  := by
  induction as generalizing l with
  | nil => apply h
  | cons a as ih => apply ih (h.step lawful a)

/-- A latch is open after a run if it was open before or has been marked meanwhile. -/
theorem isOpen_run (lawful : w.Lawful) (l : Latch w) (as : List LatchStep) :
  (l.run as).1.isOpen = true ↔ l.isOpen = true ∨ LatchLog.Marked (l.run as).2
  := by
  induction as generalizing l with
  | nil => simp [run, LatchLog.Marked]
  | cons a as ih =>
    simp only [run_cons]
    rw [ih, isOpen_step lawful, or_assoc, ← LatchLog.marked_cons]

theorem isOpen_run_of_isOpen (lawful : w.Lawful) (isOpen : l.isOpen = true)
    (as : List LatchStep) :
  (l.run as).1.isOpen = true
  := by
  rw [isOpen_run lawful]
  left
  apply isOpen

/-- Once the latch is open, a waiter is through after two moves of its own, or at its deadline if it
has one, whatever else is done meanwhile. -/
theorem Sound.isThrough_run (lawful : w.Lawful) (h : l.Sound) (isOpen : l.isOpen = true) {i : Nat}
    {x : Waiter w} (hx : l.waiters[i]? = some x) (waits : x.phase.isExpired = false)
    {as : List LatchStep}
    (served : x.phase.distance ≤ as.count (.move i) ∨ x.bounded = true ∧ .expire i ∈ as) :
  ∃ y, (l.run as).1.waiters[i]? = some y ∧ y.phase.isThrough = true
  := by
  induction as generalizing l x with
  | nil =>
    use x, hx
    apply Phase.isThrough_of_distance waits
    simpa using served
  | cons a as ih =>
    have truthful : x.phase.Truthful l.channel := h.truthful x (List.mem_of_getElem? hx)
    apply ih (h.step lawful a) ((isOpen_step lawful l a).2 (.inl isOpen)) (getElem?_step hx a)
      (x.isExpired_after lawful truthful isOpen waits i a)
    rcases served with near | ⟨bounded, due⟩
    · left
      rw [List.count_cons] at near
      apply x.distance_after lawful truthful isOpen waits near
    · rcases List.mem_cons.1 due with rfl | due
      · left
        simp [Waiter.after, x.phase_expire lawful truthful isOpen waits bounded, Phase.distance]
      · right
        rw [Waiter.bounded_after]
        exact ⟨bounded, due⟩

/-- Once the latch is open nobody is given up any more. -/
theorem Sound.isExpired_of_run (lawful : w.Lawful) (h : l.Sound) (isOpen : l.isOpen = true)
    {as : List LatchStep} {i : Nat} {y : Waiter w} (hy : (l.run as).1.waiters[i]? = some y)
    (expired : y.phase.isExpired = true) :
  ∃ x, l.waiters[i]? = some x ∧ x.phase.isExpired = true
  := by
  induction as generalizing l with
  | nil => use y, hy
  | cons a as ih =>
    obtain ⟨z, hz, expired⟩ := ih (h.step lawful a) ((isOpen_step lawful l a).2 (.inl isOpen)) hy
    rcases of_getElem?_step hz with ⟨x, hx, rfl⟩ | called
    · use x, hx
      rw [← Bool.not_eq_false]
      intro waits
      have truthful : x.phase.Truthful l.channel := h.truthful x (List.mem_of_getElem? hx)
      rw [x.isExpired_after lawful truthful isOpen waits] at expired
      contradiction
    · rw [called] at expired
      contradiction

/-! ### What comes of the waiters -/

theorem wait_eq_isOpen (lawful : w.Lawful) (alive : w.senders l.channel ≠ 0) :
  l.wait = l.isOpen
  := by
  have called : (Phase.called : Phase w).Truthful l.channel := trivial
  rw [Bool.eq_iff_iff]
  constructor
  · apply (called.settle fun _ => alive).isOpen
  · intro isOpen
    apply called.isThrough_settle lawful isOpen

theorem Sound.finished_of_isOpen (lawful : w.Lawful) (h : l.Sound) (isOpen : l.isOpen = true) :
  l.finished = l.waiters.countP fun x => !x.phase.isExpired
  := by
  apply List.countP_congr
  intro x hx
  rw [(h.truthful x hx).isThrough_settle lawful isOpen]

theorem Sound.finished_of_not_isOpen (h : l.Sound) (shut : l.isOpen = false) :
  l.finished = 0
  := by
  rw [finished, List.countP_eq_zero]
  intro x hx through
  have truthful : (x.phase.settle l.channel).Truthful l.channel :=
    (h.truthful x hx).settle fun pending => h.alive (h.held x hx pending)
  have isOpen : l.isOpen = true := truthful.isOpen through
  rw [shut] at isOpen
  contradiction

/-- The latch is open exactly when it has been marked, through whatever handle, and whoever asks or
waits finds it so.  Before that no waiter is through.  From then on the latch stays open, another mark
changes nothing, nobody is given up, and every waiter, whether it was started before or after the
mark, is through or has something to do: it is through after two moves of its own, or at its deadline,
whatever else is done meanwhile. -/
theorem opens_for_every_waiter {w : Watch Bool} (lawful : w.Lawful) (steps : List LatchStep) :
  let l := ((closed : Latch w).run steps).1
  let log : LatchLog := ((closed : Latch w).run steps).2
  (l.isOpen = true ↔ log.Marked) ∧
  (∀ handle, l.holds handle = true →
    (l.step (.use handle .mark)).1.isOpen = true ∧
    (∃ b, (l.step (.use handle .check)).2 = .answered b ∧ (b = true ↔ log.Marked)) ∧
    (l.wait = true ↔ log.Marked)) ∧
  (∀ x ∈ l.waiters, (x.phase.settle l.channel).canMove l.channel = false) ∧
  (¬ log.Marked → l.finished = 0 ∧ ∀ x ∈ l.waiters, x.phase.isThrough = false) ∧
  (log.Marked →
    (∀ handle, (l.step (.use handle .mark)).1 = l) ∧
    (l.finished = l.waiters.countP fun x => !x.phase.isExpired) ∧
    (∀ x ∈ l.waiters, x.phase.isPending = true → x.phase.canMove l.channel = true) ∧
    ∀ more,
      (l.run more).1.isOpen = true ∧
      (∀ (i : Nat) y, (l.run more).1.waiters[i]? = some y → y.phase.isExpired = true →
        ∃ x, l.waiters[i]? = some x ∧ x.phase.isExpired = true) ∧
      ∀ (i : Nat) x, l.waiters[i]? = some x → x.phase.isExpired = false →
        2 ≤ more.count (.move i) ∨ x.bounded = true ∧ .expire i ∈ more →
        ∃ y, (l.run more).1.waiters[i]? = some y ∧ y.phase.isThrough = true)
  := by
  intro l log
  have sound : l.Sound := (sound_closed lawful).run lawful steps
  have opened : l.isOpen = true ↔ log.Marked := by
    rw [isOpen_run lawful]
    apply or_iff_right
    rw [show (closed : Latch w).isOpen = false from lawful.value_new false]
    exact Bool.false_ne_true
  refine ⟨opened, ?_, ?_, ?_, ?_⟩
  · intro handle held
    have mark : l.step (.use handle .mark) = l.use handle .mark :=
      step_use (allows_iff.2 ⟨held, by simp⟩)
    have check : l.step (.use handle .check) = l.use handle .check :=
      step_use (allows_iff.2 ⟨held, by simp⟩)
    refine ⟨?_, ⟨l.isOpen, by rw [check]; rfl, opened⟩, ?_⟩
    · rw [mark]
      apply (isOpen_use lawful l handle .mark).2 (.inr rfl)
    · rw [wait_eq_isOpen lawful (sound.alive held), opened]
  · intro x _
    apply x.phase.canMove_settle lawful
  · intro unmarked
    have shut : l.isOpen = false := by rwa [← opened, Bool.not_eq_true] at unmarked
    use sound.finished_of_not_isOpen shut
    intro x hx
    rw [← Bool.not_eq_true]
    intro through
    apply unmarked
    apply opened.1 ((sound.truthful x hx).isOpen through)
  · intro marked
    have isOpen := opened.2 marked
    refine ⟨?_, sound.finished_of_isOpen lawful isOpen, ?_, ?_⟩
    · intro handle
      simp only [step]
      split
      · apply mark_of_isOpen lawful isOpen
      · rfl
    · intro x hx
      apply (sound.truthful x hx).canMove lawful isOpen
    · intro more
      refine ⟨isOpen_run_of_isOpen lawful isOpen more, ?_, ?_⟩
      · intro i y
        apply sound.isExpired_of_run lawful isOpen
      · intro i x hx waits served
        apply sound.isThrough_run lawful isOpen hx waits
        rcases served with moved | due
        · left
          apply Nat.le_trans x.phase.distance_le moved
        · right
          exact due

/-- A waiter that has fallen asleep on a clone before the mark and one that is started on the first
handle after the second mark, with a deadline that has come already, both get through. -/
theorem opens_for_sleeper_and_latecomer :
  let asleep : List LatchStep := [.use 0 .clone, .use 1 (.start false), .move 0, .move 0]
  let marked : List LatchStep := asleep ++ [.use 0 .mark, .use 1 .mark, .use 0 (.start true)]
  let more : List LatchStep := [.move 0, .expire 1, .move 0]
  let l := ((closed : Latch).run asleep).1
  let l' := ((closed : Latch).run marked).1
  (Watch.counted : Watch Bool).Lawful ∧
  ¬ LatchLog.Marked ((closed : Latch).run asleep).2 ∧ l.finished = 0 ∧
  LatchLog.Marked ((closed : Latch).run marked).2 ∧ l'.finished = 2 ∧
  (∃ x ∈ l'.waiters, x.phase.isPending = true ∧ x.phase.canMove l'.channel = true) ∧
  2 ≤ more.count (.move 0) ∧ .expire 1 ∈ more ∧
  (∃ y, (l'.run more).1.waiters[0]? = some y ∧ y.phase.isThrough = true) ∧
  ∃ y, (l'.run more).1.waiters[1]? = some y ∧ y.phase.isThrough = true
  := by
  intro asleep marked more l l'
  obtain ⟨opened, -, -, before, -⟩ := opens_for_every_waiter Watch.counted_lawful asleep
  obtain ⟨opened', -, -, -, after⟩ := opens_for_every_waiter Watch.counted_lawful marked
  have unmarked : ¬ LatchLog.Marked ((closed : Latch).run asleep).2 := by
    rw [← opened]
    decide
  have isMarked : LatchLog.Marked ((closed : Latch).run marked).2 := opened'.1 (by decide)
  obtain ⟨-, finished, stirs, later⟩ := after isMarked
  obtain ⟨-, -, through⟩ := later more
  have first : l'.waiters[0]? = some ⟨1, false, .asleep (0 : Nat)⟩ := rfl
  have second : l'.waiters[1]? = some ⟨0, true, .called⟩ := rfl
  have mem := List.mem_of_getElem? first
  have moved : 2 ≤ more.count (.move 0) := by decide
  have due : .expire 1 ∈ more := by decide
  exact ⟨Watch.counted_lawful, unmarked, (before unmarked).1, isMarked, finished,
    ⟨_, mem, rfl, stirs _ mem rfl⟩, moved, due, through 0 _ first rfl (.inl moved),
    through 1 _ second rfl (.inr ⟨rfl, due⟩)⟩

end Latch

end MeshOnboard
