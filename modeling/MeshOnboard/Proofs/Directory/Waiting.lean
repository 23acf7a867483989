import MeshOnboard.Directory.Latch
import Mathlib.Tactic.Use

/-!
# Waiting for news

Nobody misses a change of a channel as long as changes are announced (`SenderAct.Candid`): a receiver
that last looked while the value was false has news when the value is true
(`Watch.SawClosed.hasNews`).  Hence a waiter that is `Phase.Truthful`, that is, one that sleeps only
if it saw the latch closed, has something to do as long as the latch is open, and every move brings
it nearer to its end.  This holds of every channel that is `Watch.Lawful`, such as the one that
counts its announcements (`Watch.counted_lawful`).
-/

namespace MeshOnboard

/-! ### Channels -/

namespace SenderAct

variable {α : Type}

/-- Whenever the act changes the value, it announces this. -/
def Candid (act : SenderAct α) : Prop := ∀ a, (act.onValue a).1 ≠ a → (act.onValue a).2 = true

theorem candid_clone :
  (clone : SenderAct α).Candid
  := fun _ changed => absurd rfl changed

theorem candid_drop :
  (drop : SenderAct α).Candid
  := fun _ changed => absurd rfl changed

/-- A mark is announced if it opens the latch. -/
theorem candid_raise :
  (modify Latch.raise).Candid
  := by
  intro isOpen changed
  cases isOpen with
  | false => rfl
  | true => contradiction

end SenderAct

namespace Watch

section Lawful

variable {α : Type} {w : Watch α}

theorem acts_concat (w : Watch α) (s : w.State) (as : List (SenderAct α)) (act : SenderAct α) :
  w.acts s (as ++ [act]) = w.act (w.acts s as) act
  := by
  rw [acts, acts, List.foldl_append, List.foldl_cons, List.foldl_nil]

/-- Candid acts that have changed the value have announced something. -/
theorem Lawful.announces_of_value_ne (lawful : w.Lawful) {s : w.State} {as : List (SenderAct α)}
    (candid : ∀ act ∈ as, act.Candid) (changed : w.value (w.acts s as) ≠ w.value s) :
  SenderAct.announces as (w.value s) = true
  := by
  induction as generalizing s with
  | nil => contradiction
  | cons act as ih =>
    rw [SenderAct.announces, Bool.or_eq_true, ← lawful.value_act]
    by_cases same : w.value (w.act s act) = w.value s
    · right
      apply ih fun act h => candid act (List.mem_cons_of_mem _ h)
      rwa [same]
    · left
      apply candid act List.mem_cons_self
      rwa [← lawful.value_act]

end Lawful

section Counted

variable {α : Type}

/-- The count is above what it was as soon as something is announced. -/
theorem Counted.lt_announced_acts (s : Counted α) (as : List (SenderAct α)) {n : Nat}
    (h : n ≤ s.announced) :
  n < (as.foldl Counted.act s).announced ↔
    n < s.announced ∨ SenderAct.announces as s.value = true
  := by
  induction as generalizing s with
  | nil => simp [SenderAct.announces]
  | cons act as ih =>
    rw [List.foldl_cons, ih _ (by simp only [Counted.act]; omega), SenderAct.announces]
    cases announced : (act.onValue s.value).2 with
    | false => simp [Counted.act, announced]
    | true =>
      simp only [Counted.act, announced, Bool.toNat_true, Bool.true_or, or_true, iff_true]
      omega

theorem Counted.act_modify_eq_self (s : Counted α) {change : α → α × Bool}
    (idle : change s.value = (s.value, false)) :
  s.act (.modify change) = s
  := by
  simp [Counted.act, SenderAct.onValue, SenderAct.onSenders, idle]

theorem counted_lawful :
  (counted : Watch α).Lawful
  where
  value_new a := rfl
  senders_new a := rfl
  value_act s act := rfl
  senders_act s act := rfl
  modify_eq_self s change idle := Counted.act_modify_eq_self s idle
  hasNews_look s r as := by
    rw [Bool.eq_iff_iff]
    change decide (s.announced < (as.foldl Counted.act s).announced) = true ↔ _
    rw [decide_eq_true_iff, Counted.lt_announced_acts s as (Nat.le_refl _)]
    apply or_iff_right (Nat.lt_irrefl _)

end Counted

/-- When the receiver last looked the value was false, and all acts since then were candid. -/
def SawClosed (w : Watch Bool) (s : w.State) (r : w.Receiver) : Prop :=
  ∃ s₀ r₀ as, r = w.look s₀ r₀ ∧ w.value s₀ = false ∧ s = w.acts s₀ as ∧
    ∀ act ∈ as, act.Candid

variable {w : Watch Bool} {s : w.State} {r : w.Receiver}

theorem SawClosed.of_look (r : w.Receiver) (h : w.value s = false) :
  w.SawClosed s (w.look s r)
  := ⟨s, r, [], rfl, h, rfl, by simp⟩

theorem SawClosed.act (h : w.SawClosed s r) {act : SenderAct Bool} (candid : act.Candid) :
  w.SawClosed (w.act s act) r
  := by
  obtain ⟨s₀, r₀, as, rfl, closed, rfl, h⟩ := h
  use s₀, r₀, as ++ [act], rfl, closed, (w.acts_concat s₀ as act).symm
  intro b hb
  rcases List.mem_append.1 hb with hb | hb
  · apply h b hb
  · rwa [List.mem_singleton.1 hb]

/-- Whoever saw the latch closed has news when it is open. -/
theorem SawClosed.hasNews (lawful : w.Lawful) (h : w.SawClosed s r) (isOpen : w.value s = true) :
  w.hasNews s r = true
  := by
  obtain ⟨s₀, r₀, as, rfl, closed, rfl, candid⟩ := h
  rw [lawful.hasNews_look]
  apply lawful.announces_of_value_ne candid
  simp [isOpen, closed]

end Watch

/-! ### Waiters -/

namespace Phase

variable {w : Watch Bool} {s : w.State} {p : Phase w}

/-- A waiter that sleeps saw the latch closed, and one that is through found it open. -/
def Truthful (s : w.State) : Phase w → Prop
  | asleep r => w.SawClosed s r
  | through => w.value s = true
  | _ => True

theorem Truthful.isOpen (h : p.Truthful s) (through : p.isThrough = true) :
  w.value s = true
  := by
  cases p with
  | through => apply h
  | _ => contradiction

/-- A move keeps to the truth, unless the channel is abandoned while a waiter still waits. -/
theorem Truthful.next (h : p.Truthful s) (alive : p.isPending = true → w.senders s ≠ 0) :
  (p.next s).Truthful s
  := by
  cases p with
  | called => trivial
  | looking r =>
    simp only [Phase.next]
    split
    · assumption
    · next closed => apply Watch.SawClosed.of_look r (by simpa using closed)
  | asleep r =>
    simp only [Phase.next]
    split
    · trivial
    · rwa [if_neg (alive rfl)]
  | through => apply h
  | expired => trivial

theorem isPending_of_next (h : (p.next s).isPending = true) :
  p.isPending = true
  := by
  cases p with
  | through => contradiction
  | expired => contradiction
  | _ => rfl

theorem Truthful.settle (h : p.Truthful s) (alive : p.isPending = true → w.senders s ≠ 0) :
  (p.settle s).Truthful s
  := by
  have h₁ := h.next alive
  have h₂ := h₁.next fun pending => alive (isPending_of_next pending)
  apply h₂.next fun pending => alive (isPending_of_next (isPending_of_next pending))

theorem Truthful.expire (h : p.Truthful s) (alive : p.isPending = true → w.senders s ≠ 0) :
  (p.expire s).Truthful s
  := by
  unfold Phase.expire
  split
  · next through => apply (h.settle alive).isOpen through
  · trivial

/-- Candid acts that leave an open latch open leave what was seen true. -/
theorem Truthful.act (h : p.Truthful s) {act : SenderAct Bool} (candid : act.Candid)
    (stays : w.value s = true → w.value (w.act s act) = true) :
  p.Truthful (w.act s act)
  := by
  cases p with
  | asleep r => apply Watch.SawClosed.act h candid
  | through => apply stays h
  | _ => trivial

/-- How many moves a waiter is away from its end while the latch is open. -/
def distance : Phase w → Nat
  | called | asleep _ => 2
  | looking _ => 1
  | through | expired => 0

theorem distance_le (p : Phase w) :
  p.distance ≤ 2
  := by
  cases p <;> simp [distance]

theorem isExpired_next (s : w.State) (p : Phase w) :
  (p.next s).isExpired = p.isExpired
  := by
  cases p with
  | looking r =>
    simp only [Phase.next]
    split <;> rfl
  | asleep r =>
    simp only [Phase.next]
    split
    · rfl
    · split <;> rfl
  | _ => rfl

theorem isThrough_of_distance (waits : p.isExpired = false) (h : p.distance = 0) :
  p.isThrough = true
  := by
  cases p with
  | through => rfl
  | expired => contradiction
  | _ => simp [distance] at h

/-- On an open latch a waiter that is not through has something to do. -/
theorem Truthful.canMove (lawful : w.Lawful) (h : p.Truthful s) (isOpen : w.value s = true)
    (pending : p.isPending = true) :
  p.canMove s = true
  := by
  cases p with
  | asleep r => simp [Phase.canMove, Watch.SawClosed.hasNews lawful h isOpen]
  | through => contradiction
  | expired => contradiction
  | _ => rfl

/-- On an open latch every move of a waiter brings it nearer to its end. -/
theorem Truthful.distance_next (lawful : w.Lawful) (h : p.Truthful s) (isOpen : w.value s = true) :
  (p.next s).distance = p.distance - 1
  := by
  cases p with
  | looking r => simp [Phase.next, isOpen, distance]
  | asleep r => simp [Phase.next, Watch.SawClosed.hasNews lawful h isOpen, distance]
  | _ => rfl

theorem next_of_canMove_eq_false (h : p.canMove s = false) :
  p.next s = p
  := by
  cases p with
  | asleep r =>
    simp only [canMove, Bool.or_eq_false_iff, beq_eq_false_iff_ne] at h
    simp [Phase.next, h.1, h.2]
  | through => rfl
  | expired => rfl
  | _ => contradiction

/-- Who looks is through or asleep after that, and has no news yet. -/
theorem canMove_next_next_looking (lawful : w.Lawful) (s : w.State) (r : w.Receiver) :
  (((looking r).next s).next s).canMove s = false
  := by
  have quiet : w.hasNews s (w.look s r) = false := lawful.hasNews_look s r []
  by_cases isOpen : w.value s = true
  · simp [Phase.next, canMove, isOpen]
  · by_cases abandoned : w.senders s = 0
    · simp [Phase.next, canMove, isOpen, quiet, abandoned]
    · simp [Phase.next, canMove, isOpen, quiet, abandoned]

/-- A waiter that has gone as far as it can has nothing more to do. -/
theorem canMove_settle (lawful : w.Lawful) (s : w.State) (p : Phase w) :
  (p.settle s).canMove s = false
  := by
  cases p with
  | called => apply canMove_next_next_looking lawful
  | looking r =>
    have rests := canMove_next_next_looking lawful s r
    rw [settle, next_of_canMove_eq_false rests]
    apply rests
  | asleep r =>
    cases stirs : (asleep r).canMove s with
    | true =>
      by_cases news : w.hasNews s r = true
      · have wakes : (asleep r).next s = looking r := if_pos news
        rw [settle, wakes]
        apply canMove_next_next_looking lawful
      · have abandoned : w.senders s = 0 := by simpa [canMove, news] using stirs
        simp [settle, Phase.next, canMove, news, abandoned]
    | false =>
      rw [settle, next_of_canMove_eq_false stirs, next_of_canMove_eq_false stirs,
        next_of_canMove_eq_false stirs]
      apply stirs
  | through => rfl
  | expired => rfl

/-- On an open latch a waiter gets to its end when nobody else moves, unless it was given up. -/
theorem Truthful.isThrough_settle (lawful : w.Lawful) (h : p.Truthful s)
    (isOpen : w.value s = true) :
  (p.settle s).isThrough = !p.isExpired
  := by
  cases p with
  | called => simp [Phase.settle, Phase.next, isOpen, isThrough, isExpired]
  | looking r => simp [Phase.settle, Phase.next, isOpen, isThrough, isExpired]
  | asleep r =>
    have news : w.hasNews s r = true := Watch.SawClosed.hasNews lawful h isOpen
    simp [Phase.settle, Phase.next, news, isOpen, isThrough, isExpired]
  | through => rfl
  | expired => rfl

end Phase

namespace Waiter

variable {w : Watch Bool} {s : w.State} {x : Waiter w}

/-- What a step makes of the waiter with number `i`. -/
def after (s : w.State) (i : Nat) : LatchStep → Waiter w → Waiter w
  | .move j, x => if j = i then x.move s else x
  | .expire j, x => if j = i then x.expire s else x
  | _, x => x

/-- On an open latch a deadline finds the waiter at its end. -/
theorem phase_expire (lawful : w.Lawful) (h : x.phase.Truthful s) (isOpen : w.value s = true)
    (waits : x.phase.isExpired = false) (bounded : x.bounded = true) :
  (x.expire s).phase = .through
  := by
  simp [expire, bounded, Phase.expire, h.isThrough_settle lawful isOpen, waits]

theorem isPending_of_expire (s : w.State) (x : Waiter w) (h : (x.expire s).phase.isPending = true) :
  x.phase.isPending = true
  := by
  unfold expire at h
  split at h
  · simp only [Phase.expire] at h
    split at h <;> contradiction
  · apply h

theorem truthful_expire (x : Waiter w) (h : x.phase.Truthful s)
    (alive : x.phase.isPending = true → w.senders s ≠ 0) :
  (x.expire s).phase.Truthful s
  := by
  unfold expire
  split
  · apply h.expire alive
  · apply h

theorem bounded_after (s : w.State) (i : Nat) (a : LatchStep) (x : Waiter w) :
  (x.after s i a).bounded = x.bounded
  := by
  cases a with
  | move j =>
    simp only [after]
    split <;> rfl
  | expire j =>
    simp only [after, expire]
    split
    · split <;> rfl
    · rfl
  | _ => rfl

/-- Nobody is given up while the latch is open. -/
theorem isExpired_after (lawful : w.Lawful) (h : x.phase.Truthful s) (isOpen : w.value s = true)
    (waits : x.phase.isExpired = false) (i : Nat) (a : LatchStep) :
  (x.after s i a).phase.isExpired = false
  := by
  cases a with
  | move j =>
    simp only [after]
    split
    · apply (Phase.isExpired_next s x.phase).trans waits
    · apply waits
  | expire j =>
    simp only [after]
    split
    · cases bounded : x.bounded with
      | true =>
        rw [phase_expire lawful h isOpen waits bounded]
        rfl
      | false => simp [expire, bounded, waits]
    · apply waits
  | _ => apply waits

/-- While the latch is open no step takes a waiter away from its end, and each move of its own
brings it nearer. -/
theorem distance_after (lawful : w.Lawful) (h : x.phase.Truthful s) (isOpen : w.value s = true)
    (waits : x.phase.isExpired = false) {i n : Nat} {a : LatchStep}
    (near : x.phase.distance ≤ n + if a == .move i then 1 else 0) :
  (x.after s i a).phase.distance ≤ n
  := by
  cases a with
  | move j =>
    simp only [after]
    split
    · next own =>
      simp only [own, beq_self_eq_true, if_true] at near
      simp only [move, h.distance_next lawful isOpen]
      omega
    · next other => simpa [other] using near
  | expire j =>
    simp only [after]
    split
    · cases bounded : x.bounded with
      | true =>
        rw [phase_expire lawful h isOpen waits bounded]
        apply Nat.zero_le
      | false => simpa [expire, bounded] using near
    · apply near
  | _ => apply near

end Waiter

end MeshOnboard
