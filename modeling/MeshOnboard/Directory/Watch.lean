/-!
# Channels for the latest value

A channel holds one value.  Whoever has a sender of it may change the value in place, and says with
each change whether it is announced.  A receiver has news when something has been announced since it
last looked.  A channel is abandoned when all its senders are gone.

`Watch` lists the operations of such channels, `Watch.Lawful` what may be relied on whatever the
channel, and `Watch.counted` is the channel that counts its announcements.
-/

namespace MeshOnboard

/-- What is done to a channel by those who have a sender of it. -/
inductive SenderAct (α : Type) where
  /-- The value is changed; the function says of each value what becomes of it, and whether this is
  announced. -/
  | modify (change : α → α × Bool)
  /-- Another sender is made. -/
  | clone
  /-- A sender is given up. -/
  | drop

namespace SenderAct

variable {α : Type}

/-- The value after an act that finds the value `a`, and whether it is announced. -/
def onValue : SenderAct α → α → α × Bool
  | modify change, a => change a
  | _, a => (a, false)

/-- The number of senders after an act that finds `n` of them. -/
def onSenders : SenderAct α → Nat → Nat
  | modify _, n => n
  | clone, n => n + 1
  | drop, n => n - 1

/-- Whether one of the acts is announced when the first of them finds the value `a`. -/
def announces : List (SenderAct α) → α → Bool
  | [], _ => false
  | act :: acts, a => (act.onValue a).2 || announces acts (act.onValue a).1

end SenderAct

/-- The operations of a kind of channel. -/
structure Watch (α : Type) where
  /-- The states of a channel. -/
  State : Type
  /-- What a receiver remembers. -/
  Receiver : Type
  /-- A channel with one sender. -/
  new : α → State
  act : State → SenderAct α → State
  value : State → α
  senders : State → Nat
  /-- A receiver that has not looked yet. -/
  subscribe : State → Receiver
  /-- The receiver when it has looked at the value. -/
  look : State → Receiver → Receiver
  hasNews : State → Receiver → Bool

namespace Watch

variable {α : Type}

/-- The state of a channel after acts. -/
def acts (w : Watch α) (s : w.State) (as : List (SenderAct α)) : w.State := as.foldl w.act s

/-- What may be relied on. -/
structure Lawful (w : Watch α) : Prop where
  value_new (a : α) : w.value (w.new a) = a
  senders_new (a : α) : w.senders (w.new a) = 1
  value_act (s : w.State) (act : SenderAct α) :
    w.value (w.act s act) = (act.onValue (w.value s)).1
  senders_act (s : w.State) (act : SenderAct α) :
    w.senders (w.act s act) = act.onSenders (w.senders s)
  /-- What does not change the value and is not announced changes nothing. -/
  modify_eq_self (s : w.State) (change : α → α × Bool)
    (idle : change (w.value s) = (w.value s, false)) : w.act s (.modify change) = s
  /-- A receiver that has looked has news as soon as something is announced, and not before. -/
  hasNews_look (s : w.State) (r : w.Receiver) (as : List (SenderAct α)) :
    w.hasNews (w.acts s as) (w.look s r) = SenderAct.announces as (w.value s)

/-- A channel that counts what is announced. -/
structure Counted (α : Type) where
  value : α
  announced : Nat
  senders : Nat

/-- A counted channel after an act. -/
def Counted.act (s : Counted α) (act : SenderAct α) : Counted α :=
  let (value, isAnnounced) := act.onValue s.value
  ⟨value, s.announced + isAnnounced.toNat, act.onSenders s.senders⟩

/-- The channel that counts what is announced; its receivers remember the count at their last look. -/
def counted : Watch α where
  State := Counted α
  Receiver := Nat
  new a := ⟨a, 0, 1⟩
  act := Counted.act
  value := Counted.value
  senders := Counted.senders
  subscribe := Counted.announced
  look s _ := s.announced
  hasNews s count := count < s.announced

end Watch

end MeshOnboard
