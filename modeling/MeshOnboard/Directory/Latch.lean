import MeshOnboard.Directory.Watch

/-!
# Readiness

A `Latch` is closed until it is marked and open ever after.  It may be cloned, and all its handles
are the same latch: they share a channel that says whether it is open.  A waiter may be started on
any handle at any time.  It subscribes to the channel and looks at the value; unless it finds the
latch open it sleeps until there is news, and looks again.

`Latch.step` is what one of those who share a latch does to it: the holders of handles and the
waiters take turns in any order, and a waiter may be overtaken between any two of its moves.
`Latch.finished` is what has come of the waiters when all of them have gone as far as they can.
-/

namespace MeshOnboard

/-! ### Waiters -/

/-- How far a waiter has come. -/
inductive Phase (w : Watch Bool) where
  /-- It has not subscribed yet. -/
  | called
  /-- It is about to look at the value. -/
  | looking (r : w.Receiver)
  /-- It has found the latch closed and sleeps until there is news. -/
  | asleep (r : w.Receiver)
  /-- It has come to its end. -/
  | through
  /-- It was given up at its deadline. -/
  | expired

namespace Phase

variable {w : Watch Bool} (s : w.State)

def isThrough : Phase w → Bool
  | through => true
  | _ => false

def isExpired : Phase w → Bool
  | expired => true
  | _ => false

/-- Whether a waiter still waits. -/
def isPending (p : Phase w) : Bool := !p.isThrough && !p.isExpired

/-- Whether there is something for a waiter to do. -/
def canMove : Phase w → Bool
  | called | looking _ => true
  | asleep r => w.hasNews s r || w.senders s == 0
  | through | expired => false

/-- The next move of a waiter.  On an abandoned channel a waiter without news comes to its end, too,
for then there is no more to wait for. -/
def next : Phase w → Phase w
  | called => looking (w.subscribe s)
  | looking r => if w.value s then through else asleep (w.look s r)
  | asleep r =>
    if w.hasNews s r then looking r else if w.senders s = 0 then through else asleep r
  | through => through
  | expired => expired

/-- As far as a waiter comes while nobody else moves.  It takes three moves at most. -/
def settle (p : Phase w) : Phase w := ((p.next s).next s).next s

/-- What becomes of a waiter at its deadline: it goes as far as it can, and is given up unless it has
come to its end. -/
def expire (p : Phase w) : Phase w := if (p.settle s).isThrough then through else expired

end Phase

/-- A waiter on a handle. -/
structure Waiter (w : Watch Bool) where
  handle : Nat
  /-- Whether it has a deadline. -/
  bounded : Bool
  phase : Phase w

/-- A waiter after its next move. -/
def Waiter.move {w : Watch Bool} (s : w.State) (x : Waiter w) : Waiter w :=
  { x with phase := x.phase.next s }

/-- A waiter after its deadline, if it has one. -/
def Waiter.expire {w : Watch Bool} (s : w.State) (x : Waiter w) : Waiter w :=
  if x.bounded then { x with phase := x.phase.expire s } else x

/-! ### Latches -/

/-- A latch, with those who share it. -/
structure Latch (w : Watch Bool := Watch.counted) where
  channel : w.State
  /-- For each handle whether it is still held, in the order of their making. -/
  handles : List Bool
  /-- The waiters in the order of their start. -/
  waiters : List (Waiter w)

/-- What a handle is used for. -/
inductive LatchUse where
  | mark
  /-- Somebody asks whether the latch is open. -/
  | check
  | clone
  /-- The handle is given up. -/
  | drop
  /-- A waiter is started, with a deadline or without. -/
  | start (bounded : Bool)
  deriving DecidableEq

/-- What one of those who share a latch does. -/
inductive LatchStep where
  | use (handle : Nat) (what : LatchUse)
  /-- A waiter makes its next move. -/
  | move (waiter : Nat)
  /-- The deadline of a waiter has come. -/
  | expire (waiter : Nat)
  deriving DecidableEq

/-- What a step leads to. -/
inductive LatchEvent where
  | done
  | answered (isOpen : Bool)
  /-- The handle cannot be used so. -/
  | ignored
  deriving DecidableEq

namespace Latch

variable {w : Watch Bool}

/-- A latch before it is marked, with one handle. -/
def closed : Latch w := ⟨w.new false, [true], []⟩

def isOpen (l : Latch w) : Bool := w.value l.channel

/-- What a mark makes of the value: it is announced unless the latch was open. -/
def raise (isOpen : Bool) : Bool × Bool := (true, !isOpen)

/-- The latch after it is marked. -/
def mark (l : Latch w) : Latch w := { l with channel := w.act l.channel (.modify raise) }

/-- The latch with another handle. -/
def clone (l : Latch w) : Latch w :=
  { l with channel := w.act l.channel .clone, handles := l.handles ++ [true] }

/-- The latch without a handle. -/
def drop (l : Latch w) (handle : Nat) : Latch w :=
  { l with channel := w.act l.channel .drop, handles := l.handles.set handle false }

/-- The latch with one more waiter. -/
def start (l : Latch w) (handle : Nat) (bounded : Bool) : Latch w :=
  { l with waiters := l.waiters ++ [⟨handle, bounded, .called⟩] }

/-- Whether a handle is still held. -/
def holds (l : Latch w) (handle : Nat) : Bool := l.handles[handle]? == some true

/-- Whether somebody waits on a handle. -/
def awaits (l : Latch w) (handle : Nat) : Bool :=
  l.waiters.any fun x => x.phase.isPending && x.handle == handle

/-- Whether a handle can be used so: it must be held still, and is not given up while somebody waits
on it. -/
def allows (l : Latch w) (handle : Nat) (what : LatchUse) : Bool :=
  l.holds handle && !(what == .drop && l.awaits handle)

/-- The latch after a use of a handle, and what this leads to. -/
def use (l : Latch w) (handle : Nat) : LatchUse → Latch w × LatchEvent
  | .mark => (l.mark, .done)
  | .check => (l, .answered l.isOpen)
  | .clone => (l.clone, .done)
  | .drop => (l.drop handle, .done)
  | .start bounded => (l.start handle bounded, .done)

/-- The latch after a step, and what the step leads to. -/
def step (l : Latch w) : LatchStep → Latch w × LatchEvent
  | .use handle what => if l.allows handle what then l.use handle what else (l, .ignored)
  | .move i => ({ l with waiters := l.waiters.modify i (.move l.channel) }, .done)
  | .expire i => ({ l with waiters := l.waiters.modify i (.expire l.channel) }, .done)

/-- The latch after steps, and each step with what it led to. -/
def run (l : Latch w) : List LatchStep → Latch w × List (LatchStep × LatchEvent)
  | [] => (l, [])
  | a :: as =>
    let (l, e) := l.step a
    let (l, log) := run l as
    (l, (a, e) :: log)

/-- The latch with one more waiter on its first handle. -/
def spawn (l : Latch w) : Latch w := l.start 0 false

/-- Whether waiting for any span of time, with no mark meanwhile, comes to an end within it. -/
def wait (l : Latch w) : Bool := (Phase.called.settle l.channel).isThrough

/-- The number of waiters that are through when all of them have gone as far as they can. -/
def finished (l : Latch w) : Nat := l.waiters.countP fun x => (x.phase.settle l.channel).isThrough

end Latch

end MeshOnboard
