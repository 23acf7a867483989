import MeshOnboard.Directory.Cache
import MeshOnboard.Directory.Latch
import MeshOnboard.Directory.Walk

/-!
# Synchronization

A `Syncer` holds what the synchronizations of one directory share: the cache, the readiness latch
and a lock, with the calls that wait for the directory meanwhile.  A call that is started is turned
away while the lock is held, has nothing to do while the cache is fresh, and else keeps the lock and
waits at the first question of a rebuild.  Its open question may be answered, and it may be given up
where it waits.  A call that is over gives the lock back.  Cache and latch change only where a
rebuild ends with a roster, the cache before the latch.

A `SyncMove` is what is done without a wait, one `SyncWrite` after the other.  `Syncer.step` is the
state after the move that belongs to a step and `Syncer.passes` lists the states that a move leads
through.  `Syncer.begin`, `Syncer.resume`, `Syncer.finish` and `Syncer.cancel` serve a task that has
one call at a time.
-/

namespace MeshOnboard

/-- What is synchronized, and how often at most. -/
structure SyncSettings where
  organization : String
  pageSize : UInt32
  ttlSeconds : UInt64
  deriving DecidableEq

/-- What came of a synchronization that did not fail. -/
inductive SyncOutcome where
  /-- The cache was not stale. -/
  | fresh
  /-- Another synchronization was in progress. -/
  | inFlight
  /-- The roster was replaced by one of so many teams and memberships. -/
  | synced (teams memberships : Nat)
  deriving DecidableEq

/-- What came of a synchronization. -/
abbrev SyncResult : Type := Except SyncError SyncOutcome

/-- A call that waits for the directory: the second it was started at, its open question, and how it
goes on when that is answered. -/
structure Rebuild where
  startedAt : Int64
  question : DirectoryQuery
  next : question.Reply → DirectoryDialogue (Except SyncError Roster)

/-- What is still to be said in a rebuild. -/
def Rebuild.rest (r : Rebuild) : DirectoryDialogue (Except SyncError Roster) :=
  .ask r.question r.next

/-- The synchronizations of a directory. -/
structure Syncer where
  settings : SyncSettings
  cache : Cache
  latch : Latch
  /-- Whether a call holds the lock that keeps others from rebuilding. -/
  locked : Bool
  /-- The calls that wait for the directory, by number. -/
  waiting : Table Nat Rebuild
  /-- How many calls have been started; calls are numbered in the order of their start. -/
  started : Nat

/-- Something done to the synchronizations of a directory. -/
inductive SyncStep where
  /-- A call is started at a second. -/
  | start (now : Int64)
  /-- The open question of a call is answered, so many whole seconds after the call was started. -/
  | resume (call : Nat) (answer : (q : DirectoryQuery) → q.Reply) (elapsed : Int64)
  /-- A call is given up where it waits. -/
  | cancel (call : Nat)
  /-- The teams of a login are looked up. -/
  | lookUp (login : String)

/-- What a step leads to. -/
inductive SyncEvent where
  /-- A call puts a question to the directory and waits. -/
  | asked (call : Nat) (question : DirectoryQuery)
  | ended (call : Nat) (result : SyncResult)
  | cancelled (call : Nat)
  | found (teams : List String)
  /-- The step was about a call that does not wait. -/
  | ignored

/-- The result that a call ended with. -/
def SyncEvent.result? : SyncEvent → Option SyncResult
  | ended _ result => some result
  | _ => none

/-- A write to what the calls share. -/
inductive SyncWrite where
  /-- One more call has been started. -/
  | count
  /-- The lock is taken. -/
  | acquire
  /-- A call waits with a question. -/
  | wait (call : Nat) (rebuild : Rebuild)
  /-- The cache gets a roster that was finished at second `now`. -/
  | replace (roster : Roster) (now : Int64)
  /-- The latch is opened. -/
  | mark
  /-- A call that held the lock is over. -/
  | leave (call : Nat)

/-- What is done without a wait: writes, one after the other, and what they lead to. -/
structure SyncMove where
  writes : List SyncWrite
  event : SyncEvent

/-- The move of a call that holds the lock when its rebuild has come as far as `d`.  `now` is the
second a finished roster is stamped with. -/
def SyncMove.advance (call : Nat) (startedAt now : Int64) :
    DirectoryDialogue (Except SyncError Roster) → SyncMove
  | .done (.ok roster) =>
    ⟨[.replace roster now, .mark, .leave call],
      .ended call (.ok (.synced roster.size roster.memberships))⟩
  | .done (.error e) => ⟨[.leave call], .ended call (.error e)⟩
  | .ask question next => ⟨[.wait call ⟨startedAt, question, next⟩], .asked call question⟩

namespace Syncer

/-- The state before the first call. -/
def idle (settings : SyncSettings) (cache : Cache) (latch : Latch) : Syncer :=
  ⟨settings, cache, latch, false, ∅, 0⟩

/-- The state before the first call, with a latch of its own. -/
def new (settings : SyncSettings) (cache : Cache) : Syncer := idle settings cache .closed

/-- The state in which a call that held the lock is over. -/
def leave (s : Syncer) (call : Nat) : Syncer :=
  { s with locked := false, waiting := s.waiting.erase call }

/-- The state after a write. -/
def write (s : Syncer) : SyncWrite → Syncer
  | .count => { s with started := s.started + 1 }
  | .acquire => { s with locked := true }
  | .wait call r => { s with waiting := s.waiting.put call r }
  | .replace roster now => { s with cache := s.cache.replace roster now }
  | .mark => { s with latch := s.latch.mark }
  | .leave call => s.leave call

/-- The state after a move, and what the move leads to. -/
def make (s : Syncer) (m : SyncMove) : Syncer × SyncEvent := (m.writes.foldl write s, m.event)

/-- The states that a move leads through: the one before it and the one after each write. -/
def passes (s : Syncer) (m : SyncMove) : List Syncer := m.writes.scanl write s

/-- A call is started at second `now`. -/
def startMove (s : Syncer) (now : Int64) : SyncMove :=
  let call := s.started
  if s.locked then ⟨[.count], .ended call (.ok .inFlight)⟩
  else if s.cache.isStale now s.settings.ttlSeconds then
    let rebuild := Directory.rebuild s.settings.organization s.settings.pageSize
    let m := SyncMove.advance call now now rebuild
    { m with writes := .count :: .acquire :: m.writes }
  else ⟨[.count, .acquire, .leave call], .ended call (.ok .fresh)⟩

/-- The open question of a call is answered, `elapsed` whole seconds after the call was started. -/
def resumeMove (s : Syncer) (call : Nat) (answer : (q : DirectoryQuery) → q.Reply)
    (elapsed : Int64) : SyncMove :=
  match s.waiting.find? call with
  | none => ⟨[], .ignored⟩
  | some r => .advance call r.startedAt (r.startedAt + elapsed) (r.next (answer r.question))

/-- A call is given up. -/
def cancelMove (s : Syncer) (call : Nat) : SyncMove :=
  match s.waiting.find? call with
  | none => ⟨[], .ignored⟩
  | some _ => ⟨[.leave call], .cancelled call⟩

/-- What is done in a step. -/
def move (s : Syncer) : SyncStep → SyncMove
  | .start now => s.startMove now
  | .resume call answer elapsed => s.resumeMove call answer elapsed
  | .cancel call => s.cancelMove call
  | .lookUp login => ⟨[], .found (s.cache.teamsOf login)⟩

/-- The state after a step, and what the step leads to. -/
def step (s : Syncer) (a : SyncStep) : Syncer × SyncEvent := s.make (s.move a)

/-- The state after steps, and each step with what it led to. -/
def run (s : Syncer) : List SyncStep → Syncer × List (SyncStep × SyncEvent)
  | [] => (s, [])
  | a :: as =>
    let (s, e) := s.step a
    let (s, log) := run s as
    (s, (a, e) :: log)

/-! ### One call at a time -/

/-- The number of the call that waits. -/
def current? (s : Syncer) : Option Nat := s.waiting.keys.head?

/-- A call started at second `now`, with its result if it has one at once. -/
def begin (s : Syncer) (now : Int64) : Syncer × Option SyncResult :=
  let (s, event) := s.step (.start now)
  (s, event.result?)

/-- The open question answered, `elapsed` whole seconds after the call was started. -/
def resume (s : Syncer) (answer : (q : DirectoryQuery) → q.Reply) (elapsed : Int64) :
    Syncer × Option SyncResult :=
  match s.current? with
  | none => (s, none)
  | some call =>
    let (s, event) := s.step (.resume call answer elapsed)
    (s, event.result?)

/-- The call that waits given up. -/
def cancel (s : Syncer) : Syncer :=
  match s.current? with
  | none => s
  | some call => (s.step (.cancel call)).1

/-- The call that waits held to its end with an answerer; the whole seconds that it took are read
off the answerer's last state. -/
def finish {σ : Type} (s : Syncer) (answer : (q : DirectoryQuery) → σ → q.Reply × σ) (world : σ)
    (elapsed : σ → Int64) : Syncer × Option SyncResult × σ :=
  match s.waiting.entries.head? with
  | none => (s, none, world)
  | some (call, r) =>
    let (roster, world) := r.rest.run answer world
    let finished := r.startedAt + elapsed world
    let (s, event) := s.make (.advance call r.startedAt finished (.done roster))
    (s, event.result?, world)

/-- A call started at second `now` and held to its end; the whole seconds that it took are read off
the answerer's last state. -/
def syncTimed {σ : Type} (s : Syncer) (answer : (q : DirectoryQuery) → σ → q.Reply × σ) (world : σ)
    (now : Int64) (elapsed : σ → Int64) : Syncer × Option SyncResult × σ :=
  match s.begin now with
  | (s, some result) => (s, some result, world)
  | (s, none) => s.finish answer world elapsed

/-- A call started at second `now` and held to its end within that second. -/
def sync {σ : Type} (s : Syncer) (answer : (q : DirectoryQuery) → σ → q.Reply × σ) (world : σ)
    (now : Int64) : Syncer × Option SyncResult × σ :=
  s.syncTimed answer world now fun _ => 0

end Syncer

end MeshOnboard
