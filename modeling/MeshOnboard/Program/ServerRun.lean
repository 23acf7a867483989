import MeshOnboard.Directory.Provider
import MeshOnboard.Directory.SyncTask
import MeshOnboard.Relay.Service
import MeshOnboard.Settings.Basic

/-!
# The server's run

A relay server synchronizes its directory at every tick.  It starts to listen for calls when its
latch is open, and answers every call from then on with the teams that its cache holds at that
moment.  `ServerRun.step` is what an event does to the server, with the answer to a call that is
heard.
-/

namespace MeshOnboard

/-- A call to a relay. -/
inductive RelayCall where
  | ping (login : String)
  | connect (login token : String)
  | disconnect (login : String)
  deriving DecidableEq

/-- The answer to a call. -/
inductive RelayAnswer where
  | pong (result : Except RelayError Int64)
  | enrolled (result : Except RelayError Enrolment)
  | left (result : Except RelayError Unit)

/-- Those a relay turns to behind a certificate, and its clock. -/
structure RelayPartners where
  verify : String → Except DirectoryError String
  sign : SigningRequest → Except IssueError Certificate
  /-- The time in milliseconds. -/
  now : Int64

/-- A relay server. -/
structure ServerRun where
  service : RelayService
  syncer : Syncer
  /-- Whether calls are heard. -/
  listening : Bool

/-- Something that happens to a server. -/
inductive ServerEvent where
  /-- A tick of the synchronization at a second. -/
  | tick (now : Int64)
  /-- The directory answers the open question, so many seconds after the rebuild was started. -/
  | directoryAnswers (answer : (q : DirectoryQuery) → q.Reply) (elapsed : Int64)
  /-- The server looks whether it may listen. -/
  | wake
  | called (call : RelayCall) (partners : RelayPartners)

namespace ServerRun

/-- What is synchronized under the given settings. -/
def syncSettings (s : ServerSettings) : SyncSettings :=
  ⟨s.organization, s.pageSize, s.cacheTtl.seconds⟩

/-- The provider that is asked under the given settings. -/
def provider (s : ServerSettings) : Provider := .ofUrl s.directoryUrl s.directoryToken

/-- What signs certificates under the given settings. -/
def signer (s : ServerSettings) : Signer :=
  ⟨s.signer, s.certificateDir, s.certificateDuration⟩

/-- A server that starts at second `now`. -/
def start (s : ServerSettings) (now : Int64) : ServerRun :=
  ⟨⟨s.lighthouse, s.subnet⟩, .new (syncSettings s) (.new now), false⟩

/-- The answer to a question behind a certificate. -/
def partnerAnswer (c : Cache) (p : RelayPartners) : (q : EnrolmentQuery) → Unit → q.Reply × Unit :=
  EnrolmentQuery.answer (fun token _ => (p.verify token, ())) (fun login _ => c.teamsOf login)
    fun request _ => (p.sign request, ())

/-- The answer to a call that is heard. -/
def respond (s : ServerRun) (p : RelayPartners) : RelayCall → RelayAnswer
  | .ping login => .pong (RelayService.ping p.now login)
  | .connect login token =>
    .enrolled ((s.service.connect login token).run (partnerAnswer s.syncer.cache p) ()).1
  | .disconnect login => .left (RelayService.disconnect login)

/-- The server after an event, and its answer if the event is a call that is heard. -/
def step (s : ServerRun) : ServerEvent → ServerRun × Option RelayAnswer
  | .tick now => ({ s with syncer := (s.syncer.begin now).1 }, none)
  | .directoryAnswers answer elapsed =>
    ({ s with syncer := (s.syncer.resume answer elapsed).1 }, none)
  | .wake => ({ s with listening := s.listening || s.syncer.latch.isOpen }, none)
  | .called call partners =>
    (s, if s.listening then some (s.respond partners call) else none)

/-- The server after events, and its answers to the calls among them, in order. -/
def run (s : ServerRun) : List ServerEvent → ServerRun × List (Option RelayAnswer)
  | [] => (s, [])
  | e :: es =>
    let (s, answer) := s.step e
    let (s, answers) := run s es
    (s, answer :: answers)

/-- Whether a server that starts at second `now` comes to listen within `horizon` milliseconds, with
a transport that answers at once. -/
def comesToListen {σ : Type} (s : ServerSettings) (transport : Transport σ) (world : σ)
    (now : Int64) (horizon : Nat) : Bool :=
  let syncer := (start s now).syncer
  let answer : SyncTask.TimedAnswerer σ := fun q w =>
    let (reply, w) := (provider s).answer transport q w
    ((0, reply), w)
  let period := s.syncInterval.toMillis
  let es := SyncTask.events period (.running now) answer horizon syncer world
  (SyncTask.stateAfter syncer es).latch.isOpen

end ServerRun

end MeshOnboard
