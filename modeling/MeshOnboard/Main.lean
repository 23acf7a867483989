import MeshOnboard.Program.ClientHost
import MeshOnboard.Program.ServerRun
import MeshOnboard.Program.Start
import MeshOnboard.Web.Network

/-!
# The program

The program reads its arguments and its environment and runs a mode as a host without a network
does: a client gives up, and a server tries to synchronize at every tick.
-/

open MeshOnboard

/-- The variables of the environment. -/
def environment : IO Variables := do
  let values ← Settings.variableNames.mapM fun name => return (name, ← IO.getEnv name)
  return fun name => (values.lookup name).join

/-- Synchronizes at every tick and reports failures. -/
partial def keepSynchronizing (s : ServerSettings) (syncer : Syncer) : IO Unit := do
  let now := Int64.ofNat ((← IO.monoMsNow) / 1000)
  let answer := (ServerRun.provider s).answer Offline.transport
  let (syncer, result, _) := syncer.sync answer () now
  if let some (.error e) := result then
    IO.println (SyncTask.failureNotice e).line
  IO.sleep s.syncInterval.toMillis.toUInt32
  keepSynchronizing s syncer

/-- Waits for ever. -/
partial def keepWaiting : IO Unit := do
  IO.sleep 1000
  keepWaiting

/-- Runs the server. -/
def runServer (s : ServerSettings) : IO UInt32 := do
  let now := Int64.ofNat ((← IO.monoMsNow) / 1000)
  if SyncTask.keepsRunning s.syncInterval.toMillis then
    keepSynchronizing s (ServerRun.start s now).syncer
  else keepWaiting
  return 0

/-- Runs the client. -/
def runClient (settings : Settings) (c : ClientSettings) : IO UInt32 := do
  let host := ClientHost.offline settings.controlPort c.probeTimeout.toMillis .empty fun _ => none
  match (host.run c).1 with
  | .ok () => return Program.successCode.toUInt32
  | .error e =>
    if LogEntry.showsErrors settings.logLevel then
      IO.println (LogEntry.error s!"Nerf operation failed: {e.message}").line
    return Program.failureCode.toUInt32

/-- Runs the program with its arguments. -/
def main (arguments : List String) : IO UInt32 := do
  match Program.start arguments (← environment) with
  | .error e =>
    IO.print e.output
    IO.eprint e.complaint
    return e.code.toUInt32
  | .ok settings =>
    match settings.role with
    | .server s => runServer s
    | .client c => runClient settings c
