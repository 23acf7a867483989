/-!
# Exit statuses

A program ends by itself with a code, or by a signal.  A wait status holds the signal in its lowest
seven bits, then a bit that says whether the memory was dumped, and the code above them.
-/

namespace MeshOnboard

/-- How a program ended. -/
inductive ExitStatus where
  | exited (code : Nat)
  | signaled (signal : Nat) (dumped : Bool)
  deriving DecidableEq

namespace ExitStatus

/-- The names of the signals, from number one on. -/
def signalNames : List String :=
  ["SIGHUP", "SIGINT", "SIGQUIT", "SIGILL", "SIGTRAP", "SIGABRT", "SIGBUS", "SIGFPE", "SIGKILL",
    "SIGUSR1", "SIGSEGV", "SIGUSR2", "SIGPIPE", "SIGALRM", "SIGTERM", "SIGSTKFLT", "SIGCHLD",
    "SIGCONT", "SIGSTOP", "SIGTSTP", "SIGTTIN", "SIGTTOU", "SIGURG", "SIGXCPU", "SIGXFSZ",
    "SIGVTALRM", "SIGPROF", "SIGWINCH", "SIGIO", "SIGPWR", "SIGSYS"]

/-- The status that a wait status stands for. -/
def ofWait (raw : Nat) : ExitStatus :=
  if raw % 128 = 0 then exited (raw / 256 % 256)
  else signaled (raw % 128) (raw / 128 % 2 = 1)

/-- Whether a program ended by itself without complaint. -/
def isSuccess (s : ExitStatus) : Bool := s = exited 0

/-- The text of a status. -/
def text : ExitStatus → String
  | exited code => s!"exit status: {code}"
  | signaled signal dumped =>
    let name := match signalNames[signal - 1]? with
      | some name => s!" ({name})"
      | none => ""
    let dump := if dumped then " (core dumped)" else ""
    s!"signal: {signal}{name}{dump}"

end ExitStatus

end MeshOnboard
