import MeshOnboard.Program.Arguments
import MeshOnboard.Settings.Basic

/-!
# Starting the program

The arguments say which mode to run in and may name the lighthouse, which the environment may name
as well; the settings of the mode are loaded from the environment.  `Program.start` ends with the
settings of a run, or with what the program writes and the code it exits with instead.
-/

namespace MeshOnboard

/-- How the program ends without running a mode: its exit code and what it writes to its two
streams. -/
structure ProgramEnd where
  code : Nat
  output : String
  complaint : String
  deriving DecidableEq

namespace Program

/-- The code of a run that was asked to end, or of a text that was asked for. -/
def successCode : Nat := 0

/-- The code of settings that cannot be loaded and of a run that fails. -/
def failureCode : Nat := 1

/-- The code of arguments that cannot be read. -/
def usageCode : Nat := 2

/-- The text about an error in the arguments: its hints, and the usage and the way to the help where
they are of use. -/
def errorText (s : Scope) (reason : ArgumentsError) (hints : List ArgumentsHint)
    (used : List Flag) : String :=
  let tips := if hints = [] then ""
    else "\n" ++ String.join (hints.map fun h => "\n  tip: " ++ h.message)
  let usage := match reason with
    | .missingValue _ => ""
    | _ => "\n\nUsage: " ++ s.usageWith used
  let advice := match s with
    | .help => ""
    | _ => "\n\nFor more information, try '--help'."
  "error: " ++ reason.message ++ tips ++ usage ++ advice ++ "\n"

/-- How the program ends when the arguments lead to no command; `lighthouse` is what the environment
says about the flag of that name. -/
def endOfStop (lighthouse : String) : ArgumentsStop → ProgramEnd
  | .help s => ⟨successCode, s.helpText lighthouse, ""⟩
  | .version => ⟨successCode, s!"{programName} {programVersion}\n", ""⟩
  | .nothing => ⟨usageCode, "", Scope.program.helpText lighthouse⟩
  | .error s reason hints used => ⟨usageCode, "", errorText s reason hints used⟩

/-- How the program ends when the settings cannot be loaded. -/
def endOfSettings (e : SettingsError) : ProgramEnd :=
  ⟨failureCode, "", s!"Failed to load environment configuration: {e.message}\n"⟩

/-- The name of the variable that names the lighthouse. -/
def lighthouseVariable : String := "NERF_LIGHTHOUSE"

/-- The mode of an invocation and the variables that its settings are loaded from: a lighthouse
among the arguments counts before the one in the environment. -/
def settingsSource (vars : Variables) : Invocation → Mode × Variables
  | .server (some lighthouse) => (.server, vars.set lighthouseVariable lighthouse)
  | .server none => (.server, vars)
  | .client => (.client, vars)

/-- The settings of a run with the given arguments and environment. -/
def start (arguments : List String) (vars : Variables) : Except ProgramEnd Settings :=
  match Arguments.read arguments with
  | .error stop => .error (endOfStop ((vars lighthouseVariable).getD "") stop)
  | .ok invocation =>
    let (mode, vars) := settingsSource vars invocation
    (Settings.load mode vars).mapError endOfSettings

end Program

end MeshOnboard
