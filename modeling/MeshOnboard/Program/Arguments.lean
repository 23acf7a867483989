import MeshOnboard.Program.Similarity
import MeshOnboard.Program.Usage

/-!
# Arguments

The arguments are flags of the program, the name of a command and the flags of the command.
`Arguments.read` ends with the command that is to be run, or with an `ArgumentsStop`: a text that
was asked for, or an error with the hints that may help.
-/

namespace MeshOnboard

/-- What the arguments ask for. -/
inductive Invocation where
  | server (lighthouse : Option String)
  | client
  deriving DecidableEq

/-- What may help one who made an error. -/
inductive ArgumentsHint where
  | similarCommands (names : List String)
  | similarFlag (flag : Flag)
  /-- The flag belongs to a command that is named later. -/
  | flagOf (command : Scope) (flag : Flag)
  /-- The argument is a command but follows two dashes. -/
  | dashesBefore (command : String)
  deriving DecidableEq

/-- The wording of a hint. -/
def ArgumentsHint.message : ArgumentsHint → String
  | similarCommands [name] => s!"a similar subcommand exists: '{name}'"
  | similarCommands names =>
    let quoted := ", ".intercalate (names.map fun name => s!"'{name}'")
    s!"some similar subcommands exist: {quoted}"
  | similarFlag flag => s!"a similar argument exists: '--{flag.name}'"
  | flagOf .server flag => s!"'server --{flag.name}' exists"
  | flagOf .client flag => s!"'client --{flag.name}' exists"
  | flagOf _ flag => s!"'--{flag.name}' exists"
  | dashesBefore command => s!"subcommand '{command}' exists; to use it, remove the '--' before it"

/-- Why arguments cannot be read. -/
inductive ArgumentsError where
  | unknownCommand (name : String)
  | unexpected (argument : String)
  | repeated (flag : Flag)
  | missingValue (flag : Flag)
  | unneededValue (flag : Flag) (value : String)
  deriving DecidableEq

/-- The wording of an arguments error. -/
def ArgumentsError.message : ArgumentsError → String
  | unknownCommand name => s!"unrecognized subcommand '{name}'"
  | unexpected argument => s!"unexpected argument '{argument}' found"
  | repeated flag => s!"the argument '{flag.display}' cannot be used multiple times"
  | missingValue flag => s!"a value is required for '{flag.display}' but none was supplied"
  | unneededValue flag value =>
    s!"unexpected value '{value}' for '{flag.display}' found; no more were expected"

/-- Why arguments do not lead to a command. -/
inductive ArgumentsStop where
  /-- The help of a scope was asked for. -/
  | help (scope : Scope)
  | version
  /-- There was nothing to read. -/
  | nothing
  | error (scope : Scope) (reason : ArgumentsError) (hints : List ArgumentsHint) (used : List Flag)
  deriving DecidableEq

namespace Arguments

/-! ### The form of an argument -/

/-- What an argument looks like. -/
inductive Form where
  /-- Two dashes: what follows holds no flags. -/
  | separator
  | long (name : String) (value : Option String)
  | letters (first : Char) (rest : List Char)
  | word
  deriving DecidableEq

/-- What an argument looks like. -/
def form (argument : String) : Form :=
  match argument.toList with
  | ['-', '-'] => .separator
  | '-' :: '-' :: cs =>
    let name := String.ofList (cs.takeWhile (· ≠ '='))
    match cs.dropWhile (· ≠ '=') with
    | _ :: value => .long name (some (String.ofList value))
    | [] => .long name none
  | '-' :: c :: cs => .letters c cs
  | _ => .word

/-- The flag of a scope with the given name. -/
def flagNamed? (s : Scope) (name : String) : Option Flag := s.flags.find? fun f => f.name = name

/-- The flag of a scope with the given letter. -/
def flagLettered? (s : Scope) (c : Char) : Option Flag := s.flags.find? fun f => f.letter? = some c

/-- The flag of a scope that may be meant by a name. -/
def similarFlag? (s : Scope) (name : String) : Option Flag :=
  (Similarity.similarTo name (s.flags.map Flag.name)).getLast?.bind (flagNamed? s)

/-! ### Stops -/

/-- The stop at an unknown flag.  A similar flag of the scope is a hint and part of the usage; else
a similar flag of a command that is named later may be one. -/
def unknownFlag (s : Scope) (name : String) (rest : List String) (used : List Flag) :
    ArgumentsStop :=
  let reason := ArgumentsError.unexpected s!"--{name}"
  match similarFlag? s name with
  | some flag =>
    .error s reason [.similarFlag flag] (if flag ∈ used then used else used ++ [flag])
  | none =>
    let command := if s = .program then rest.findSome? fun argument =>
        (Scope.command? argument).bind fun c => (similarFlag? c name).map fun f => (c, f)
      else none
    .error s reason (command.toList.map fun (c, f) => .flagOf c f) used

/-- The stop at an argument that is no flag and that nothing is expected at. -/
def unexpectedWord (s : Scope) (argument : String) (separated : Bool) : ArgumentsStop :=
  if s ≠ .program then .error s (.unexpected argument) [] []
  else if separated ∧ (Scope.command? argument).isSome then
    .error s (.unexpected argument) [.dashesBefore argument] []
  else
    match Similarity.similarTo argument Scope.commandNames with
    | [] => .error s (.unknownCommand argument) [] []
    | names => .error s (.unknownCommand argument) [.similarCommands names] []

/-- The stop that a flag without a value leads to. -/
def display (s : Scope) : Flag → ArgumentsStop
  | .version => .version
  | _ => .help s

/-! ### Commands -/

/-- What has been read of a command's arguments. -/
structure Progress where
  lighthouse : Option String
  /-- A flag that is not settled yet, with its value if that has been read. -/
  pending : Option (Option String)
  deriving DecidableEq

/-- The progress in which the pending flag is settled. -/
def Progress.settle (p : Progress) (s : Scope) : Except ArgumentsStop Progress :=
  match p.pending with
  | none => .ok p
  | some none => .error (.error s (.missingValue .lighthouse) [] [])
  | some (some value) =>
    match p.lighthouse with
    | some _ => .error (.error s (.repeated .lighthouse) [] [])
    | none => .ok ⟨some value, none⟩

/-- The flags that are settled. -/
def Progress.used (p : Progress) : List Flag :=
  if p.lighthouse.isSome then [.lighthouse] else []

/-- The progress in which the pending flag is settled if it can be. -/
def Progress.settleIfPossible (p : Progress) (s : Scope) : Progress :=
  match p.settle s with
  | .ok p => p
  | .error _ => p

/-- The progress after the flag for the lighthouse, with the value that is part of the argument. -/
def Progress.open (p : Progress) (s : Scope) (value : Option String) :
    Except ArgumentsStop Progress := do
  let p ← p.settle s
  match value with
  | none => return { p with pending := some none }
  | some value => Progress.settle { p with pending := some (some value) } s

/-- The progress after the arguments of a command. -/
def readFlags (s : Scope) (p : Progress) : List String → Except ArgumentsStop Progress
  | [] => p.settle s
  | argument :: rest =>
    match form argument with
    | .separator =>
      match rest with
      | [] => p.settle s
      | next :: _ => .error (unexpectedWord s next true)
    | .long name value =>
      match flagNamed? s name, value with
      | none, _ => .error (unknownFlag s name rest (p.settleIfPossible s).used)
      | some .lighthouse, value => do
        let p ← p.open s value
        readFlags s p rest
      | some flag, none => do
        let _ ← p.settle s
        .error (display s flag)
      | some flag, some value =>
        .error (.error s (.unneededValue flag value) [] (p.used ++ [flag]))
    | .letters c _ =>
      match flagLettered? s c with
      | none => .error (.error s (.unexpected (String.ofList ['-', c])) [] [])
      | some flag => do
        let _ ← p.settle s
        .error (display s flag)
    | .word =>
      if p.pending = some none then readFlags s { p with pending := some (some argument) } rest
      else .error (unexpectedWord s argument false)

/-- The help that names of commands, one inside the other, ask for. -/
def readHelp (s : Scope) : List String → ArgumentsStop
  | [] => .help s
  | name :: rest =>
    match s, Scope.command? name with
    | .program, some command => readHelp command rest
    | _, _ => .error s (.unknownCommand name) [] []

/-- What the arguments ask for. -/
def read : List String → Except ArgumentsStop Invocation
  | [] => .error .nothing
  | argument :: rest =>
    match Scope.command? argument with
    | some .server => (readFlags .server ⟨none, none⟩ rest).map fun p => .server p.lighthouse
    | some .client => (readFlags .client ⟨none, none⟩ rest).map fun _ => .client
    | some _ => .error (readHelp .program rest)
    | none =>
      match form argument with
      | .separator =>
        match rest with
        | [] => .error .nothing
        | next :: _ => .error (unexpectedWord .program next true)
      | .long name value =>
        match flagNamed? .program name, value with
        | none, _ => .error (unknownFlag .program name rest [])
        | some flag, none => .error (display .program flag)
        | some flag, some value => .error (.error .program (.unneededValue flag value) [] [flag])
      | .letters c _ =>
        match flagLettered? .program c with
        | none => .error (.error .program (.unexpected (String.ofList ['-', c])) [] [])
        | some flag => .error (display .program flag)
      | .word => .error (unexpectedWord .program argument false)

end Arguments

end MeshOnboard
