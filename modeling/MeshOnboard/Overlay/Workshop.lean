import MeshOnboard.Files.Tree
import MeshOnboard.Overlay.Issuance

/-!
# Where certificates are signed

A `Workshop` is a file tree with the programs that can be run on it.  It answers the steps of
issuing a certificate, and notes the arguments of each run of a program.  A program that is missing
or is a plain file cannot be run.
-/

namespace MeshOnboard

/-- A program: what it does to a tree when it is run with arguments, and what it leaves. -/
abbrev Tool : Type := List String → Tree → Tree × ToolReport

/-- A file tree with programs. -/
structure Workshop where
  tree : Tree
  tools : Path → Option Tool
  /-- The arguments of each run, in order. -/
  runs : List (List String)

namespace Workshop

/-- The octets that an argument may have. -/
def maxArgument : Nat := 131071

/-- Why a path that is no tool cannot be run. -/
def runError (t : Tree) (program : Path) : FileError :=
  if '/' ∉ program.chars then .notFound
  else
    match t.locate program with
    | .error e => e
    | .ok place => if (t.node? place).isSome then .permissionDenied else .notFound

/-- The workshop after a program is run, and what the program leaves. -/
def run (w : Workshop) (program : Path) (arguments : List String) :
    Workshop × Except FileError ToolReport :=
  if '\x00' ∈ program.chars ∨ arguments.any (fun a => '\x00' ∈ a.toList) then
    (w, .error .nulInArgument)
  else
    match w.tools program with
    | none => (w, .error (runError w.tree program))
    | some tool =>
      if arguments.any fun a => maxArgument < a.utf8ByteSize then (w, .error .argumentsTooLong)
      else
        let (tree, report) := tool arguments w.tree
        ({ w with tree, runs := w.runs ++ [arguments] }, .ok report)

/-- The answer to a step of issuing, and the workshop after it. -/
def answer (step : IssueStep) (w : Workshop) : step.Outcome × Workshop :=
  match step with
  | .remove path =>
    let (tree, outcome) := w.tree.remove path
    (outcome, { w with tree })
  | .run program arguments =>
    let (w, outcome) := w.run program arguments
    (outcome, w)
  | .read path => (w.tree.readText path, w)

end Workshop

/-! ### Tools that follow a script -/

/-- What a scripted tool does: the content of its two outputs, if it writes them, and what it
leaves. -/
structure ToolScript where
  certificate : Option (List UInt8)
  key : Option (List UInt8)
  report : ToolReport

namespace ToolScript

/-- The value of a flag among arguments that are flags and values in turn. -/
def flag? (name : String) : List String → Option String
  | flag :: value :: rest => if flag = name then some value else flag? name rest
  | _ => none

/-- The tree in which an output is written to the value of a flag, if that can be done. -/
def writeOutput (t : Tree) (path : Option String) (content : Option (List UInt8)) : Tree :=
  match path, content with
  | some path, some content => (t.write path content).1
  | _, _ => t

/-- The tool that follows a script; the first of its arguments is a command. -/
def tool (s : ToolScript) : Tool := fun arguments t =>
  let flags := arguments.drop 1
  let t := writeOutput t (flag? "-out-crt" flags) s.certificate
  let t := writeOutput t (flag? "-out-key" flags) s.key
  (t, s.report)

end ToolScript

end MeshOnboard
