/-!
# How the program is called

The program has commands, and the program as well as each command has flags.  This module holds
their names and the texts that explain them.
-/

namespace MeshOnboard

/-- The name and the version of the program. -/
def programName : String := "nerf"

/-- The version of the program. -/
def programVersion : String := "0.1.0"

/-- A flag, and whether it takes a value is part of its name. -/
inductive Flag where
  | help
  | version
  | lighthouse
  deriving DecidableEq

namespace Flag

/-- The long name of a flag. -/
def name : Flag → String
  | help => "help"
  | version => "version"
  | lighthouse => "lighthouse"

/-- The letter of a flag. -/
def letter? : Flag → Option Char
  | help => some 'h'
  | version => some 'V'
  | lighthouse => none

/-- A flag as it is written in usages, with the name of its value. -/
def display : Flag → String
  | lighthouse => "--lighthouse <LIGHTHOUSE>"
  | flag => s!"--{flag.name}"

end Flag

/-- What a list of arguments is read for: the whole program, or one of its commands. -/
inductive Scope where
  | program
  | server
  | client
  | help
  deriving DecidableEq

namespace Scope

/-- The names of the commands. -/
def commandNames : List String := ["server", "client", "help"]

/-- The command of a name. -/
def command? (name : String) : Option Scope :=
  if name = "server" then some server
  else if name = "client" then some client
  else if name = "help" then some help
  else none

/-- The flags of a scope. -/
def flags : Scope → List Flag
  | program => [.help, .version]
  | server => [.lighthouse, .help]
  | client => [.help]
  | help => []

/-- The words that a call starts with. -/
def callName : Scope → String
  | program => programName
  | server => s!"{programName} server"
  | client => s!"{programName} client"
  | help => s!"{programName} help"

/-- The usage of a scope. -/
def usage : Scope → String
  | program => s!"{programName} <COMMAND>"
  | server => s!"{programName} server [OPTIONS]"
  | client => s!"{programName} client"
  | help => s!"{programName} help [COMMAND]..."

/-- The usage of a scope with some of its flags. -/
def usageWith (s : Scope) (flags : List Flag) : String :=
  if flags = [] then s.usage
  else
    let command := match s with
      | program => " <COMMAND>"
      | _ => ""
    s.callName ++ String.join (flags.map fun f => " " ++ f.display) ++ command

/-- The sentence that describes a scope. -/
def about : Scope → String
  | program => "Mesh VPN onboarding relay: team-scoped overlay configs and fastest-relay discovery"
  | server => "Serve team-scoped overlay configs"
  | client => "Discover the fastest relay and join the overlay"
  | help => "Print this message or the help of the given subcommand(s)"

/-- The column at which the help text of the lighthouse flag starts. -/
def helpColumn : Nat := 33

/-- A text whose later lines are moved to the column of help texts. -/
def indented (text : String) : String :=
  text.replace "\n" ("\n" ++ String.ofList (List.replicate helpColumn ' '))

/-- The lines that follow the usage; `lighthouse` is what the environment says about the flag. -/
def details (lighthouse : String) : Scope → List String
  | program =>
    ["Commands:",
      s!"  server  {about server}",
      s!"  client  {about client}",
      s!"  help    {about help}",
      "",
      "Options:",
      "  -h, --help     Print help",
      "  -V, --version  Print version"]
  | server =>
    ["Options:",
      "      --lighthouse <LIGHTHOUSE>  " ++ indented
        s!"Lighthouse as <NebulaIP>:<PublicIP> [env: NERF_LIGHTHOUSE={lighthouse}]",
      "  -h, --help                     Print help"]
  | client =>
    ["Options:",
      "  -h, --help  Print help"]
  | help =>
    ["Arguments:",
      "  [COMMAND]...  Print help for the subcommand(s)"]

/-- The help of a scope. -/
def helpText (lighthouse : String) (s : Scope) : String :=
  let lines := [s.about, "", s!"Usage: {s.usage}", ""] ++ s.details lighthouse
  String.join (lines.map fun line => line ++ "\n")

end Scope

end MeshOnboard
