import MeshOnboard.Settings.Error

/-!
# Variables

Settings are looked up by name.  A variable with an empty value counts as unset everywhere.  A value
is read by a function on its characters; a value it refuses is an error that names what was
expected.
-/

namespace MeshOnboard

/-- A look-up of values by variable name. -/
abbrev Variables := String → Option String

namespace Variables

/-- The value of a variable that is set to a non-empty text. -/
def get? (vars : Variables) (name : String) : Option String :=
  (vars name).filter (· ≠ "")

/-- The value of a variable that has to be set. -/
def require (vars : Variables) (name : String) : Except SettingsError String :=
  match vars.get? name with
  | some value => .ok value
  | none => .error (.missing name)

/-- The meaning of a value, or an error that carries it. -/
def interpret {α : Type} (name expected : String) (read : List Char → Option α) (value : String) :
    Except SettingsError α :=
  match read value.toList with
  | some a => .ok a
  | none => .error (.invalid name expected value)

/-- The meaning of a variable that may be unset. -/
def readOption {α : Type} (vars : Variables) (name expected : String)
    (read : List Char → Option α) : Except SettingsError (Option α) :=
  match vars.get? name with
  | some value => (interpret name expected read value).map some
  | none => .ok none

/-- The meaning of a variable, or `default` when it is unset. -/
def readOr {α : Type} (vars : Variables) (name expected : String)
    (read : List Char → Option α) (default : α) : Except SettingsError α :=
  (vars.readOption name expected read).map (·.getD default)

/-- The meaning of a variable that has to be set. -/
def readRequired {α : Type} (vars : Variables) (name expected : String)
    (read : List Char → Option α) : Except SettingsError α :=
  (vars.require name).bind (interpret name expected read)

/-- The look-up in which `name` has the value `value`. -/
def set (vars : Variables) (name value : String) : Variables :=
  fun x => if x = name then some value else vars x

end Variables

end MeshOnboard
