/-!
# Errors of the settings

A setting that the mode needs may be missing, and a value may not be of the kind that is expected.
-/

namespace MeshOnboard

/-- Why the settings cannot be loaded. -/
inductive SettingsError where
  | missing (name : String)
  | invalid (name expected value : String)
  deriving DecidableEq

/-- The wording of a settings error. -/
def SettingsError.message : SettingsError → String
  | missing name => s!"Missing required environment variable: {name}"
  | invalid name expected value =>
    s!"Invalid environment variable value for {name}: Expected {expected}. Got: {value}"

end MeshOnboard
