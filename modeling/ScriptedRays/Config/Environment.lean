import ScriptedRays.Config.Basic

/-!
# Environment — settings in environment variables

A variable that is set overrides the configuration.  The backend is taken over before the verbosity
is looked at, so a bad verbosity leaves a good backend in force.
-/

namespace ScriptedRays

/-- The values of the variables that are set. -/
abbrev Environment := String → Option String

namespace Config

def backendVariable : String := "RTBRIDGE_BACKEND"

def verbosityVariable : String := "RTBRIDGE_LOG"

/-- A variable whose value is no name of the setting. -/
structure BadVariable where
  name : String
  cause : UnknownName
  deriving DecidableEq, Inhabited

variable {α : Type}

/-- The value of a variable, or the current one where it is not set. -/
def readVariable (env : Environment) (name : String) (parse : String → Except UnknownName α)
    (current : α) : Except BadVariable α :=
  match env name with
  | none => .ok current
  | some text => (parse text).mapError (BadVariable.mk name)

/-- Overrides a configuration.  The configuration that is left comes with what went wrong, if
anything did. -/
def override (c : Config) (env : Environment) : Config × Except BadVariable Unit :=
  match readVariable env backendVariable Preference.parse c.backend with
  | .error e => (c, .error e)
  | .ok backend =>
    match readVariable env verbosityVariable Verbosity.parse c.verbosity with
    | .error e => ({ c with backend }, .error e)
    | .ok verbosity => (⟨backend, verbosity⟩, .ok ())

end Config

end ScriptedRays
