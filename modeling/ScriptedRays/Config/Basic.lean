import ScriptedRays.Device.Backend
import ScriptedRays.Log

/-!
# Config — which backend to prefer and how much to tell

Settings are what one source of configuration says; it may leave either of them open.  A
configuration has both.
-/

namespace ScriptedRays

/-- What one source says; what it leaves open is none. -/
structure Settings where
  backend : Option Preference := none
  verbosity : Option Verbosity := none
  deriving DecidableEq, Inhabited

/-- A complete configuration. -/
structure Config where
  backend : Preference := default
  verbosity : Verbosity := default
  deriving DecidableEq, Inhabited

namespace Config

/-- The configuration with some settings in the place of its own. -/
def update (c : Config) (s : Settings) : Config :=
  ⟨s.backend.getD c.backend, s.verbosity.getD c.verbosity⟩

end Config

end ScriptedRays
