import ScriptedRays.Text.Name

/-!
# Backend — the interfaces to hardware ray tracing, and which of them to prefer

A preference is either one backend or the platform's own choice.  Naming the backend `none` asks for
no hardware at all.
-/

namespace ScriptedRays

/-- An interface through which rays may be traced in hardware, or none. -/
inductive Backend where
  | none
  | dxr
  | vulkan
  | metal
  deriving DecidableEq, Inhabited

namespace Backend

def all : List Backend := [none, dxr, vulkan, metal]

def name : Backend → String
  | none => "none"
  | dxr => "dxr"
  | vulkan => "vulkan"
  | metal => "metal"

/-- Reads a backend given by hand. -/
def parse : String → Except UnknownName Backend := Text.readName all name .backend

/-- The backends worth trying on this platform, best first. -/
def platformCandidates : List Backend := [vulkan]

end Backend

/-- A configured preference. -/
inductive Preference where
  | auto
  | only (backend : Backend)
  deriving DecidableEq

namespace Preference

instance : Inhabited Preference := ⟨auto⟩

def all : List Preference := auto :: Backend.all.map only

def name : Preference → String
  | auto => "auto"
  | only backend => backend.name

/-- The preference of exactly this name. -/
def named? : String → Option Preference := Text.named? all name

/-- Reads a preference given by hand: the platform's own choice, or else a backend. -/
def parse (s : String) : Except UnknownName Preference :=
  if Text.alike (Text.trim s.toList) auto.name.toList then .ok auto
  else (Backend.parse s).map only

/-- The backends to try in turn. -/
def candidates : Preference → List Backend
  | auto => Backend.platformCandidates
  | only .none => []
  | only backend => [backend]

end Preference

end ScriptedRays
