import ScriptedRays.Resource.Kind
import ScriptedRays.Script.Buffer

/-!
# Instance — structures placed in a scene, and requests to trace it

A scene is a list of instances: each places one bottom-level structure by a matrix and carries what
shaders read or test.
-/

namespace ScriptedRays

/-- A 4 × 4 matrix, column after column. -/
structure Transform where
  entries : List Single
  length_entries : entries.length = 16
  deriving DecidableEq

namespace Transform

def identity : Transform :=
  ⟨[.one, .zero, .zero, .zero, .zero, .one, .zero, .zero,
    .zero, .zero, .one, .zero, .zero, .zero, .zero, .one], rfl⟩

instance : Inhabited Transform := ⟨identity⟩

/-- The matrix of the first sixteen numbers, if there are as many. -/
def ofList? (xs : List Single) : Option Transform :=
  if h : 16 ≤ xs.length then some ⟨xs.take 16, by simp [Nat.min_eq_left h]⟩ else none

end Transform

/-- One placed structure. -/
structure Instance where
  blas : Handle .blas
  transform : Transform := .identity
  /-- A number of the script's choosing, for shaders to read. -/
  customId : UInt32 := 0
  /-- A ray meets the instance only if it shares a bit with the mask. -/
  mask : UInt32 := 0xFF
  flags : UInt32 := 0
  deriving DecidableEq, Inhabited

/-- A request to trace a scene into an image. -/
structure Trace where
  tlas : Handle .tlas
  width : UInt32
  height : UInt32
  output : Native
  uniforms : Option Bytes

end ScriptedRays
