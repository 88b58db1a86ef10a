import ScriptedRays.Resource.Instance
import ScriptedRays.Resource.Mesh

/-!
# Command — what is asked of a device

A command is a call of the contract between a session and its device, with everything that is handed
over, or the host's switch that makes creations fail.  A `Call` is what a device tells of a command
afterwards: native handles, counts and sizes.
-/

namespace ScriptedRays

/-- What a resource of a kind is made from. -/
abbrev Source : Kind → Type
  | .geometry => Mesh
  | .blas => List (Handle .geometry)
  | .tlas => List Instance

/-- Whether there is nothing to make a resource from. -/
def Source.isEmpty : {kind : Kind} → Source kind → Bool
  | .geometry, m => m.vertexCount == 0
  | .blas, geometries => List.isEmpty geometries
  | .tlas, instances => List.isEmpty instances

/-- A command to a device. -/
inductive Command where
  | create (kind : Kind) (source : Source kind)
  | updateTlas (tlas : Handle .tlas) (instances : List Instance)
  | destroy (kind : Kind) (handle : Handle kind)
  | traceRays (trace : Trace)
  | setFailing (failing : Bool)

/-- A call received, as it is told. -/
inductive Call where
  | createGeometry (vertexCount stride offset indexCount : UInt64)
  | createBlas (count : Nat)
  | createTlas (instances : List Instance)
  | updateTlas (tlas : Option Native) (instances : List Instance)
  | destroy (kind : Kind) (native : Option Native)
  | traceRays (tlas : Option Native) (width height : UInt32) (output : Native)
      (uniformsLength : Option Nat)
  deriving DecidableEq

/-- What is told of a creation. -/
def Call.creation : {kind : Kind} → Source kind → Call
  | .geometry, m => createGeometry m.vertexCount m.stride m.offset m.indexCount
  | .blas, geometries => createBlas (List.length geometries)
  | .tlas, instances => createTlas instances

/-- What is told of a command: the switch is not a call. -/
def Command.call? : Command → Option Call
  | create _ source => some (.creation source)
  | updateTlas tlas instances => some (.updateTlas tlas.native instances)
  | destroy kind handle => some (.destroy kind handle.native)
  | traceRays t => some (.traceRays t.tlas.native t.width t.height t.output
      (t.uniforms.map List.length))
  | setFailing _ => none

end ScriptedRays
