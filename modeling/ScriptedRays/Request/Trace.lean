import ScriptedRays.Request.Structure
import ScriptedRays.Script.Display

/-!
# Trace — reading a request to trace a scene

The scene must be registered, the image has a size other than zero and a host handle to go to, and
uniforms are bytes or nothing.
-/

namespace ScriptedRays

/-- A size other than zero. -/
def readSize (v : Value) (field : String) : Except Error UInt32 :=
  match v.word? with
  | some n => if n = 0 then .error (.invalid (.notPositive field v.display)) else .ok n
  | none => .error (.invalid (.notPositive field v.display))

/-- Bytes for shaders: none where they are absent or empty. -/
def readUniforms : Value → Except Error (Option Bytes)
  | .undefined | .null => .ok none
  | .buffer b => .ok (if b.isEmpty then none else some b.bytes)
  | other => .error (.invalid (.uniformsNotBuffer other.typeName))

/-- Reads the fields `tlas`, `width`, `height`, `outputTexture` and `uniforms`, checked in this
order. -/
def Registry.readTrace (r : Registry) (options : Value) : Except Error Trace :=
  match options.object? with
  | none => .error (.invalid (.notOptions options.typeName))
  | some o => do
    let scene ← r.lookup .tlas (o.get "tlas")
    let width ← readSize (o.get "width") "width"
    let height ← readSize (o.get "height") "height"
    match (o.get "outputTexture").external?.bind Native.ofRaw with
    | none => throw (.invalid (.missingField "outputTexture"))
    | some output =>
      let uniforms ← readUniforms (o.get "uniforms")
      return { tlas := SceneEntry.handle scene, width, height, output, uniforms }

end ScriptedRays
