import ScriptedRays.Resource.Error
import ScriptedRays.Script.Object

/-!
# Wrapper — the object under which a script holds a resource

A wrapper names a kind and an id.  Reading one asks for the kind but not whether the id is in use; the
tag may be missing, an id that is no 32-bit word counts as zero, which no resource has.
-/

namespace ScriptedRays.Wrapper

/-- The wrapper of a resource. -/
def make (kind : Kind) (id : UInt32) : Value :=
  Value.ofPairs [("type", .string kind.tag), ("id", .ofWord id)]

/-- Whether a tag lets an object stand for a resource of a kind. -/
def admits (kind : Kind) (tag : Value) : Bool :=
  tag.isUndefined || tag.string? == some kind.tag

/-- The id that a wrapper holds for a resource of a kind. -/
def read (kind : Kind) (v : Value) : Except Error UInt32 :=
  match v.object? with
  | none => .error (.invalid (.notHandle kind v.typeName))
  | some o =>
    let id := (o.get "id").word?.getD 0
    if admits kind (o.get "type") then .ok id else .error (.unresolved kind id none)

theorem read_of_not_object {kind : Kind} {v : Value} (h : v.object? = none) :
    read kind v = .error (.invalid (.notHandle kind v.typeName)) := by
  simp [read, h]

end ScriptedRays.Wrapper
