import ScriptedRays.Resource.Error
import ScriptedRays.Resource.Mesh
import ScriptedRays.Script.Object

/-!
# Geometry — reading a mesh from the options of a script

Vertices are a buffer with at least one position, read as tightly packed when counted; indices are
optional, and each must lie below the number of vertices.  Stride and offset that are no 32-bit words
are taken for missing.  Counts are machine words; one that would be too large for a word, as no buffer
of a host is long enough for, is the largest word.
-/

namespace ScriptedRays

/-- The buffer that a field must hold, with at least one byte. -/
def Buffer.ofField (v : Value) (field : String) : Except Error Buffer :=
  match v with
  | .buffer b => if b.isEmpty then .error (.invalid (.emptyField field)) else .ok b
  | .undefined | .null => .error (.invalid (.missingField field))
  | other => .error (.invalid (.notTypedArray field other.typeName))

namespace Mesh

/-- The number of positions in a buffer that holds nothing else. -/
def countVertices (vertices : Buffer) : Nat := vertices.byteLength / 4 / 3

/-- A number among the options, where it is missing its default. -/
def lengthOr (default : UInt64) (v : Value) : Nat := (v.word?.map UInt32.toNat).getD default.toNat

/-- The complete indices of a buffer as bytes; the first index that names no vertex is an error. -/
def readIndices (vertexCount : Nat) (b : Buffer) : Except Error Bytes :=
  match b.words.zipIdx.find? fun entry => vertexCount ≤ entry.1.toNat with
  | some (index, place) => .error (.invalid (.indexOutOfRange index.toNat place vertexCount))
  | none => .ok (b.bytes.take (4 * b.words.length))

/-- The index bytes among the options: none where the field is absent or holds an empty buffer. -/
def readOptionalIndices (vertexCount : Nat) : Value → Except Error (Option Bytes)
  | .undefined | .null => .ok none
  | .buffer b => if b.isEmpty then .ok none else (readIndices vertexCount b).map some
  | other => .error (.invalid (.notTypedArray "indices" other.typeName))

/-- Reads a mesh from an object with the fields `vertices`, `vertexStride`, `vertexOffset` and
`indices`, checked in this order. -/
def read (options : Value) : Except Error Mesh :=
  match options.object? with
  | none => .error (.invalid (.notOptions options.typeName))
  | some o => do
    let vertices ← Buffer.ofField (o.get "vertices") "vertices"
    let count := countVertices vertices
    if count = 0 then throw (.invalid .tooFewVertices)
    let stride := lengthOr defaultStride (o.get "vertexStride")
    let offset := lengthOr defaultOffset (o.get "vertexOffset")
    if stride < Position.size.toNat then throw (.invalid (.strideTooSmall stride))
    if stride < offset + Position.size.toNat then
      throw (.invalid (.offsetTooLarge offset stride))
    let indices ← readOptionalIndices count (o.get "indices")
    return {
      vertices := vertices.bytes
      vertexCount := UInt64.ofNatClamp count
      stride := UInt64.ofNat stride
      offset := UInt64.ofNat offset
      indices
      indexCount := UInt64.ofNatClamp ((indices.getD []).length / 4) }

end Mesh

end ScriptedRays
