import ScriptedRays.Script.Buffer

/-!
# Mesh — vertex and index data as a device receives them

A mesh describes where in a byte buffer the vertex positions lie.  Its numbers are machine words and
need not fit the buffers: a position or an index that does not lie wholly inside its buffer is not
there.  Offsets of positions are computed without overflow; the offset of an index is `4 * i` as a
machine word.
-/

namespace ScriptedRays

/-- The sum of two words, if it is one. -/
def addChecked (a b : UInt64) : Option UInt64 :=
  if a.toNat + b.toNat < UInt64.size then some (a + b) else none

/-- The product of two words, if it is one. -/
def mulChecked (a b : UInt64) : Option UInt64 :=
  if a.toNat * b.toNat < UInt64.size then some (a * b) else none

/-- A point in space. -/
structure Position where
  x : Single
  y : Single
  z : Single
  deriving DecidableEq, Inhabited

namespace Position

/-- Bytes of a position. -/
def size : UInt64 := 12

/-- The position at the start of some bytes, if there are enough of them. -/
def read? (bytes : Bytes) : Option Position :=
  match Bytes.words (bytes.take 12) with
  | [x, y, z] => some ⟨⟨x⟩, ⟨y⟩, ⟨z⟩⟩
  | _ => none

def toList (p : Position) : List Single := [p.x, p.y, p.z]

end Position

/-- Vertex data, and indices into the vertices where the triangles are listed by index.  Stride and
offset count bytes. -/
structure Mesh where
  vertices : Bytes
  vertexCount : UInt64
  stride : UInt64
  offset : UInt64
  indices : Option Bytes
  indexCount : UInt64

namespace Mesh

def defaultStride : UInt64 := Position.size

def defaultOffset : UInt64 := 0

def isIndexed (m : Mesh) : Bool := m.indices.isSome && decide (0 < m.indexCount)

/-- The position of a vertex. -/
def position (m : Mesh) (vertex : UInt64) : Option Position :=
  if m.vertexCount ≤ vertex then none
  else do
    let start ← addChecked (← mulChecked vertex m.stride) m.offset
    let stop ← addChecked start Position.size
    Position.read? (← m.vertices.slice start.toNat stop.toNat)

/-- The index at a place in the list of indices. -/
def index (m : Mesh) (i : UInt64) : Option UInt32 :=
  if m.indexCount ≤ i then none
  else do
    let bytes ← m.indices
    let start := i * 4
    (Bytes.words (← bytes.slice start.toNat (start + 4).toNat)).head?

/-- Reads up to `count` positions, each `stride` bytes after the one before, for as long as the bytes
last. -/
def readPositions (stride : Nat) : Nat → Bytes → List Position
  | 0, _ => []
  | count + 1, bytes =>
    match Position.read? bytes with
    | some p => p :: readPositions stride count (bytes.drop stride)
    | none => []

/-- The positions of the vertices, those outside the buffer left out. -/
def positions (m : Mesh) : List Position :=
  readPositions m.stride.toNat m.vertexCount.toNat (m.vertices.drop m.offset.toNat)

/-- The indices at so many places from `first` on, those that are not there left out. -/
def indicesFrom (m : Mesh) (first : UInt64) : Nat → List UInt32
  | 0 => []
  | count + 1 =>
    match m.index first with
    | some w => w :: m.indicesFrom (first + 1) count
    | none => m.indicesFrom (first + 1) count

/-- The indices, place by place, those that are not there left out. -/
def indexList (m : Mesh) : List UInt32 := m.indicesFrom 0 m.indexCount.toNat

end Mesh

end ScriptedRays
