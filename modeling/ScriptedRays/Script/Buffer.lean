import ScriptedRays.Bytes
import ScriptedRays.Number.Single

/-!
# Buffer — raw bytes shared with a script

A buffer is its bytes and the element type under which the script sees them.  Whatever that type, the
bytes can be read as words or as numbers of 32 bits.
-/

namespace ScriptedRays

/-- The element types under which a script sees a buffer. -/
inductive Buffer.Kind where
  | float32
  | uint32
  | bytes
  deriving DecidableEq, Inhabited

/-- Bytes with an element type; their number need not be a multiple of the element size. -/
structure Buffer where
  kind : Buffer.Kind
  bytes : Bytes
  deriving DecidableEq, Inhabited

namespace Buffer

/-- Bytes of one element. -/
def Kind.elementSize : Kind → Nat
  | float32 | uint32 => 4
  | bytes => 1

def Kind.name : Kind → String
  | float32 => "Float32Array"
  | uint32 => "Uint32Array"
  | bytes => "ArrayBuffer"

/-- Numbers as a buffer of 32-bit floating-point elements. -/
def ofSingles (xs : List Single) : Buffer := ⟨.float32, Bytes.ofWords (xs.map Single.bits)⟩

/-- Words as a buffer of 32-bit integer elements. -/
def ofWords (ws : List UInt32) : Buffer := ⟨.uint32, Bytes.ofWords ws⟩

def ofBytes (bytes : Bytes) : Buffer := ⟨.bytes, bytes⟩

def byteLength (b : Buffer) : Nat := b.bytes.length

/-- The number of complete elements. -/
def elementCount (b : Buffer) : Nat := b.byteLength / b.kind.elementSize

def isEmpty (b : Buffer) : Bool := b.bytes.isEmpty

/-- The content as 32-bit words, whatever the element type. -/
def words (b : Buffer) : List UInt32 := b.bytes.words

/-- The content as 32-bit numbers, whatever the element type. -/
def singles (b : Buffer) : List Single := b.words.map Single.mk

theorem isEmpty_iff {b : Buffer} : b.isEmpty = true ↔ b.byteLength = 0 := by
  simp [isEmpty, byteLength]

@[simp] theorem length_words (b : Buffer) : b.words.length = b.byteLength / 4 := by
  simp [words, byteLength]

end Buffer

end ScriptedRays
