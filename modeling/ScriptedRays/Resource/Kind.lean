/-!
# Kind — the three kinds of resources and their handles

A handle pairs the device's own, opaque, non-zero handle with the id that a registry gave it.  Its
type carries the kind, so that a handle of one kind is never taken for another.
-/

namespace ScriptedRays

/-- What a device can hold: vertex data, a structure over such data, a structure over instances. -/
inductive Kind where
  | geometry
  | blas
  | tlas
  deriving DecidableEq, Inhabited

/-- The tag under which scripts know a kind. -/
def Kind.tag : Kind → String
  | geometry => "geometry"
  | blas => "blas"
  | tlas => "tlas"

def Kind.all : List Kind := [.geometry, .blas, .tlas]

/-- The name of the operation that creates a resource of a kind. -/
def Kind.creation : Kind → String
  | geometry => "createGeometry"
  | blas => "createBLAS"
  | tlas => "createTLAS"

/-- A device's own handle, never zero. -/
structure Native where
  raw : UInt64
  raw_ne_zero : raw ≠ 0
  deriving DecidableEq

/-- The handle with this number; zero is none. -/
def Native.ofRaw (raw : UInt64) : Option Native :=
  if h : raw = 0 then none else some ⟨raw, h⟩

/-- A resource of the given kind; without a native handle it stands for a failed creation. -/
structure Handle (kind : Kind) where
  native : Option Native
  /-- The id given by a registry, zero before that. -/
  id : UInt32 := 0
  deriving DecidableEq

namespace Handle

variable {kind : Kind}

def null : Handle kind := ⟨none, 0⟩

instance : Inhabited (Handle kind) := ⟨null⟩

def isNull (h : Handle kind) : Bool := h.native.isNone

def withId (h : Handle kind) (id : UInt32) : Handle kind := { h with id := id }

@[simp] theorem native_withId (h : Handle kind) (id : UInt32) : (h.withId id).native = h.native :=
  rfl

@[simp] theorem id_withId (h : Handle kind) (id : UInt32) : (h.withId id).id = id := rfl

end Handle

end ScriptedRays
