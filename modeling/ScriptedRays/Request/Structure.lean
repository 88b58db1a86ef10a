import ScriptedRays.Registry.Basic
import ScriptedRays.Request.Wrapper

/-!
# Structure — reading what acceleration structures are built from

Lists are read element by element; the first that fails makes the whole request fail, with its
position.  An instance needs a registered structure, everything else about it has a default.
-/

namespace ScriptedRays

/-- The elements of an array, whose purpose is told where there is none. -/
def elementsOf (purpose : String) (v : Value) : Except Error (List Value) :=
  match v.array? with
  | some elements => .ok elements
  | none => .error (.invalid (.notArray purpose v.typeName))

/-- Reads each element, positions counted from `first`. -/
def readEachFrom {α : Type} (read : Value → Except Error α) :
    Nat → List Value → Except Error (List α)
  | _, [] => .ok []
  | first, v :: rest =>
    match read v with
    | .error e => .error (e.atPosition first)
    | .ok a =>
      match readEachFrom read (first + 1) rest with
      | .error e => .error e
      | .ok as => .ok (a :: as)

/-- Reads each element of a list. -/
def readEach {α : Type} (read : Value → Except Error α) : List Value → Except Error (List α) :=
  readEachFrom read 0

namespace Registry

/-- The entry that a wrapper names. -/
def lookup (r : Registry) (kind : Kind) (v : Value) : Except Error (Entry kind) :=
  match Wrapper.read kind v with
  | .error e => .error e
  | .ok id => r.resolve kind id

/-- Reads a list of registered geometries that is not empty. -/
def readGeometries (r : Registry) (v : Value) : Except Error (List (Handle .geometry)) :=
  match elementsOf "geometry handles" v with
  | .error e => .error e
  | .ok [] => .error (.invalid (.emptyList "geometry"))
  | .ok elements => readEach (r.lookup .geometry) elements

end Registry

/-- The numbers of an array, if it holds nothing else. -/
def numbersOf : List Value → Option (List Double)
  | [] => some []
  | v :: rest => do return (← v.number?) :: (← numbersOf rest)

/-- Reads a matrix from a buffer or from an array of numbers.  Anything that does not give sixteen
numbers is the identity. -/
def Transform.read (v : Value) : Transform :=
  let numbers : Option (List Single) :=
    match v with
    | .buffer b => some b.singles
    | .array elements => (numbersOf elements).map fun xs => xs.map Single.ofDouble
    | _ => none
  (numbers.bind Transform.ofList?).getD .identity

namespace Instance

/-- A word among the fields of an instance, where it is missing its default. -/
def wordOr (default : UInt32) (v : Value) : UInt32 := v.word?.getD default

/-- Reads an instance of a registered structure. -/
def read (r : Registry) (v : Value) : Except Error Instance :=
  match v.object? with
  | none => .error (.invalid (.notInstance v.typeName))
  | some o =>
    if (o.get "blas").isAbsent then .error (.invalid .instanceWithoutBlas)
    else
      match r.lookup .blas (o.get "blas") with
      | .error e => .error e
      | .ok blas => .ok {
          blas
          transform := .read (o.get "transform")
          customId := wordOr 0 (o.get "instanceId")
          mask := wordOr 0xFF (o.get "mask")
          flags := wordOr 0 (o.get "flags") }

end Instance

namespace Registry

/-- Reads the instances of a new scene, at least one. -/
def readBuild (r : Registry) (v : Value) : Except Error (List Instance) :=
  match elementsOf "instances" v with
  | .error e => .error e
  | .ok [] => .error (.invalid (.emptyList "instance"))
  | .ok elements => readEach (Instance.read r) elements

/-- Reads a registered scene and its new instances, as many as it was built from. -/
def readUpdate (r : Registry) (scene instances : Value) :
    Except Error (Handle .tlas × List Instance) :=
  match r.lookup .tlas scene with
  | .error e => .error e
  | .ok entry =>
    match elementsOf "instances" instances with
    | .error e => .error e
    | .ok elements =>
      if elements.length = entry.instanceCount then
        match readEach (Instance.read r) elements with
        | .error e => .error e
        | .ok read => .ok (SceneEntry.handle entry, read)
      else .error (.invalid (.wrongInstanceCount entry.instanceCount elements.length))

end Registry

end ScriptedRays
