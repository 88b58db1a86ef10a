import ScriptedRays.Resource.Kind
import ScriptedRays.Text.Numeral

/-!
# Error — why a request fails

There are four classes of failure; invalid input says in detail what is wrong with it.  A failure
inside a list is given the position of the element.  `Error.message` holds all the wording.
-/

namespace ScriptedRays

/-- What is wrong with an input. -/
inductive Complaint where
  | missingField (field : String)
  | notTypedArray (field typeName : String)
  | emptyField (field : String)
  | notOptions (typeName : String)
  | tooFewVertices
  | strideTooSmall (stride : Nat)
  | offsetTooLarge (offset stride : Nat)
  | indexOutOfRange (index position vertexCount : Nat)
  | notHandle (kind : Kind) (typeName : String)
  | notArray (of typeName : String)
  | emptyList (of : String)
  | notInstance (typeName : String)
  | instanceWithoutBlas
  | wrongInstanceCount (expected got : Nat)
  | notPositive (field text : String)
  | uniformsNotBuffer (typeName : String)
  | idsExhausted (kind : Kind)
  | other (text : String)
  deriving DecidableEq, Inhabited

/-- The wording of a complaint. -/
def Complaint.message : Complaint → String
  | missingField field => "missing " ++ field
  | notTypedArray field typeName => field ++ " must be a typed array, got " ++ typeName
  | emptyField field => field ++ " is empty"
  | notOptions typeName => "expected an options object, got " ++ typeName
  | tooFewVertices => "vertices must contain at least one vec3"
  | strideTooSmall stride =>
    "vertexStride " ++ Text.decimal stride ++ " is smaller than a vec3 position"
  | offsetTooLarge offset stride =>
    "vertexOffset " ++ Text.decimal offset ++ " does not fit in vertexStride " ++
      Text.decimal stride
  | indexOutOfRange index position vertexCount =>
    "index " ++ Text.decimal index ++ " at " ++ Text.decimal position ++
      " is out of range for " ++ Text.decimal vertexCount ++ " vertices"
  | notHandle kind typeName => "expected a " ++ kind.tag ++ " handle, got " ++ typeName
  | notArray of typeName => "expected an array of " ++ of ++ ", got " ++ typeName
  | emptyList of => of ++ " list is empty"
  | notInstance typeName => "expected an instance object, got " ++ typeName
  | instanceWithoutBlas => "instance is missing blas"
  | wrongInstanceCount expected got =>
    "expected " ++ Text.decimal expected ++ " instances, got " ++ Text.decimal got
  | notPositive field text => field ++ " must be a positive integer, got " ++ text
  | uniformsNotBuffer typeName => "uniforms must be a buffer, got " ++ typeName
  | idsExhausted kind => kind.tag ++ " id space exhausted"
  | other text => text

/-- Why a request fails. -/
inductive Error where
  /-- There is no device, or it cannot trace rays. -/
  | unsupported
  /-- The input is wrong; the positions lead to it, innermost list first. -/
  | invalidInput (complaint : Complaint) (positions : List Nat)
  /-- The id is not registered under the kind; the position is that in the list it came from. -/
  | unresolved (kind : Kind) (id : UInt32) (position : Option Nat)
  /-- The device did not create what it was asked for. -/
  | deviceFailure (kind : Kind)
  deriving DecidableEq, Inhabited

namespace Error

/-- Invalid input outside any list. -/
def invalid (complaint : Complaint) : Error := invalidInput complaint []

/-- The same failure, found in an element of a list. -/
def atPosition (position : Nat) : Error → Error
  | invalidInput complaint positions => invalidInput complaint (positions ++ [position])
  | unresolved kind id _ => unresolved kind id (some position)
  | e => e

/-- A text with a position added to it. -/
def located (text : String) (position : Nat) : String :=
  text ++ " at index " ++ Text.decimal position

/-- The wording of a failure. -/
def message : Error → String
  | unsupported => "hardware ray tracing not available"
  | invalidInput complaint positions => positions.foldl located complaint.message
  | unresolved kind id position =>
    position.toList.foldl located
      ("invalid " ++ kind.tag ++ " reference (id " ++ Text.decimal id.toNat ++ ")")
  | deviceFailure kind => "backend failed to create " ++ kind.tag

end Error

end ScriptedRays
