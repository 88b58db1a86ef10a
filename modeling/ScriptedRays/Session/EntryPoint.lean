import ScriptedRays.Resource.Kind
import ScriptedRays.Script.Value

/-!
# EntryPoint — the functions that scripts can call

All of them are members of one global object.  Those that need a device which supports what they ask
for, and can fail, are the requests.
-/

namespace ScriptedRays

/-- The name of the global object. -/
def globalName : String := "rtBridge"

/-- A function that can fail. -/
inductive Request where
  | create (kind : Kind)
  | updateTlas
  | traceRays
  deriving DecidableEq, Inhabited

/-- The name under which scripts call a request. -/
def Request.name : Request → String
  | create kind => kind.creation
  | updateTlas => "updateTLAS"
  | traceRays => "traceRays"

/-- What a script gets from a request that fails. -/
def Request.absent : Request → Value
  | create _ => .null
  | updateTlas => .undefined
  | traceRays => .undefined

/-- A function of the global object. -/
inductive EntryPoint where
  | isSupported
  | getBackend
  | request (request : Request)
  | destroy (kind : Kind)
  | cleanup
  deriving DecidableEq, Inhabited

/-- An argument by its place, undefined where there are fewer. -/
def argument (args : List Value) (place : Nat) : Value := args[place]?.getD .undefined

namespace EntryPoint

/-- All functions in the order in which a host adds them. -/
def all : List EntryPoint :=
  [isSupported, getBackend, request (.create .geometry), request (.create .blas),
    request (.create .tlas), request .updateTlas, request .traceRays,
    destroy .geometry, destroy .blas, destroy .tlas, cleanup]

/-- The name under which scripts call a function. -/
def name : EntryPoint → String
  | isSupported => "isSupported"
  | getBackend => "getBackend"
  | request r => r.name
  | destroy .geometry => "destroyGeometry"
  | destroy .blas => "destroyBLAS"
  | destroy .tlas => "destroyTLAS"
  | cleanup => "cleanup"

/-- The function of a name. -/
def ofName? (s : String) : Option EntryPoint := all.find? fun e => e.name == s

theorem ofName?_name (e : EntryPoint) : ofName? e.name = some e := by
  rcases e with _ | _ | (kind | _ | _) | kind | _ <;> try cases kind
  all_goals decide

end EntryPoint

end ScriptedRays
