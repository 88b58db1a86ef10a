import ScriptedRays.Launch.Placement
import ScriptedRays.Script.Object
import ScriptedRays.Session.Basic

/-!
# Scene — a script that takes resources through their whole life

A square is built into a structure, two instances of the structure into a scene; frame after frame the
instances turn and the scene is traced; at the end everything is destroyed.  The script only sees what
the functions of the global object give back.
-/

namespace ScriptedRays

/-- A session in the middle of a script, and the records so far, newest first. -/
structure Run where
  session : Session := {}
  told : List Record := []

namespace Run

/-- Goes on after an operation on the session. -/
def after {α : Type} (run : Run) (done : Outcome Session α) : α × Run :=
  (done.value, ⟨done.state, done.log.reverse ++ run.told⟩)

/-- Calls a function of the global object by its name.  A name that it does not have gives undefined. -/
def call (run : Run) (name : String) (args : List Value) : Value × Run :=
  let (answer, run) := run.after (run.session.call name args)
  (answer.getD .undefined, run)

/-- Calls a function for its effect. -/
def perform (run : Run) (name : String) (args : List Value) : Run := (run.call name args).2

/-- Tells one more record. -/
def tell (run : Run) (r : Record) : Run := { run with told := r :: run.told }

end Run

namespace Scene

def width : UInt32 := 640

def height : UInt32 := 360

/-- The host's handle for the image. -/
def output : UInt64 := 1

/-- The corners of the square. -/
def corners : List Float32 := [-1, -1, 0, 1, -1, 0, 1, 1, 0, -1, 1, 0]

/-- The square, as the script describes it. -/
def square : Value :=
  .ofPairs [("vertices", .buffer (.ofSingles (corners.map fun x => ⟨x.toBits⟩))),
    ("indices", .buffer (.ofWords [0, 1, 2, 0, 2, 3]))]

/-- Where the instances stand before they turn. -/
def places : List Placement := [.identity, .shift 3 0 0]

/-- An instance of a structure. -/
def placed (blas : Value) (place : Placement) (number : Nat) : Value :=
  .ofPairs [("blas", blas), ("transform", .buffer (.ofSingles place.entries)),
    ("instanceId", .ofWord (UInt32.ofNat number))]

/-- The instances of a structure, each moved from its place. -/
def instances (blas : Value) (move : Placement → Placement) : Value :=
  .array (places.mapIdx fun number place => placed blas (move place) number)

/-- The angle of a frame. -/
def angle (frame : Nat) : Float32 := (UInt32.ofNat frame).toFloat32 * 0.25

/-- A request to trace a scene. -/
def tracing (tlas : Value) : Value :=
  .ofPairs [("tlas", tlas), ("width", .ofWord width), ("height", .ofWord height),
    ("outputTexture", .external output)]

/-- One frame: the instances turn, and the scene is traced. -/
def drawFrame (blas tlas : Value) (run : Run) (frame : Nat) : Run :=
  (run.perform "updateTLAS" [tlas, instances blas (Placement.turn (angle frame)).after]).perform
    "traceRays" [tracing tlas]

/-- Some frames in turn. -/
def draw (blas tlas : Value) (frames : Nat) (run : Run) : Run :=
  frames.fold (fun frame _ run => drawFrame blas tlas run frame) run

/-- The whole script. -/
def play (frames : Nat) (run : Run) : Run :=
  let (supported, run) := run.call "isSupported" []
  let (backend, run) := run.call "getBackend" []
  let run := run.tell (.info (globalName ++ ".isSupported() = " ++ supported.display ++
    ", getBackend() = " ++ backend.display))
  let (geometry, run) := run.call "createGeometry" [square]
  let (blas, run) := run.call "createBLAS" [.array [geometry]]
  let run := run.perform "destroyGeometry" [geometry]
  let (tlas, run) := run.call "createTLAS" [instances blas id]
  let run := run.tell (.info ("geometry -> " ++ blas.display ++ " -> " ++ tlas.display))
  let run := draw blas tlas frames run
  (run.perform "destroyTLAS" [tlas]).perform "destroyBLAS" [blas]

end Scene

end ScriptedRays
