import ScriptedRays.Device.Backend
import ScriptedRays.Device.Recorder
import ScriptedRays.Resource.Error

/-!
# Device — what resources are created on

A device is either the stub, which has no hardware and creates nothing, or a recorder.  Creation gives
a null handle on failure; destruction never fails.
-/

namespace ScriptedRays

/-- A device. -/
inductive Device where
  | stub
  | recording (recorder : Recorder)

namespace Device

instance : Inhabited Device := ⟨stub⟩

def isSupported : Device → Bool
  | stub => false
  | recording r => r.supported

/-- The interface that a device offers, none without support. -/
def backend : Device → Backend
  | stub => .none
  | recording r => if r.supported then .vulkan else .none

/-- The recorder inside a device. -/
def recorder? : Device → Option Recorder
  | stub => none
  | recording r => some r

/-- The calls that a device received, as far as it keeps account. -/
def calls : Device → List Call
  | stub => []
  | recording r => r.calls

/-- Makes creations fail from now on, or succeed again. -/
def setFailing (failing : Bool) : Device → Device
  | stub => stub
  | recording r => recording (r.setFailing failing)

/-- What the stub tells about an operation it cannot do. -/
def unavailable (operation : String) : Record :=
  .warn (operation ++ ": " ++ Error.unsupported.message)

/-- An outcome of a recorder as one of the device around it. -/
def ofRecorder {α : Type} (o : Outcome Recorder α) : Outcome Device α :=
  ⟨o.value, recording o.state, o.log⟩

/-- Creates a resource. -/
def create (kind : Kind) (source : Source kind) : Device → Outcome Device (Handle kind)
  | stub => ⟨.null, stub, [unavailable kind.creation]⟩
  | recording r => ofRecorder (r.create kind source)

def createGeometry (m : Mesh) (d : Device) : Outcome Device (Handle .geometry) :=
  d.create .geometry m

def createBlas (geometries : List (Handle .geometry)) (d : Device) : Outcome Device (Handle .blas) :=
  d.create .blas geometries

def createTlas (instances : List Instance) (d : Device) : Outcome Device (Handle .tlas) :=
  d.create .tlas instances

def updateTlas (tlas : Handle .tlas) (instances : List Instance) : Device → Outcome Device Unit
  | stub => ⟨(), stub, [unavailable "updateTLAS"]⟩
  | recording r => ofRecorder (r.updateTlas tlas instances)

def traceRays (trace : Trace) : Device → Outcome Device Unit
  | stub => ⟨(), stub, [unavailable "traceRays"]⟩
  | recording r => ⟨(), recording (r.traceRays trace), []⟩

def destroy (kind : Kind) (handle : Handle kind) : Device → Device
  | stub => stub
  | recording r => recording (r.destroy kind handle)

end Device

end ScriptedRays
