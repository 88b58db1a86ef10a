import ScriptedRays.Device.Selection
import ScriptedRays.Request.Geometry
import ScriptedRays.Request.Trace
import ScriptedRays.Session.EntryPoint

/-!
# Renderer — a device and the registry of what was created on it

Each request runs in one direction: support is checked, the values are read, the device acts, the
result is registered.  A request that fails at one step takes none of the later ones.
-/

namespace ScriptedRays

/-- A device in use. -/
structure Renderer where
  device : Device
  registry : Registry := {}

/-- Reads what a resource is to be made from. -/
def Registry.readSource (r : Registry) : (kind : Kind) → Value → Except Error (Source kind)
  | .geometry, options => Mesh.read options
  | .blas, geometries => r.readGeometries geometries
  | .tlas, instances => r.readBuild instances

/-- What is registered of a resource that was made from a source. -/
def Entry.ofSource : {kind : Kind} → Source kind → Handle kind → Entry kind
  | .geometry, _, h => h
  | .blas, _, h => h
  | .tlas, instances, h => ⟨h, List.length instances⟩

namespace Renderer

/-- The outcome of a request that fails and leaves everything as it is. -/
def fail {α : Type} (rt : Renderer) (e : Error) : Outcome Renderer (Except Error α) :=
  ⟨.error e, rt, []⟩

/-- Registers what a device has just created.  If that fails, the device is told to destroy it. -/
def enroll (kind : Kind) (registry : Registry) (created : Outcome Device (Handle kind))
    (entry : Handle kind → Entry kind) : Outcome Renderer (Except Error Value) :=
  let registered := registry.register kind (entry created.value)
  match registered.value with
  | .ok handle =>
    ⟨.ok (Wrapper.make kind handle.id), ⟨created.state, registered.state⟩,
      created.log ++ registered.log⟩
  | .error e =>
    let device :=
      if created.value.isNull then created.state else created.state.destroy kind created.value
    ⟨.error e, ⟨device, registered.state⟩, created.log ++ registered.log⟩

/-- Runs a request whose values are read first, on a device that supports it. -/
def request {α β : Type} (rt : Renderer) (read : Registry → Except Error α)
    (act : α → Outcome Renderer (Except Error β)) : Outcome Renderer (Except Error β) :=
  if rt.device.isSupported = false then rt.fail .unsupported
  else
    match read rt.registry with
    | .error e => rt.fail e
    | .ok a => act a

/-- Reads a source, has the device make a resource of it and registers that. -/
def create (rt : Renderer) (kind : Kind) (options : Value) :
    Outcome Renderer (Except Error Value) :=
  rt.request (fun r => r.readSource kind options) fun source =>
    enroll kind rt.registry (rt.device.create kind source) (Entry.ofSource source)

def updateTlas (rt : Renderer) (scene instances : Value) :
    Outcome Renderer (Except Error Value) :=
  rt.request (fun r => r.readUpdate scene instances) fun (handle, list) =>
    let done := rt.device.updateTlas handle list
    ⟨.ok .undefined, { rt with device := done.state }, done.log⟩

def traceRays (rt : Renderer) (options : Value) : Outcome Renderer (Except Error Value) :=
  rt.request (fun r => r.readTrace options) fun trace =>
    let done := rt.device.traceRays trace
    ⟨.ok .undefined, { rt with device := done.state }, done.log⟩

/-- What a request with its arguments comes to. -/
def answer (rt : Renderer) (args : List Value) : Request → Outcome Renderer (Except Error Value)
  | .create kind => rt.create kind (argument args 0)
  | .updateTlas => rt.updateTlas (argument args 0) (argument args 1)
  | .traceRays => rt.traceRays (argument args 0)

/-- What a registry and the device beside it come to. -/
def settle {α : Type} (o : Outcome (Device × Registry) α) : Outcome Renderer α :=
  ⟨o.value, ⟨o.state.1, o.state.2⟩, o.log⟩

/-- Takes a resource out of the registry and has the device destroy it.  Tells whether there was
one. -/
def release (rt : Renderer) (kind : Kind) (id : UInt32) : Outcome Renderer Bool :=
  settle (rt.registry.release Device.destroy kind id rt.device)

/-- Releases everything that is registered. -/
def releaseAll (rt : Renderer) : Outcome Renderer Stats :=
  settle (rt.registry.releaseAll Device.destroy rt.device)

/-- Destroys the resource that a wrapper names.  Whatever names none changes nothing. -/
def destroy (rt : Renderer) (kind : Kind) (wrapper : Value) : Outcome Renderer Unit :=
  match Wrapper.read kind wrapper with
  | .error e => ⟨(), rt, [.debug ("destroy " ++ kind.tag ++ ": " ++ e.message)]⟩
  | .ok id =>
    let released := rt.release kind id
    ⟨(), released.state,
      if released.value then released.log
      else [.debug ("destroy " ++ kind.tag ++ " " ++ Text.decimal id.toNat ++
        ": not registered")]⟩

end Renderer

end ScriptedRays
