import ScriptedRays.Log
import ScriptedRays.Device.Arena
import ScriptedRays.Device.Command
import ScriptedRays.Text.Numeral

/-!
# Recorder — a device in memory that keeps account of every command

A recorder holds copies of what it was given, one arena for each kind of resource, and the commands it
received, refused ones too.  A creation succeeds as a whole or changes no arena.
-/

namespace ScriptedRays

/-- What is kept of a resource: of a geometry its coordinates, of a bottom-level structure those of
each geometry it was built from, of a top-level structure its instances. -/
abbrev Content : Kind → Type
  | .geometry => List Single
  | .blas => List (List Single)
  | .tlas => List Instance

/-- A device that records. -/
structure Recorder where
  supported : Bool
  /-- Whether creations are made to fail. -/
  failing : Bool := false
  geometries : Arena (List Single) := .empty
  blases : Arena (List (List Single)) := .empty
  tlases : Arena (List Instance) := .empty
  /-- The commands received, the latest last. -/
  history : List Command := []

namespace Recorder

/-- The arena of a kind. -/
def arena (r : Recorder) : (kind : Kind) → Arena (Content kind)
  | .geometry => r.geometries
  | .blas => r.blases
  | .tlas => r.tlases

/-- The recorder with another arena of a kind. -/
def withArena (r : Recorder) : (kind : Kind) → Arena (Content kind) → Recorder
  | .geometry, a => { r with geometries := a }
  | .blas, a => { r with blases := a }
  | .tlas, a => { r with tlases := a }

/-- The calls received, the latest last. -/
def calls (r : Recorder) : List Call := r.history.filterMap Command.call?

def record (r : Recorder) (c : Command) : Recorder := { r with history := r.history ++ [c] }

def canCreate (r : Recorder) : Bool := r.supported && !r.failing

/-- The content that a native handle of a kind finds. -/
def find? (r : Recorder) (kind : Kind) (native : Option Native) : Option (Content kind) :=
  (r.arena kind).get? native

/-- How many resources of a kind there are. -/
def live (r : Recorder) (kind : Kind) : Nat := (r.arena kind).size

/-- Keeps a new resource and gives its handle. -/
def keep (r : Recorder) (kind : Kind) (content : Content kind) : Outcome Recorder (Handle kind) :=
  let (native, arena) := (r.arena kind).insert content
  ⟨⟨some native, 0⟩, r.withArena kind arena, []⟩

/-- Refuses to create, for the reason given. -/
def refuse (r : Recorder) (kind : Kind) (reason : String) : Outcome Recorder (Handle kind) :=
  ⟨.null, r, [.warn reason]⟩

/-- How a native handle is told in a diagnostic. -/
def describe : Option Native → String
  | none => "None"
  | some n => "Some(RtNativeHandle(" ++ Text.decimal n.raw.toNat ++ "))"

/-- What is kept of a resource made from a source, or what is wrong with the source: whatever it names
must be there. -/
def content (r : Recorder) : (kind : Kind) → Source kind → Except String (Content kind)
  | .geometry, m => .ok (m.positions.flatMap Position.toList)
  | .blas, geometries =>
    match List.find? (fun g => !r.geometries.contains g.native) geometries with
    | some g => .error ("createBLAS: unknown geometry " ++ describe g.native)
    | none => .ok (List.filterMap (fun g => r.geometries.get? g.native) geometries)
  | .tlas, instances =>
    if List.all instances fun i => r.blases.contains i.blas.native then .ok instances
    else .error "createTLAS: instance references an unknown BLAS"

/-- What is told of a creation that is refused before its source is looked at. -/
def rejection : Kind → String
  | .geometry => "createGeometry: recording backend rejected geometry"
  | .blas => "createBLAS: recording backend rejected build"
  | .tlas => "createTLAS: recording backend rejected build"

/-- Creates a resource. -/
def create (r : Recorder) (kind : Kind) (source : Source kind) : Outcome Recorder (Handle kind) :=
  let r := r.record (.create kind source)
  if r.canCreate = false ∨ source.isEmpty = true then r.refuse kind (rejection kind)
  else
    match r.content kind source with
    | .error reason => r.refuse kind reason
    | .ok content => r.keep kind content

/-- Puts other instances in place of as many kept before. -/
def updateTlas (r : Recorder) (tlas : Handle .tlas) (instances : List Instance) :
    Outcome Recorder Unit :=
  let r := r.record (.updateTlas tlas instances)
  match r.tlases.get? tlas.native with
  | none => ⟨(), r, [.warn "updateTLAS: unknown TLAS"]⟩
  | some built =>
    if built.length = instances.length then
      ⟨(), { r with tlases := r.tlases.update tlas.native fun _ => instances }, []⟩
    else
      ⟨(), r, [.warn ("updateTLAS: expected " ++ Text.decimal built.length ++
        " instances, got " ++ Text.decimal instances.length)]⟩

/-- Drops what a handle finds, if anything. -/
def destroy (r : Recorder) (kind : Kind) (handle : Handle kind) : Recorder :=
  let r := r.record (.destroy kind handle)
  r.withArena kind ((r.arena kind).erase handle.native)

def traceRays (r : Recorder) (trace : Trace) : Recorder := r.record (.traceRays trace)

/-- Makes creations fail from now on, or succeed again. -/
def setFailing (r : Recorder) (failing : Bool) : Recorder :=
  { r.record (.setFailing failing) with failing }

/-- What a command comes to. -/
def perform (r : Recorder) : Command → Recorder
  | .create kind source => (r.create kind source).state
  | .updateTlas tlas instances => (r.updateTlas tlas instances).state
  | .destroy kind handle => r.destroy kind handle
  | .traceRays trace => r.traceRays trace
  | .setFailing failing => r.setFailing failing

end Recorder

end ScriptedRays
