import ScriptedRays.Device.Basic

/-!
# Selection — the device for a preference

The preferred backends are tried in turn; where none of them can trace rays, the stub stands in, so
selection never fails.
-/

namespace ScriptedRays.Device

/-- The device for a backend in this build.  Support for the hardware interfaces is not part of it. -/
def builtIn : Backend → Option Device
  | .none => some stub
  | .dxr | .vulkan | .metal => none

/-- The first of some backends whose device can trace rays, and what is told on the way. -/
def firstSupported : List Backend → Option Device × List Record
  | [] => (none, [])
  | candidate :: rest =>
    let (later, log) := firstSupported rest
    match builtIn candidate with
    | none =>
      (later, .info ("ray tracing backend " ++ candidate.name ++
        " is not available in this build") :: log)
    | some device =>
      if device.isSupported then
        (some device, [.info ("ray tracing backend selected: " ++ device.backend.name)])
      else
        (later, .info ("ray tracing backend " ++ device.backend.name ++
          " reports no hardware support") :: log)

/-- The device for a preference, and what is told about its choice. -/
def select (preference : Preference) : Device × List Record :=
  match firstSupported preference.candidates with
  | (some device, log) => (device, log)
  | (none, log) =>
    (stub, log ++ [.info ("no hardware ray tracing backend, falling back to stub (preference: " ++
      preference.name ++ ")")])

end ScriptedRays.Device
