import ScriptedRays.Session.EntryPoint
import ScriptedRays.Session.Renderer
import ScriptedRays.Text.Quoted

/-!
# Session — what a script sees of ray tracing

A session has a renderer from its start to its cleanup.  No call fails towards the script: a creation
that fails gives null, anything else that fails gives undefined, and a diagnostic tells why.  After a
cleanup the device that was in use is kept for inspection; the session does nothing more with it.
-/

namespace ScriptedRays

/-- The state behind the global object. -/
structure Session where
  /-- The device in use and its registry: none before the start and after a cleanup. -/
  renderer : Option Renderer := none
  /-- The device given up last. -/
  retired : Option Device := none

namespace Session

instance : Inhabited Session := ⟨{}⟩

def isStarted (s : Session) : Bool := s.renderer.isSome

/-- How many resources of each kind are registered. -/
def stats (s : Session) : Stats := s.renderer.elim {} fun rt => rt.registry.stats

def isSupported (s : Session) : Bool := s.renderer.elim false fun rt => rt.device.isSupported

/-- The backend in use, none without a renderer. -/
def backend (s : Session) : Backend := s.renderer.elim .none fun rt => rt.device.backend

/-- The device in use, or else the one given up last. -/
def device? (s : Session) : Option Device := (s.renderer.map Renderer.device).or s.retired

/-- The session with creations on its device made to fail from now on, or to succeed again. -/
def setFailing (failing : Bool) (s : Session) : Session :=
  { s with renderer := s.renderer.map fun rt => { rt with device := rt.device.setFailing failing } }

/-- Releases all resources and gives up the device.  Ids start from one again afterwards. -/
def cleanup (s : Session) : Outcome Session Stats :=
  match s.renderer with
  | none => ⟨{}, s, []⟩
  | some rt =>
    let released := rt.releaseAll
    ⟨released.value, ⟨none, some released.state.device⟩,
      released.log ++ [.info (globalName ++ " cleaned up (" ++
        Text.decimal released.value.total ++ " resources released)")]⟩

/-- Ends a session that its host gives up: what is in use is cleaned up. -/
def drop (s : Session) : Outcome Session Unit :=
  if s.isStarted then ⟨(), s.cleanup.state, s.cleanup.log⟩ else ⟨(), s, []⟩

/-- Takes a device into use, after a cleanup if there is one in use. -/
def start (s : Session) (device : Device) : Outcome Session Unit :=
  let before := s.cleanup
  ⟨(), { before.state with renderer := some { device } },
    (if s.isStarted then
      [.info (globalName ++ " is already initialized, cleaning up first")]
    else []) ++
    before.log ++
    [.info (globalName ++ " initialized (backend: " ++ device.backend.name ++
      ", hardware ray tracing: " ++ (if device.isSupported then "true" else "false") ++ ")")]⟩

/-- Takes the device for a preference into use. -/
def startPreferred (s : Session) (preference : Preference) : Outcome Session Unit :=
  let (device, log) := Device.select preference
  let started := s.start device
  { started with log := log ++ started.log }

/-- Makes a request.  Without a renderer there is nothing to make it to. -/
def attempt (s : Session) (request : Request) (args : List Value) :
    Outcome Session (Except Error Value) :=
  match s.renderer with
  | none => ⟨.error .unsupported, s, []⟩
  | some rt =>
    let done := rt.answer args request
    ⟨done.value, { s with renderer := some done.state }, done.log⟩

/-- The diagnostic for a request that failed. -/
def failure (request : Request) (e : Error) : Record := .warn (request.name ++ ": " ++ e.message)

/-- Makes a request for a script, which sees nothing of a failure but an absent value. -/
def perform (s : Session) (request : Request) (args : List Value) : Outcome Session Value :=
  let done := s.attempt request args
  match done.value with
  | .ok v => ⟨v, done.state, done.log⟩
  | .error e => ⟨request.absent, done.state, done.log ++ [failure request e]⟩

/-- Destroys the resource that a wrapper names; without a renderer there is none. -/
def destroy (s : Session) (kind : Kind) (wrapper : Value) : Outcome Session Value :=
  match s.renderer with
  | none => ⟨.undefined, s, []⟩
  | some rt =>
    let done := rt.destroy kind wrapper
    ⟨.undefined, { s with renderer := some done.state }, done.log⟩

/-- Calls a function. -/
def run (s : Session) (entry : EntryPoint) (args : List Value) : Outcome Session Value :=
  match entry with
  | .isSupported => ⟨.boolean s.isSupported, s, []⟩
  | .getBackend => ⟨.string s.backend.name, s, []⟩
  | .request request => s.perform request args
  | .destroy kind => s.destroy kind (argument args 0)
  | .cleanup =>
    let done := s.cleanup
    ⟨.undefined, done.state, done.log⟩

/-- Calls a function by its name: none, and a diagnostic, where there is no such function. -/
def call (s : Session) (name : String) (args : List Value) : Outcome Session (Option Value) :=
  match EntryPoint.ofName? name with
  | some entry =>
    let done := s.run entry args
    ⟨some done.value, done.state, done.log⟩
  | none =>
    ⟨none, s, [.warn (globalName ++ ": unknown entry point " ++ Text.quoted name)]⟩

end Session

end ScriptedRays
