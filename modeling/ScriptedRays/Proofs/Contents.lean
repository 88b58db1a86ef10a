import ScriptedRays.Proofs.Action

/-!
# Contents — sessions up to what their devices remember

A recorder's history is there to be looked at and decides nothing: whatever is done to a session
gives the same answer and the same contents if the histories are forgotten first (`bare_act`).
-/

namespace ScriptedRays

/-- An outcome with its state seen through a function. -/
def Outcome.through {σ τ α : Type} (view : σ → τ) (o : Outcome σ α) : Outcome τ α :=
  ⟨o.value, view o.state, o.log⟩

theorem Outcome.through_eq {σ τ α : Type} {view : σ → τ} {o p : Outcome σ α} :
    o.through view = p.through view ↔
      o.value = p.value ∧ view o.state = view p.state ∧ o.log = p.log := by
  unfold through
  rw [Outcome.mk.injEq]

namespace Recorder

/-- A recorder without its history. -/
def bare (r : Recorder) : Recorder := { r with history := [] }

@[simp] theorem bare_bare (r : Recorder) : r.bare.bare = r.bare := rfl

@[simp] theorem arena_bare (r : Recorder) (kind : Kind) : r.bare.arena kind = r.arena kind := by
  cases kind <;> rfl

theorem content_bare (r : Recorder) (kind : Kind) (source : Source kind) :
    r.bare.content kind source = r.content kind source := by
  cases kind <;> rfl

theorem bare_withArena (r : Recorder) (kind : Kind) (a : Arena (Content kind)) :
    (r.withArena kind a).bare = r.bare.withArena kind a := by
  cases kind <;> rfl

theorem bare_keep (r : Recorder) (kind : Kind) (content : Content kind) :
    (r.bare.keep kind content).through bare = (r.keep kind content).through bare := by
  rw [keep_eq, keep_eq, arena_bare]
  refine Outcome.through_eq.2 ⟨rfl, ?_, rfl⟩
  rw [bare_withArena, bare_withArena, bare_bare]

theorem bare_create (r : Recorder) (kind : Kind) (source : Source kind) :
    (r.bare.create kind source).through bare = (r.create kind source).through bare := by
  rw [create_eq, create_eq, content_bare]
  show (if r.canCreate = false ∨ source.isEmpty = true then _ else _ :
    Outcome Recorder (Handle kind)).through bare = _
  by_cases h : r.canCreate = false ∨ source.isEmpty = true
  · rw [if_pos h, if_pos h]
    rfl
  · rw [if_neg h, if_neg h]
    cases r.content kind source with
    | error reason => rfl
    | ok content =>
      show ((r.bare.record _).keep kind content).through bare =
        ((r.record _).keep kind content).through bare
      rw [← bare_keep (r.bare.record _), ← bare_keep (r.record _)]
      rfl

theorem bare_updateTlas (r : Recorder) (tlas : Handle .tlas) (instances : List Instance) :
    (r.bare.updateTlas tlas instances).through bare =
      (r.updateTlas tlas instances).through bare := by
  have hbare : (r.bare.record (.updateTlas tlas instances)).tlases = r.tlases := rfl
  have hr : (r.record (.updateTlas tlas instances)).tlases = r.tlases := rfl
  unfold updateTlas
  simp only [hbare, hr]
  cases r.tlases.get? tlas.native with
  | none => rfl
  | some built =>
    by_cases hl : built.length = instances.length
    · simp only [if_pos hl]
      rfl
    · simp only [if_neg hl]
      rfl

theorem bare_destroy (r : Recorder) (kind : Kind) (handle : Handle kind) :
    (r.bare.destroy kind handle).bare = (r.destroy kind handle).bare := by
  cases kind <;> rfl

end Recorder

namespace Device

/-- A device without its history. -/
def bare : Device → Device
  | stub => stub
  | recording r => recording r.bare

@[simp] theorem bare_bare (d : Device) : d.bare.bare = d.bare := by
  cases d <;> rfl

@[simp] theorem isSupported_bare (d : Device) : d.bare.isSupported = d.isSupported := by
  cases d <;> rfl

@[simp] theorem backend_bare (d : Device) : d.bare.backend = d.backend := by
  cases d <;> rfl

theorem bare_setFailing (d : Device) (failing : Bool) :
    (d.bare.setFailing failing).bare = (d.setFailing failing).bare := by
  cases d <;> rfl

theorem through_ofRecorder {α : Type} {o p : Outcome Recorder α}
    (h : o.through Recorder.bare = p.through Recorder.bare) :
    (ofRecorder o).through bare = (ofRecorder p).through bare := by
  obtain ⟨hv, hs, hl⟩ := Outcome.through_eq.1 h
  exact Outcome.through_eq.2 ⟨hv, congrArg recording hs, hl⟩

theorem bare_create (d : Device) (kind : Kind) (source : Source kind) :
    (create kind source d.bare).through bare = (create kind source d).through bare := by
  cases d with
  | stub => rfl
  | recording r => exact through_ofRecorder (r.bare_create kind source)

theorem bare_updateTlas (d : Device) (tlas : Handle .tlas) (instances : List Instance) :
    (updateTlas tlas instances d.bare).through bare =
      (updateTlas tlas instances d).through bare := by
  cases d with
  | stub => rfl
  | recording r => exact through_ofRecorder (r.bare_updateTlas tlas instances)

theorem bare_traceRays (d : Device) (trace : Trace) :
    (traceRays trace d.bare).through bare = (traceRays trace d).through bare := by
  cases d <;> rfl

theorem bare_destroy (d : Device) (kind : Kind) (handle : Handle kind) :
    (d.bare.destroy kind handle).bare = (d.destroy kind handle).bare := by
  cases d with
  | stub => rfl
  | recording r => exact congrArg recording (r.bare_destroy kind handle)

end Device

namespace Renderer

/-- A renderer whose device forgot its history. -/
def bare (rt : Renderer) : Renderer := { rt with device := rt.device.bare }

@[simp] theorem bare_bare (rt : Renderer) : rt.bare.bare = rt.bare := by
  unfold bare
  rw [Device.bare_bare]

theorem bare_mk {d e : Device} (h : d.bare = e.bare) (g : Registry) :
    (⟨d, g⟩ : Renderer).bare = (⟨e, g⟩ : Renderer).bare := by
  unfold bare
  rw [h]

theorem bare_enroll {kind : Kind} {g : Registry} {c d : Outcome Device (Handle kind)}
    {entry : Handle kind → Entry kind} (h : c.through Device.bare = d.through Device.bare) :
    (enroll kind g c entry).through bare = (enroll kind g d entry).through bare := by
  obtain ⟨hv, hs, hl⟩ := Outcome.through_eq.1 h
  unfold enroll
  rw [hv, hl]
  generalize g.register kind (entry d.value) = registered
  obtain ⟨value, state, log⟩ := registered
  cases value with
  | ok handle => exact Outcome.through_eq.2 ⟨rfl, bare_mk hs _, rfl⟩
  | error e =>
    refine Outcome.through_eq.2 ⟨rfl, bare_mk ?_ _, rfl⟩
    cases d.value.isNull with
    | true => exact hs
    | false =>
      show (c.state.destroy kind d.value).bare = (d.state.destroy kind d.value).bare
      rw [← c.state.bare_destroy, ← d.state.bare_destroy, hs]

theorem bare_request {α β : Type} (rt : Renderer) {read : Registry → Except Error α}
    {act act' : α → Outcome Renderer (Except Error β)}
    (h : ∀ a, (act' a).through bare = (act a).through bare) :
    (rt.bare.request read act').through bare = (rt.request read act).through bare := by
  have hdevice : rt.bare.device.isSupported = rt.device.isSupported := rt.device.isSupported_bare
  have hfail : ∀ e, ((rt.bare.fail e : Outcome Renderer (Except Error β))).through bare =
      (rt.fail e).through bare := fun e => Outcome.through_eq.2 ⟨rfl, rt.bare_bare, rfl⟩
  cases hs : rt.device.isSupported with
  | false =>
    rw [request_of_unsupported hs, request_of_unsupported (hdevice.trans hs)]
    exact hfail .unsupported
  | true =>
    have hs' := hdevice.trans hs
    cases hread : read rt.registry with
    | error e =>
      have hread' : read rt.bare.registry = .error e := hread
      rw [request_of_error hs hread, request_of_error hs' hread']
      exact hfail e
    | ok a =>
      have hread' : read rt.bare.registry = .ok a := hread
      rw [request_of_ok hs hread, request_of_ok hs' hread']
      exact h a

theorem bare_answer (rt : Renderer) (args : List Value) (request : Request) :
    (rt.bare.answer args request).through bare = (rt.answer args request).through bare := by
  cases request with
  | create kind =>
    unfold answer create
    exact rt.bare_request fun source => bare_enroll (rt.device.bare_create kind source)
  | updateTlas =>
    unfold answer updateTlas
    refine rt.bare_request fun update => ?_
    obtain ⟨-, hs, hl⟩ := Outcome.through_eq.1 (rt.device.bare_updateTlas update.1 update.2)
    exact Outcome.through_eq.2 ⟨rfl, bare_mk hs _, hl⟩
  | traceRays =>
    unfold answer traceRays
    refine rt.bare_request fun trace => ?_
    obtain ⟨-, hs, hl⟩ := Outcome.through_eq.1 (rt.device.bare_traceRays trace)
    exact Outcome.through_eq.2 ⟨rfl, bare_mk hs _, hl⟩

theorem bare_release (rt : Renderer) (kind : Kind) (id : UInt32) :
    (rt.bare.release kind id).through bare = (rt.release kind id).through bare := by
  unfold release Registry.release
  rw [show rt.bare.registry = rt.registry from rfl]
  cases (rt.registry.ledger kind).get? id with
  | none => exact Outcome.through_eq.2 ⟨rfl, rt.bare_bare, rfl⟩
  | some e =>
    exact Outcome.through_eq.2 ⟨rfl, bare_mk (rt.device.bare_destroy kind e.handle) _, rfl⟩

theorem bare_destroy (rt : Renderer) (kind : Kind) (wrapper : Value) :
    (rt.bare.destroy kind wrapper).through bare = (rt.destroy kind wrapper).through bare := by
  unfold destroy
  cases Wrapper.read kind wrapper with
  | error e => exact Outcome.through_eq.2 ⟨rfl, rt.bare_bare, rfl⟩
  | ok id =>
    obtain ⟨hv, hs, hl⟩ := Outcome.through_eq.1 (rt.bare_release kind id)
    refine Outcome.through_eq.2 ⟨rfl, hs, ?_⟩
    simp only [hv, hl]

theorem bare_destroyAll {kind : Kind} (ledger : Ledger (Entry kind)) {d e : Device}
    (h : d.bare = e.bare) : (Registry.destroyAll Device.destroy kind ledger d).bare =
      (Registry.destroyAll Device.destroy kind ledger e).bare := by
  unfold Registry.destroyAll
  induction ledger.drain generalizing d e with
  | nil => exact h
  | cons entry rest ih =>
    refine ih ?_
    rw [← d.bare_destroy, ← e.bare_destroy, h]

theorem bare_releaseAll (rt : Renderer) :
    rt.bare.releaseAll.through bare = rt.releaseAll.through bare := by
  refine Outcome.through_eq.2 ⟨rfl, bare_mk ?_ _, rfl⟩
  exact bare_destroyAll _ (bare_destroyAll _ (bare_destroyAll _ rt.device.bare_bare))

end Renderer

namespace Session

/-- A session whose devices forgot their histories. -/
def bare (s : Session) : Session := ⟨s.renderer.map Renderer.bare, s.retired.map Device.bare⟩

theorem bare_mk {x y : Option Renderer} {a b : Option Device}
    (hx : x.map Renderer.bare = y.map Renderer.bare) (ha : a.map Device.bare = b.map Device.bare) :
    (⟨x, a⟩ : Session).bare = (⟨y, b⟩ : Session).bare := by
  unfold bare
  rw [hx, ha]

theorem retired_bare (a : Option Device) :
    (a.map Device.bare).map Device.bare = a.map Device.bare := by
  cases a with
  | none => rfl
  | some d => exact congrArg some d.bare_bare

@[simp] theorem bare_bare (s : Session) : s.bare.bare = s.bare := by
  obtain ⟨renderer, retired⟩ := s
  refine bare_mk ?_ (retired_bare retired)
  cases renderer with
  | none => rfl
  | some rt => exact congrArg some rt.bare_bare

theorem bare_cleanup (s : Session) : s.bare.cleanup.through bare = s.cleanup.through bare := by
  obtain ⟨renderer, retired⟩ := s
  cases renderer with
  | none => exact Outcome.through_eq.2 ⟨rfl, bare_bare _, rfl⟩
  | some rt =>
    obtain ⟨hv, hs, hl⟩ := Outcome.through_eq.1 rt.bare_releaseAll
    refine Outcome.through_eq.2 ⟨hv, bare_mk rfl ?_, rfl⟩
    exact congrArg (fun t : Renderer => some t.device) hs

theorem bare_start (s : Session) (device : Device) :
    (s.bare.start device).state.bare = (s.start device).state.bare := by
  obtain ⟨-, hs, -⟩ := Outcome.through_eq.1 s.bare_cleanup
  exact bare_mk rfl (congrArg Session.retired hs)

theorem bare_setFailing (s : Session) (failing : Bool) :
    (s.bare.setFailing failing).bare = (s.setFailing failing).bare := by
  obtain ⟨renderer, retired⟩ := s
  refine bare_mk ?_ (retired_bare retired)
  cases renderer with
  | none => rfl
  | some rt =>
    have hdevice := rt.device.bare_setFailing failing
    exact congrArg some (Renderer.bare_mk hdevice rt.registry)

theorem bare_attempt (s : Session) (request : Request) (args : List Value) :
    (s.bare.attempt request args).through bare = (s.attempt request args).through bare := by
  obtain ⟨renderer, retired⟩ := s
  cases renderer with
  | none => exact Outcome.through_eq.2 ⟨rfl, bare_bare _, rfl⟩
  | some rt =>
    obtain ⟨hv, hs, hl⟩ := Outcome.through_eq.1 (rt.bare_answer args request)
    exact Outcome.through_eq.2 ⟨hv, bare_mk (congrArg some hs) (retired_bare retired), hl⟩

theorem bare_destroy (s : Session) (kind : Kind) (wrapper : Value) :
    (s.bare.destroy kind wrapper).through bare = (s.destroy kind wrapper).through bare := by
  obtain ⟨renderer, retired⟩ := s
  cases renderer with
  | none => exact Outcome.through_eq.2 ⟨rfl, bare_bare _, rfl⟩
  | some rt =>
    obtain ⟨-, hs, hl⟩ := Outcome.through_eq.1 (rt.bare_destroy kind wrapper)
    exact Outcome.through_eq.2 ⟨rfl, bare_mk (congrArg some hs) (retired_bare retired), hl⟩

theorem bare_isSupported (s : Session) : s.bare.isSupported = s.isSupported := by
  obtain ⟨renderer, retired⟩ := s
  cases renderer with
  | none => rfl
  | some rt => exact rt.device.isSupported_bare

theorem bare_backend (s : Session) : s.bare.backend = s.backend := by
  obtain ⟨renderer, retired⟩ := s
  cases renderer with
  | none => rfl
  | some rt => exact rt.device.backend_bare

theorem bare_perform (s : Session) (request : Request) (args : List Value) :
    (s.bare.perform request args).through bare = (s.perform request args).through bare := by
  obtain ⟨hv, hs, hl⟩ := Outcome.through_eq.1 (s.bare_attempt request args)
  unfold perform
  dsimp only
  rw [hv, hl]
  cases (s.attempt request args).value with
  | ok v => exact Outcome.through_eq.2 ⟨rfl, hs, rfl⟩
  | error e => exact Outcome.through_eq.2 ⟨rfl, hs, rfl⟩

theorem bare_run (s : Session) (entry : EntryPoint) (args : List Value) :
    (s.bare.run entry args).through bare = (s.run entry args).through bare := by
  cases entry with
  | isSupported =>
    exact Outcome.through_eq.2 ⟨congrArg Value.boolean s.bare_isSupported, s.bare_bare, rfl⟩
  | getBackend =>
    exact Outcome.through_eq.2
      ⟨congrArg (fun b : Backend => Value.string b.name) s.bare_backend, s.bare_bare, rfl⟩
  | request request => exact s.bare_perform request args
  | destroy kind => exact s.bare_destroy kind (argument args 0)
  | cleanup =>
    obtain ⟨-, hs, hl⟩ := Outcome.through_eq.1 s.bare_cleanup
    exact Outcome.through_eq.2 ⟨rfl, hs, hl⟩

/-- **Histories decide nothing.**  An action has the same answer and leaves the same contents
whatever the devices remember. -/
theorem bare_act (s : Session) (a : Action) :
    (s.bare.act a).value = (s.act a).value ∧ (s.bare.act a).state.bare = (s.act a).state.bare := by
  cases a with
  | start device => exact ⟨rfl, s.bare_start device⟩
  | cleanup => exact ⟨rfl, (Outcome.through_eq.1 s.bare_cleanup).2.1⟩
  | setFailing failing => exact ⟨rfl, s.bare_setFailing failing⟩
  | call name args =>
    show (s.bare.call name args).value = (s.call name args).value ∧
      (s.bare.call name args).state.bare = (s.call name args).state.bare
    unfold call
    cases EntryPoint.ofName? name with
    | none => exact ⟨rfl, s.bare_bare⟩
    | some entry =>
      obtain ⟨hv, hs, -⟩ := Outcome.through_eq.1 (s.bare_run entry args)
      exact ⟨congrArg some hv, hs⟩

theorem act_congr {s t : Session} (h : s.bare = t.bare) (a : Action) :
    (s.act a).value = (t.act a).value ∧ (s.act a).state.bare = (t.act a).state.bare := by
  obtain ⟨hv, hs⟩ := s.bare_act a
  obtain ⟨hv', hs'⟩ := t.bare_act a
  rw [← hv, ← hs, ← hv', ← hs', h]
  exact ⟨rfl, rfl⟩

end Session

end ScriptedRays
