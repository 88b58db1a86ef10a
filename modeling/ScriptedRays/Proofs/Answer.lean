import ScriptedRays.Proofs.Renderer

/-!
# Answer — what a request comes to

On a recorder that supports ray tracing a request comes to one of six things (`concluded`): it fails
on its input and nothing happens, the recorder is given one command, or ids have run out and what was
created is destroyed again.  Each of them but the last is a step
(`Answered.step`).
-/

namespace ScriptedRays

/-- What a request with its arguments comes to, and the registry and the recorder after it. -/
inductive Answered (g : Registry) (r : Recorder) (args : List Value) :
    Request → Except Error Value → Registry → Recorder → Prop
  | failed {request : Request} {e : Error} (he : e.OfInput) :
      Answered g r args request (.error e) g r
  | refused {kind : Kind} {source : Source kind}
      (hs : g.readSource kind (argument args 0) = .ok source)
      (hn : r.mints kind (.create kind source) = none) :
      Answered g r args (.create kind) (.error (.deviceFailure kind)) g
        (r.perform (.create kind source))
  | created {kind : Kind} {source : Source kind} {n : Native} {id : UInt32}
      {t : Ledger (Entry kind)}
      (hs : g.readSource kind (argument args 0) = .ok source)
      (hn : r.mints kind (.create kind source) = some n)
      (ht : (g.ledger kind).insert (Entry.ofSource source ⟨some n, 0⟩).withId = some (id, t)) :
      Answered g r args (.create kind) (.ok (Wrapper.make kind id)) (g.withLedger kind t)
        (r.perform (.create kind source))
  | updated {scene : Handle .tlas} {instances : List Instance}
      (hu : g.readUpdate (argument args 0) (argument args 1) = .ok (scene, instances)) :
      Answered g r args .updateTlas (.ok .undefined) g (r.perform (.updateTlas scene instances))
  | traced {trace : Trace} (ht : g.readTrace (argument args 0) = .ok trace) :
      Answered g r args .traceRays (.ok .undefined) g (r.perform (.traceRays trace))

theorem Answered.step {g g' : Registry} {r r' : Recorder} {args : List Value} {request : Request}
    {value : Except Error Value} (h : Answered g r args request value g' r') : Step g r g' r' := by
  cases h with
  | failed he => exact Step.idle
  | @refused kind source hs hn => exact Step.refused ((g.reads_source kind _).1 source hs) hn
  | @created kind source n id t hs hn ht =>
    exact Step.created ((g.reads_source kind _).1 source hs) hn ht
  | @updated scene instances hu =>
    obtain ⟨id, e, he, rfl, hl, hi⟩ := (g.reads_update _ _).1 _ hu
    exact Step.updated he hl hi
  | @traced trace ht =>
    obtain ⟨hk, hw, hh⟩ := (g.reads_trace _).1 trace ht
    exact Step.traced hk hw hh

theorem Answered.exists_source {g g' : Registry} {r r' : Recorder} {args : List Value} {kind : Kind}
    {v : Value} (h : Answered g r args (.create kind) (.ok v) g' r') :
    ∃ source, g.readSource kind (argument args 0) = .ok source := by
  cases h with
  | created hs hn ht => exact ⟨_, hs⟩

/-- Only a creation that succeeds issues an id, and only one. -/
theorem Answered.issued {g g' : Registry} {r r' : Recorder} {args : List Value} {request : Request}
    {value : Except Error Value} (h : Answered g r args request value g' r') (kind : Kind) :
    (g'.ledger kind).issued = (g.ledger kind).issued ∨
      ∃ id, request = .create kind ∧ value = .ok (Wrapper.make kind id) ∧
        (g'.ledger kind).issued = (g.ledger kind).issued + 1 := by
  cases h with
  | failed he => exact Or.inl rfl
  | refused hs hn => exact Or.inl rfl
  | @created k source n id t hs hn ht =>
    by_cases hk : kind = k
    · subst hk
      refine Or.inr ⟨id, rfl, rfl, ?_⟩
      rw [Registry.ledger_withLedger, Ledger.issued_insert ht]
    · rw [Registry.ledger_withLedger_of_ne g t hk]
      exact Or.inl rfl
  | updated hu => exact Or.inl rfl
  | traced ht => exact Or.inl rfl

namespace Renderer

variable {g : Registry} {r : Recorder} {kind : Kind} {source : Source kind}

theorem enroll_of_mints_none (hn : r.mints kind (.create kind source) = none) :
    enroll kind g (Device.create kind source (.recording r)) (Entry.ofSource source) =
      ⟨.error (.deviceFailure kind), ⟨.recording (r.perform (.create kind source)), g⟩,
        r.told (.create kind source)⟩ := by
  rw [Recorder.mints_create] at hn
  have hnull : (Entry.ofSource source (r.create kind source).value).handle.isNull = true := by
    rw [Entry.handle_ofSource]
    unfold Handle.isNull
    rw [hn]
    rfl
  have hreg := g.register_of_isNull hnull
  have hnull' : (r.create kind source).value.isNull = true := by
    rw [← hnull, Entry.handle_ofSource]
  show enroll kind g (Device.ofRecorder (r.create kind source)) _ = _
  unfold enroll Device.ofRecorder
  simp only [hreg, hnull', if_true, List.append_nil]
  rfl

theorem isNull_ofSource (source : Source kind) (n : Native) :
    (Entry.ofSource source (⟨some n, 0⟩ : Handle kind)).handle.isNull = false := by
  rw [Entry.handle_ofSource]
  rfl

section Minted

variable {n : Native} (hn : r.mints kind (.create kind source) = some n)
include hn

theorem create_of_mints : Device.create kind source (.recording r) =
    ⟨⟨some n, 0⟩, .recording (r.perform (.create kind source)), []⟩ := by
  have hvalue := Recorder.create_value_of_mints hn
  have hlog : (r.create kind source).log = [] := by
    obtain ⟨x, -, -, hcreate⟩ := Recorder.create_of_mints hn
    rw [hcreate]
    rfl
  show (⟨(r.create kind source).value, .recording (r.create kind source).state,
    (r.create kind source).log⟩ : Outcome Device (Handle kind)) = _
  rw [hvalue, hlog]
  rfl

theorem enroll_of_mints_some {id : UInt32} {t : Ledger (Entry kind)}
    (ht : (g.ledger kind).insert (Entry.ofSource source ⟨some n, 0⟩).withId = some (id, t)) :
    enroll kind g (Device.create kind source (.recording r)) (Entry.ofSource source) =
      ⟨.ok (Wrapper.make kind id),
        ⟨.recording (r.perform (.create kind source)), g.withLedger kind t⟩,
        [.debug ("registered " ++ kind.tag ++ " " ++ Text.decimal id.toNat ++
          (Entry.ofSource source ⟨some n, 0⟩).remark)]⟩ := by
  have hreg := Registry.register_of_insert (isNull_ofSource source n) ht
  rw [create_of_mints hn]
  unfold enroll
  simp only [hreg, List.nil_append]
  rfl

/-- Without an id to give, what was just created is destroyed again. -/
theorem enroll_of_insert_none
    (ht : (g.ledger kind).insert (Entry.ofSource source ⟨some n, 0⟩).withId = none) :
    enroll kind g (Device.create kind source (.recording r)) (Entry.ofSource source) =
      ⟨.error (.invalid (.idsExhausted kind)),
        ⟨.recording ((r.perform (.create kind source)).perform (.destroy kind ⟨some n, 0⟩)), g⟩,
        []⟩ := by
  have hreg := Registry.register_of_insert_none (isNull_ofSource source n) ht
  rw [create_of_mints hn]
  unfold enroll
  simp only [hreg]
  rfl

end Minted

section Request

variable {rt : Renderer} {α β : Type} {read : Registry → Except Error α}
  {act : α → Outcome Renderer (Except Error β)}

theorem request_of_unsupported (hs : rt.device.isSupported = false) :
    rt.request read act = rt.fail .unsupported := if_pos hs

theorem request_of_error (hs : rt.device.isSupported = true) {e : Error}
    (h : read rt.registry = .error e) : rt.request read act = rt.fail e := by
  unfold request
  rw [hs, h]
  rfl

theorem request_of_ok (hs : rt.device.isSupported = true) {a : α} (h : read rt.registry = .ok a) :
    rt.request read act = act a := by
  unfold request
  rw [hs, h]
  rfl

end Request

theorem answer_of_unsupported {rt : Renderer} (hs : rt.device.isSupported = false)
    (args : List Value) (request : Request) :
    rt.answer args request = rt.fail .unsupported := by
  cases request with
  | create kind =>
    unfold answer create
    exact request_of_unsupported hs
  | updateTlas =>
    unfold answer updateTlas
    exact request_of_unsupported hs
  | traceRays =>
    unfold answer traceRays
    exact request_of_unsupported hs

theorem answer_create_of_ok (hs : r.supported = true) {args : List Value}
    (h : g.readSource kind (argument args 0) = .ok source) :
    (⟨.recording r, g⟩ : Renderer).answer args (.create kind) =
      enroll kind g (Device.create kind source (.recording r)) (Entry.ofSource source) := by
  have hsup : (⟨.recording r, g⟩ : Renderer).device.isSupported = true := hs
  unfold answer create
  exact request_of_ok hsup h

/-- What a request with its arguments comes to on a device that supports it, with what is told. -/
inductive Concluded (g : Registry) (r : Recorder) (args : List Value) :
    Request → Outcome Renderer (Except Error Value) → Prop
  | failed {request : Request} {e : Error} (he : e.OfInput) :
      Concluded g r args request (fail ⟨.recording r, g⟩ e)
  | refused {kind : Kind} {source : Source kind}
      (hs : g.readSource kind (argument args 0) = .ok source)
      (hn : r.mints kind (.create kind source) = none) :
      Concluded g r args (.create kind)
        ⟨.error (.deviceFailure kind), ⟨.recording (r.perform (.create kind source)), g⟩,
          r.told (.create kind source)⟩
  | created {kind : Kind} {source : Source kind} {n : Native} {id : UInt32}
      {t : Ledger (Entry kind)}
      (hs : g.readSource kind (argument args 0) = .ok source)
      (hn : r.mints kind (.create kind source) = some n)
      (ht : (g.ledger kind).insert (Entry.ofSource source ⟨some n, 0⟩).withId = some (id, t)) :
      Concluded g r args (.create kind)
        ⟨.ok (Wrapper.make kind id),
          ⟨.recording (r.perform (.create kind source)), g.withLedger kind t⟩,
          [.debug ("registered " ++ kind.tag ++ " " ++ Text.decimal id.toNat ++
            (Entry.ofSource source ⟨some n, 0⟩).remark)]⟩
  | exhausted {kind : Kind} {source : Source kind} {n : Native}
      (hs : g.readSource kind (argument args 0) = .ok source)
      (hn : r.mints kind (.create kind source) = some n)
      (ht : (g.ledger kind).insert (Entry.ofSource source ⟨some n, 0⟩).withId = none) :
      Concluded g r args (.create kind)
        ⟨.error (.invalid (.idsExhausted kind)),
          ⟨.recording ((r.perform (.create kind source)).perform (.destroy kind ⟨some n, 0⟩)), g⟩,
          []⟩
  | updated {scene : Handle .tlas} {instances : List Instance}
      (hu : g.readUpdate (argument args 0) (argument args 1) = .ok (scene, instances)) :
      Concluded g r args .updateTlas
        ⟨.ok .undefined, ⟨.recording (r.perform (.updateTlas scene instances)), g⟩,
          r.told (.updateTlas scene instances)⟩
  | traced {trace : Trace} (ht : g.readTrace (argument args 0) = .ok trace) :
      Concluded g r args .traceRays
        ⟨.ok .undefined, ⟨.recording (r.perform (.traceRays trace)), g⟩, []⟩

/-- What cannot be read ends a request before the device hears of it. -/
theorem Concluded.of_read {α : Type} {args : List Value} {q : Request}
    {read : Registry → Except Error α} {act : α → Outcome Renderer (Except Error Value)}
    (hs : r.supported = true) (hread : ∀ e, read g = .error e → e.OfInput)
    (hact : ∀ a, read g = .ok a → Concluded g r args q (act a)) :
    Concluded g r args q ((⟨.recording r, g⟩ : Renderer).request read act) := by
  have hsup : (⟨.recording r, g⟩ : Renderer).device.isSupported = true := hs
  cases h : read g with
  | error e =>
    rw [request_of_error hsup h]
    exact Concluded.failed (hread e h)
  | ok a =>
    rw [request_of_ok hsup h]
    exact hact a h

/-- A creation that is refused leaves nothing to register, and one that is not may find no id left. -/
theorem concluded_enroll {args : List Value}
    (hsource : g.readSource kind (argument args 0) = .ok source) :
    Concluded g r args (.create kind)
      (enroll kind g (Device.create kind source (.recording r)) (Entry.ofSource source)) := by
  cases hn : r.mints kind (.create kind source) with
  | none =>
    rw [enroll_of_mints_none hn]
    exact Concluded.refused hsource hn
  | some n =>
    cases ht : (g.ledger kind).insert (Entry.ofSource source ⟨some n, 0⟩).withId with
    | none =>
      rw [enroll_of_insert_none hn ht]
      exact Concluded.exhausted hsource hn ht
    | some issued =>
      rw [enroll_of_mints_some hn ht]
      exact Concluded.created hsource hn ht

/-- **What a request comes to,** whatever is registered and on the device. -/
theorem concluded (hs : r.supported = true) (args : List Value) (request : Request) :
    Concluded g r args request ((⟨.recording r, g⟩ : Renderer).answer args request) := by
  cases request with
  | create kind =>
    unfold answer create
    exact Concluded.of_read hs (g.reads_source kind _).2 fun _ hsource => concluded_enroll hsource
  | updateTlas =>
    unfold answer updateTlas
    exact Concluded.of_read hs (g.reads_update _ _).2 fun _ hupdate => Concluded.updated hupdate
  | traceRays =>
    unfold answer traceRays
    exact Concluded.of_read hs (g.reads_trace _).2 fun _ htrace => Concluded.traced htrace

/-- Either ids have run out and what was created is destroyed again, or the request is answered. -/
theorem Concluded.cases_answered {args : List Value} {request : Request}
    {o : Outcome Renderer (Except Error Value)} (h : Concluded g r args request o) :
    (∃ kind source n, g.readSource kind (argument args 0) = .ok source ∧
      r.mints kind (.create kind source) = some n ∧
      (g.ledger kind).insert (Entry.ofSource source ⟨some n, 0⟩).withId = none ∧
      o.state = ⟨.recording ((r.perform (.create kind source)).perform
        (.destroy kind ⟨some n, 0⟩)), g⟩) ∨
    ∃ g' r', o.state = ⟨.recording r', g'⟩ ∧ Answered g r args request o.value g' r' := by
  cases h with
  | failed he => exact Or.inr ⟨g, r, rfl, Answered.failed he⟩
  | refused hsource hn => exact Or.inr ⟨g, _, rfl, Answered.refused hsource hn⟩
  | created hsource hn ht => exact Or.inr ⟨_, _, rfl, Answered.created hsource hn ht⟩
  | exhausted hsource hn ht => exact Or.inl ⟨_, _, _, hsource, hn, ht, rfl⟩
  | updated hupdate => exact Or.inr ⟨g, _, rfl, Answered.updated hupdate⟩
  | traced htrace => exact Or.inr ⟨g, _, rfl, Answered.traced htrace⟩

/-- Ids that last for one more creation do not run out. -/
theorem Concluded.answered {args : List Value} {request : Request}
    {o : Outcome Renderer (Except Error Value)} (h : Concluded g r args request o)
    (hi : ∀ kind, (g.ledger kind).issued + 1 < UInt32.size) :
    ∃ g' r', o.state = ⟨.recording r', g'⟩ ∧ Answered g r args request o.value g' r' := by
  rcases h.cases_answered with ⟨kind, source, n, -, -, ht, -⟩ | hanswered
  · obtain ⟨id, t, hinsert⟩ := Ledger.exists_insert (hi kind)
      (Entry.ofSource source ⟨some n, 0⟩).withId
    exact absurd (ht.symm.trans hinsert) nofun
  · exact hanswered

/-- How a registry and the recorder behind it go on: by a step, or by a creation that is undone at
once. -/
inductive Continues (g : Registry) (r : Recorder) : Registry → Recorder → Prop
  | step {g' : Registry} {r' : Recorder} (h : Step g r g' r') : Continues g r g' r'
  | undone {kind : Kind} {source : Source kind} {n : Native}
      (hn : r.mints kind (.create kind source) = some n) :
      Continues g r g ((r.perform (.create kind source)).perform (.destroy kind ⟨some n, 0⟩))

theorem Concluded.continues {args : List Value} {request : Request}
    {o : Outcome Renderer (Except Error Value)} (h : Concluded g r args request o) :
    ∃ g' r', o.state = ⟨.recording r', g'⟩ ∧ Continues g r g' r' := by
  rcases h.cases_answered with ⟨kind, source, n, -, hn, -, hstate⟩ | ⟨g', r', hstate, hanswer⟩
  · exact ⟨g, _, hstate, Continues.undone hn⟩
  · exact ⟨g', r', hstate, Continues.step hanswer.step⟩

/-! ### Releasing -/

/-- Destroying what a wrapper names either does nothing, as it names nothing registered, or releases
one resource. -/
theorem destroy_cases (rt : Renderer) (kind : Kind) (wrapper : Value) :
    ((rt.destroy kind wrapper).state = rt ∧
        ∀ id, Wrapper.read kind wrapper = .ok id → (rt.registry.ledger kind).get? id = none) ∨
      ∃ id e, Wrapper.read kind wrapper = .ok id ∧ (rt.registry.ledger kind).get? id = some e ∧
        (rt.destroy kind wrapper).state = ⟨rt.device.destroy kind e.handle,
          rt.registry.withLedger kind ((rt.registry.ledger kind).erase id)⟩ := by
  unfold destroy
  cases hread : Wrapper.read kind wrapper with
  | error e => exact Or.inl ⟨rfl, nofun⟩
  | ok id =>
    unfold release
    dsimp only
    cases he : (rt.registry.ledger kind).get? id with
    | none =>
      rw [Registry.release_of_none Device.destroy he]
      exact Or.inl ⟨rfl, fun other ho => Except.ok.inj ho ▸ he⟩
    | some e =>
      rw [Registry.release_of_some Device.destroy he]
      exact Or.inr ⟨id, e, rfl, he, rfl⟩

/-- How a renderer moves on: by a step, if its device is a recorder, and never by a creation
otherwise. -/
inductive Moves : Renderer → Renderer → Prop
  | unrecorded {g g' : Registry}
      (h : ∀ kind id, (g.ledger kind).get? id = none → (g'.ledger kind).get? id = none) :
      Moves ⟨.stub, g⟩ ⟨.stub, g'⟩
  | recorded {g g' : Registry} {r r' : Recorder} (h : Step g r g' r') :
      Moves ⟨.recording r, g⟩ ⟨.recording r', g'⟩

theorem Moves.refl (rt : Renderer) : Moves rt rt := by
  obtain ⟨_ | r, g⟩ := rt
  · exact Moves.unrecorded fun _ _ h => h
  · exact Moves.recorded Step.idle

theorem moves_destroy (rt : Renderer) (kind : Kind) (wrapper : Value) :
    Moves rt (rt.destroy kind wrapper).state := by
  rcases destroy_cases rt kind wrapper with ⟨h, -⟩ | ⟨id, e, -, he, h⟩
  · rw [h]
    exact Moves.refl rt
  · rw [h]
    obtain ⟨_ | r, g⟩ := rt
    · refine Moves.unrecorded fun k other hnone => ?_
      by_cases hk : k = kind
      · subst hk
        rw [Registry.ledger_withLedger, Ledger.get?_erase, hnone, ite_self]
      · rw [Registry.ledger_withLedger_of_ne _ _ hk]
        exact hnone
    · exact Moves.recorded (Step.released he)

theorem moves_setFailing (rt : Renderer) (failing : Bool) :
    Moves rt { rt with device := rt.device.setFailing failing } := by
  obtain ⟨_ | r, g⟩ := rt
  · exact Moves.unrecorded fun _ _ h => h
  · exact Moves.recorded (Step.switched failing)

end Renderer

end ScriptedRays
