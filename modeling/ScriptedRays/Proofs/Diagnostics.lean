import ScriptedRays.Proofs.Action
import ScriptedRays.Proofs.HeldBeside

/-!
# Diagnostics — what is told of a call

Two parties may warn of a request that fails: the session, in one line that names the request and the
failure, and the device, of what it refuses.  All that is registered stands on the device
(`Matched`), in every session that can be reached, so a device refuses nothing except creations that
are made to fail.  Hence a request that fails is told of in one line; only where it was the device
that failed there is a second one (`warnings_of_calls`).
-/

namespace ScriptedRays

/-- The warnings among some records, in order. -/
def warnings (log : List Record) : List Record := log.filter fun x => x.severity == .warn

@[simp] theorem warnings_append (log more : List Record) :
    warnings (log ++ more) = warnings log ++ warnings more := List.filter_append ..

@[simp] theorem warnings_info (text : String) : warnings [.info text] = [] := rfl

@[simp] theorem warnings_debug (text : String) : warnings [.debug text] = [] := rfl

/-- What the device has told already of a failure: something only where it failed itself. -/
def Error.echo : Error → List Record
  | deviceFailure kind => [.warn (Recorder.rejection kind)]
  | _ => []

theorem Error.OfInput.echo_eq_nil {e : Error} (h : e.OfInput) : e.echo = [] := by
  cases e with
  | deviceFailure kind => exact absurd h id
  | _ => rfl

/-! ### A registry and a device that hold the same -/

/-- What is registered is what the device holds, and can be told apart there. -/
structure Matched (g : Registry) (r : Recorder) : Prop where
  inRange : r.InRange
  holdings : ∀ kind, (g.holdings kind).Perm (r.holdings kind)

namespace Matched

variable {g g' : Registry} {r r' : Recorder} (h : Matched g r)
include h

/-- Nothing else is on the device. -/
theorem heldBeside : HeldBeside (fun _ => []) g r := ⟨h.inRange, h.holdings⟩

theorem held : Held g r := h.heldBeside.held

theorem size_arena (kind : Kind) : (r.arena kind).size = (g.ledger kind).size := by
  have hlen := (h.holdings kind).length_eq
  rw [Registry.holdings, Recorder.holdings, List.length_map, List.length_map,
    Ledger.length_entries] at hlen
  exact hlen.symm

/-- Whatever goes on keeps registry and device matched. -/
theorem continues (hroom : ∀ kind, (g.ledger kind).size + 1 < UInt32.size)
    (hc : Renderer.Continues g r g' r') : Matched g' r' := by
  have hl := h.heldBeside.continues (fun kind => h.size_arena kind ▸ hroom kind) hc
  exact ⟨hl.inRange, hl.holdings⟩

/-- Something that can be read is refused only where creations are made to fail. -/
theorem not_canCreate {kind : Kind} {source : Source kind} (hs : source.Usable g.Knows)
    (hn : r.mints kind (.create kind source) = none) : r.canCreate = false := by
  cases hc : r.canCreate with
  | false => rfl
  | true =>
    obtain ⟨n, hsome⟩ := Recorder.exists_mints h.inRange hc (h.held.usable hs)
    exact absurd (hn.symm.trans hsome) nofun

/-- What a device tells of a request is at most that it failed itself. -/
theorem warnings_concluded {args : List Value} {request : Request}
    {o : Outcome Renderer (Except Error Value)} (ho : Renderer.Concluded g r args request o) :
    (∀ v, o.value = .ok v → warnings o.log = []) ∧
      ∀ e, o.value = .error e → warnings o.log = e.echo := by
  cases ho with
  | failed he =>
    refine ⟨nofun, fun e h => ?_⟩
    obtain rfl := Except.error.inj h
    exact he.echo_eq_nil.symm
  | @refused kind source hs hn =>
    refine ⟨nofun, fun e he => ?_⟩
    obtain rfl := Except.error.inj he
    have hcan := h.not_canCreate ((g.reads_source kind _).1 source hs) hn
    show warnings (r.told (.create kind source)) = _
    rw [Recorder.told_of_not_canCreate hcan]
    rfl
  | created => exact ⟨fun v _ => rfl, nofun⟩
  | exhausted =>
    refine ⟨nofun, fun e he => ?_⟩
    obtain rfl := Except.error.inj he
    rfl
  | @updated scene instances hu =>
    refine ⟨fun v _ => ?_, nofun⟩
    obtain ⟨id, e, he, rfl, hl, hi⟩ := (g.reads_update _ _).1 _ hu
    -- the update is one that the scene was built for, so the device does not complain
    rcases Recorder.told_of_valid h.inRange (h.held.valid_update he hl hi) with
      hnone | ⟨kind, source, hc, -, -⟩
    · show warnings (r.told (.updateTlas e.handle instances)) = []
      rw [hnone]
      rfl
    · exact absurd hc nofun
  | traced => exact ⟨fun v _ => rfl, nofun⟩

end Matched

/-! ### Sessions that can be reached -/

/-- A device on which there is nothing: the stub, or a recorder, supported or not. -/
def Device.Unused : Device → Prop
  | stub => True
  | recording r => ∀ kind, r.arena kind = .empty

theorem matched_of_unused {r : Recorder} (h : (Device.recording r).Unused) : Matched {} r := by
  refine ⟨fun kind => ?_, fun kind => ?_⟩
  · rw [h kind]
    exact Arena.fits_empty
  · rw [Recorder.holdings, h kind]
    cases kind <;> exact List.Perm.refl _

namespace Session

/-- How many resources of a kind are registered. -/
def registered (s : Session) (kind : Kind) : Nat :=
  s.renderer.elim 0 fun rt => (rt.registry.ledger kind).size

/-- A device numbers its resources by words, and there is room for one more of each kind. -/
def HasRoom (s : Session) : Prop := ∀ kind, s.registered kind + 1 < UInt32.size

theorem HasRoom.of_renderer {s : Session} {rt : Renderer} (hroom : s.HasRoom)
    (hs : s.renderer = some rt) (kind : Kind) :
    (rt.registry.ledger kind).size + 1 < UInt32.size := by
  have hk := hroom kind
  rw [registered, hs] at hk
  exact hk

/-- The sessions that actions lead to from a new one, on devices on which there was nothing. -/
inductive Reachable : Session → Prop
  | new : Reachable {}
  | act {s : Session} {a : Action} (h : Reachable s) (hroom : s.HasRoom)
      (hunused : ∀ device, a = .start device → device.Unused) : Reachable (s.act a).state

/-- What is in use, if it is a recorder, holds what is registered. -/
def Steady (s : Session) : Prop := ∀ g r, s.renderer = some ⟨.recording r, g⟩ → Matched g r

theorem steady_of_none {s : Session} (h : s.renderer = none) : s.Steady := by
  intro g r hrt
  exact absurd (h.symm.trans hrt) nofun

/-- **One action** keeps a session steady. -/
theorem Steady.act {s : Session} (h : s.Steady) (hroom : s.HasRoom) {a : Action}
    (hunused : ∀ device, a = .start device → device.Unused) : (s.act a).state.Steady := by
  intro g' r' ht
  rcases continues_of_act ht with ⟨ha, rfl⟩ | ⟨g, r, hs, hc⟩
  · exact matched_of_unused (hunused _ ha)
  · exact (h g r hs).continues (hroom.of_renderer hs) hc

/-- **Every session that can be reached is steady.** -/
theorem Reachable.steady {s : Session} (h : s.Reachable) : s.Steady := by
  induction h with
  | new => exact steady_of_none rfl
  | act _ hroom hunused ih => exact ih.act hroom hunused

/-! ### What is told of a call -/

theorem Steady.warnings_attempt {s : Session} (h : s.Steady) (request : Request)
    (args : List Value) :
    (∀ v, (s.attempt request args).value = .ok v → warnings (s.attempt request args).log = []) ∧
      ∀ e, (s.attempt request args).value = .error e →
        warnings (s.attempt request args).log = e.echo := by
  rcases s.attempt_concluded request args with hs | ⟨g, r, o, hs, -, ho, hattempt⟩
  · rw [hs]
    refine ⟨nofun, fun e he => ?_⟩
    obtain rfl := Except.error.inj he
    rfl
  · rw [hattempt]
    exact (h g r hs).warnings_concluded ho

/-- The device fails a request exactly where it is a creation whose source can be read, on a device
that supports ray tracing and whose creations are made to fail. -/
theorem Steady.deviceFailure_iff {s : Session} (h : s.Steady) (request : Request)
    (args : List Value) (kind : Kind) :
    (s.attempt request args).value = .error (.deviceFailure kind) ↔
      request = .create kind ∧ ∃ g r source, s.renderer = some ⟨.recording r, g⟩ ∧
        r.supported = true ∧ r.failing = true ∧
        g.readSource kind (argument args 0) = .ok source := by
  constructor
  · intro hfail
    -- of all that a request can come to, only a refusal blames the device
    rcases s.attempt_concluded request args with hs | ⟨g, r, o, hs, hsup, ho, hattempt⟩
    · rw [hs] at hfail
      exact absurd (Except.error.inj hfail) nofun
    · rw [hattempt] at hfail
      cases ho with
      | failed he => exact absurd (Except.error.inj hfail) (he.ne_deviceFailure kind)
      | @refused k source hsource hn =>
        obtain rfl : k = kind := Error.deviceFailure.inj (Except.error.inj hfail)
        refine ⟨rfl, g, r, source, hs, hsup, ?_, hsource⟩
        have hcan := (h g r hs).not_canCreate ((g.reads_source k _).1 source hsource) hn
        rw [Recorder.canCreate, hsup, Bool.true_and] at hcan
        exact (Bool.not_eq_false' ..).mp hcan
      | created => exact absurd hfail nofun
      | exhausted => exact absurd (Except.error.inj hfail) nofun
      | updated => exact absurd hfail nofun
      | traced => exact absurd hfail nofun
  · rintro ⟨rfl, g, r, source, hs, hsup, hfailing, hsource⟩
    have hcan : r.canCreate = false := by
      rw [Recorder.canCreate, hsup, hfailing]
      rfl
    have hn := Recorder.mints_of_not_canCreate hcan kind source
    unfold attempt
    rw [hs]
    simp only [Renderer.answer_create_of_ok hsup hsource, Renderer.enroll_of_mints_none hn]

theorem log_call {s : Session} {name : String} {entry : EntryPoint}
    (h : EntryPoint.ofName? name = some entry) (args : List Value) :
    (s.call name args).log = (s.run entry args).log := by
  unfold call
  rw [h]

theorem log_call_request (s : Session) (request : Request) (args : List Value) :
    (s.call request.name args).log = (s.attempt request args).log ++
      (match (s.attempt request args).value with
      | .ok _ => []
      | .error e => [failure request e]) := by
  have hname : EntryPoint.ofName? request.name = some (.request request) :=
    EntryPoint.ofName?_name (.request request)
  rw [log_call hname]
  show (s.perform request args).log = _
  unfold perform
  generalize s.attempt request args = done
  obtain ⟨value, state, log⟩ := done
  cases value with
  | ok v => exact (List.append_nil log).symm
  | error e => rfl

theorem warnings_destroy (s : Session) (kind : Kind) (wrapper : Value) :
    warnings (s.destroy kind wrapper).log = [] := by
  unfold destroy
  cases s.renderer with
  | none => rfl
  | some rt =>
    show warnings (rt.destroy kind wrapper).log = []
    unfold Renderer.destroy
    cases Wrapper.read kind wrapper with
    | error e => exact warnings_debug _
    | ok id =>
      unfold Renderer.release
      dsimp only
      cases he : (rt.registry.ledger kind).get? id with
      | none => rw [Registry.release_of_none Device.destroy he]; exact warnings_debug _
      | some e => rw [Registry.release_of_some Device.destroy he]; exact warnings_debug _

theorem warnings_cleanup (s : Session) : warnings s.cleanup.log = [] := by
  unfold cleanup
  cases s.renderer with
  | none => rfl
  | some rt =>
    show warnings (rt.releaseAll.log ++ [_]) = []
    rw [warnings_append, warnings_info, List.append_nil]
    unfold Renderer.releaseAll Renderer.settle Registry.releaseAll
    dsimp only
    split <;> rfl

/-- **One line for each failing call, and a second one where the device failed.**  In every session
that can be reached, a request that comes to something is not warned of.  One that fails is warned of
by the session in one line, which names the request and the failure; the device has told before of
the failures that are its own, and these are the creations that are made to fail.  No other function
warns of anything, and a name that no function has is answered by nothing but one warning. -/
theorem warnings_of_calls {s : Session} (h : s.Reachable) :
    (∀ (request : Request) (args : List Value),
      (∀ v, (s.attempt request args).value = .ok v →
        (s.call request.name args).value = some v ∧
          warnings (s.call request.name args).log = []) ∧
      ∀ e, (s.attempt request args).value = .error e →
        (s.call request.name args).value = some request.absent ∧
          warnings (s.call request.name args).log = e.echo ++ [failure request e]) ∧
    (∀ (request : Request) (args : List Value) (kind : Kind),
      (s.attempt request args).value = .error (.deviceFailure kind) ↔
        request = .create kind ∧ ∃ g r source, s.renderer = some ⟨.recording r, g⟩ ∧
          r.supported = true ∧ r.failing = true ∧
          g.readSource kind (argument args 0) = .ok source) ∧
    (∀ (entry : EntryPoint) (args : List Value), (∀ request, entry ≠ .request request) →
      warnings (s.call entry.name args).log = []) ∧
    ∀ (name : String) (args : List Value), (∀ entry : EntryPoint, entry.name ≠ name) →
      s.call name args =
        ⟨none, s, [.warn (globalName ++ ": unknown entry point " ++ Text.quoted name)]⟩ := by
  refine ⟨fun request args => ?_, h.steady.deviceFailure_iff, fun entry args hother => ?_,
    fun name args hname => ?_⟩
  · have hvalue := (s.call_request request args).2
    have hlog := s.log_call_request request args
    obtain ⟨hok, herror⟩ := h.steady.warnings_attempt request args
    refine ⟨fun v hv => ?_, fun e he => ?_⟩
    · rw [hvalue, hlog, hv, warnings_append, hok v hv]
      exact ⟨rfl, rfl⟩
    · rw [hvalue, hlog, he, warnings_append, herror e he]
      exact ⟨rfl, rfl⟩
  · rw [log_call (EntryPoint.ofName?_name entry)]
    cases entry with
    | isSupported => rfl
    | getBackend => rfl
    | request request => exact absurd rfl (hother request)
    | destroy kind => exact s.warnings_destroy kind (argument args 0)
    | cleanup => exact s.warnings_cleanup
  · unfold call
    rw [EntryPoint.ofName?_eq_none hname]

/-- A session with one geometry, on a recorder whose creations are made to fail. -/
def refusing : Session :=
  ({} : Session).acts
    [.start (.recording .fresh), .call "createGeometry" [Action.triangle], .setFailing true]

theorem reachable_refusing : refusing.Reachable := by
  have hunused : ∀ device, Action.start (.recording .fresh) = .start device → device.Unused := by
    rintro _ ⟨⟩ kind
    cases kind <;> rfl
  have hstarted := Reachable.act Reachable.new (fun kind => by cases kind <;> decide) hunused
  have hcreated := hstarted.act (a := .call "createGeometry" [Action.triangle])
    (fun kind => by cases kind <;> decide) nofun
  exact hcreated.act (a := .setFailing true) (fun kind => by cases kind <;> decide +kernel) nofun

theorem warnings_of_calls_refusing :
    refusing.Reachable ∧
    warnings (refusing.call "createGeometry" [Action.triangle]).log =
      [.warn (Recorder.rejection .geometry),
        failure (.create .geometry) (.deviceFailure .geometry)] ∧
    warnings (refusing.call "createBLAS" []).log =
      [failure (.create .blas) (.invalid (.notArray "geometry handles" "undefined"))] ∧
    warnings (refusing.call "destroyGeometry" [Wrapper.make .geometry 1]).log = [] ∧
    (refusing.call "createMesh" []).state = refusing := by
  obtain ⟨hrequest, -, hother, hunknown⟩ := warnings_of_calls reachable_refusing
  have hnone : EntryPoint.ofName? "createMesh" = none := by decide
  have hname : ∀ entry : EntryPoint, entry.name ≠ "createMesh" := fun entry h => by
    have hsome := EntryPoint.ofName?_name entry
    rw [h, hnone] at hsome
    exact absurd hsome nofun
  refine ⟨reachable_refusing, ?_, ?_, hother (.destroy .geometry) _ nofun, ?_⟩
  · exact ((hrequest (.create .geometry) _).2 (.deviceFailure .geometry) rfl).2
  · exact ((hrequest (.create .blas) []).2 (.invalid (.notArray _ _)) rfl).2
  · rw [hunknown "createMesh" [] hname]

/-- A creation that is made to fail is told of in two lines, not in one. -/
theorem refused_creation_warns_twice :
    ¬ ∀ (s : Session) (request : Request) (args : List Value) (e : Error), s.Reachable →
      (s.attempt request args).value = .error e →
        warnings (s.call request.name args).log = [failure request e] := by
  intro h
  have hone := h refusing (.create .geometry) [Action.triangle] (.deviceFailure .geometry)
    reachable_refusing rfl
  have htwo : (warnings (refusing.call (Request.name (.create .geometry))
    [Action.triangle]).log).length = 2 := by decide +kernel
  rw [hone] at htwo
  exact absurd htwo (by decide)

end Session

end ScriptedRays
