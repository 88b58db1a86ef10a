import ScriptedRays.Proofs.Diagnostics
import ScriptedRays.Proofs.Teardown

/-!
# Dormant — a device without support is never touched

Selection gives the stub for every preference (`Device.select_eq_stub`).  In runs that take only
devices without support into use, nothing is ever registered, so that destroying and cleaning up have
nothing to tell a device of; everything else asks for support before it looks at its arguments
(`unsupported_untouched`).
-/

namespace ScriptedRays

/-! ### Devices without support -/

namespace Device

/-- The device cannot trace rays and has received no call. -/
structure Dormant (d : Device) : Prop where
  unsupported : d.isSupported = false
  untouched : d.calls = []

theorem dormant_stub : Dormant .stub := ⟨rfl, rfl⟩

/-- The switch is no call. -/
theorem Dormant.setFailing {d : Device} (h : d.Dormant) (failing : Bool) :
    (d.setFailing failing).Dormant := by
  cases d with
  | stub => exact h
  | recording r =>
    refine ⟨h.unsupported, ?_⟩
    have hcalls : (r.setFailing failing).calls = r.calls := by
      unfold Recorder.calls Recorder.setFailing Recorder.record
      rw [List.filterMap_append]
      exact List.append_nil _
    exact hcalls.trans h.untouched

theorem Dormant.backend_eq {d : Device} (h : d.Dormant) : d.backend = .none := by
  cases d with
  | stub => rfl
  | recording r =>
    have hr : r.supported = false := h.unsupported
    unfold backend
    simp only [hr]
    rfl

/-- No device in this build has support. -/
theorem firstSupported_eq_none (candidates : List Backend) :
    (firstSupported candidates).1 = none := by
  induction candidates with
  | nil => rfl
  | cons candidate rest ih =>
    unfold firstSupported
    cases candidate with
    | none => exact ih
    | dxr => exact ih
    | vulkan => exact ih
    | metal => exact ih

theorem select_eq_stub (preference : Preference) : (select preference).1 = stub := by
  have hnone := firstSupported_eq_none preference.candidates
  unfold select
  split
  next hsome =>
    rw [hsome] at hnone
    exact absurd hnone nofun
  next => rfl

end Device

/-- What a script gets from a function as long as there is no support. -/
def EntryPoint.unavailable : EntryPoint → Value
  | isSupported => .boolean false
  | getBackend => .string "none"
  | request (.create _) => .null
  | request .updateTlas => .undefined
  | request .traceRays => .undefined
  | destroy _ => .undefined
  | cleanup => .undefined

theorem EntryPoint.unavailable_request (r : Request) : (request r).unavailable = r.absent := by
  cases r <;> rfl

/-- The answer to an action as long as there is no support. -/
def Action.unavailable : Action → Option Value
  | call name _ => (EntryPoint.ofName? name).map EntryPoint.unavailable
  | _ => none

theorem Registry.get?_new (kind : Kind) (id : UInt32) :
    (({} : Registry).ledger kind).get? id = none := by
  cases kind with
  | geometry => exact Ledger.get?_empty id
  | blas => exact Ledger.get?_empty id
  | tlas => exact Ledger.get?_empty id

namespace Session

/-- Nothing is registered, and no device in use or given up last has support or was called. -/
structure Idle (s : Session) : Prop where
  device : ∀ rt, s.renderer = some rt → rt.device.Dormant
  registry : ∀ rt, s.renderer = some rt → rt.registry = {}
  retired : ∀ d, s.retired = some d → d.Dormant

namespace Idle

variable {s : Session}

theorem new : ({} : Session).Idle := ⟨nofun, nofun, nofun⟩

theorem attempt_eq (h : s.Idle) (request : Request) (args : List Value) :
    s.attempt request args = ⟨.error .unsupported, s, []⟩ := by
  rcases s.attempt_concluded request args with hs | ⟨g, r, o, hr, hsup, -, -⟩
  · exact hs
  · have hnot : r.supported = false := (h.device _ hr).unsupported
    rw [hsup] at hnot
    exact absurd hnot nofun

theorem state_destroy (h : s.Idle) (kind : Kind) (wrapper : Value) :
    (s.destroy kind wrapper).state = s := by
  unfold destroy
  cases hr : s.renderer with
  | none => rfl
  | some rt =>
    rcases rt.destroy_cases kind wrapper with ⟨hsame, -⟩ | ⟨id, e, -, he, -⟩
    · show (⟨some (rt.destroy kind wrapper).state, s.retired⟩ : Session) = s
      rw [hsame, ← hr]
    · rw [h.registry rt hr, Registry.get?_new] at he
      exact absurd he nofun

end Idle

theorem value_destroy (s : Session) (kind : Kind) (wrapper : Value) :
    (s.destroy kind wrapper).value = .undefined := by
  unfold destroy
  cases s.renderer with
  | none => rfl
  | some rt => rfl

namespace Idle

variable {s : Session}

theorem cleanup_eq (h : s.Idle) :
    s.cleanup.value = {} ∧ s.cleanup.state.renderer = none ∧
      s.cleanup.state.retired = s.device? := by
  unfold cleanup device?
  cases hr : s.renderer with
  | none => exact ⟨rfl, hr, rfl⟩
  | some rt =>
    obtain ⟨d, g⟩ := rt
    obtain rfl : g = {} := h.registry _ hr
    exact ⟨rfl, rfl, rfl⟩

theorem dormant (h : s.Idle) {d : Device} (hd : s.device? = some d) : d.Dormant := by
  unfold device? at hd
  cases hr : s.renderer with
  | none =>
    rw [hr] at hd
    exact h.retired d hd
  | some rt =>
    rw [hr] at hd
    obtain rfl := Option.some.inj hd
    exact h.device rt hr

theorem cleanup (h : s.Idle) : s.cleanup.state.Idle := by
  obtain ⟨-, hrenderer, hretired⟩ := h.cleanup_eq
  refine ⟨?_, ?_, ?_⟩
  · intro rt hrt
    exact absurd (hrenderer.symm.trans hrt) nofun
  · intro rt hrt
    exact absurd (hrenderer.symm.trans hrt) nofun
  · intro d hd
    exact h.dormant (hretired.symm.trans hd)

theorem start (h : s.Idle) {device : Device} (hdevice : device.Dormant) :
    (s.start device).state.Idle where
  device rt hrt := by
    obtain rfl : (⟨device, {}⟩ : Renderer) = rt := Option.some.inj hrt
    exact hdevice
  registry rt hrt := by
    obtain rfl : (⟨device, {}⟩ : Renderer) = rt := Option.some.inj hrt
    rfl
  retired := h.cleanup.retired

theorem setFailing (h : s.Idle) (failing : Bool) : (s.setFailing failing).Idle where
  device rt' hrt' := by
    obtain ⟨rt, hrt, rfl⟩ := Option.map_eq_some_iff.1 hrt'
    exact (h.device rt hrt).setFailing failing
  registry rt' hrt' := by
    obtain ⟨rt, hrt, rfl⟩ := Option.map_eq_some_iff.1 hrt'
    exact h.registry rt hrt
  retired := h.retired

/-- **No action touches a device without support.** -/
theorem act (h : s.Idle) {a : Action} (hstart : ∀ device, a = .start device → device.Dormant) :
    (s.act a).state.Idle := by
  have hacted := s.acted a
  generalize (s.act a).state = t at hacted ⊢
  cases hacted with
  | same => exact h
  | asked request args =>
    rw [h.attempt_eq]
    exact h
  | destroyed _ kind wrapper =>
    rw [h.state_destroy]
    exact h
  | ended => exact h.cleanup
  | switched failing => exact h.setFailing failing
  | started device => exact h.start (hstart device rfl)

theorem acts (h : s.Idle) {run : List Action}
    (hrun : ∀ device, Action.start device ∈ run → device.Dormant) : (s.acts run).Idle := by
  induction run generalizing s with
  | nil => exact h
  | cons a rest ih =>
    refine ih (h.act ?_) fun device hd => hrun device (List.mem_cons_of_mem _ hd)
    rintro device rfl
    exact hrun device List.mem_cons_self

/-! ### Answers -/

theorem isSupported_eq (h : s.Idle) : s.isSupported = false := by
  unfold isSupported
  cases hr : s.renderer with
  | none => rfl
  | some rt => exact (h.device rt hr).unsupported

theorem backend_eq (h : s.Idle) : s.backend = .none := by
  unfold backend
  cases hr : s.renderer with
  | none => rfl
  | some rt => exact (h.device rt hr).backend_eq

theorem stats_eq (h : s.Idle) : s.stats = {} := by
  unfold stats
  cases hr : s.renderer with
  | none => rfl
  | some rt =>
    show rt.registry.stats = {}
    rw [h.registry rt hr]
    rfl

theorem value_run (h : s.Idle) (entry : EntryPoint) (args : List Value) :
    (s.run entry args).value = entry.unavailable := by
  cases entry with
  | isSupported => exact congrArg Value.boolean h.isSupported_eq
  | getBackend =>
    show Value.string s.backend.name = _
    rw [h.backend_eq]
    rfl
  | request request =>
    show (s.perform request args).value = _
    rw [(s.perform_eq request args).2, h.attempt_eq, EntryPoint.unavailable_request]
  | destroy kind => exact s.value_destroy kind _
  | cleanup => rfl

theorem value_act (h : s.Idle) (a : Action) : (s.act a).value = a.unavailable := by
  cases a with
  | start device => rfl
  | cleanup => rfl
  | setFailing failing => rfl
  | call name args =>
    show (s.call name args).value = (EntryPoint.ofName? name).map EntryPoint.unavailable
    cases hname : EntryPoint.ofName? name with
    | none => exact (call_of_ofName?_none hname args).2
    | some entry =>
      rw [(call_of_ofName? hname args).2, h.value_run]
      rfl

theorem answers_eq (h : s.Idle) {run : List Action}
    (hrun : ∀ device, Action.start device ∈ run → device.Dormant) :
    s.answers run = run.map Action.unavailable := by
  induction run generalizing s with
  | nil => rfl
  | cons a rest ih =>
    have hact : (s.act a).state.Idle := h.act fun device hd => by
      subst hd
      exact hrun device List.mem_cons_self
    show (s.act a).value :: (s.act a).state.answers rest = _
    rw [h.value_act, ih hact fun device hd => hrun device (List.mem_cons_of_mem _ hd)]
    rfl

/-- A request is turned down for want of support, and this is all that is told. -/
theorem told (h : s.Idle) (request : Request) (args : List Value) :
    (s.call request.name args).log = [failure request .unsupported] := by
  rw [s.log_call_request, h.attempt_eq]
  rfl

/-- However the use of a device ends, it was not called. -/
theorem ended (h : s.Idle) {t : Session} (ht : s.Ends t) {d : Device} (hd : t.retired = some d) :
    d.calls = [] := by
  cases ht with
  | cleanup => exact (h.cleanup.retired d hd).untouched
  | called args =>
    have hname : EntryPoint.ofName? "cleanup" = some .cleanup := EntryPoint.ofName?_name .cleanup
    rw [(call_of_ofName? hname args).1] at hd
    exact (h.cleanup.retired d hd).untouched
  | dropped =>
    unfold drop at hd
    split at hd
    · exact (h.cleanup.retired d hd).untouched
    · exact (h.retired d hd).untouched
  | restarted device => exact (h.cleanup.retired d hd).untouched

end Idle

/-! ### Runs without support -/

/-- What a session does without support: it answers, and leaves its device alone. -/
structure Untouched (s : Session) : Prop where
  isSupported : s.isSupported = false
  backend : s.backend = .none
  stats : s.stats = {}
  attempt : ∀ request args, s.attempt request args = ⟨.error .unsupported, s, []⟩
  told : ∀ (request : Request) args,
    (s.call request.name args).log = [failure request .unsupported]
  run : ∀ entry args, (s.run entry args).value = entry.unavailable
  destroy : ∀ kind wrapper, (s.destroy kind wrapper).state = s
  cleanup : s.cleanup.value = {}
  calls : ∀ d, s.device? = some d → d.calls = []
  ended : ∀ t, s.Ends t → ∀ d, t.retired = some d → d.calls = []

theorem Idle.untouched {s : Session} (h : s.Idle) : s.Untouched where
  isSupported := h.isSupported_eq
  backend := h.backend_eq
  stats := h.stats_eq
  attempt := h.attempt_eq
  told := h.told
  run := h.value_run
  destroy := h.state_destroy
  cleanup := h.cleanup_eq.1
  calls _ hd := (h.dormant hd).untouched
  ended _ ht _ hd := h.ended ht hd

/-- **A device without support is never touched.**  In every run on such devices, of which the stub is
the one that every preference selects, each answer is the same whatever the arguments are, requests
fail for want of support before these are read, and no device is called, at its end either. -/
theorem unsupported_untouched {run : List Action}
    (hrun : ∀ device, Action.start device ∈ run → device.Dormant) :
    (∀ preference, (Device.select preference).1 = .stub) ∧ Device.Dormant .stub ∧
      ({} : Session).answers run = run.map Action.unavailable ∧
      (({} : Session).acts run).Untouched :=
  ⟨Device.select_eq_stub, Device.dormant_stub, Idle.new.answers_eq hrun,
    (Idle.new.acts hrun).untouched⟩

end Session

/-- Calls before a start, on the stub and on a recorder without support, with forged wrappers and with
the switch thrown. -/
def Action.unsupported : List Action :=
  [call "createGeometry" [triangle], start .stub, call "destroyBLAS" [Wrapper.make .blas 1],
    call "updateTLAS" [.null], start (.recording { supported := false }), setFailing true,
    call "createTLAS" [.array []], call "destroyTLAS" [Wrapper.make .tlas 1], cleanup,
    call "isSupported" [], start (.recording { supported := false }), call "cleanup" []]

theorem Action.dormant_unsupported (device : Device) (h : start device ∈ unsupported) :
    device.Dormant := by
  simp only [unsupported, List.mem_cons, List.not_mem_nil, or_false, reduceCtorEq, false_or,
    start.injEq] at h
  rcases h with rfl | rfl | rfl
  · exact Device.dormant_stub
  · exact ⟨rfl, rfl⟩
  · exact ⟨rfl, rfl⟩

theorem Session.unsupported_untouched_sample :
    ({} : Session).answers Action.unsupported =
      [some .null, none, some .undefined, some .undefined, none, none, some .null,
        some .undefined, none, some (.boolean false), none, some .undefined] ∧
    (({} : Session).acts Action.unsupported).stats = {} ∧
    ∀ d, (({} : Session).acts Action.unsupported).device? = some d → d.calls = [] := by
  obtain ⟨-, -, hanswers, huntouched⟩ := unsupported_untouched Action.dormant_unsupported
  refine ⟨hanswers.trans ?_, huntouched.stats, huntouched.calls⟩
  rfl

end ScriptedRays
