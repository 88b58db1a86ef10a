import ScriptedRays.Launch.Basic
import ScriptedRays.Proofs.Dormant
import ScriptedRays.Proofs.Precedence

/-!
# Scene — what is told when the scene is played without support

No device of this build can trace rays, so the session of a run is idle, whatever is preferred: no call
changes it, and each adds to the records the same lines whatever its arguments are (`Run.call_request`,
`Run.perform_destroy`).  So do the calls of a frame, by induction those of any number of frames
(`Scene.draw_eq`), and the whole script, which is thus known in full (`Scene.records_eq`).
-/

namespace ScriptedRays

/-! ### Frames that are asked for -/

namespace Text

/-- Digits whose number stays within the bound are read as that number. -/
theorem digitsUpTo_eq_ok {bound : Nat} {beyond : IntegerFault} {digits : List Char}
    (hdigits : ∀ c ∈ digits, c.isDigit = true) {n : Nat}
    (hbound : Nat.ofDigitChars 10 digits n ≤ bound) :
    digitsUpTo bound beyond n digits = .ok (Nat.ofDigitChars 10 digits n) := by
  induction digits generalizing n with
  | nil => rfl
  | cons c rest ih =>
    rw [Nat.ofDigitChars_cons] at hbound ⊢
    have hnext : 10 * n + (c.toNat - '0'.toNat) ≤ bound := by
      rw [Nat.ofDigitChars_eq_ofDigitChars_zero] at hbound
      have hpow : 0 < 10 ^ rest.length := Nat.pow_pos (by decide)
      exact (Nat.le_mul_of_pos_left _ hpow).trans (Nat.le_of_add_right_le hbound)
    unfold digitsUpTo
    rw [if_neg (by simp [hdigits c List.mem_cons_self]), if_neg (Nat.not_lt.2 hnext)]
    exact ih (fun d hd => hdigits d (List.mem_cons_of_mem _ hd)) hbound

/-- The digits of a number begin with one that is no sign. -/
theorem exists_toList_decimal (n : Nat) :
    ∃ c rest, (decimal n).toList = c :: rest ∧ c ≠ '-' ∧ c ≠ '+' := by
  cases hdigits : Nat.toDigits 10 n with
  | nil => exact absurd hdigits Nat.toDigits_ne_nil
  | cons c rest =>
    have hc : c.isDigit = true :=
      Nat.isDigit_of_mem_toDigits (b := 10) (n := n) (by decide) (by decide)
        (hdigits ▸ List.mem_cons_self)
    refine ⟨c, rest, by rw [decimal, String.toList_ofList, hdigits], ?_, ?_⟩
    · rintro rfl
      exact absurd hc (by decide)
    · rintro rfl
      exact absurd hc (by decide)

theorem readInteger_decimal {n : Nat} (h : n ≤ largestInteger) :
    readInteger (decimal n) = .ok n := by
  have hread : digitsUpTo largestInteger .tooLarge 0 (decimal n).toList = .ok n := by
    have hvalue : Nat.ofDigitChars 10 (Nat.toDigits 10 n) 0 = n := Nat.ofDigitChars_ten_toDigits
    rw [decimal, String.toList_ofList, digitsUpTo_eq_ok _ (hvalue.trans_le h), hvalue]
    exact fun c hc => Nat.isDigit_of_mem_toDigits (by decide) (by decide) hc
  obtain ⟨c, rest, hlist, hminus, hplus⟩ := exists_toList_decimal n
  rw [hlist] at hread
  unfold readInteger
  rw [hlist]
  split
  next h => exact absurd h nofun
  next h => exact absurd (List.cons.inj h).1 hplus
  next h => exact absurd (List.cons.inj h).1 hminus
  next h => exact absurd (List.cons.inj h).1 hminus
  next h => exact absurd (List.cons.inj h).1 hplus
  next =>
    rw [hread]
    rfl

end Text

namespace Options

theorem readFrames_decimal (n : UInt32) : readFrames (Text.decimal n.toNat) = .ok n := by
  have hsize := n.toNat_lt
  have hlarge : n.toNat ≤ Text.largestInteger := by
    unfold Text.largestInteger
    omega
  have hrange : 0 ≤ (n.toNat : Int) ∧ (n.toNat : Int) < UInt32.size := by
    unfold UInt32.size
    omega
  unfold readFrames
  rw [Text.readInteger_decimal hlarge]
  show (if _ then _ else _) = _
  rw [if_pos hrange]
  exact congrArg Except.ok UInt32.ofNat_toNat

/-- Every number of frames can be asked for. -/
theorem parse_frames (n : UInt32) :
    parse ["--frames", Text.decimal n.toNat] = .ok { frames := some n } := by
  obtain ⟨c, rest, hlist, hminus, -⟩ := Text.exists_toList_decimal n.toNat
  have hoption : parse ["--frames", Text.decimal n.toNat] =
      Scan.run ⟨{}, some (.frames, none)⟩ [Text.decimal n.toNat] := rfl
  have hvalue : Scan.run ⟨{}, some (.frames, none)⟩ [Text.decimal n.toNat] =
      ({} : Options).give .frames (Text.decimal n.toNat) := by
    unfold Scan.run
    rw [hlist]
    split
    next h => exact absurd (List.cons.inj h).1 hminus
    next h => exact absurd (List.cons.inj h).1 hminus
    next h => exact absurd (List.cons.inj h).1 hminus
    next => rfl
  rw [hoption, hvalue]
  unfold give
  rw [if_neg (by decide)]
  dsimp only
  rw [readFrames_decimal]

end Options

/-! ### Calls without support -/

/-- The warning about a function, as long as there is no support. -/
def Record.refusal (name : String) : Record := .warn (name ++ ": hardware ray tracing not available")

theorem Session.failure_unsupported (r : Request) :
    failure r .unsupported = .refusal r.name := by
  unfold failure Record.refusal
  rw [String.append_assoc]
  rfl

/-- What is told when nothing is to be destroyed. -/
def Kind.nothingLeft (kind : Kind) : Record :=
  .debug ("destroy " ++ kind.tag ++ ": expected a " ++ kind.tag ++ " handle, got null")

namespace Run

/-- The run after some more was told while nothing else changed. -/
def telling (run : Run) (more : List Record) : Run := ⟨run.session, more.reverse ++ run.told⟩

theorem telling_append (run : Run) (told more : List Record) :
    run.telling (told ++ more) = (run.telling told).telling more := by
  unfold telling
  rw [List.reverse_append, List.append_assoc]

theorem tell_telling (run : Run) (told : List Record) (r : Record) :
    (run.telling told).tell r = run.telling (told ++ [r]) := (run.telling_append told [r]).symm

theorem after_telling {α : Type} {run : Run} {told : List Record} {done : Outcome Session α}
    (h : done.state = run.session) :
    (run.telling told).after done = (done.value, run.telling (told ++ done.log)) := by
  rw [telling_append]
  unfold after telling
  rw [h]

/-- A call by the name of a function is a call of the function. -/
theorem call_eq_after (run : Run) (name : String) {e : EntryPoint} (hname : e.name = name)
    (args : List Value) : run.call name args = run.after (run.session.run e args) := by
  subst hname
  unfold call Session.call
  rw [EntryPoint.ofName?_name]
  rfl

section Idle

variable {run : Run} (h : run.session.Idle) (told : List Record)
include h

theorem call_isSupported (args : List Value) :
    (run.telling told).call "isSupported" args = (.boolean false, run.telling told) := by
  rw [call_eq_after _ "isSupported" (e := .isSupported) rfl]
  exact congrArg (·, run.telling told) (h.value_run .isSupported args)

theorem call_getBackend (args : List Value) :
    (run.telling told).call "getBackend" args = (.string "none", run.telling told) := by
  rw [call_eq_after _ "getBackend" (e := .getBackend) rfl]
  exact congrArg (·, run.telling told) (h.value_run .getBackend args)

/-- A request is turned down, whatever it asks for. -/
theorem call_request (name : String) {r : Request} (hname : r.name = name) (args : List Value) :
    (run.telling told).call name args =
      ((EntryPoint.request r).unavailable, run.telling (told ++ [.refusal name])) := by
  subst hname
  have hdone : run.session.run (.request r) args =
      ⟨(EntryPoint.request r).unavailable, run.session, [.refusal r.name]⟩ := by
    show run.session.perform r args = _
    unfold Session.perform
    rw [h.attempt_eq, ← Session.failure_unsupported, EntryPoint.unavailable_request]
    rfl
  rw [call_eq_after _ r.name (e := .request r) rfl]
  show (run.telling told).after (run.session.run (.request r) args) = _
  rw [hdone, after_telling rfl]

theorem perform_request (name : String) {r : Request} (hname : r.name = name) (args : List Value) :
    (run.telling told).perform name args = run.telling (told ++ [.refusal name]) :=
  congrArg Prod.snd (call_request h told name hname args)

/-- A resource that was not created is null, and null names nothing that could be destroyed. -/
theorem perform_destroy (hstarted : run.session.isStarted = true) (name : String) {k : Kind}
    (hname : (EntryPoint.destroy k).name = name) :
    (run.telling told).perform name [.null] = run.telling (told ++ [k.nothingLeft]) := by
  have hlog : (run.session.destroy k .null).log = [k.nothingLeft] := by
    obtain ⟨rt, hrt⟩ := Option.isSome_iff_exists.1 hstarted
    unfold Session.destroy
    rw [hrt]
    show (rt.destroy k .null).log = _
    unfold Renderer.destroy
    rw [Wrapper.read_of_not_object rfl]
    cases k <;> rfl
  unfold perform
  rw [call_eq_after _ name hname]
  show ((run.telling told).after (run.session.destroy k .null)).2 = _
  rw [after_telling (h.state_destroy k .null), hlog]

end Idle

end Run

namespace Scene

/-! ### The script -/

/-- What some frames tell. -/
def framesTold (frames : Nat) : List Record :=
  (List.replicate frames [.refusal "updateTLAS", .refusal "traceRays"]).flatten

theorem framesTold_succ (frames : Nat) : framesTold (frames + 1) =
    framesTold frames ++ [.refusal "updateTLAS", .refusal "traceRays"] := by
  unfold framesTold
  rw [List.replicate_succ', List.flatten_concat]

/-- What the script tells. -/
def scriptTold (frames : Nat) : List Record :=
  [.info "rtBridge.isSupported() = false, getBackend() = \"none\"",
    .refusal "createGeometry", .refusal "createBLAS", Kind.geometry.nothingLeft,
    .refusal "createTLAS", .info "geometry -> null -> null"] ++
  framesTold frames ++ [Kind.tlas.nothingLeft, Kind.blas.nothingLeft]

section Idle

variable {run : Run} (h : run.session.Idle) (told : List Record)
include h

/-- **One frame**, whatever is turned and traced in it. -/
theorem drawFrame_eq (blas tlas : Value) (frame : Nat) :
    drawFrame blas tlas (run.telling told) frame =
      run.telling (told ++ [.refusal "updateTLAS", .refusal "traceRays"]) := by
  unfold drawFrame
  rw [Run.perform_request h told "updateTLAS" (r := .updateTlas) rfl,
    Run.perform_request h _ "traceRays" (r := .traceRays) rfl, List.append_assoc]
  rfl

/-- **All frames**, by induction on their number. -/
theorem draw_eq (blas tlas : Value) (frames : Nat) :
    draw blas tlas frames (run.telling told) = run.telling (told ++ framesTold frames) := by
  induction frames with
  | zero => exact congrArg run.telling (List.append_nil told).symm
  | succ frames ih =>
    have hlast : draw blas tlas (frames + 1) (run.telling told) =
        drawFrame blas tlas (draw blas tlas frames (run.telling told)) frames := Nat.fold_succ ..
    rw [hlast, ih, drawFrame_eq h, framesTold_succ, List.append_assoc]

/-- **The whole script.**  What was not created is null, and as null it goes into the calls that follow. -/
theorem play_eq (hstarted : run.session.isStarted = true) (frames : Nat) :
    play frames (run.telling told) = run.telling (told ++ scriptTold frames) := by
  have hanswers : globalName ++ ".isSupported() = " ++ (Value.boolean false).display ++
      ", getBackend() = " ++ (Value.string "none").display =
      "rtBridge.isSupported() = false, getBackend() = \"none\"" := by
    decide +kernel
  have hresults : "geometry -> " ++ Value.null.display ++ " -> " ++ Value.null.display =
      "geometry -> null -> null" := by
    decide +kernel
  -- each statement of the script is one call, and each call adds its own records
  unfold play
  simp only [Run.call_isSupported h, Run.call_getBackend h, Run.tell_telling,
    Run.call_request h _ "createGeometry" (r := .create .geometry) rfl,
    Run.call_request h _ "createBLAS" (r := .create .blas) rfl,
    Run.call_request h _ "createTLAS" (r := .create .tlas) rfl,
    Run.perform_destroy h _ hstarted "destroyGeometry" (k := .geometry) rfl,
    Run.perform_destroy h _ hstarted "destroyBLAS" (k := .blas) rfl,
    Run.perform_destroy h _ hstarted "destroyTLAS" (k := .tlas) rfl,
    EntryPoint.unavailable, draw_eq h, hanswers, hresults]
  unfold scriptTold
  simp only [List.append_assoc, List.cons_append, List.nil_append]

end Idle

/-! ### The whole run -/

/-- What is told before the script: the configuration, the choice of the device, its start. -/
def startTold (config : Config) : List Record :=
  [.info ("config: backend = " ++ config.backend.name ++ ", log_level = " ++
    config.verbosity.label)] ++
  (Device.select config.backend).2 ++
  [.info "rtBridge initialized (backend: none, hardware ray tracing: false)"]

/-- What is told after the script. -/
def endTold : List Record := [.info "rtBridge cleaned up (0 resources released)"]

/-- The session in which a script is played. -/
def onStub : Session := ⟨some { device := .stub }, none⟩

theorem idle_onStub : onStub.Idle := Session.Idle.new.start Device.dormant_stub

theorem startPreferred_new (preference : Preference) :
    ({} : Session).startPreferred preference =
      ⟨(), onStub, (Device.select preference).2 ++
        [.info "rtBridge initialized (backend: none, hardware ray tracing: false)"]⟩ := by
  have hstart : (({} : Session).start .stub).log =
      [.info "rtBridge initialized (backend: none, hardware ray tracing: false)"] := by
    decide +kernel
  have hstub := Device.select_eq_stub preference
  unfold Session.startPreferred
  generalize Device.select preference = selected at hstub ⊢
  obtain ⟨device, log⟩ := selected
  obtain rfl : device = .stub := hstub
  show Outcome.mk _ _ (log ++ (({} : Session).start .stub).log) = _
  rw [hstart]
  rfl

/-- **All that a run tells.**  The session begins on the stub, and at its end there is nothing to be
released. -/
theorem records_eq (config : Config) (frames : Nat) :
    records config frames = startTold config ++ scriptTold frames ++ endTold := by
  -- the session after the start is the one on the stub, whatever backend is preferred
  have hbegin : (({} : Run).tell (.info ("config: backend = " ++ config.backend.name ++
      ", log_level = " ++ config.verbosity.label))).after
      (({} : Session).startPreferred config.backend) =
      ((), (⟨onStub, []⟩ : Run).telling (startTold config)) := by
    rw [startPreferred_new]
    unfold startTold Run.telling Run.after
    simp only [List.append_nil, List.cons_append, List.nil_append, List.reverse_cons]
    rfl
  have hlog : onStub.cleanup.log = endTold := by decide +kernel
  have hcleanup : onStub.cleanup = ⟨{}, ⟨none, some .stub⟩, endTold⟩ := by
    rw [← hlog]
    rfl
  have hplay : play frames ((⟨onStub, []⟩ : Run).telling (startTold config)) = _ :=
    play_eq idle_onStub (startTold config) rfl frames
  unfold records
  dsimp only
  rw [show (Run.tell _ _).session = {} from rfl, hbegin, hplay,
    show (Run.telling _ _).session = onStub from rfl, hcleanup]
  show (if 0 < ({} : Stats).total then _ else _ : Run).told.reverse = _
  rw [if_neg (by decide)]
  unfold Run.telling Run.after
  rw [List.append_nil, List.reverse_append, List.reverse_reverse, List.reverse_reverse]

/-! ### Warnings -/

/-- The functions that a run is refused, in turn. -/
def refused (frames : Nat) : List String :=
  ["createGeometry", "createBLAS", "createTLAS"] ++
    (List.replicate frames ["updateTLAS", "traceRays"]).flatten

theorem length_refused (frames : Nat) : (refused frames).length = 3 + 2 * frames := by
  unfold refused
  rw [List.length_append, List.length_flatten, List.map_replicate, List.sum_replicate_nat,
    Nat.mul_comm]
  rfl

theorem framesTold_eq_map (frames : Nat) :
    framesTold frames =
      (List.replicate frames ["updateTLAS", "traceRays"]).flatten.map .refusal := by
  unfold framesTold
  rw [List.map_flatten, List.map_replicate]
  rfl

theorem warnings_refusals (names : List String) :
    warnings (names.map .refusal) = names.map .refusal := by
  refine List.filter_eq_self.2 fun r hr => ?_
  obtain ⟨name, -, rfl⟩ := List.mem_map.1 hr
  rfl

end Scene

theorem Device.warnings_firstSupported (candidates : List Backend) :
    warnings (firstSupported candidates).2 = [] := by
  induction candidates with
  | nil => rfl
  | cons candidate rest ih =>
    unfold firstSupported
    cases candidate with
    | none => exact ih
    | dxr => exact ih
    | vulkan => exact ih
    | metal => exact ih

theorem Device.warnings_select (preference : Preference) :
    warnings (select preference).2 = [] := by
  have hlog := warnings_firstSupported preference.candidates
  unfold select
  split
  next h => rwa [h] at hlog
  next h =>
    rw [h] at hlog
    rw [warnings_append, hlog, warnings_info, List.append_nil]

namespace Scene

theorem warnings_startTold (config : Config) : warnings (startTold config) = [] := by
  unfold startTold
  rw [warnings_append, warnings_append, Device.warnings_select]
  rfl

theorem warnings_scriptTold (frames : Nat) :
    warnings (scriptTold frames) = (refused frames).map .refusal := by
  unfold scriptTold refused
  rw [warnings_append, warnings_append, framesTold_eq_map, warnings_refusals, List.map_append]
  exact List.append_nil _

theorem warnings_records (config : Config) (frames : Nat) :
    warnings (records config frames) = (refused frames).map .refusal := by
  rw [records_eq, warnings_append, warnings_append, warnings_startTold, warnings_scriptTold]
  exact List.append_nil _

/-- A refusal is no warning of resources that are left: it ends in another letter. -/
theorem leftover_ne_refusal (left : Nat) (name : String) :
    Record.warn (Text.decimal left ++ " resources were still alive at cleanup") ≠
      .refusal name := by
  intro h
  have hlast := congrArg (fun r => r.text.toList.getLast?) h
  simp only [Record.warn, Record.refusal, String.toList_append, List.getLast?_append] at hlast
  rw [show " resources were still alive at cleanup".toList.getLast? = some 'p' by decide +kernel,
    show ": hardware ray tracing not available".toList.getLast? = some 'e' by decide +kernel,
    Option.some_or, Option.some_or] at hlast
  exact absurd hlast (by decide)

theorem leftover_not_mem (config : Config) (frames left : Nat) :
    Record.warn (Text.decimal left ++ " resources were still alive at cleanup") ∉
      records config frames := by
  intro h
  have hwarning : _ ∈ warnings (records config frames) := List.mem_filter.2 ⟨h, rfl⟩
  rw [warnings_records] at hwarning
  obtain ⟨name, -, hname⟩ := List.mem_map.1 hwarning
  exact leftover_ne_refusal left name hname.symm

/-- **The diagnostics of a run.**  Whatever the arguments, the environment and the file are, as long as
they give a configuration: the device is the stub, and the run ends well; its warnings are those of what
it is refused, three before the frames and two in each of them; and what it prints is of all its records,
in order, those of a severity that the configuration shows, each with the time and the place of its own. -/
theorem diagnostics {arguments : List String} {read : String → Except Unreadable String}
    {env : Environment} {o : Options} {frames : UInt32} {config : Config}
    (hoptions : Options.parse arguments = .ok o)
    (hframes : o.frames.getD Options.defaultFrames = frames)
    (hconfig : o.configure read env = .ok config) :
    (Device.select config.backend).1 = .stub ∧
    (launch arguments read env).exitCode = 0 ∧
    warnings (records config frames.toNat) = (refused frames.toNat).map .refusal ∧
    (refused frames.toNat).length = 3 + 2 * frames.toNat ∧
    (∀ left, .warn (Text.decimal left ++ " resources were still alive at cleanup") ∉
      records config frames.toNat) ∧
    (∀ severity, config.verbosity.allows severity = true ↔ severity ∈ config.verbosity.shown) ∧
    ∀ colours stamps,
      (launch arguments read env).output colours = [] ∧
      (launch arguments read env).errorOutput colours stamps =
        ((records config frames.toNat).filter fun r =>
          config.verbosity.allows r.severity).mapIdx fun i => Report.line colours (stamps i) := by
  have hlaunch : launch arguments read env =
      .played ((records config frames.toNat).filter fun r =>
        config.verbosity.allows r.severity) := by
    unfold launch
    rw [hoptions]
    dsimp only
    rw [hconfig, ← hframes]
    rfl
  rw [hlaunch]
  exact ⟨Device.select_eq_stub _, rfl, warnings_records _ _, length_refused _,
    leftover_not_mem _ _, fun _ => Verbosity.allows_iff, fun _ _ => ⟨rfl, rfl⟩⟩

/-- A run of one frame, of which the warnings are shown. -/
def oneFrame : Report :=
  launch ["--frames", "1"] (fun _ => .error .missing) (.only Config.verbosityVariable "warn")

/-- Records that are told second after second, line after line of a file. -/
def passing (i : Nat) : Stamp :=
  ⟨"12:00:0" ++ Text.decimal i, "engine/session\\calls", 20 + i⟩

theorem diagnostics_of_one_frame :
    oneFrame.exitCode = 0 ∧
    oneFrame.errorOutput false passing =
      ["[12:00:00] WARN  [calls:20] createGeometry: hardware ray tracing not available",
        "[12:00:01] WARN  [calls:21] createBLAS: hardware ray tracing not available",
        "[12:00:02] WARN  [calls:22] createTLAS: hardware ray tracing not available",
        "[12:00:03] WARN  [calls:23] updateTLAS: hardware ray tracing not available",
        "[12:00:04] WARN  [calls:24] traceRays: hardware ray tracing not available"] := by
  have hconfig : ({ frames := some 1 } : Options).configure (fun _ => .error .missing)
      (.only Config.verbosityVariable "warn") = .ok ⟨.auto, .upTo .warn⟩ :=
    eq_ok_of_toOption (by decide +kernel)
  obtain ⟨-, hexit, -, -, -, -, hprinted⟩ := diagnostics (Options.parse_frames 1) rfl hconfig
  refine ⟨hexit, ((hprinted false passing).2).trans ?_⟩
  rw [records_eq]
  decide +kernel

end Scene

end ScriptedRays
