import ScriptedRays.Proofs.Batch
import ScriptedRays.Request.Trace

/-!
# Tracing — which requests to trace a scene are valid

A request is read exactly if it names a registered scene, has a size other than zero and a host handle
to go to, and its uniforms are a buffer or absent (`Traceable`); what is read is what the request
holds (`TracedFrom`).  What is told of another is the first thing that is wrong with it
(`traceFaults`), and the id of a scene exactly if an object names none (`trace_exact`).
-/

namespace ScriptedRays

/-! ### What can be wrong -/

/-- The field holds no number that comes to a word other than zero. -/
def SizeFault (options : Value) (field : String) : Error → Prop :=
  Fault (∀ w, (options.get field).word? = some w → w = 0)
    (.invalid (.notPositive field (options.get field).display))

namespace Registry

/-- All that can be wrong with a request to trace, in the order of the checks. -/
def traceFaults (g : Registry) (options : Value) : List (Error → Prop) :=
  Fault (options.object? = none) (.invalid (.notOptions options.typeName)) ::
    (g.lookupFaults .tlas (options.get "tlas") ++
      [SizeFault options "width", SizeFault options "height",
        Fault (∀ raw, options.get "outputTexture" = .external raw → raw = 0)
          (.invalid (.missingField "outputTexture")),
        Fault ((options.get "uniforms").isAbsent = false ∧
            ∀ b, options.get "uniforms" ≠ .buffer b)
          (.invalid (.uniformsNotBuffer (options.get "uniforms").typeName))])

/-- A value is an object, yet no wrapper of a scene, or one whose id is not registered. -/
def NamesNoScene (g : Registry) (v : Value) : Prop :=
  v.object? ≠ none ∧ (v.get "type" ≠ .undefined ∧ v.get "type" ≠ .string (Kind.tag .tlas) ∨
    (g.ledger .tlas).get? (Wrapper.idOf v) = none)

/-- No entry stands for a creation that failed. -/
def NonNull (g : Registry) : Prop :=
  ∀ kind id e, (g.ledger kind).get? id = some e → e.handle.native ≠ none

end Registry

/-! ### What is valid -/

/-- A request to trace that is valid. -/
structure Traceable (g : Registry) (options : Value) : Prop where
  object : ∃ o, options.object? = some o
  tlas : ∃ id e, Wrapper.read .tlas (options.get "tlas") = .ok id ∧
    (g.ledger .tlas).get? id = some e
  width : ∃ w, (options.get "width").word? = some w ∧ 1 ≤ w.toNat
  height : ∃ w, (options.get "height").word? = some w ∧ 1 ≤ w.toNat
  output : ∃ raw, options.get "outputTexture" = .external raw ∧ raw ≠ 0
  uniforms : (options.get "uniforms").isAbsent = true ∨ ∃ b, options.get "uniforms" = .buffer b

/-- What is read of uniforms: none where they are absent or empty, or else exactly their bytes. -/
structure UniformsFrom (v : Value) (uniforms : Option Bytes) : Prop where
  none_iff : uniforms = none ↔ v.isAbsent = true ∨ ∃ b, v = .buffer b ∧ b.byteLength = 0
  bytes : ∀ bytes, uniforms = some bytes → bytes ≠ [] ∧ ∃ b, v = .buffer b ∧ b.bytes = bytes
  shape : v.isAbsent = true ∨ ∃ b, v = .buffer b

/-- What is read of a request to trace: the registered handle, the size, the host handle, and the
uniforms. -/
structure TracedFrom (g : Registry) (options : Value) (t : Trace) : Prop where
  object : ∃ o, options.object? = some o
  tlas : ∃ id e, Wrapper.read .tlas (options.get "tlas") = .ok id ∧
    (g.ledger .tlas).get? id = some e ∧ t.tlas = Entry.handle e
  width : (options.get "width").word? = some t.width ∧ 1 ≤ t.width.toNat
  height : (options.get "height").word? = some t.height ∧ 1 ≤ t.height.toNat
  output : options.get "outputTexture" = .external t.output.raw
  uniforms : UniformsFrom (options.get "uniforms") t.uniforms

/-! ### The checks, one by one -/

theorem toNat_pos_of_ne_zero {w : UInt32} (h : w ≠ 0) : 1 ≤ w.toNat :=
  Nat.one_le_iff_ne_zero.2 fun hzero => h (UInt32.toNat_inj.1 hzero)

theorem checked_readSize (options : Value) (field : String) :
    Checked (readSize (options.get field) field) [SizeFault options field] fun w =>
      (options.get field).word? = some w ∧ 1 ≤ w.toNat := by
  unfold readSize
  cases hword : (options.get field).word? with
  | none => exact Checked.fail ⟨fun w hw => absurd (hword.symm.trans hw) nofun, rfl⟩
  | some n =>
    have hfault : (∀ w, (options.get field).word? = some w → w = 0) ↔ n = 0 := by
      rw [hword]
      exact ⟨fun h => h n rfl, fun h w hw => Option.some.inj hw ▸ h⟩
    unfold SizeFault
    rw [hfault]
    exact Checked.guard fun hne => Checked.pure ⟨rfl, toNat_pos_of_ne_zero hne⟩

theorem checked_readUniforms (v : Value) :
    Checked (readUniforms v)
      [Fault (v.isAbsent = false ∧ ∀ b, v ≠ .buffer b) (.invalid (.uniformsNotBuffer v.typeName))]
      (UniformsFrom v) := by
  cases v with
  | undefined =>
    refine Checked.skip (Fault.absent fun h => absurd h.1 nofun) (Checked.pure ?_)
    exact ⟨iff_of_true rfl (.inl rfl), nofun, .inl rfl⟩
  | null =>
    refine Checked.skip (Fault.absent fun h => absurd h.1 nofun) (Checked.pure ?_)
    exact ⟨iff_of_true rfl (.inl rfl), nofun, .inl rfl⟩
  | buffer b =>
    refine Checked.skip (Fault.absent fun h => h.2 b rfl) (Checked.pure ?_)
    cases hempty : b.isEmpty with
    | true =>
      exact ⟨iff_of_true rfl (.inr ⟨b, rfl, Buffer.isEmpty_iff.1 hempty⟩), nofun, .inr ⟨b, rfl⟩⟩
    | false =>
      have hlength : b.byteLength ≠ 0 := fun h => by
        rw [Buffer.isEmpty_iff.2 h] at hempty
        cases hempty
      refine ⟨iff_of_false nofun ?_, ?_, .inr ⟨b, rfl⟩⟩
      · rintro (h | ⟨b', hb, h⟩)
        · cases h
        · obtain rfl := Value.buffer.inj hb
          exact hlength h
      · rintro bytes hbytes
        obtain rfl := Option.some.inj hbytes
        exact ⟨fun h => hlength (List.length_eq_zero_iff.2 h), b, rfl, rfl⟩
  | _ => exact Checked.fail ⟨⟨rfl, nofun⟩, rfl⟩

theorem checked_readTrace (g : Registry) (options : Value) :
    Checked (g.readTrace options) (g.traceFaults options) (TracedFrom g options) := by
  unfold Registry.readTrace Registry.traceFaults
  cases ho : options.object? with
  | none => exact Checked.fail ⟨rfl, rfl⟩
  | some o =>
    refine Checked.skip (Fault.absent nofun) ?_
    simp only [← Value.get_of_object? ho]
    refine (g.checked_lookup .tlas _).self.bind fun e he => ?_
    refine (checked_readSize options "width").bind_cons fun width hwidth => ?_
    refine (checked_readSize options "height").bind_cons fun height hheight => ?_
    obtain ⟨id, hid, hentry⟩ := Registry.lookup_eq_ok.1 he.1
    cases houtput : options.get "outputTexture" with
    | external raw =>
      by_cases hraw : raw = 0
      · subst hraw
        exact Checked.fail ⟨fun raw hraw => (Value.external.inj hraw).symm, rfl⟩
      · refine Checked.skip (Fault.absent fun h => hraw (h raw rfl)) ?_
        have hnative : (Value.external raw).external?.bind Native.ofRaw = some ⟨raw, hraw⟩ := by
          have hexternal : (Value.external raw).external? = some raw := if_neg hraw
          rw [hexternal, Option.bind_some]
          exact dif_neg hraw
        rw [hnative]
        refine (checked_readUniforms _).bind_nil fun uniforms huniforms => Checked.pure ?_
        exact ⟨⟨o, ho⟩, ⟨id, e, hid, hentry, rfl⟩, hwidth, hheight, houtput, huniforms⟩
    | _ => exact Checked.fail ⟨nofun, rfl⟩

/-! ### The request as a whole -/

theorem SizeFault.absent {options : Value} {field : String}
    (h : ∃ w, (options.get field).word? = some w ∧ 1 ≤ w.toNat) (e : Error) :
    ¬ SizeFault options field e := by
  obtain ⟨w, hw, hpos⟩ := h
  rintro ⟨hzero, -⟩
  rw [hzero w hw] at hpos
  exact absurd hpos (by decide)

section Request

variable {g : Registry} {options : Value}

/-- Nothing is wrong with a valid request. -/
theorem Traceable.faultless (h : Traceable g options) : Faultless (g.traceFaults options) := by
  obtain ⟨o, ho⟩ := h.object
  obtain ⟨id, e, hid, hentry⟩ := h.tlas
  obtain ⟨raw, houtput, hraw⟩ := h.output
  have hlookup := ((g.checked_lookup .tlas _).ok e (Registry.lookup_eq_ok.2 ⟨id, hid, hentry⟩)).2
  refine List.forall_mem_cons.2 ⟨Fault.absent (ho ▸ nofun), List.forall_mem_append.2 ⟨hlookup, ?_⟩⟩
  refine List.forall_mem_cons.2 ⟨SizeFault.absent h.width, List.forall_mem_cons.2
    ⟨SizeFault.absent h.height, List.forall_mem_cons.2 ⟨?_, List.forall_mem_singleton.2 ?_⟩⟩⟩
  · exact Fault.absent fun hzero => hraw (hzero raw houtput)
  · refine Fault.absent fun ⟨hpresent, hbuffer⟩ => ?_
    rcases h.uniforms with habsent | ⟨b, hb⟩
    · rw [hpresent] at habsent
      cases habsent
    · exact hbuffer b hb

theorem TracedFrom.traceable {t : Trace} (h : TracedFrom g options t) : Traceable g options := by
  obtain ⟨id, e, hid, hentry, -⟩ := h.tlas
  exact ⟨h.object, ⟨id, e, hid, hentry⟩, ⟨_, h.width⟩, ⟨_, h.height⟩,
    ⟨_, h.output, t.output.raw_ne_zero⟩, h.uniforms.shape⟩

theorem exists_readTrace_iff : (∃ t, g.readTrace options = .ok t) ↔ Traceable g options :=
  ⟨fun ⟨t, ht⟩ => ((checked_readTrace g options).ok t ht).1.traceable,
    fun h => (checked_readTrace g options).exists_ok_iff.2 h.faultless⟩

theorem readTrace_eq_error {e : Error} :
    g.readTrace options = .error e ↔ FirstFault (g.traceFaults options) e := by
  refine (checked_readTrace g options).error_iff ?_
  simp only [Registry.traceFaults, Registry.lookupFaults, SizeFault, List.cons_append,
    List.nil_append, List.forall_mem_cons, List.not_mem_nil, false_imp_iff, implies_true, and_true]
  exact ⟨fun _ _ => Fault.unique, fun _ _ => Fault.unique, fun _ _ => Fault.unique,
    fun _ _ => Fault.unique, fun _ _ => Fault.unique, fun _ _ => Fault.unique,
    fun _ _ => Fault.unique, fun _ _ => Fault.unique⟩

/-- An object that names no scene is told of before anything that follows it. -/
theorem readTrace_of_namesNoScene (h : g.NamesNoScene (options.get "tlas")) :
    g.readTrace options = .error (.unresolved .tlas (Wrapper.idOf (options.get "tlas")) none) := by
  have hobject : options.object? ≠ none := by
    cases options with
    | object keys fields => nofun
    | _ => exact absurd rfl h.1
  refine readTrace_eq_error.2 (.later (Fault.absent hobject) (.later (Fault.absent h.1) ?_))
  cases hadmits : Wrapper.admits .tlas ((options.get "tlas").get "type") with
  | false => exact .here ⟨rfl, rfl⟩
  | true =>
    have hunknown : (g.ledger .tlas).get? (Wrapper.idOf (options.get "tlas")) = none := by
      refine h.2.resolve_left fun htag => ?_
      rw [Wrapper.admits_eq_false_iff.2 htag] at hadmits
      cases hadmits
    exact .later (Fault.absent nofun) (.here ⟨hunknown, rfl⟩)

theorem invalid_of_not_namesNoScene {e : Error} (he : g.readTrace options = .error e)
    (h : ¬ g.NamesNoScene (options.get "tlas")) : ∃ complaint, e = .invalid complaint := by
  have hfirst := readTrace_eq_error.1 he
  unfold Registry.traceFaults Registry.lookupFaults at hfirst
  cases hfirst with
  | here hfault => exact ⟨_, hfault.2⟩
  | later _ hfirst =>
  cases hfirst with
  | here hfault => exact ⟨_, hfault.2⟩
  | later hnone hfirst =>
  have hobject : (options.get "tlas").object? ≠ none := fun hv => hnone _ ⟨hv, rfl⟩
  cases hfirst with
  | here hfault =>
    -- the two faults of the scene itself are ruled out by the hypothesis
    exact absurd ⟨hobject, .inl (Wrapper.admits_eq_false_iff.1 hfault.1)⟩ h
  | later _ hfirst =>
  cases hfirst with
  | here hfault => exact absurd ⟨hobject, .inr hfault.1⟩ h
  | later _ hfirst =>
    obtain ⟨fault, hmem, hfault⟩ := hfirst.exists_mem
    change fault ∈ [_, _, _, _] at hmem
    simp only [List.mem_cons, List.not_mem_nil, or_false] at hmem
    rcases hmem with rfl | rfl | rfl | rfl
    · exact ⟨_, hfault.2⟩
    · exact ⟨_, hfault.2⟩
    · exact ⟨_, hfault.2⟩
    · exact ⟨_, hfault.2⟩

end Request

/-! ### Requests on a registry -/

namespace Registry

theorem nonNull_new : NonNull {} := fun kind id e he => by
  cases kind <;> exact absurd he nofun

/-- What is registered is never null, for a null handle is refused. -/
theorem NonNull.register {g : Registry} (h : g.NonNull) (kind : Kind) (e : Entry kind) :
    (g.register kind e).state.NonNull := by
  cases hnull : e.handle.isNull with
  | true => rw [register_of_isNull g hnull]; exact h
  | false =>
    cases hi : (g.ledger kind).insert e.withId with
    | none => rw [register_of_insert_none hnull hi]; exact h
    | some stored =>
      obtain ⟨new, t⟩ := stored
      rw [register_of_insert hnull hi]
      intro other id e' he
      -- only the new entry needs an argument, and it was stored because its handle is not null
      by_cases ho : other = kind
      · subst ho
        rw [ledger_withLedger, Ledger.get?_insert hi] at he
        by_cases hid : id = new
        · rw [if_pos hid] at he
          rw [← Option.some.inj he, Entry.handle_withId, Handle.native_withId]
          exact Option.isNone_eq_false_iff.1 hnull |> Option.isSome_iff_ne_none.1
        · rw [if_neg hid] at he
          exact h other id e' he
      · rw [ledger_withLedger_of_ne g t ho] at he
        exact h other id e' he

/-- With no entry for a creation that failed, a request to trace is read exactly if it is valid, and
what is read is what it holds, with a scene that is not null.  What is told of another is the first
thing that is wrong with it: the id of a scene exactly if an object names none, or else that the input
is invalid. -/
theorem trace_exact (g : Registry) (hg : g.NonNull) (options : Value) :
    ((∃ t, g.readTrace options = .ok t) ↔ Traceable g options) ∧
    (∀ t, g.readTrace options = .ok t → TracedFrom g options t ∧ t.tlas.native ≠ none) ∧
    (∀ e, g.readTrace options = .error e ↔ FirstFault (g.traceFaults options) e) ∧
    (∀ id, g.readTrace options = .error (.unresolved .tlas id none) ↔
      id = Wrapper.idOf (options.get "tlas") ∧ g.NamesNoScene (options.get "tlas")) ∧
    ∀ e, g.readTrace options = .error e → ¬ g.NamesNoScene (options.get "tlas") →
      ∃ complaint, e = .invalid complaint := by
  refine ⟨exists_readTrace_iff, fun t ht => ?_, fun _ => readTrace_eq_error, fun id => ?_,
    fun _ => invalid_of_not_namesNoScene⟩
  · have htraced := ((checked_readTrace g options).ok t ht).1
    obtain ⟨id, e, -, hentry, htlas⟩ := htraced.tlas
    exact ⟨htraced, htlas ▸ hg .tlas id e hentry⟩
  · refine ⟨fun herror => ?_, ?_⟩
    · by_cases hnames : g.NamesNoScene (options.get "tlas")
      · have htold := herror.symm.trans (readTrace_of_namesNoScene hnames)
        simp only [Except.error.injEq, Error.unresolved.injEq, true_and, and_true] at htold
        exact ⟨htold, hnames⟩
      · obtain ⟨complaint, hinvalid⟩ := invalid_of_not_namesNoScene herror hnames
        cases hinvalid
    · rintro ⟨rfl, hnames⟩
      exact readTrace_of_namesNoScene hnames

theorem nonNull_stocked : stocked.NonNull := ((nonNull_new.register _ _).register _ _).register _ _

/-- A request to trace into the host handle seven, with uniforms as told. -/
def tracing (scene uniforms : Value) : Value :=
  .ofPairs [("tlas", scene), ("width", .ofWord 640), ("height", .ofWord 480),
    ("outputTexture", .external 7), ("uniforms", uniforms)]

theorem traceable_tracing {uniforms : Value}
    (h : uniforms.isAbsent = true ∨ ∃ b, uniforms = .buffer b) :
    Traceable stocked (tracing (Wrapper.make .tlas 1) uniforms) where
  object := ⟨_, rfl⟩
  tlas := ⟨1, ⟨⟨some ⟨0x30, by decide⟩, 1⟩, 2⟩, Wrapper.read_make .tlas 1, by decide +kernel⟩
  width := ⟨640, Value.word?_ofWord 640, by decide⟩
  height := ⟨480, Value.word?_ofWord 480, by decide⟩
  output := ⟨7, rfl, by decide⟩
  uniforms := h

/-- The registered scene is traced, without the uniforms where they are empty; a structure is no
scene, and that is told of before the string in place of the uniforms. -/
theorem trace_exact_stocked : stocked.NonNull ∧
    (∃ t, stocked.readTrace (tracing (Wrapper.make .tlas 1) (.buffer (.ofBytes []))) = .ok t ∧
      t.tlas.native ≠ none ∧ t.uniforms = none) ∧
    stocked.readTrace (tracing (Wrapper.make .blas 1) (.string "")) =
      .error (.unresolved .tlas 1 none) := by
  refine ⟨nonNull_stocked, ?_, ?_⟩
  · obtain ⟨haccepts, hread, -⟩ := trace_exact stocked nonNull_stocked
      (tracing (Wrapper.make .tlas 1) (.buffer (.ofBytes [])))
    obtain ⟨t, ht⟩ := haccepts.2 (traceable_tracing (.inr ⟨_, rfl⟩))
    exact ⟨t, ht, (hread t ht).2, (hread t ht).1.uniforms.none_iff.2 (.inr ⟨_, rfl, rfl⟩)⟩
  · obtain ⟨-, -, -, hunresolved, -⟩ := trace_exact stocked nonNull_stocked
      (tracing (Wrapper.make .blas 1) (.string ""))
    refine (hunresolved 1).2 ⟨?_, nofun, .inl ⟨nofun, fun htag => ?_⟩⟩
    · exact congrArg (Option.getD · 0) (Value.word?_ofWord 1).symm
    · exact absurd (Value.string.inj htag) (by decide)

end Registry

end ScriptedRays
