import ScriptedRays.Proofs.Dormant
import ScriptedRays.Proofs.Wholeness

/-!
# Destruction — destroying takes away one resource or nothing

What a wrapper names is destroyed once: its id is taken out of the table of its kind, its resource out
of the device through one call, and whatever refers to it stays (`Released`).  A value that names
nothing registered changes nothing at all, so destroying it again does nothing either
(`destroy_destroy`).  This holds in every session that actions lead to (`Arises`), on devices with
other things on them too, as what is registered is held beside these (`Arises.heldBeside`).
-/

namespace ScriptedRays

/-- A value names what is registered for a kind under an id. -/
def Registry.Names (g : Registry) (kind : Kind) (v : Value) (id : UInt32) (e : Entry kind) : Prop :=
  Wrapper.read kind v = .ok id ∧ (g.ledger kind).get? id = some e

/-- All that changes when the entry `e` of an id is released: the device is told once to destroy
what the entry says, which takes out that resource, and the id is taken out. -/
structure Released (g : Registry) (r : Recorder) (kind : Kind) (id : UInt32) (e : Entry kind)
    (g' : Registry) (r' : Recorder) : Prop where
  told : r'.calls = r.calls ++ [.destroy kind e.handle.native]
  taken : ∃ n x before after, e.handle.native = some n ∧
    (r.arena kind).toList = before ++ (n, x) :: after ∧ (r'.arena kind).toList = before ++ after
  arenas : ∀ other, other ≠ kind → r'.arena other = r.arena other
  settings : r'.supported = r.supported ∧ r'.failing = r.failing
  entries : (g.ledger kind).entries.Perm ((id, e) :: (g'.ledger kind).entries)
  ledgers : ∀ other, other ≠ kind → g'.ledger other = g.ledger other
  nextIds : ∀ other, (g'.ledger other).nextId? = (g.ledger other).nextId?
  gone : g'.resolve kind id = .error (.unresolved kind id none)
  resolves : ∀ k i, k ≠ kind ∨ i ≠ id → g'.resolve k i = g.resolve k i
  contents : ∀ k i, k ≠ kind ∨ i ≠ id →
    (⟨.recording r', g'⟩ : Renderer).content? k i = (⟨.recording r, g⟩ : Renderer).content? k i

/-! ### Registries -/

namespace Registry

variable (g : Registry) (kind : Kind) (id : UInt32)

theorem nextId?_erase (other : Kind) :
    ((g.withLedger kind ((g.ledger kind).erase id)).ledger other).nextId? =
      (g.ledger other).nextId? :=
  Ledger.nextId?_congr (g.issued_erase kind other id)

theorem get?_erase_self : ((g.withLedger kind ((g.ledger kind).erase id)).ledger kind).get? id =
    none := by
  rw [ledger_withLedger, Ledger.get?_erase, if_pos rfl]

theorem get?_erase_of_ne {k : Kind} {i : UInt32} (h : k ≠ kind ∨ i ≠ id) :
    ((g.withLedger kind ((g.ledger kind).erase id)).ledger k).get? i = (g.ledger k).get? i := by
  by_cases hk : k = kind
  · subst hk
    rw [ledger_withLedger, Ledger.get?_erase, if_neg (h.resolve_left (not_not_intro rfl))]
  · rw [ledger_withLedger_of_ne g _ hk]

theorem resolve_erase_self :
    (g.withLedger kind ((g.ledger kind).erase id)).resolve kind id =
      .error (.unresolved kind id none) := by
  unfold resolve
  rw [get?_erase_self]

theorem resolve_erase_of_ne {k : Kind} {i : UInt32} (h : k ≠ kind ∨ i ≠ id) :
    (g.withLedger kind ((g.ledger kind).erase id)).resolve k i = g.resolve k i := by
  unfold resolve
  rw [g.get?_erase_of_ne kind id h]

end Registry

/-! ### What is held beside other things -/

/-- **A release takes away one resource**, whatever else the device holds. -/
theorem HeldBeside.released_one {others : Kind → List (Option Native × Nat)} {g : Registry}
    {r : Recorder} (h : HeldBeside others g r) {kind : Kind} {id : UInt32} {e : Entry kind}
    (he : (g.ledger kind).get? id = some e) :
    Released g r kind id e (g.withLedger kind ((g.ledger kind).erase id))
      (r.perform (.destroy kind e.handle)) where
  told := r.calls_perform (.destroy kind e.handle)
  taken := by
    obtain ⟨n, x, hn, hx, -⟩ := h.exists_item he
    obtain ⟨_, _, before, after, -, -, -, hold, -, hnew, -⟩ :=
      Arena.exists_slot (h.inRange kind) hx
    refine ⟨n, x, before, after, hn, hold, ?_⟩
    rw [Recorder.arena_destroy, hn]
    exact hnew
  arenas other hk := r.arena_destroy_of_ne e.handle hk
  settings := ⟨r.supported_perform _, r.failing_perform nofun⟩
  entries := by
    rw [Registry.ledger_withLedger]
    exact Ledger.perm_erase he
  ledgers other hk := g.ledger_withLedger_of_ne _ hk
  nextIds := g.nextId?_erase kind id
  gone := g.resolve_erase_self kind id
  resolves _ _ hki := g.resolve_erase_of_ne kind id hki
  contents k i hki := by
    -- of the same kind the other ids keep their content; other kinds are not touched
    by_cases hk : k = kind
    · subst hk
      rw [h.content?_released he]
      exact Function.update_of_ne (hki.resolve_left (not_not_intro rfl)) ..
    · rw [Renderer.content?_same (g.ledger_withLedger_of_ne _ hk)
        (r.arena_destroy_of_ne e.handle hk)]

/-! ### Destroying again -/

theorem Renderer.destroy_of_not_names {rt : Renderer} {kind : Kind} {v : Value}
    (h : ¬ ∃ id e, rt.registry.Names kind v id e) : (rt.destroy kind v).state = rt := by
  rcases rt.destroy_cases kind v with ⟨hsame, -⟩ | ⟨id, e, hread, he, -⟩
  · exact hsame
  · exact absurd ⟨id, e, hread, he⟩ h

/-- What has been destroyed is not there to be destroyed again. -/
theorem Renderer.destroy_destroy (rt : Renderer) (kind : Kind) (v : Value) :
    ((rt.destroy kind v).state.destroy kind v).state = (rt.destroy kind v).state := by
  refine destroy_of_not_names ?_
  rintro ⟨id, e, hread, he⟩
  rcases rt.destroy_cases kind v with ⟨hsame, hnone⟩ | ⟨id', e', hread', -, hgone⟩
  · rw [hsame, hnone id hread] at he
    exact absurd he nofun
  · obtain rfl : id = id' := Except.ok.inj (hread.symm.trans hread')
    rw [hgone] at he
    exact absurd ((rt.registry.get?_erase_self kind id).symm.trans he) nofun

namespace Session

theorem state_destroy_of_some {s : Session} {rt : Renderer} (h : s.renderer = some rt)
    (kind : Kind) (v : Value) :
    (s.destroy kind v).state = { s with renderer := some (rt.destroy kind v).state } := by
  unfold destroy
  rw [h]

theorem state_destroy_of_not_names {s : Session} {rt : Renderer} (h : s.renderer = some rt)
    {kind : Kind} {v : Value} (hno : ¬ ∃ id e, rt.registry.Names kind v id e) :
    (s.destroy kind v).state = s := by
  rw [state_destroy_of_some h, Renderer.destroy_of_not_names hno, ← h]

theorem destroy_destroy (s : Session) (kind : Kind) (v : Value) :
    ((s.destroy kind v).state.destroy kind v).state = (s.destroy kind v).state := by
  cases h : s.renderer with
  | none =>
    rw [destroy_of_none h]
    exact destroy_of_none h kind v
  | some rt =>
    have hafter := destroy_of_some h kind v
    rw [state_destroy_of_some hafter, rt.destroy_destroy, ← hafter]

/-! ### Sessions on any devices -/

/-- A device numbers its resources by words, and the one in use has room for one more of each
kind. -/
def Uncrowded (s : Session) : Prop :=
  ∀ g r, s.renderer = some ⟨.recording r, g⟩ → ∀ kind, (r.arena kind).size + 1 < UInt32.size

/-- The sessions that actions lead to from a new one, whatever the devices held before. -/
inductive Arises : Session → Prop
  | new : Arises {}
  | act {s : Session} {a : Action} (h : Arises s) (hroom : s.Uncrowded)
      (hrange : ∀ r, a = .start (.recording r) → r.InRange) : Arises (s.act a).state

/-- **In every session that arises** the device holds what is registered beside other things. -/
theorem Arises.heldBeside {s : Session} (h : s.Arises) {g : Registry} {r : Recorder}
    (hs : s.renderer = some ⟨.recording r, g⟩) : ∃ others, HeldBeside others g r := by
  induction h generalizing g r with
  | new => exact absurd hs nofun
  | act _ hroom hrange ih =>
    rcases continues_of_act hs with ⟨ha, rfl⟩ | ⟨g₀, r₀, hs₀, hc⟩
    · exact ⟨_, heldBeside_new (hrange r ha)⟩
    · obtain ⟨others, hl⟩ := ih hs₀
      exact ⟨others, hl.continues (hroom g₀ r₀ hs₀) hc⟩

/-- **Destroying answers undefined and takes away what is named, once.**  It takes away one resource
if the value names something registered, and nothing otherwise; destroying the same value right
afterwards does nothing. -/
theorem destroy_local {s : Session} (h : s.Arises) {g : Registry} {r : Recorder}
    (hs : s.renderer = some ⟨.recording r, g⟩) (kind : Kind) (v : Value) :
    (s.destroy kind v).value = .undefined ∧
    (∀ args, argument args 0 = v →
      (s.call (EntryPoint.destroy kind).name args).value = some .undefined ∧
      (s.call (EntryPoint.destroy kind).name args).state = (s.destroy kind v).state) ∧
    (∀ id e, g.Names kind v id e → ∃ g' r',
      (s.destroy kind v).state = { s with renderer := some ⟨.recording r', g'⟩ } ∧
      Released g r kind id e g' r') ∧
    ((¬ ∃ id e, g.Names kind v id e) → (s.destroy kind v).state = s) ∧
    ((s.destroy kind v).state.destroy kind v).value = .undefined ∧
    ((s.destroy kind v).state.destroy kind v).state = (s.destroy kind v).state := by
  refine ⟨s.value_destroy kind v, ?_, fun id e hnames => ?_, state_destroy_of_not_names hs,
    value_destroy _ kind v, s.destroy_destroy kind v⟩
  · rintro args rfl
    obtain ⟨hstate, hvalue⟩ := call_of_ofName? (s := s) (EntryPoint.ofName?_name (.destroy kind)) args
    exact ⟨hvalue.trans (congrArg some (s.value_destroy kind _)), hstate⟩
  · obtain ⟨others, hl⟩ := h.heldBeside hs
    refine ⟨_, _, ?_, hl.released_one hnames.2⟩
    rw [state_destroy_of_some hs]
    -- the wrapper was read as this id, so the entry taken out is this one
    rcases (⟨.recording r, g⟩ : Renderer).destroy_cases kind v with ⟨-, hnone⟩ |
      ⟨id', e', hread, he, hdone⟩
    · exact absurd ((hnone id hnames.1).symm.trans hnames.2) nofun
    · obtain rfl : id = id' := Except.ok.inj (hnames.1.symm.trans hread)
      obtain rfl : e = e' := Option.some.inj (hnames.2.symm.trans he)
      rw [hdone]
      rfl

/-- A session on a recorder that held one resource of each kind before, with a geometry and a structure
built from it. -/
def onUsedRecorder : Session :=
  ({} : Session).acts [.start (.recording Recorder.furnished),
    .call "createGeometry" [Action.triangle],
    .call "createBLAS" [.array [Wrapper.make .geometry 1]]]

theorem arises_onUsedRecorder : onUsedRecorder.Arises := by
  have hrange : ∀ r, Action.start (.recording Recorder.furnished) = .start (.recording r) →
      r.InRange := by
    rintro _ ⟨⟩
    exact Recorder.inRange_furnished
  have hstarted := Arises.act Arises.new nofun hrange
  have hgeometry := hstarted.act (a := .call "createGeometry" [Action.triangle]) (by
    rintro g r ⟨⟩ kind
    cases kind <;> decide +kernel) nofun
  exact hgeometry.act (a := .call "createBLAS" [.array [Wrapper.make .geometry 1]]) (by
    rintro g r ⟨⟩ kind
    cases kind <;> decide +kernel) nofun

/-- The geometry is taken away by its wrapper, which names nothing where a structure is asked for. -/
theorem destroy_local_onUsedRecorder : onUsedRecorder.Arises ∧
    ∃ g r e g' r', onUsedRecorder.renderer = some ⟨.recording r, g⟩ ∧
      g.Names .geometry (Wrapper.make .geometry 1) 1 e ∧ Released g r .geometry 1 e g' r' ∧
      (onUsedRecorder.destroy .geometry (Wrapper.make .geometry 1)).state =
        { onUsedRecorder with renderer := some ⟨.recording r', g'⟩ } ∧
      (onUsedRecorder.destroy .blas (Wrapper.make .geometry 1)).state = onUsedRecorder := by
  obtain ⟨rt, hs⟩ : ∃ rt, onUsedRecorder.renderer = some rt :=
    Option.isSome_iff_exists.1 (by decide +kernel)
  obtain ⟨e, he⟩ : ∃ e, onUsedRecorder.entryOf? .geometry 1 = some e :=
    Option.isSome_iff_exists.1 (by decide +kernel)
  have hsupported : onUsedRecorder.isSupported = true := by decide +kernel
  unfold isSupported at hsupported
  rw [hs] at hsupported
  obtain ⟨_, g⟩ := rt
  obtain ⟨r, rfl, -⟩ := Device.isSupported_iff.1 hsupported
  rw [entryOf?_of_renderer hs, Renderer.entryOf?_eq] at he
  have hnames : g.Names .geometry (Wrapper.make .geometry 1) 1 e := ⟨Wrapper.read_make _ _, he⟩
  obtain ⟨-, -, hnamed, -⟩ := destroy_local arises_onUsedRecorder hs .geometry (Wrapper.make .geometry 1)
  obtain ⟨-, -, -, hunnamed, -⟩ := destroy_local arises_onUsedRecorder hs .blas (Wrapper.make .geometry 1)
  obtain ⟨g', r', hstate, hreleased⟩ := hnamed 1 e hnames
  refine ⟨arises_onUsedRecorder, g, r, e, g', r', hs, hnames, hreleased, hstate, hunnamed ?_⟩
  rintro ⟨id, e', hread, -⟩
  exact absurd hread nofun

end Session

end ScriptedRays
