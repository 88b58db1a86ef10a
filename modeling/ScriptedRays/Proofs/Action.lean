import ScriptedRays.Proofs.Answer
import ScriptedRays.Session.Basic

/-!
# Action — runs of a session

An action is what a host or a script does to a session; a run is any list of them.  As long as a run
creates few enough resources, no id is issued twice, and a session that starts new devices only
keeps its registry and its device in step (`sound_acts`).
-/

namespace ScriptedRays

/-- What can be done to a session. -/
inductive Action where
  | start (device : Device)
  | cleanup
  | setFailing (failing : Bool)
  | call (name : String) (args : List Value)

/-- The action leaves the device in use. -/
def Action.Lasts : Action → Prop
  | start _ => False
  | cleanup => False
  | setFailing _ => True
  | call name _ => name ≠ EntryPoint.cleanup.name

instance : DecidablePred Action.Lasts
  | .start _ => inferInstanceAs (Decidable False)
  | .cleanup => inferInstanceAs (Decidable False)
  | .setFailing _ => inferInstanceAs (Decidable True)
  | .call name _ => inferInstanceAs (Decidable (name ≠ EntryPoint.cleanup.name))

theorem Device.isSupported_iff {d : Device} :
    d.isSupported = true ↔ ∃ r, d = .recording r ∧ r.supported = true := by
  cases d with
  | stub => exact ⟨nofun, nofun⟩
  | recording r => exact ⟨fun h => ⟨r, rfl, h⟩, fun ⟨r', he, h⟩ => by cases he; exact h⟩

theorem EntryPoint.ofName?_eq_some {name : String} {entry : EntryPoint}
    (h : ofName? name = some entry) : entry.name = name := by
  unfold ofName? at h
  have hname := List.find?_some h
  exact eq_of_beq hname

theorem EntryPoint.ofName?_eq_none {name : String} (h : ∀ entry : EntryPoint, entry.name ≠ name) :
    ofName? name = none := by
  unfold ofName?
  rw [List.find?_eq_none]
  intro entry _ hname
  exact h entry (eq_of_beq hname)

namespace Session

/-- What an action comes to; a call has an answer if there is such a function. -/
def act (s : Session) : Action → Outcome Session (Option Value)
  | .start device => ⟨none, (s.start device).state, (s.start device).log⟩
  | .cleanup => ⟨none, s.cleanup.state, s.cleanup.log⟩
  | .setFailing failing => ⟨none, s.setFailing failing, []⟩
  | .call name args => s.call name args

/-- The session after a run. -/
def acts (s : Session) (run : List Action) : Session := run.foldl (fun t a => (t.act a).state) s

/-- The answers of a run, one for each action. -/
def answers : Session → List Action → List (Option Value)
  | _, [] => []
  | s, a :: rest => (s.act a).value :: answers (s.act a).state rest

/-- Whether an action creates a resource of a kind: it calls that function and gets an answer that
is not null. -/
def creates (s : Session) (kind : Kind) : Action → Bool
  | .call name args =>
    name == kind.creation && (s.call name args).value.elim false fun v => !v.isAbsent
  | _ => false

/-- How many resources of a kind a run creates. -/
def creations (kind : Kind) : Session → List Action → Nat
  | _, [] => 0
  | s, a :: rest => (s.creates kind a).toNat + creations kind (s.act a).state rest

/-- How many ids of a kind are issued. -/
def issued (s : Session) (kind : Kind) : Nat :=
  s.renderer.elim 0 fun rt => (rt.registry.ledger kind).issued

theorem issued_of_renderer {s : Session} {rt : Renderer} (h : s.renderer = some rt) (kind : Kind) :
    s.issued kind = (rt.registry.ledger kind).issued := by
  unfold issued
  rw [h]
  rfl

theorem few_of_renderer {m : Kind → Nat} {s : Session} {rt : Renderer} (h : s.renderer = some rt)
    (hfew : ∀ kind, m kind + s.issued kind < 2 ^ 31) (kind : Kind) :
    m kind + (rt.registry.ledger kind).issued < 2 ^ 31 := by
  rw [← issued_of_renderer h]
  exact hfew kind

/-! ### Requests -/

/-- A request is either turned down at once, or put to the device in use. -/
theorem attempt_concluded (s : Session) (request : Request) (args : List Value) :
    s.attempt request args = ⟨.error .unsupported, s, []⟩ ∨
      ∃ g r o, s.renderer = some ⟨.recording r, g⟩ ∧ r.supported = true ∧
        Renderer.Concluded g r args request o ∧
        s.attempt request args = ⟨o.value, { s with renderer := some o.state }, o.log⟩ := by
  unfold attempt
  cases hr : s.renderer with
  | none => exact Or.inl rfl
  | some rt =>
    cases hs : rt.device.isSupported with
    | false =>
      left
      simp only [Renderer.answer_of_unsupported hs]
      show (⟨_, { s with renderer := some rt }, _⟩ : Outcome Session (Except Error Value)) = _
      rw [← hr]
      rfl
    | true =>
      obtain ⟨device, g⟩ := rt
      obtain ⟨r, rfl, hsup⟩ := Device.isSupported_iff.1 hs
      exact Or.inr ⟨g, r, _, rfl, hsup, Renderer.concluded hsup args request, rfl⟩

/-- As long as ids last, what is put to the device in use is answered. -/
theorem attempt_cases {s : Session} (hi : ∀ kind, s.issued kind + 1 < UInt32.size)
    (request : Request) (args : List Value) :
    s.attempt request args = ⟨.error .unsupported, s, []⟩ ∨
      ∃ g r g' r', s.renderer = some ⟨.recording r, g⟩ ∧
        (s.attempt request args).state = { s with renderer := some ⟨.recording r', g'⟩ } ∧
        Answered g r args request (s.attempt request args).value g' r' := by
  rcases s.attempt_concluded request args with h | ⟨g, r, o, hr, -, ho, h⟩
  · exact Or.inl h
  · obtain ⟨g', r', hstate, hanswer⟩ := ho.answered fun kind => by
      rw [← issued_of_renderer hr]
      exact hi kind
    refine Or.inr ⟨g, r, g', r', hr, ?_, ?_⟩
    · rw [h, hstate]
    · rw [h]
      exact hanswer

theorem perform_eq (s : Session) (request : Request) (args : List Value) :
    (s.perform request args).state = (s.attempt request args).state ∧
      (s.perform request args).value =
        match (s.attempt request args).value with
        | .ok v => v
        | .error _ => request.absent := by
  unfold perform
  generalize s.attempt request args = done
  obtain ⟨value, state, log⟩ := done
  cases value with
  | ok v => exact ⟨rfl, rfl⟩
  | error e => exact ⟨rfl, rfl⟩

theorem call_of_ofName? {s : Session} {name : String} {entry : EntryPoint}
    (h : EntryPoint.ofName? name = some entry) (args : List Value) :
    (s.call name args).state = (s.run entry args).state ∧
      (s.call name args).value = some (s.run entry args).value := by
  unfold call
  rw [h]
  exact ⟨rfl, rfl⟩

theorem call_of_ofName?_none {s : Session} {name : String} (h : EntryPoint.ofName? name = none)
    (args : List Value) : (s.call name args).state = s ∧ (s.call name args).value = none := by
  unfold call
  rw [h]
  exact ⟨rfl, rfl⟩

theorem call_request (s : Session) (request : Request) (args : List Value) :
    (s.call request.name args).state = (s.attempt request args).state ∧
      (s.call request.name args).value = some
        (match (s.attempt request args).value with
        | .ok v => v
        | .error _ => request.absent) := by
  have hname : EntryPoint.ofName? request.name = some (.request request) :=
    EntryPoint.ofName?_name (.request request)
  obtain ⟨hstate, hvalue⟩ := call_of_ofName? (s := s) hname args
  obtain ⟨hs, hv⟩ := s.perform_eq request args
  rw [hstate, hvalue, ← hv, ← hs]
  exact ⟨rfl, rfl⟩

/-- A call that creates gives a wrapper exactly when the request does. -/
theorem call_create_iff (s : Session) (kind : Kind) (args : List Value) (id : UInt32) :
    (s.call kind.creation args).value = some (Wrapper.make kind id) ↔
      (s.attempt (.create kind) args).value = .ok (Wrapper.make kind id) := by
  have hcall := (s.call_request (.create kind) args).2
  show (s.call (Request.name (.create kind)) args).value = _ ↔ _
  rw [hcall]
  cases (s.attempt (.create kind) args).value with
  | ok v => exact ⟨fun h => congrArg _ (Option.some.inj h), fun h => congrArg _ (Except.ok.inj h)⟩
  | error e => exact ⟨fun h => absurd (Option.some.inj h) nofun, nofun⟩

theorem creates_request (s : Session) {request : Request} {kind : Kind} {args : List Value}
    {id : UInt32} (hr : request = .create kind)
    (h : (s.attempt request args).value = .ok (Wrapper.make kind id)) :
    s.creates kind (.call request.name args) = true := by
  subst hr
  have hvalue := (s.call_request (.create kind) args).2
  rw [h] at hvalue
  show ((kind.creation == kind.creation) &&
    (s.call (Request.name (.create kind)) args).value.elim false fun v => !v.isAbsent) = true
  rw [hvalue, beq_self_eq_true]
  rfl

/-! ### What an action comes to -/

/-- The sessions that an action may lead to, one case for each operation on a session. -/
inductive Acted (s : Session) : Action → Session → Prop
  | same (a : Action) : Acted s a s
  | asked (request : Request) (args : List Value) :
      Acted s (.call request.name args) (s.attempt request args).state
  | destroyed (a : Action) (kind : Kind) (wrapper : Value) :
      Acted s a (s.destroy kind wrapper).state
  | ended {a : Action} (h : ¬ a.Lasts) : Acted s a s.cleanup.state
  | switched (failing : Bool) : Acted s (.setFailing failing) (s.setFailing failing)
  | started (device : Device) : Acted s (.start device) (s.start device).state

theorem acted (s : Session) (a : Action) : s.Acted a (s.act a).state := by
  cases a with
  | start device => exact Acted.started device
  | cleanup => exact Acted.ended id
  | setFailing failing => exact Acted.switched failing
  | call name args =>
    show s.Acted _ (s.call name args).state
    cases hname : EntryPoint.ofName? name with
    | none =>
      rw [(call_of_ofName?_none hname args).1]
      exact Acted.same _
    | some entry =>
      rw [(call_of_ofName? hname args).1]
      cases entry with
      | isSupported => exact Acted.same _
      | getBackend => exact Acted.same _
      | request request =>
        obtain rfl : request.name = name := EntryPoint.ofName?_eq_some hname
        show s.Acted _ (s.perform request args).state
        rw [(s.perform_eq request args).1]
        exact Acted.asked request args
      | destroy kind => exact Acted.destroyed _ kind (argument args 0)
      | cleanup =>
        obtain rfl : EntryPoint.cleanup.name = name := EntryPoint.ofName?_eq_some hname
        exact Acted.ended fun h => h rfl

/-! ### The renderer in use -/

theorem renderer_cleanup (s : Session) : s.cleanup.state.renderer = none := by
  unfold cleanup
  cases h : s.renderer with
  | none => exact h
  | some rt => rfl

/-- **What becomes of the renderer in use.**  There is none any more, and there was one only if the
action gave it up; another device is taken into use; or it moves on. -/
theorem renderer_cases {s : Session} (hi : ∀ kind, s.issued kind + 1 < UInt32.size) (a : Action) :
    ((s.act a).state.renderer = none ∧ (a.Lasts → s.renderer = none)) ∨
      (∃ device, a = .start device ∧ (s.act a).state.renderer = some ⟨device, {}⟩) ∨
      ∃ rt rt', s.renderer = some rt ∧ (s.act a).state.renderer = some rt' ∧ rt.Moves rt' := by
  have hacted := s.acted a
  generalize (s.act a).state = t at hacted ⊢
  -- where an action leaves the session as it is, what is in use moves on the spot
  have hsame : (s.renderer = none ∧ (a.Lasts → s.renderer = none)) ∨
      ∃ rt rt', s.renderer = some rt ∧ s.renderer = some rt' ∧ rt.Moves rt' := by
    cases hs : s.renderer with
    | none => exact Or.inl ⟨rfl, fun _ => rfl⟩
    | some rt => exact Or.inr ⟨rt, rt, rfl, rfl, Renderer.Moves.refl rt⟩
  cases hacted with
  | same => exact hsame.imp_right Or.inr
  | asked request args =>
    rcases attempt_cases hi request args with h | ⟨g, r, g', r', hs, hstate, hanswer⟩
    · rw [h]
      exact hsame.imp_right Or.inr
    · rw [hstate]
      exact Or.inr (Or.inr ⟨_, _, hs, rfl, Renderer.Moves.recorded hanswer.step⟩)
  | destroyed _ kind wrapper =>
    unfold destroy
    cases hs : s.renderer with
    | none => exact Or.inl ⟨hs, fun _ => rfl⟩
    | some rt => exact Or.inr (Or.inr ⟨rt, _, rfl, rfl, rt.moves_destroy kind wrapper⟩)
  | ended h => exact Or.inl ⟨s.renderer_cleanup, fun ha => absurd ha h⟩
  | switched failing =>
    unfold setFailing
    cases hs : s.renderer with
    | none => exact Or.inl ⟨rfl, fun _ => rfl⟩
    | some rt => exact Or.inr (Or.inr ⟨rt, _, rfl, rfl, rt.moves_setFailing failing⟩)
  | started device => exact Or.inr (Or.inl ⟨device, rfl, rfl⟩)

/-- **A recorder that is in use after an action** has just been taken into use, with nothing
registered, or goes on from the one in use before. -/
theorem continues_of_act {s : Session} {a : Action} {g' : Registry} {r' : Recorder}
    (h : (s.act a).state.renderer = some ⟨.recording r', g'⟩) :
    (a = .start (.recording r') ∧ g' = {}) ∨
      ∃ g r, s.renderer = some ⟨.recording r, g⟩ ∧ Renderer.Continues g r g' r' := by
  -- what moves ends on a recorder only if it began on one
  have hmoved : ∀ rt, s.renderer = some rt → rt.Moves ⟨.recording r', g'⟩ →
      ∃ g r, s.renderer = some ⟨.recording r, g⟩ ∧ Renderer.Continues g r g' r' := by
    intro rt hs hmoves
    cases hmoves with
    | recorded hstep => exact ⟨_, _, hs, Renderer.Continues.step hstep⟩
  have hacted := s.acted a
  generalize (s.act a).state = t at hacted h
  cases hacted with
  | same => exact Or.inr (hmoved _ h (Renderer.Moves.refl _))
  | asked request args =>
    rcases s.attempt_concluded request args with hs | ⟨g, r, o, hs, -, ho, hattempt⟩
    · rw [hs] at h
      exact Or.inr (hmoved _ h (Renderer.Moves.refl _))
    · obtain ⟨g₁, r₁, hstate, hc⟩ := ho.continues
      rw [hattempt, hstate] at h
      obtain ⟨hd, rfl⟩ := Renderer.mk.inj (Option.some.inj h)
      obtain rfl := Device.recording.inj hd
      exact Or.inr ⟨g, r, hs, hc⟩
  | destroyed _ kind wrapper =>
    unfold destroy at h
    cases hs : s.renderer with
    | none =>
      rw [hs] at h
      exact absurd (hs.symm.trans h) nofun
    | some rt =>
      rw [hs] at h
      exact Or.inr (hs ▸ hmoved rt hs (Option.some.inj h ▸ rt.moves_destroy kind wrapper))
  | ended => exact absurd (s.renderer_cleanup.symm.trans h) nofun
  | switched failing =>
    unfold setFailing at h
    cases hs : s.renderer with
    | none =>
      rw [hs] at h
      exact absurd h nofun
    | some rt =>
      rw [hs] at h
      exact Or.inr (hs ▸ hmoved rt hs (Option.some.inj h ▸ rt.moves_setFailing failing))
  | started device =>
    obtain ⟨rfl, rfl⟩ := Renderer.mk.inj (Option.some.inj h)
    exact Or.inl ⟨rfl, rfl⟩

/-! ### Ids issued in a run -/

theorem issued_attempt {s : Session} (hi : ∀ kind, s.issued kind + 1 < UInt32.size)
    (request : Request) (args : List Value) (kind : Kind) :
    (s.attempt request args).state.issued kind = s.issued kind ∨
      ∃ id, request = .create kind ∧
        (s.attempt request args).value = .ok (Wrapper.make kind id) ∧
        (s.attempt request args).state.issued kind = s.issued kind + 1 := by
  rcases attempt_cases hi request args with h | ⟨g, r, g', r', hr, hstate, hanswer⟩
  · rw [h]
    exact Or.inl rfl
  · have hafter : (s.attempt request args).state.issued kind = (g'.ledger kind).issued := by
      rw [hstate]
      rfl
    rw [hafter, issued_of_renderer hr]
    exact hanswer.issued kind

theorem issued_destroy (s : Session) (kind other : Kind) (wrapper : Value) :
    (s.destroy kind wrapper).state.issued other = s.issued other := by
  unfold destroy
  cases hr : s.renderer with
  | none => rfl
  | some rt =>
    rw [issued_of_renderer hr]
    show ((rt.destroy kind wrapper).state.registry.ledger other).issued = _
    rcases rt.destroy_cases kind wrapper with ⟨hd, -⟩ | ⟨id, e, -, -, hd⟩
    · rw [hd]
    · rw [hd]
      exact rt.registry.issued_erase kind other id

theorem issued_cleanup (s : Session) (kind : Kind) : s.cleanup.state.issued kind = 0 := by
  unfold issued
  rw [renderer_cleanup]
  rfl

theorem issued_setFailing (s : Session) (failing : Bool) (kind : Kind) :
    (s.setFailing failing).issued kind = s.issued kind := by
  unfold setFailing issued
  cases s.renderer <;> rfl

theorem issued_start (s : Session) (device : Device) (kind : Kind) :
    (s.start device).state.issued kind = 0 := by
  have hr : (s.start device).state.renderer = some ⟨device, {}⟩ := rfl
  rw [issued_of_renderer hr]
  cases kind <;> exact Ledger.issued_empty

/-- An action issues an id only if it counts as a creation. -/
theorem issued_act_le {s : Session} (hi : ∀ kind, s.issued kind + 1 < UInt32.size) (a : Action)
    (kind : Kind) : (s.act a).state.issued kind ≤ s.issued kind + (s.creates kind a).toNat := by
  have hacted := s.acted a
  generalize (s.act a).state = t at hacted ⊢
  cases hacted with
  | same => exact Nat.le_add_right _ _
  | asked request args =>
    rcases issued_attempt hi request args kind with h | ⟨id, hr, hv, h⟩
    · rw [h]
      exact Nat.le_add_right _ _
    · rw [h, s.creates_request hr hv]
      exact Nat.le_refl _
  | destroyed _ k wrapper =>
    rw [issued_destroy]
    exact Nat.le_add_right _ _
  | ended =>
    rw [issued_cleanup]
    exact Nat.zero_le _
  | switched failing =>
    rw [issued_setFailing]
    exact Nat.le_add_right _ _
  | started device =>
    rw [issued_start]
    exact Nat.zero_le _

/-- A run that creates few enough resources, beside `m` others of each kind, does so at its first
action and after it. -/
theorem few_act_add {m : Kind → Nat} {s : Session} {a : Action} {rest : List Action}
    (hfew : ∀ kind, m kind + s.issued kind + creations kind s (a :: rest) < 2 ^ 31) :
    (∀ kind, m kind + s.issued kind < 2 ^ 31) ∧
      ∀ kind, m kind + (s.act a).state.issued kind + creations kind (s.act a).state rest <
        2 ^ 31 := by
  have hnow : ∀ kind, m kind + s.issued kind < 2 ^ 31 := fun kind =>
    Nat.lt_of_le_of_lt (Nat.le_add_right _ _) (hfew kind)
  have hi : ∀ kind, s.issued kind + 1 < UInt32.size := fun kind =>
    Ledger.succ_lt_size_of_add (hnow kind)
  refine ⟨hnow, fun kind => ?_⟩
  have hle := issued_act_le hi a kind
  have hsum : m kind + s.issued kind + ((s.creates kind a).toNat +
    creations kind (s.act a).state rest) < 2 ^ 31 := hfew kind
  omega

theorem few_act {s : Session} {a : Action} {rest : List Action}
    (hfew : ∀ kind, s.issued kind + creations kind s (a :: rest) < 2 ^ 31) :
    (∀ kind, s.issued kind < 2 ^ 31) ∧
      ∀ kind, (s.act a).state.issued kind + creations kind (s.act a).state rest < 2 ^ 31 := by
  have hadd := @few_act_add (fun _ => 0) s a rest
  simp only [Nat.zero_add] at hadd
  exact hadd hfew

/-- **Induction over runs.**  What holds at first and is kept by each action, as long as few enough
ids are issued, holds after a run that creates few enough resources. -/
theorem acts_induction {P : Session → Prop} {s : Session} {run : List Action}
    (hfew : ∀ kind, s.issued kind + creations kind s run < 2 ^ 31) (hstart : P s)
    (hact : ∀ t a, a ∈ run → (∀ kind, t.issued kind < 2 ^ 31) → P t → P (t.act a).state) :
    P (s.acts run) ∧ ∀ kind, (s.acts run).issued kind < 2 ^ 31 := by
  induction run generalizing s with
  | nil => exact ⟨hstart, hfew⟩
  | cons a rest ih =>
    obtain ⟨hnow, hrest⟩ := few_act hfew
    refine ih hrest (hact s a List.mem_cons_self hnow hstart) ?_
    intro t b hb
    exact hact t b (List.mem_cons_of_mem _ hb)

theorem issued_new (kind : Kind) : ({} : Session).issued kind = 0 := rfl

theorem issued_acts_lt {run : List Action} (hfew : ∀ kind, creations kind {} run < 2 ^ 31)
    (kind : Kind) : (({} : Session).acts run).issued kind < 2 ^ 31 := by
  have hnew : ∀ k, ({} : Session).issued k + creations k {} run < 2 ^ 31 := fun k => by
    rw [issued_new, Nat.zero_add]
    exact hfew k
  exact (acts_induction (P := fun _ => True) hnew trivial fun _ _ _ _ _ => trivial).2 kind

/-! ### Registry and device in step -/

/-- What is in use, if anything, is a device in step with the registry. -/
def Sound (s : Session) : Prop :=
  ∀ rt, s.renderer = some rt → ∃ r, rt.device = .recording r ∧ InStep rt.registry r

theorem sound_of_none {s : Session} (h : s.renderer = none) : s.Sound := by
  intro rt hrt
  rw [h] at hrt
  exact absurd hrt nofun

theorem sound_start (s : Session) : (s.start (.recording .fresh)).state.Sound := by
  intro rt hrt
  obtain rfl : (⟨.recording .fresh, {}⟩ : Renderer) = rt := Option.some.inj hrt
  exact ⟨.fresh, rfl, inStep_fresh⟩

/-- Whatever is done keeps a session sound, if only new devices are taken into use. -/
theorem Sound.act {s : Session} (h : s.Sound) (hfew : ∀ kind, s.issued kind < 2 ^ 31) {a : Action}
    (hnew : ∀ device, a = .start device → device = .recording .fresh) : (s.act a).state.Sound := by
  rcases renderer_cases (fun kind => Ledger.succ_lt_size (hfew kind)) a with
    ⟨hnone, -⟩ | ⟨device, rfl, -⟩ | ⟨rt, rt', hs, ht, hmoves⟩
  · exact sound_of_none hnone
  · rw [hnew device rfl]
    exact s.sound_start
  · obtain ⟨r, hr, hin⟩ := h rt hs
    intro rt'' hrt
    obtain rfl : rt' = rt'' := Option.some.inj (ht.symm.trans hrt)
    cases hmoves with
    | unrecorded => exact absurd hr nofun
    | @recorded g g' r₀ r' hstep =>
      obtain rfl : r₀ = r := Device.recording.inj hr
      refine ⟨r', rfl, hin.step (fun kind => ?_) hstep⟩
      rw [← issued_of_renderer hs]
      exact hfew kind

/-- The session with a new device in use, whatever was in use before. -/
def anew (s : Session) : Session := (s.start (.recording .fresh)).state

theorem issued_anew (s : Session) (kind : Kind) : s.anew.issued kind = 0 := s.issued_start _ kind

/-- **Registry and device stay in step** in every run that creates few enough resources. -/
theorem sound_acts (s : Session) {run : List Action}
    (hnew : ∀ device, Action.start device ∈ run → device = .recording .fresh)
    (hfew : ∀ kind, creations kind s.anew run < 2 ^ 31) :
    (s.anew.acts run).Sound ∧ ∀ kind, (s.anew.acts run).issued kind < 2 ^ 31 := by
  refine acts_induction ?_ s.sound_start ?_
  · intro kind
    rw [issued_anew, Nat.zero_add]
    exact hfew kind
  · intro t a ha hissued ht
    refine ht.act hissued ?_
    rintro device rfl
    exact hnew device ha

/-- What is in use after such a run. -/
theorem exists_inStep (s : Session) {run : List Action}
    (hnew : ∀ device, Action.start device ∈ run → device = .recording .fresh)
    (hfew : ∀ kind, creations kind s.anew run < 2 ^ 31) {rt : Renderer}
    (h : (s.anew.acts run).renderer = some rt) :
    ∃ r g, rt = ⟨.recording r, g⟩ ∧ InStep g r ∧ ∀ kind, (g.ledger kind).issued < 2 ^ 31 := by
  obtain ⟨hsound, hissued⟩ := s.sound_acts hnew hfew
  obtain ⟨device, g⟩ := rt
  obtain ⟨r, rfl, hstep⟩ := hsound _ h
  refine ⟨r, g, rfl, hstep, fun kind => ?_⟩
  rw [← issued_of_renderer h]
  exact hissued kind

end Session

/-! ### A run to look at -/

namespace Action

/-- A triangle, as a script describes it. -/
def triangle : Value := .ofPairs [("vertices", .buffer (.ofWords [0, 0, 0, 1, 0, 0, 0, 1, 0]))]

/-- A script builds a scene and changes it, a creation is made to fail, and a geometry is destroyed
whose place the next one takes. -/
def sample : List Action :=
  let placed : Value := .ofPairs [("blas", Wrapper.make .blas 1)]
  [call "createGeometry" [triangle], call "createBLAS" [.array [Wrapper.make .geometry 1]],
    call "createTLAS" [.array [placed, placed]],
    call "updateTLAS" [Wrapper.make .tlas 1, .array [placed, placed]],
    setFailing true, call "createGeometry" [triangle], setFailing false,
    call "destroyGeometry" [Wrapper.make .geometry 1], call "createGeometry" [triangle]]

theorem sample_new : ∀ device, start device ∈ sample → device = .recording .fresh := by
  intro device h
  simp [sample] at h

theorem sample_few (kind : Kind) : Session.creations kind ({} : Session).anew sample < 2 ^ 31 := by
  cases kind <;> decide +kernel

theorem exists_sample : ∃ rt, (({} : Session).anew.acts sample).renderer = some rt :=
  Option.isSome_iff_exists.1 (by decide +kernel)

end Action

end ScriptedRays
