import ScriptedRays.Proofs.Agreement

/-!
# Teardown — everything created is destroyed, once and in order

Whichever way the use of a new device ends, every handle that it ever gave out has been destroyed
exactly once: scenes last in use go first, then what they refer to, then what that was built from,
each by ascending id (`teardown_complete`).  Afterwards the device is left alone.
-/

namespace ScriptedRays

open Recorder (fresh minted)

/-! ### Destroying everything of a kind -/

namespace Recorder

theorem minted_destructions (k : Kind) (r : Recorder) {kind : Kind} (hs : List (Handle kind)) :
    minted k r (hs.map (Command.destroy kind)) = [] := by
  induction hs generalizing r with
  | nil => rfl
  | cons h rest ih => exact ih (r.perform (.destroy kind h))

theorem inRange_destroy {r : Recorder} (hr : r.InRange) {kind : Kind} (handle : Handle kind) :
    (r.perform (.destroy kind handle)).InRange := by
  intro k
  by_cases hk : k = kind
  · subst hk
    rw [arena_destroy]
    exact (hr k).erase _
  · rw [arena_destroy_of_ne r handle hk]
    exact hr k

/-- Destroying all that is there of a kind, each once, leaves nothing of it and the rest as it
is. -/
theorem destroy_each {r : Recorder} (hr : r.InRange) {kind : Kind} {hs : List (Handle kind)}
    (hp : (hs.map Handle.native).Perm ((r.arena kind).handles.map some)) :
    r.ValidRun (hs.map (Command.destroy kind)) ∧
      (r.performAll (hs.map (Command.destroy kind))).InRange ∧
      ((r.performAll (hs.map (Command.destroy kind))).arena kind).handles = [] ∧
      ∀ other, other ≠ kind →
        (r.performAll (hs.map (Command.destroy kind))).arena other = r.arena other := by
  induction hs generalizing r with
  | nil =>
    have hnil := List.map_eq_nil_iff.1 (List.nil_perm.1 hp)
    exact ⟨trivial, hr, hnil, fun _ _ => rfl⟩
  | cons h rest ih =>
    obtain ⟨n, hin, hn⟩ := List.mem_map.1 (hp.mem_iff.1 List.mem_cons_self)
    have hheld : r.Holds kind h := ⟨n, hn.symm, hin⟩
    obtain ⟨x, hx⟩ := Arena.exists_of_mem_handles hin
    -- the first handle is taken from both sides, and the others are still a permutation
    have hrest : (rest.map Handle.native).Perm
        (((r.perform (.destroy kind h)).arena kind).handles.map some) := by
      have hperm := ((Arena.perm_erase (hr kind) hx).map Prod.fst).map some
      rw [arena_destroy, ← hn]
      refine List.Perm.cons_inv (a := h.native) (hp.trans ?_)
      rw [← hn]
      exact hperm
    obtain ⟨hvalid, hrange, hempty, hother⟩ := ih (inRange_destroy hr h) hrest
    refine ⟨⟨hheld, hvalid⟩, hrange, hempty, fun other ho => ?_⟩
    exact (hother other ho).trans (arena_destroy_of_ne r h ho)

end Recorder

/-! ### The commands of a teardown -/

namespace Registry

/-- The commands that destroy all that is registered of a kind, by ascending id. -/
def destructions (g : Registry) (kind : Kind) : List Command :=
  ((g.ledger kind).drain.map fun p => Entry.handle p.2).map (Command.destroy kind)

/-- The commands of a teardown. -/
def teardown (g : Registry) : List Command :=
  g.destructions .tlas ++ (g.destructions .blas ++ g.destructions .geometry)

theorem minted_teardown (g : Registry) (kind : Kind) (r : Recorder) :
    minted kind r g.teardown = [] := by
  unfold teardown destructions
  rw [Recorder.minted_append, Recorder.minted_append, Recorder.minted_destructions,
    Recorder.minted_destructions, Recorder.minted_destructions]
  rfl

theorem calls_destructions (g : Registry) (kind : Kind) :
    (g.destructions kind).filterMap Command.call? =
      (g.ledger kind).drain.map fun p => Call.destroy kind (Entry.handle p.2).native := by
  unfold destructions
  rw [List.map_map, List.filterMap_map]
  exact congrFun List.filterMap_eq_map (g.ledger kind).drain

end Registry

namespace Renderer

theorem destroyAll_recording {kind : Kind} (ledger : Ledger (Entry kind)) (r : Recorder) :
    Registry.destroyAll Device.destroy kind ledger (.recording r) = .recording
      (r.performAll ((ledger.drain.map fun p => Entry.handle p.2).map (Command.destroy kind))) := by
  unfold Registry.destroyAll
  induction ledger.drain generalizing r with
  | nil => rfl
  | cons p rest ih => exact ih (r.perform (.destroy kind p.2.handle))

theorem releaseAll_recording (g : Registry) (r : Recorder) :
    (⟨.recording r, g⟩ : Renderer).releaseAll.state.device =
      .recording (r.performAll g.teardown) := by
  show Registry.destroyAll Device.destroy .geometry g.geometries
    (Registry.destroyAll Device.destroy .blas g.blases
      (Registry.destroyAll Device.destroy .tlas g.tlases (.recording r))) = _
  rw [destroyAll_recording, destroyAll_recording, destroyAll_recording]
  unfold Registry.teardown
  rw [Recorder.performAll_append, Recorder.performAll_append]
  rfl

end Renderer

/-- A device given up, with all that was on it destroyed. -/
structure TornDown (g : Registry) (r r' : Recorder) : Prop where
  /-- It is what its history makes of a new device. -/
  replay : fresh.performAll r'.history = r'
  /-- It gave out no handle twice. -/
  distinct : ∀ kind, (minted kind fresh r'.history).Nodup
  /-- What it was told to destroy is what it gave out, each once. -/
  destroyed : ∀ kind, (r'.destroyed kind).Perm ((minted kind fresh r'.history).map some)
  /-- Nothing is left. -/
  empty : ∀ kind, (r'.arena kind).toList = []
  /-- The last calls destroy what was registered: by kind, and in a kind by ascending id. -/
  ordered : ∃ order : (kind : Kind) → List (UInt32 × Entry kind),
    (∀ kind, ((order kind).map Prod.fst).Pairwise (· < ·)) ∧
    (∀ kind id e, (id, e) ∈ order kind ↔ (g.ledger kind).get? id = some e) ∧
    r'.calls = r.calls ++
      ((order .tlas).map (fun p => Call.destroy .tlas (Entry.handle p.2).native) ++
      ((order .blas).map (fun p => Call.destroy .blas (Entry.handle p.2).native) ++
      (order .geometry).map (fun p => Call.destroy .geometry (Entry.handle p.2).native)))

namespace InStep

variable {g : Registry} {r : Recorder}

theorem perm_drain (h : InStep g r) (kind : Kind) :
    (((g.ledger kind).drain.map fun p => Entry.handle p.2).map Handle.native).Perm
      ((r.arena kind).handles.map some) := by
  rw [List.map_map]
  exact ((g.ledger kind).perm_drain.map _).trans (h.perm_natives kind)

section Few

variable (h : InStep g r) (hfew : ∀ kind, (g.ledger kind).issued < 2 ^ 31)
include h hfew

/-- A teardown consists of valid commands and leaves nothing. -/
theorem validRun_teardown : r.ValidRun g.teardown ∧
    ∀ kind, ((r.performAll g.teardown).arena kind).handles = [] := by
  -- each kind in its turn: destroying one leaves the handles of those still to come
  obtain ⟨hv, hr, hempty, hother⟩ := Recorder.destroy_each (h.inRange hfew) (h.perm_drain .tlas)
  have hblas := h.perm_drain .blas
  rw [← hother .blas (by decide)] at hblas
  obtain ⟨hv', hr', hempty', hother'⟩ := Recorder.destroy_each hr hblas
  have hgeometry := h.perm_drain .geometry
  rw [← hother .geometry (by decide), ← hother' .geometry (by decide)] at hgeometry
  obtain ⟨hv'', -, hempty'', hother''⟩ := Recorder.destroy_each hr' hgeometry
  unfold Registry.teardown
  refine ⟨?_, fun kind => ?_⟩
  · exact (Recorder.validRun_append _ _ _).2 ⟨hv, (Recorder.validRun_append _ _ _).2 ⟨hv', hv''⟩⟩
  · rw [Recorder.performAll_append, Recorder.performAll_append]
    cases kind with
    | geometry => exact hempty''
    | blas =>
      rw [← hempty', ← hother'' .blas (by decide)]
      rfl
    | tlas =>
      rw [← hempty, ← hother' .tlas (by decide), ← hother'' .tlas (by decide)]
      rfl

theorem tornDown : TornDown g r (r.performAll g.teardown) := by
  obtain ⟨hv, hempty⟩ := h.validRun_teardown hfew
  have hhistory : (r.performAll g.teardown).history = r.history ++ g.teardown :=
    Recorder.history_performAll r g.teardown
  have hminted : ∀ kind, minted kind fresh (r.performAll g.teardown).history =
      minted kind fresh r.history := fun kind => by
    rw [hhistory, Recorder.minted_append, g.minted_teardown, List.append_nil]
  -- destructions give out no handles, so the account is still that of the handles before them
  have hacc : ∀ kind, (r.performAll g.teardown).Accounted kind (minted kind fresh r.history) := by
    intro kind
    have hnone := g.minted_teardown kind r
    have hacc := (h.accounted hfew kind).performAll hv (by
      rw [hnone, List.append_nil]
      exact h.length_minted_lt hfew kind)
    rw [hnone, List.append_nil] at hacc
    exact hacc
  refine ⟨?_, fun kind => ?_, fun kind => ?_, fun kind => ?_, ?_⟩
  · rw [hhistory, Recorder.performAll_append, h.replay]
  · rw [hminted]
    exact (hacc kind).nodup
  · have hbalance := (hacc kind).balance
    rw [hempty kind, List.map_nil, List.append_nil] at hbalance
    rw [hminted]
    exact hbalance
  · exact List.map_eq_nil_iff.1 (hempty kind)
  · refine ⟨fun kind => (g.ledger kind).drain, fun kind => (g.ledger kind).ascending_drain,
      fun kind id e => Ledger.mem_drain, ?_⟩
    unfold Recorder.calls
    rw [hhistory, List.filterMap_append]
    unfold Registry.teardown
    rw [List.filterMap_append, List.filterMap_append, g.calls_destructions, g.calls_destructions,
      g.calls_destructions]

end Few

end InStep

/-! ### The end of a session -/

namespace Session

/-- The ways in which the use of a device ends. -/
inductive Ends (s : Session) : Session → Prop
  | cleanup : Ends s s.cleanup.state
  | called (args : List Value) : Ends s (s.call "cleanup" args).state
  | dropped : Ends s s.drop.state
  | restarted (device : Device) : Ends s (s.start device).state

theorem cleanup_recording {s : Session} {g : Registry} {r : Recorder}
    (h : s.renderer = some ⟨.recording r, g⟩) :
    s.cleanup.state = ⟨none, some (.recording (r.performAll g.teardown))⟩ ∧
      s.cleanup.value = g.stats := by
  unfold cleanup
  rw [h]
  refine ⟨?_, rfl⟩
  show (⟨none, some (Renderer.releaseAll _).state.device⟩ : Session) = _
  rw [Renderer.releaseAll_recording]

/-- All of them give up the device in the same state. -/
theorem Ends.retired {s t : Session} (h : s.Ends t) {rt : Renderer} (hr : s.renderer = some rt) :
    t.retired = s.cleanup.state.retired := by
  cases h with
  | cleanup => rfl
  | called args =>
    have hname : EntryPoint.ofName? "cleanup" = some .cleanup := EntryPoint.ofName?_name .cleanup
    rw [(call_of_ofName? hname args).1]
    rfl
  | dropped =>
    unfold drop isStarted
    rw [hr]
    rfl
  | restarted device => rfl

/-! ### After the end -/

/-- The session with another device given up last. -/
def withRetired (s : Session) (x : Option Device) : Session := { s with retired := x }

/-- Whatever device was given up last, the outcome is the same, and the device either stays as it
is or is no longer known. -/
def Indifferent {α : Type} (f : Session → Outcome Session α) (s : Session) : Prop :=
  (∀ x, f (s.withRetired x) = ⟨(f s).value, (f s).state.withRetired x, (f s).log⟩) ∨
    ∀ x, f (s.withRetired x) = f s

theorem Indifferent.answer {α β : Type} {f : Session → Outcome Session α} {s : Session}
    (h : s.Indifferent f) (g : α → β) :
    s.Indifferent fun t => ⟨g (f t).value, (f t).state, (f t).log⟩ := by
  rcases h with h | h
  · refine Or.inl fun x => ?_
    dsimp only
    rw [h]
  · refine Or.inr fun x => ?_
    dsimp only
    rw [h]

theorem attempt_withRetired (s : Session) (x : Option Device) (request : Request)
    (args : List Value) :
    (s.withRetired x).attempt request args = ⟨(s.attempt request args).value,
      (s.attempt request args).state.withRetired x, (s.attempt request args).log⟩ := by
  obtain ⟨renderer, retired⟩ := s
  cases renderer <;> rfl

theorem indifferent_cleanup (s : Session) : s.Indifferent cleanup := by
  obtain ⟨renderer, retired⟩ := s
  cases renderer with
  | none => exact Or.inl fun _ => rfl
  | some rt => exact Or.inr fun _ => rfl

theorem indifferent_run (s : Session) (entry : EntryPoint) (args : List Value) :
    s.Indifferent fun t => t.run entry args := by
  cases entry with
  | isSupported => exact Or.inl fun _ => rfl
  | getBackend => exact Or.inl fun _ => rfl
  | request request =>
    refine Or.inl fun x => ?_
    show (s.withRetired x).perform request args = ⟨(s.perform request args).value,
      (s.perform request args).state.withRetired x, (s.perform request args).log⟩
    unfold perform
    rw [attempt_withRetired]
    dsimp only
    cases (s.attempt request args).value <;> rfl
  | destroy kind =>
    obtain ⟨renderer, retired⟩ := s
    refine Or.inl fun x => ?_
    cases renderer <;> rfl
  | cleanup => exact s.indifferent_cleanup.answer fun _ => Value.undefined

theorem indifferent_act (s : Session) (a : Action) : s.Indifferent fun t => t.act a := by
  cases a with
  | start device =>
    obtain ⟨renderer, retired⟩ := s
    cases renderer with
    | none => exact Or.inl fun _ => rfl
    | some rt => exact Or.inr fun _ => rfl
  | cleanup => exact s.indifferent_cleanup.answer fun _ => none
  | setFailing failing => exact Or.inl fun _ => rfl
  | call name args =>
    show s.Indifferent fun t => t.call name args
    unfold call
    cases EntryPoint.ofName? name with
    | none => exact Or.inl fun _ => rfl
    | some entry => exact (s.indifferent_run entry args).answer some

/-- A run does nothing with the device given up last: whichever that was, the answers are the same,
and the device either stays as it is or is no longer known. -/
structure LeavesAlone (s : Session) (run : List Action) : Prop where
  answers : ∀ x, (s.withRetired x).answers run = s.answers run
  retired :
    ((s.acts run).retired = s.retired ∧
      ∀ x, (s.withRetired x).acts run = (s.acts run).withRetired x) ∨
    ∀ x, (s.withRetired x).acts run = s.acts run

/-- **A device given up is left alone**, whatever is done to the session later. -/
theorem leavesAlone (s : Session) (run : List Action) : s.LeavesAlone run := by
  induction run generalizing s with
  | nil => exact ⟨fun _ => rfl, Or.inl ⟨rfl, fun _ => rfl⟩⟩
  | cons a rest ih =>
    have hacts : ∀ t : Session, t.acts (a :: rest) = (t.act a).state.acts rest := fun _ => rfl
    have hanswers : ∀ t : Session,
        t.answers (a :: rest) = (t.act a).value :: (t.act a).state.answers rest := fun _ => rfl
    obtain ⟨hsame, hlater⟩ := ih (s.act a).state
    -- an action either carries the retired recorder along or forgets it
    rcases s.indifferent_act a with h | h
    · have hact : ∀ x, (s.withRetired x).act a =
          ⟨(s.act a).value, (s.act a).state.withRetired x, (s.act a).log⟩ := h
      have hkept : (s.act a).state.retired = s.retired :=
        congrArg (fun o => o.state.retired) (hact s.retired)
      refine ⟨fun x => ?_, ?_⟩
      · rw [hanswers, hanswers, hact, hsame]
      · rw [hacts, ← hkept]
        rcases hlater with ⟨hstays, hcarried⟩ | hforgot
        · exact Or.inl ⟨hstays, fun x => by rw [hacts, hact, hcarried]⟩
        · exact Or.inr fun x => by rw [hacts, hact, hforgot]
    · have hact : ∀ x, (s.withRetired x).act a = s.act a := h
      exact ⟨fun x => by rw [hanswers, hanswers, hact],
        Or.inr fun x => by rw [hacts, hacts, hact]⟩

/-- **Everything created is destroyed, once and in order.**  However the use of a new device ends
after a run, the device is given up with all that it ever gave out destroyed, a cleanup tells how
many resources there were, and nothing done later concerns that device. -/
theorem teardown_complete (s : Session) {run : List Action}
    (hnew : ∀ device, Action.start device ∈ run → device = .recording .fresh)
    (hfew : ∀ kind, creations kind s.anew run < 2 ^ 31) {rt : Renderer}
    (h : (s.anew.acts run).renderer = some rt) :
    ∃ r r', rt.device = .recording r ∧ TornDown rt.registry r r' ∧
      (s.anew.acts run).cleanup.value = ⟨r.live .geometry, r.live .blas, r.live .tlas⟩ ∧
      ∀ ended, (s.anew.acts run).Ends ended →
        ended.retired = some (.recording r') ∧ ∀ later, ended.LeavesAlone later := by
  obtain ⟨r, g, rfl, hstep, hissued⟩ := s.exists_inStep hnew hfew h
  obtain ⟨hstate, hvalue⟩ := cleanup_recording h
  refine ⟨r, r.performAll g.teardown, rfl, hstep.tornDown hissued, ?_, ?_⟩
  · rw [hvalue]
    exact (hstep.agreement hissued).stats
  · intro ended hended
    refine ⟨?_, fun later => ended.leavesAlone later⟩
    rw [hended.retired h, hstate]

theorem teardown_complete_sample :
    ∃ rt r r', (({} : Session).anew.acts Action.sample).renderer = some rt ∧
      rt.device = .recording r ∧ TornDown rt.registry r r' ∧
      (({} : Session).anew.acts Action.sample).cleanup.value =
        ⟨r.live .geometry, r.live .blas, r.live .tlas⟩ ∧
      ∀ ended, (({} : Session).anew.acts Action.sample).Ends ended →
        ended.retired = some (.recording r') ∧ ∀ later, ended.LeavesAlone later := by
  obtain ⟨rt, h⟩ := Action.exists_sample
  obtain ⟨r, r', hr⟩ := teardown_complete {} Action.sample_new Action.sample_few h
  exact ⟨rt, r, r', h, hr⟩

end Session

end ScriptedRays
