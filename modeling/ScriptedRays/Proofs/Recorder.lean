import Mathlib.Data.List.Nodup
import Mathlib.Data.List.Perm.Basic
import ScriptedRays.Device.Recorder
import ScriptedRays.Proofs.Arena

/-!
# Recorder — what commands do to the resources of a device

A command is `Valid` at a moment when everything it names is there; a history is replayed by
`performAll`.  A device never refuses a valid command unless creations are made to fail
(`told_of_valid`).  A creation adds to the holdings of a kind (`holdings_create`), a destruction takes
from them (`holdings_destroy`), and no other valid command changes them (`holdings_perform`).
-/

namespace ScriptedRays

/-- A source that something can be made from: there is something, and what it names is present. -/
def Source.Usable (present : (kind : Kind) → Handle kind → Prop) :
    {kind : Kind} → Source kind → Prop
  | .geometry, m => m.vertexCount ≠ 0
  | .blas, geometries => geometries ≠ [] ∧ ∀ g ∈ geometries, present .geometry g
  | .tlas, instances => instances ≠ [] ∧ ∀ i ∈ instances, present .blas i.blas

theorem Source.Usable.mono {p q : (kind : Kind) → Handle kind → Prop} (hpq : ∀ k h, p k h → q k h)
    {kind : Kind} {source : Source kind} (h : source.Usable p) : source.Usable q := by
  cases kind with
  | geometry => exact h
  | blas => exact ⟨h.1, fun g hg => hpq _ g (h.2 g hg)⟩
  | tlas => exact ⟨h.1, fun i hi => hpq _ i.blas (h.2 i hi)⟩

theorem Source.Usable.isEmpty {p : (kind : Kind) → Handle kind → Prop} {kind : Kind}
    {source : Source kind} (h : source.Usable p) : source.isEmpty = false := by
  cases kind with
  | geometry => exact beq_eq_false_iff_ne.2 h
  | blas => exact List.isEmpty_eq_false_iff.2 h.1
  | tlas => exact List.isEmpty_eq_false_iff.2 h.1

/-- How many instances a source has, if a scene is made from it. -/
def Source.instanceCount : {kind : Kind} → Source kind → Nat
  | .geometry, _ => 0
  | .blas, _ => 0
  | .tlas, instances => List.length instances

/-- How many instances are kept of a resource, if it is a scene. -/
def Content.instanceCount : {kind : Kind} → Content kind → Nat
  | .geometry, _ => 0
  | .blas, _ => 0
  | .tlas, instances => List.length instances

/-- The native handle in a call that destroys a resource of a kind. -/
def Call.destroyed? (kind : Kind) : Call → Option (Option Native)
  | destroy k native => if k = kind then some native else none
  | _ => none

namespace Recorder

/-- A new device, with nothing on it. -/
def fresh : Recorder := { supported := true }

/-! ### Parts of the state -/

@[simp] theorem arena_record (r : Recorder) (c : Command) (kind : Kind) :
    (r.record c).arena kind = r.arena kind := by
  cases kind <;> rfl

@[simp] theorem arena_withArena (r : Recorder) (kind : Kind) (a : Arena (Content kind)) :
    (r.withArena kind a).arena kind = a := by
  cases kind <;> rfl

theorem arena_withArena_of_ne (r : Recorder) {kind other : Kind} (a : Arena (Content kind))
    (h : other ≠ kind) : (r.withArena kind a).arena other = r.arena other := by
  cases kind <;> cases other <;> first | rfl | exact absurd rfl h

@[simp] theorem history_withArena (r : Recorder) (kind : Kind) (a : Arena (Content kind)) :
    (r.withArena kind a).history = r.history := by
  cases kind <;> rfl

@[simp] theorem supported_withArena (r : Recorder) (kind : Kind) (a : Arena (Content kind)) :
    (r.withArena kind a).supported = r.supported := by
  cases kind <;> rfl

@[simp] theorem failing_withArena (r : Recorder) (kind : Kind) (a : Arena (Content kind)) :
    (r.withArena kind a).failing = r.failing := by
  cases kind <;> rfl

@[simp] theorem content_record (r : Recorder) (c : Command) (kind : Kind) (source : Source kind) :
    (r.record c).content kind source = r.content kind source := by
  cases kind <;> rfl

theorem content_blas (r : Recorder) (geometries : List (Handle .geometry)) :
    r.content .blas geometries =
      match geometries.find? fun g => !r.geometries.contains g.native with
      | some g => .error ("createBLAS: unknown geometry " ++ describe g.native)
      | none => .ok (geometries.filterMap fun g => r.geometries.get? g.native) := rfl

theorem content_tlas (r : Recorder) (instances : List Instance) :
    r.content .tlas instances =
      if instances.all fun i => r.blases.contains i.blas.native then .ok instances
      else .error "createTLAS: instance references an unknown BLAS" := rfl

/-! ### What a command does -/

theorem keep_eq (r : Recorder) (kind : Kind) (content : Content kind) :
    r.keep kind content = ⟨⟨some ((r.arena kind).insert content).1, 0⟩,
      r.withArena kind ((r.arena kind).insert content).2, []⟩ := rfl

theorem create_eq (r : Recorder) (kind : Kind) (source : Source kind) :
    r.create kind source =
      if r.canCreate = false ∨ source.isEmpty = true then
        (r.record (.create kind source)).refuse kind (rejection kind)
      else
        match r.content kind source with
        | .error reason => (r.record (.create kind source)).refuse kind reason
        | .ok content => (r.record (.create kind source)).keep kind content := by
  unfold create
  simp only [content_record]
  rfl

/-- A creation is either refused, and then only recorded, or keeps a resource. -/
theorem create_cases (r : Recorder) (kind : Kind) (source : Source kind) :
    (∃ reason, r.create kind source = (r.record (.create kind source)).refuse kind reason) ∨
    ∃ content, r.canCreate = true ∧ source.isEmpty = false ∧ r.content kind source = .ok content ∧
      r.create kind source = (r.record (.create kind source)).keep kind content := by
  rw [create_eq]
  by_cases h : r.canCreate = false ∨ source.isEmpty = true
  · exact Or.inl ⟨rejection kind, if_pos h⟩
  · rw [if_neg h]
    rw [not_or, Bool.not_eq_false, Bool.not_eq_true] at h
    cases hc : r.content kind source with
    | error reason => exact Or.inl ⟨reason, rfl⟩
    | ok content => exact Or.inr ⟨content, h.1, h.2, rfl, rfl⟩

/-- An update is either refused, and then only recorded, or puts its instances in place of as
many. -/
theorem updateTlas_cases (r : Recorder) (tlas : Handle .tlas) (instances : List Instance) :
    (∃ reason, (∀ built, r.tlases.get? tlas.native = some built →
        built.length ≠ instances.length) ∧
      r.updateTlas tlas instances = ⟨(), r.record (.updateTlas tlas instances), [.warn reason]⟩) ∨
    ∃ built, r.tlases.get? tlas.native = some built ∧ built.length = instances.length ∧
      r.updateTlas tlas instances = ⟨(), (r.record (.updateTlas tlas instances)).withArena .tlas
        (r.tlases.update tlas.native fun _ => instances), []⟩ := by
  have hr : (r.record (.updateTlas tlas instances)).tlases = r.tlases := rfl
  unfold updateTlas
  simp only [hr]
  cases hg : r.tlases.get? tlas.native with
  | none => exact Or.inl ⟨_, nofun, rfl⟩
  | some built =>
    by_cases hl : built.length = instances.length
    · exact Or.inr ⟨built, rfl, hl, by simp only [if_pos hl]; rfl⟩
    · refine Or.inl ⟨_, fun other ho => ?_, by simp only [if_neg hl]; rfl⟩
      exact Option.some.inj ho ▸ hl

/-- A command is recorded and changes at most one arena, or else is the switch. -/
theorem perform_cases (r : Recorder) (c : Command) :
    (∃ kind a, r.perform c = (r.record c).withArena kind a) ∨
      ∃ failing, c = .setFailing failing ∧ r.perform c = { r.record c with failing } := by
  have hsame : ∃ kind a, r.record c = (r.record c).withArena kind a := ⟨.geometry, _, rfl⟩
  cases c with
  | create kind source =>
    refine Or.inl ?_
    show ∃ k a, (r.create kind source).state = _
    rcases create_cases r kind source with ⟨reason, h⟩ | ⟨content, -, -, -, h⟩
    · rw [h]
      exact hsame
    · rw [h]
      exact ⟨kind, _, rfl⟩
  | updateTlas tlas instances =>
    refine Or.inl ?_
    show ∃ k a, (r.updateTlas tlas instances).state = _
    rcases updateTlas_cases r tlas instances with ⟨reason, -, h⟩ | ⟨built, -, -, h⟩
    · rw [h]
      exact hsame
    · rw [h]
      exact ⟨.tlas, _, rfl⟩
  | destroy kind handle => exact Or.inl ⟨kind, _, rfl⟩
  | traceRays trace => exact Or.inl hsame
  | setFailing failing => exact Or.inr ⟨failing, rfl, rfl⟩

@[simp] theorem history_perform (r : Recorder) (c : Command) :
    (r.perform c).history = r.history ++ [c] := by
  rcases perform_cases r c with ⟨kind, a, h⟩ | ⟨failing, -, h⟩
  · rw [h, history_withArena]
    rfl
  · rw [h]
    rfl

@[simp] theorem supported_perform (r : Recorder) (c : Command) :
    (r.perform c).supported = r.supported := by
  rcases perform_cases r c with ⟨kind, a, h⟩ | ⟨failing, -, h⟩
  · rw [h, supported_withArena]
    rfl
  · rw [h]
    rfl

/-- Only the switch makes creations fail or succeed again. -/
theorem failing_perform (r : Recorder) {c : Command} (hc : ∀ failing, c ≠ .setFailing failing) :
    (r.perform c).failing = r.failing := by
  rcases perform_cases r c with ⟨kind, a, h⟩ | ⟨failing, he, -⟩
  · rw [h, failing_withArena]
    rfl
  · exact absurd he (hc failing)

/-! ### Commands one after another -/

/-- What some commands come to, one after another. -/
def performAll (r : Recorder) (cs : List Command) : Recorder := cs.foldl perform r

theorem performAll_append (r : Recorder) (cs ds : List Command) :
    r.performAll (cs ++ ds) = (r.performAll cs).performAll ds := List.foldl_append

theorem history_performAll (r : Recorder) (cs : List Command) :
    (r.performAll cs).history = r.history ++ cs := by
  induction cs generalizing r with
  | nil => exact (List.append_nil _).symm
  | cons c rest ih =>
    show ((r.perform c).performAll rest).history = _
    rw [ih, history_perform, List.append_assoc]
    rfl

theorem supported_performAll (r : Recorder) (cs : List Command) :
    (r.performAll cs).supported = r.supported := by
  induction cs generalizing r with
  | nil => rfl
  | cons c rest ih =>
    show ((r.perform c).performAll rest).supported = _
    rw [ih, supported_perform]

/-- The handle is one of a resource that is present. -/
def Holds (r : Recorder) (kind : Kind) (h : Handle kind) : Prop :=
  ∃ n, h.native = some n ∧ n ∈ (r.arena kind).handles

/-- A command that makes sense to a device at a moment: what it names is present, an update brings
as many instances as the scene has, and an image to trace has a size. -/
def Valid (r : Recorder) : Command → Prop
  | .create _ source => source.Usable r.Holds
  | .updateTlas tlas instances =>
    (∃ n built, tlas.native = some n ∧ (n, built) ∈ r.tlases.toList ∧
      instances.length = built.length) ∧ ∀ i ∈ instances, r.Holds .blas i.blas
  | .destroy kind handle => r.Holds kind handle
  | .traceRays trace => r.Holds .tlas trace.tlas ∧ 1 ≤ trace.width ∧ 1 ≤ trace.height
  | .setFailing _ => True

/-- Commands each of which makes sense at the moment when it is given. -/
def ValidRun : Recorder → List Command → Prop
  | _, [] => True
  | r, c :: rest => r.Valid c ∧ (r.perform c).ValidRun rest

theorem validRun_append (r : Recorder) (cs ds : List Command) :
    r.ValidRun (cs ++ ds) ↔ r.ValidRun cs ∧ (r.performAll cs).ValidRun ds := by
  induction cs generalizing r with
  | nil => exact ⟨fun h => ⟨trivial, h⟩, fun h => h.2⟩
  | cons c rest ih =>
    show r.Valid c ∧ (r.perform c).ValidRun (rest ++ ds) ↔ _
    rw [ih, ← and_assoc]
    rfl

/-! ### The arenas after a command -/

theorem arena_create {r : Recorder} {kind : Kind} {source : Source kind} {x : Content kind}
    (h : r.create kind source = (r.record (.create kind source)).keep kind x) :
    (r.perform (.create kind source)).arena kind = ((r.arena kind).insert x).2 := by
  show (r.create kind source).state.arena kind = _
  rw [h, keep_eq, arena_withArena, arena_record]

theorem arena_create_of_ne (r : Recorder) {kind other : Kind} (source : Source kind)
    (h : other ≠ kind) : (r.perform (.create kind source)).arena other = r.arena other := by
  show (r.create kind source).state.arena other = _
  rcases create_cases r kind source with ⟨reason, hc⟩ | ⟨x, -, -, -, hc⟩
  · rw [hc]
    exact arena_record r _ other
  · rw [hc, keep_eq, arena_withArena_of_ne _ _ h, arena_record]

theorem arena_destroy (r : Recorder) (kind : Kind) (handle : Handle kind) :
    (r.perform (.destroy kind handle)).arena kind = (r.arena kind).erase handle.native := by
  cases kind <;> rfl

theorem arena_destroy_of_ne (r : Recorder) {kind other : Kind} (handle : Handle kind)
    (h : other ≠ kind) : (r.perform (.destroy kind handle)).arena other = r.arena other := by
  have hperform : r.perform (.destroy kind handle) =
    (r.record (.destroy kind handle)).withArena kind
      (((r.record (.destroy kind handle)).arena kind).erase handle.native) := rfl
  rw [hperform, arena_withArena_of_ne _ _ h, arena_record]

theorem arena_updateTlas_of_ne (r : Recorder) (tlas : Handle .tlas) (instances : List Instance)
    {other : Kind} (h : other ≠ .tlas) :
    (r.perform (.updateTlas tlas instances)).arena other = r.arena other := by
  show (r.updateTlas tlas instances).state.arena other = _
  rcases updateTlas_cases r tlas instances with ⟨reason, -, hu⟩ | ⟨built, -, -, hu⟩
  · rw [hu]
    exact arena_record r _ other
  · rw [hu, arena_withArena_of_ne _ _ h, arena_record]

theorem arena_setFailing (r : Recorder) (failing : Bool) (kind : Kind) :
    (r.perform (.setFailing failing)).arena kind = r.arena kind := by
  cases kind <;> rfl

/-! ### What creations give and what destructions take -/

/-- The native handle that a command gives out, if it creates a resource of a kind. -/
def mints (r : Recorder) (kind : Kind) : Command → Option Native
  | .create k source => if k = kind then (r.create k source).value.native else none
  | _ => none

theorem mints_create (r : Recorder) (kind : Kind) (source : Source kind) :
    r.mints kind (.create kind source) = (r.create kind source).value.native := if_pos rfl

theorem eq_create_of_mints {r : Recorder} {kind : Kind} {c : Command} {n : Native}
    (h : r.mints kind c = some n) : ∃ source, c = .create kind source := by
  cases c with
  | create k source =>
    by_cases hk : k = kind
    · subst hk
      exact ⟨source, rfl⟩
    · exact absurd ((if_neg hk).symm.trans h) nofun
  | _ => exact absurd h nofun

/-- A creation that gives out a handle keeps a resource under it. -/
theorem create_of_mints {r : Recorder} {kind : Kind} {source : Source kind} {n : Native}
    (h : r.mints kind (.create kind source) = some n) :
    ∃ x, r.content kind source = .ok x ∧ ((r.arena kind).insert x).1 = n ∧
      r.create kind source = (r.record (.create kind source)).keep kind x := by
  rw [mints_create] at h
  rcases create_cases r kind source with ⟨reason, hc⟩ | ⟨x, -, -, hx, hc⟩
  · rw [hc] at h
    exact absurd h nofun
  · refine ⟨x, hx, ?_, hc⟩
    rw [hc, keep_eq, arena_record] at h
    exact Option.some.inj h

theorem create_value_of_mints {r : Recorder} {kind : Kind} {source : Source kind} {n : Native}
    (h : r.mints kind (.create kind source) = some n) :
    (r.create kind source).value = ⟨some n, 0⟩ := by
  obtain ⟨x, -, hn, hc⟩ := create_of_mints h
  rw [hc, keep_eq, arena_record, hn]

/-- A creation that gives out no handle is only recorded. -/
theorem perform_of_mints_none {r : Recorder} {kind : Kind} {source : Source kind}
    (h : r.mints kind (.create kind source) = none) :
    r.perform (.create kind source) = r.record (.create kind source) := by
  show (r.create kind source).state = _
  rcases create_cases r kind source with ⟨reason, hc⟩ | ⟨content, -, -, -, hc⟩
  · rw [hc]
    rfl
  · rw [mints_create, hc] at h
    exact absurd h nofun

/-- The native handles that some commands give out for a kind, one after another. -/
def minted (kind : Kind) : Recorder → List Command → List Native
  | _, [] => []
  | r, c :: rest => (r.mints kind c).toList ++ minted kind (r.perform c) rest

theorem minted_append (kind : Kind) (r : Recorder) (cs ds : List Command) :
    minted kind r (cs ++ ds) = minted kind r cs ++ minted kind (r.performAll cs) ds := by
  induction cs generalizing r with
  | nil => rfl
  | cons c rest ih =>
    show (r.mints kind c).toList ++ minted kind (r.perform c) (rest ++ ds) = _
    rw [ih, ← List.append_assoc]
    rfl

theorem minted_singleton (kind : Kind) (r : Recorder) (c : Command) :
    minted kind r [c] = (r.mints kind c).toList := List.append_nil _

/-- The native handles in the calls that destroy resources of a kind, one after another. -/
def destroyed (r : Recorder) (kind : Kind) : List (Option Native) :=
  r.calls.filterMap (Call.destroyed? kind)

theorem destroyed_of_history {r : Recorder} {old : Recorder} {c : Command} (kind : Kind)
    (h : r.history = old.history ++ [c]) :
    r.destroyed kind = old.destroyed kind ++ (c.call?.bind (Call.destroyed? kind)).toList := by
  unfold destroyed calls
  rw [h, List.filterMap_append, List.filterMap_append]
  cases c <;> rfl

/-- A creation adds a resource under the handle that it gives out, or none. -/
theorem arena_create_cases (r : Recorder) {k : Kind} (source : Source k) (kind : Kind) :
    (∃ same x, Command.create k source = .create kind same ∧ r.content kind same = .ok x ∧
      r.mints kind (.create k source) = some ((r.arena kind).insert x).1 ∧
      (r.perform (.create k source)).arena kind = ((r.arena kind).insert x).2) ∨
    (r.mints kind (.create k source) = none ∧
      (r.perform (.create k source)).arena kind = r.arena kind) := by
  by_cases hk : k = kind
  · subst hk
    cases hn : r.mints k (.create k source) with
    | none =>
      refine Or.inr ⟨rfl, ?_⟩
      rw [perform_of_mints_none hn, arena_record]
    | some n =>
      obtain ⟨x, hx, hnew, hcreate⟩ := create_of_mints hn
      exact Or.inl ⟨source, x, rfl, hx, congrArg some hnew.symm, arena_create hcreate⟩
  · exact Or.inr ⟨if_neg hk, arena_create_of_ne r source (Ne.symm hk)⟩

/-- What a command does to the resources of a kind, whatever handles it names: one is added, what a
handle finds is taken out, or what a handle finds is changed. -/
theorem arena_moves (r : Recorder) (c : Command) (kind : Kind) :
    (∃ source x, c = .create kind source ∧ r.content kind source = .ok x ∧
      r.mints kind c = some ((r.arena kind).insert x).1 ∧
      (r.perform c).arena kind = ((r.arena kind).insert x).2) ∨
    (r.mints kind c = none ∧ (∃ native, (r.perform c).arena kind = (r.arena kind).erase native)) ∨
    (r.mints kind c = none ∧ ∃ native f,
      (r.perform c).arena kind = (r.arena kind).update native f) := by
  -- to leave an arena as it is means to erase nothing from it
  have hsame : ∀ {a : Arena (Content kind)}, a = r.arena kind → ∃ native, a =
      (r.arena kind).erase native := fun ha => ⟨none, ha⟩
  cases c with
  | create k source =>
    rcases arena_create_cases r source kind with hmade | ⟨hmint, harena⟩
    · exact Or.inl hmade
    · exact Or.inr (Or.inl ⟨hmint, hsame harena⟩)
  | updateTlas tlas instances =>
    by_cases hk : kind = .tlas
    · subst hk
      have harena : (r.perform (.updateTlas tlas instances)).arena .tlas =
        (r.updateTlas tlas instances).state.arena .tlas := rfl
      rw [harena]
      rcases updateTlas_cases r tlas instances with ⟨reason, -, h⟩ | ⟨built, -, -, h⟩
      · rw [h]
        exact Or.inr (Or.inl ⟨rfl, hsame (arena_record r _ .tlas)⟩)
      · rw [h, arena_withArena]
        exact Or.inr (Or.inr ⟨rfl, tlas.native, _, rfl⟩)
    · exact Or.inr (Or.inl ⟨rfl, hsame (arena_updateTlas_of_ne r tlas instances hk)⟩)
  | destroy k handle =>
    by_cases hk : k = kind
    · subst hk
      exact Or.inr (Or.inl ⟨rfl, handle.native, arena_destroy r k handle⟩)
    · exact Or.inr (Or.inl ⟨rfl, hsame (arena_destroy_of_ne r handle (Ne.symm hk))⟩)
  | traceRays trace => exact Or.inr (Or.inl ⟨rfl, hsame (arena_record r _ kind)⟩)
  | setFailing failing => exact Or.inr (Or.inl ⟨rfl, hsame (arena_setFailing r failing kind)⟩)

/-- What a command that makes sense does to the resources of a kind: one is added, one is taken out,
or a scene gets as many instances as it had. -/
theorem arena_perform_cases {r : Recorder} {c : Command} (hv : r.Valid c) (kind : Kind) :
    (∃ source x, c = .create kind source ∧ r.content kind source = .ok x ∧
      r.mints kind c = some ((r.arena kind).insert x).1 ∧
      (r.perform c).arena kind = ((r.arena kind).insert x).2) ∨
    (∃ handle h x, c = .destroy kind handle ∧ handle.native = some h ∧
      (h, x) ∈ (r.arena kind).toList ∧ (r.perform c).arena kind = (r.arena kind).erase (some h)) ∨
    (r.mints kind c = none ∧ c.call?.bind (Call.destroyed? kind) = none ∧
      ((r.perform c).arena kind = r.arena kind ∨
        ∃ h x f, (h, x) ∈ (r.arena kind).toList ∧
          Content.instanceCount (f x) = Content.instanceCount x ∧
          (r.perform c).arena kind = (r.arena kind).update (some h) f)) := by
  cases c with
  | create k source =>
    have hcall : (Command.create k source).call?.bind (Call.destroyed? kind) = none := by
      cases k <;> rfl
    rcases arena_create_cases r source kind with hmade | ⟨hmint, harena⟩
    · exact Or.inl hmade
    · exact Or.inr (Or.inr ⟨hmint, hcall, Or.inl harena⟩)
  | updateTlas tlas instances =>
    refine Or.inr (Or.inr ⟨rfl, rfl, ?_⟩)
    by_cases hk : kind = .tlas
    · subst hk
      -- a valid update names a scene that is there and has as many instances
      obtain ⟨⟨n, old, hn, hm, hl⟩, -⟩ := hv
      have harena : (r.perform (.updateTlas tlas instances)).arena .tlas =
        (r.updateTlas tlas instances).state.arena .tlas := rfl
      rw [harena]
      rcases updateTlas_cases r tlas instances with ⟨reason, -, h⟩ | ⟨built, -, -, h⟩
      · rw [h]
        exact Or.inl (arena_record r _ .tlas)
      · rw [h]
        refine Or.inr ⟨n, old, fun _ => instances, hm, hl, ?_⟩
        rw [arena_withArena, hn]
        rfl
    · exact Or.inl (arena_updateTlas_of_ne r tlas instances hk)
  | destroy k handle =>
    by_cases hk : k = kind
    · subst hk
      obtain ⟨n, hn, hm⟩ := hv
      obtain ⟨x, hx⟩ := Arena.exists_of_mem_handles hm
      refine Or.inr (Or.inl ⟨handle, n, x, rfl, hn, hx, ?_⟩)
      rw [arena_destroy, hn]
    · have harena := arena_destroy_of_ne r handle (Ne.symm hk)
      exact Or.inr (Or.inr ⟨rfl, if_neg hk, Or.inl harena⟩)
  | traceRays trace => exact Or.inr (Or.inr ⟨rfl, rfl, Or.inl (arena_record r _ kind)⟩)
  | setFailing failing =>
    exact Or.inr (Or.inr ⟨rfl, rfl, Or.inl (arena_setFailing r failing kind)⟩)

theorem within_perform {r : Recorder} {kind : Kind} {n : Nat} (w : (r.arena kind).Within n)
    (hn : n < 2 ^ 31) (c : Command) :
    ((r.perform c).arena kind).Within (n + (r.mints kind c).toList.length) := by
  rcases arena_moves r c kind with ⟨source, x, -, -, hmint, ha⟩ | ⟨hmint, native, ha⟩ |
    ⟨hmint, native, f, ha⟩
  · rw [ha, hmint]
    exact w.insert hn x
  · rw [ha, hmint]
    exact w.erase native
  · rw [ha, hmint]
    exact w.update native f

theorem grows_perform {r : Recorder} {kind : Kind} {n : Nat} (w : (r.arena kind).Within n)
    (hn : n < 2 ^ 31) (c : Command) :
    Arena.Grows (r.arena kind) ((r.perform c).arena kind) := by
  rcases arena_moves r c kind with ⟨source, x, -, -, -, ha⟩ | ⟨-, native, ha⟩ | ⟨-, native, f, ha⟩
  · rw [ha]
    exact Arena.grows_insert w hn x
  · rw [ha]
    exact Arena.grows_of_reuses (Arena.map_reuses_erase _ _)
  · rw [ha]
    exact Arena.grows_of_reuses (Arena.map_reuses_update _ _ f)

/-! ### What a device tells of a command -/

/-- What a device tells when it carries out a command. -/
def told (r : Recorder) : Command → List Record
  | .create kind source => (r.create kind source).log
  | .updateTlas tlas instances => (r.updateTlas tlas instances).log
  | .destroy _ _ => []
  | .traceRays _ => []
  | .setFailing _ => []

/-- There are so few slots that the handles of what is present can be told apart. -/
def InRange (r : Recorder) : Prop := ∀ kind, (r.arena kind).Fits

/-- A command leaves room to tell the resources apart, if there is room for one that it creates. -/
theorem InRange.perform {r : Recorder} (hr : r.InRange) {c : Command}
    (hroom : ∀ kind, (r.mints kind c).isSome → (r.arena kind).size + 1 < UInt32.size) :
    (r.perform c).InRange := by
  intro kind
  rcases r.arena_moves c kind with ⟨source, x, -, -, hmint, ha⟩ | ⟨-, native, ha⟩ |
    ⟨-, native, f, ha⟩
  · rw [ha]
    exact (hr kind).insert (hroom kind (by rw [hmint]; rfl)) x
  · rw [ha]
    exact (hr kind).erase native
  · rw [ha]
    exact (hr kind).update native f

theorem Holds.contains {r : Recorder} (hr : r.InRange) {kind : Kind} {h : Handle kind}
    (hh : r.Holds kind h) : (r.arena kind).contains h.native = true := by
  obtain ⟨n, hn, hin⟩ := hh
  rw [hn]
  exact Arena.contains_of_mem_handles (hr kind) hin

/-- Something is kept of a source that is not empty exactly if all that it names is there. -/
theorem exists_content_iff (r : Recorder) {kind : Kind} {source : Source kind}
    (hne : source.isEmpty = false) :
    (∃ x, r.content kind source = .ok x) ↔
      source.Usable fun k h => (r.arena k).contains h.native = true := by
  cases kind with
  | geometry => exact iff_of_true ⟨_, rfl⟩ (beq_eq_false_iff_ne.1 hne)
  | blas =>
    have hnone : List.find? (fun g => !r.geometries.contains g.native) source = none ↔
        ∀ g ∈ source, r.geometries.contains g.native = true := by
      simp only [List.find?_eq_none, Bool.not_eq_true', Bool.not_eq_false]
    rw [content_blas]
    refine ⟨fun ⟨x, hx⟩ => ⟨List.isEmpty_eq_false_iff.1 hne, hnone.1 ?_⟩, fun h => ?_⟩
    · split at hx
      · cases hx
      · assumption
    · rw [hnone.2 h.2]
      exact ⟨_, rfl⟩
  | tlas =>
    rw [content_tlas]
    refine ⟨fun ⟨x, hx⟩ => ⟨List.isEmpty_eq_false_iff.1 hne, ?_⟩, fun h => ?_⟩
    · split at hx
      next hall => exact List.all_eq_true.1 hall
      next => cases hx
    · have hall : (List.all source fun i => r.blases.contains i.blas.native) = true :=
        List.all_eq_true.2 h.2
      rw [if_pos hall]
      exact ⟨_, rfl⟩

theorem exists_content {r : Recorder} (hr : r.InRange) {kind : Kind} {source : Source kind}
    (h : source.Usable r.Holds) : ∃ x, r.content kind source = .ok x :=
  (r.exists_content_iff h.isEmpty).2 (h.mono fun _ _ hh => hh.contains hr)

/-- A source that something can be made from becomes a resource unless creations are made to
fail. -/
theorem create_of_usable {r : Recorder} (hr : r.InRange) (hc : r.canCreate = true) {kind : Kind}
    {source : Source kind} (h : source.Usable r.Holds) :
    ∃ x, r.content kind source = .ok x ∧
      r.create kind source = (r.record (.create kind source)).keep kind x := by
  obtain ⟨x, hx⟩ := exists_content hr h
  have hneg : ¬ (r.canCreate = false ∨ source.isEmpty = true) := by
    rw [h.isEmpty, hc]
    decide
  refine ⟨x, hx, ?_⟩
  rw [create_eq, if_neg hneg, hx]

theorem create_of_not_canCreate {r : Recorder} (hc : r.canCreate = false) (kind : Kind)
    (source : Source kind) :
    r.create kind source = (r.record (.create kind source)).refuse kind (rejection kind) := by
  rw [create_eq]
  exact if_pos (Or.inl hc)

theorem told_of_not_canCreate {r : Recorder} (hc : r.canCreate = false) (kind : Kind)
    (source : Source kind) : r.told (.create kind source) = [.warn (rejection kind)] := by
  show (r.create kind source).log = _
  rw [create_of_not_canCreate hc]
  rfl

theorem mints_of_not_canCreate {r : Recorder} (hc : r.canCreate = false) (kind : Kind)
    (source : Source kind) : r.mints kind (.create kind source) = none := by
  rw [mints_create, create_of_not_canCreate hc]
  rfl

theorem exists_mints {r : Recorder} (hr : r.InRange) (hc : r.canCreate = true) {kind : Kind}
    {source : Source kind} (h : source.Usable r.Holds) :
    ∃ n, r.mints kind (.create kind source) = some n := by
  obtain ⟨x, -, hcreate⟩ := create_of_usable hr hc h
  rw [mints_create, hcreate, keep_eq]
  exact ⟨_, rfl⟩

theorem updateTlas_of_valid {r : Recorder} (hr : r.InRange) {tlas : Handle .tlas}
    {instances : List Instance} (hv : r.Valid (.updateTlas tlas instances)) :
    r.updateTlas tlas instances = ⟨(), (r.record (.updateTlas tlas instances)).withArena .tlas
      (r.tlases.update tlas.native fun _ => instances), []⟩ := by
  obtain ⟨⟨n, built, hn, hm, hl⟩, -⟩ := hv
  have hg : r.tlases.get? tlas.native = some built := by
    rw [hn]
    exact Arena.get?_of_mem (hr .tlas) hm
  have hr' : (r.record (.updateTlas tlas instances)).tlases = r.tlases := rfl
  unfold updateTlas
  simp only [hr', hg, if_pos hl.symm]
  rfl

theorem arena_updateTlas {r : Recorder} (hr : r.InRange) {tlas : Handle .tlas}
    {instances : List Instance} (hv : r.Valid (.updateTlas tlas instances)) :
    (r.perform (.updateTlas tlas instances)).arena .tlas =
      (r.arena .tlas).update tlas.native fun _ => instances := by
  show (r.updateTlas tlas instances).state.arena .tlas = _
  rw [updateTlas_of_valid hr hv, arena_withArena]
  rfl

/-- **No valid command is refused.**  A device tells nothing of it, except that it creates nothing
at all while creations are made to fail. -/
theorem told_of_valid {r : Recorder} (hr : r.InRange) {c : Command} (hv : r.Valid c) :
    r.told c = [] ∨ ∃ kind source, c = .create kind source ∧ r.canCreate = false ∧
      r.told c = [.warn (rejection kind)] := by
  cases c with
  | create kind source =>
    cases hc : r.canCreate with
    | true =>
      obtain ⟨x, -, h⟩ := create_of_usable hr hc hv
      refine Or.inl ?_
      show (r.create kind source).log = []
      rw [h]
      rfl
    | false => exact Or.inr ⟨kind, source, rfl, rfl, told_of_not_canCreate hc kind source⟩
  | updateTlas tlas instances =>
    refine Or.inl ?_
    show (r.updateTlas tlas instances).log = []
    rw [updateTlas_of_valid hr hv]
  | destroy kind handle => exact Or.inl rfl
  | traceRays trace => exact Or.inl rfl
  | setFailing failing => exact Or.inl rfl

/-! ### What a device holds -/

/-- The native handles of the resources of a kind, each with the number of its instances. -/
def holdings (r : Recorder) (kind : Kind) : List (Option Native × Nat) :=
  (r.arena kind).toList.map fun p => (some p.1, Content.instanceCount p.2)

theorem mem_holdings {r : Recorder} {kind : Kind} {native : Option Native} {k : Nat} :
    (native, k) ∈ r.holdings kind ↔ ∃ n x, native = some n ∧ (n, x) ∈ (r.arena kind).toList ∧
      Content.instanceCount x = k := by
  unfold holdings
  rw [List.mem_map]
  constructor
  · rintro ⟨⟨n, x⟩, hm, he⟩
    obtain ⟨rfl, rfl⟩ := Prod.mk.inj he
    exact ⟨n, x, rfl, hm, rfl⟩
  · rintro ⟨n, x, rfl, hm, rfl⟩
    exact ⟨(n, x), hm, rfl⟩

theorem map_fst_holdings (r : Recorder) (kind : Kind) :
    (r.holdings kind).map Prod.fst = (r.arena kind).handles.map some := by
  unfold holdings Arena.handles
  rw [List.map_map, List.map_map]
  rfl

theorem holds_of_mem_holdings {r : Recorder} {kind : Kind} {h : Handle kind} {k : Nat}
    (hm : (h.native, k) ∈ r.holdings kind) : r.Holds kind h := by
  obtain ⟨n, x, hn, hx, -⟩ := mem_holdings.1 hm
  exact ⟨n, hn, Arena.mem_handles_of_mem hx⟩

theorem instanceCount_of_content {r : Recorder} {kind : Kind} {source : Source kind}
    {x : Content kind} (h : r.content kind source = .ok x) :
    Content.instanceCount x = source.instanceCount := by
  cases kind with
  | geometry => rfl
  | blas => rfl
  | tlas =>
    rw [content_tlas] at h
    split at h
    · rw [← Except.ok.inj h]
      rfl
    · simp at h

theorem holdings_of_update {r s : Recorder} (hr : r.InRange) {kind : Kind} {h : Native}
    {x : Content kind} {f : Content kind → Content kind} (hm : (h, x) ∈ (r.arena kind).toList)
    (hf : Content.instanceCount (f x) = Content.instanceCount x)
    (ha : s.arena kind = (r.arena kind).update (some h) f) : s.holdings kind = r.holdings kind := by
  obtain ⟨place, t, before, after, -, -, -, hl, -, -, hu⟩ := Arena.exists_slot (hr kind) hm
  unfold holdings
  rw [ha, (hu f).2, hl, List.map_append, List.map_append, List.map_cons, List.map_cons]
  simp only [hf]

/-- A creation that gives out a handle adds it. -/
theorem holdings_create {r : Recorder} {kind : Kind} {source : Source kind} {n : Native}
    (hn : r.mints kind (.create kind source) = some n) :
    ((r.perform (.create kind source)).holdings kind).Perm
        ((some n, source.instanceCount) :: r.holdings kind) ∧
      ∀ k, k ≠ kind → (r.perform (.create kind source)).holdings k = r.holdings k := by
  obtain ⟨x, hx, hnew, hcreate⟩ := create_of_mints hn
  have hperm := (Arena.perm_insert (r.arena kind) x).map
    fun p => (some p.1, Content.instanceCount p.2)
  unfold holdings
  refine ⟨?_, fun k hk => ?_⟩
  · rw [← instanceCount_of_content hx, arena_create hcreate, ← hnew]
    exact hperm
  · rw [arena_create_of_ne r source hk]

/-- A destruction of what is held takes it out. -/
theorem holdings_destroy {r : Recorder} (hr : r.InRange) {kind : Kind} {handle : Handle kind}
    {count : Nat} (hm : (handle.native, count) ∈ r.holdings kind) :
    (r.holdings kind).Perm
        ((handle.native, count) :: (r.perform (.destroy kind handle)).holdings kind) ∧
      ∀ k, k ≠ kind → (r.perform (.destroy kind handle)).holdings k = r.holdings k := by
  obtain ⟨n, x, hn, hx, rfl⟩ := mem_holdings.1 hm
  have hperm := (Arena.perm_erase (hr kind) hx).map fun p => (some p.1, Content.instanceCount p.2)
  unfold holdings
  refine ⟨?_, fun k hk => ?_⟩
  · rw [arena_destroy, hn]
    exact hperm
  · rw [arena_destroy_of_ne r handle hk]

/-- A command that makes sense and neither adds a resource nor takes one out leaves the holdings. -/
theorem holdings_perform {r : Recorder} (hr : r.InRange) {c : Command} (hv : r.Valid c) {kind : Kind}
    (hn : r.mints kind c = none) (hd : ∀ handle, c ≠ .destroy kind handle) :
    (r.perform c).holdings kind = r.holdings kind := by
  rcases arena_perform_cases hv kind with ⟨source, x, -, -, hmint, -⟩ |
    ⟨handle, n, x, hc, -⟩ | ⟨-, -, ha | ⟨n, x, f, hx, hf, ha⟩⟩
  · exact absurd (hn.symm.trans hmint) nofun
  · exact absurd hc (hd handle)
  · unfold holdings
    rw [ha]
  · exact holdings_of_update hr hx hf ha

end Recorder

end ScriptedRays
