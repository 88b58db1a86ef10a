import Mathlib.Logic.Function.Basic
import ScriptedRays.Proofs.Lookup
import ScriptedRays.Proofs.Recorder

/-!
# HandleMap — a recorder as a map from handles

The simplest device has nothing but a map from the handles that it gives out, and hits the resource under
the odd form of any handle.  A recorder does the same on every command as the map in which the same is
found (`FindsSame.step`), as long as its slots can be numbered.
-/

namespace ScriptedRays

/-- What is kept of a resource made from a source, given what the handles that it names find: all of
them must find something. -/
def Source.gather (find : (kind : Kind) → Option Native → Option (Content kind)) :
    {kind : Kind} → Source kind → Option (Content kind)
  | .geometry, m => some (m.positions.flatMap Position.toList)
  | .blas, geometries => List.mapM (fun g => find .geometry (Handle.native g)) geometries
  | .tlas, instances =>
    if List.all instances fun i => (find .blas i.blas.native).isSome then some instances else none

/-- An update of a scene: the instances take the place of as many. -/
def Content.replaced (instances built : List Instance) : List Instance :=
  if built.length = instances.length then instances else built

/-! ### What is seen of a recorder -/

/-- What is seen of a command: the handle that a creation gives, and what each handle finds after
it. -/
structure Sight where
  given : Option ((kind : Kind) × Handle kind)
  found : (kind : Kind) → Option Native → Option (Content kind)

namespace Recorder

/-- The handle that a creation gives. -/
def given (r : Recorder) : Command → Option ((kind : Kind) × Handle kind)
  | .create kind source => some ⟨kind, (r.create kind source).value⟩
  | _ => none

/-- What is seen of a command, and what it leaves. -/
def step (r : Recorder) (c : Command) : Sight × Recorder :=
  (⟨r.given c, (r.perform c).find?⟩, r.perform c)

end Recorder

/-- A device that is nothing but a map from the handles that it gives out, one after another, and
hits the resource under the odd form of a handle. -/
structure HandleMap where
  supported : Bool
  failing : Bool := false
  contents : (kind : Kind) → Native → Option (Content kind) := fun _ _ => none
  unused : Kind → List Native

namespace HandleMap

def find? (v : HandleMap) (kind : Kind) (native : Option Native) : Option (Content kind) :=
  native.bind fun n => v.contents kind n.odd

/-- The map with something else under a handle. -/
def put (v : HandleMap) (kind : Kind) (n : Native) (x : Option (Content kind)) : HandleMap :=
  { v with contents := Function.update v.contents kind (Function.update (v.contents kind) n x) }

/-- What a map would give when it is out of handles; no creation of a recorder gives it. -/
def spare : Native := ⟨1, by decide⟩

/-- Puts a new resource under the next handle, whenever creations succeed, there is something to make
it from and every handle that it names finds something. -/
def create (v : HandleMap) (kind : Kind) (source : Source kind) : Handle kind × HandleMap :=
  if v.supported = true ∧ v.failing = false ∧ source.isEmpty = false then
    (source.gather v.find?).elim (.null, v) fun x =>
      let n := (v.unused kind).headD spare
      (⟨some n, 0⟩,
        { v.put kind n (some x) with
          unused := Function.update v.unused kind (v.unused kind).tail })
  else (.null, v)

/-- Puts other instances in place of as many, under the odd form of the handle. -/
def updateTlas (v : HandleMap) (tlas : Handle .tlas) (instances : List Instance) : HandleMap :=
  tlas.native.elim v fun n =>
    v.put .tlas n.odd ((v.contents .tlas n.odd).map (Content.replaced instances))

/-- Takes out what is under the odd form of the handle. -/
def destroy (v : HandleMap) (kind : Kind) (handle : Handle kind) : HandleMap :=
  handle.native.elim v fun n => v.put kind n.odd none

/-- What is seen of a command, and what it leaves. -/
def step (v : HandleMap) : Command → Sight × HandleMap
  | .create kind source =>
    let made := v.create kind source
    (⟨some ⟨kind, made.1⟩, made.2.find?⟩, made.2)
  | .updateTlas tlas instances =>
    (⟨none, (v.updateTlas tlas instances).find?⟩, v.updateTlas tlas instances)
  | .destroy kind handle => (⟨none, (v.destroy kind handle).find?⟩, v.destroy kind handle)
  | .traceRays _ => (⟨none, v.find?⟩, v)
  | .setFailing failing => (⟨none, v.find?⟩, { v with failing })

theorem create_of_gather {v : HandleMap} {kind : Kind} {source : Source kind} {n : Native}
    {rest : List Native} {x : Content kind} (hu : v.unused kind = n :: rest)
    (hs : v.supported = true) (hf : v.failing = false) (he : source.isEmpty = false)
    (hx : source.gather v.find? = some x) :
    v.create kind source = (⟨some n, 0⟩,
      { v.put kind n (some x) with unused := Function.update v.unused kind rest }) := by
  unfold create
  rw [if_pos ⟨hs, hf, he⟩, hx, hu]
  rfl

theorem create_of_refused {v : HandleMap} {kind : Kind} {source : Source kind}
    (h : v.supported = true → v.failing = false → source.isEmpty = false →
      source.gather v.find? = none) : v.create kind source = (.null, v) := by
  unfold create
  split
  · next hc => rw [h hc.1 hc.2.1 hc.2.2, Option.elim_none]
  · rfl

@[simp] theorem unused_updateTlas (v : HandleMap) (tlas : Handle .tlas) (instances : List Instance) :
    (v.updateTlas tlas instances).unused = v.unused := by
  unfold updateTlas
  cases tlas.native <;> rfl

@[simp] theorem unused_destroy (v : HandleMap) (kind : Kind) (handle : Handle kind) :
    (v.destroy kind handle).unused = v.unused := by
  unfold destroy
  cases handle.native <;> rfl

theorem find?_put (v : HandleMap) (kind : Kind) (n : Native) (x : Option (Content kind)) (m : Native) :
    (v.put kind n x).find? kind (some m) = if m.odd = n then x else v.find? kind (some m) := by
  show Function.update v.contents kind _ kind m.odd = _
  rw [Function.update_self, Function.update_apply]
  rfl

theorem find?_put_of_ne (v : HandleMap) {kind other : Kind} (h : other ≠ kind) (n : Native)
    (x : Option (Content kind)) (native : Option Native) :
    (v.put kind n x).find? other native = v.find? other native := by
  unfold find? put
  simp only [Function.update_of_ne h]

end HandleMap

namespace Recorder

/-! ### What a command does to what is found -/

theorem mapM_eq {β γ : Type} (f : β → Option γ) (l : List β) :
    l.mapM f = match l.find? fun b => !(f b).isSome with
      | some _ => none
      | none => some (l.filterMap f) := by
  induction l with
  | nil => rfl
  | cons b rest ih =>
    rw [List.mapM_cons, List.find?_cons]
    cases hb : f b with
    | none => rfl
    | some x =>
      rw [List.filterMap_cons_some hb, ih]
      simp only [Option.isSome_some, Bool.not_true]
      cases List.find? (fun b => !(f b).isSome) rest <;> rfl

theorem content_iff (r : Recorder) {kind : Kind} (source : Source kind) (x : Content kind) :
    r.content kind source = .ok x ↔ source.gather r.find? = some x := by
  cases kind with
  | geometry =>
    exact ⟨fun h => congrArg some (Except.ok.inj h), fun h => congrArg _ (Option.some.inj h)⟩
  | blas =>
    rw [content_blas]
    unfold Arena.contains
    show _ ↔ List.mapM (fun g => r.geometries.get? (Handle.native g)) source = _
    rw [mapM_eq]
    cases List.find? (fun g => !(r.geometries.get? (Handle.native g)).isSome) source with
    | none => simp
    | some g => simp
  | tlas =>
    rw [content_tlas]
    let found := List.all source fun i => (r.blases.get? i.blas.native).isSome
    show (if found = true then _ else _) = _ ↔ (if found = true then _ else _) = _
    by_cases h : found = true
    · rw [if_pos h, if_pos h]
      simp
    · rw [if_neg h, if_neg h]
      simp

/-- A creation keeps a resource exactly if creations succeed, there is something to make it from and
every handle it names finds something. -/
theorem create_spec (r : Recorder) (kind : Kind) (source : Source kind) :
    (∃ x, r.canCreate = true ∧ source.isEmpty = false ∧ source.gather r.find? = some x ∧
      r.create kind source = (r.record (.create kind source)).keep kind x) ∨
    ((r.canCreate = true → source.isEmpty = false → source.gather r.find? = none) ∧
      ∃ reason, r.create kind source = (r.record (.create kind source)).refuse kind reason) := by
  rw [create_eq]
  by_cases h : r.canCreate = false ∨ source.isEmpty = true
  · rw [if_pos h]
    refine Or.inr ⟨fun hc he => ?_, rejection kind, rfl⟩
    rw [hc, he] at h
    exact absurd h (by decide)
  · rw [if_neg h]
    rw [not_or, Bool.not_eq_false, Bool.not_eq_true] at h
    cases hc : r.content kind source with
    | ok x => exact Or.inl ⟨x, h.1, h.2, (content_iff r source x).1 hc, rfl⟩
    | error reason =>
      refine Or.inr ⟨fun _ _ => ?_, reason, rfl⟩
      refine Option.eq_none_iff_forall_not_mem.2 fun x hx => ?_
      rw [(content_iff r source x).2 hx] at hc
      exact absurd hc nofun

theorem find?_of_arena {r s : Recorder} {kind : Kind} (h : s.arena kind = r.arena kind)
    (native : Option Native) : s.find? kind native = r.find? kind native := by
  unfold find?
  rw [h]

theorem find?_of_odd {r : Recorder} {kind : Kind} {m n : Native} (h : m.odd = n.odd) :
    r.find? kind (some m) = r.find? kind (some n) := by
  unfold find?
  rw [← Arena.get?_odd, h, Arena.get?_odd]

/-- An update replaces the instances of the scene that the handle finds, if they are as many. -/
theorem find?_updateTlas {r : Recorder} (hr : r.InRange) {tlas : Handle .tlas} {n : Native}
    (hn : tlas.native = some n) (instances : List Instance) (m : Native) :
    (r.perform (.updateTlas tlas instances)).find? .tlas (some m) =
      if m.odd = n.odd then (r.find? .tlas (some n)).map (Content.replaced instances)
      else r.find? .tlas (some m) := by
  show (r.updateTlas tlas instances).state.find? .tlas (some m) = _
  rcases updateTlas_cases r tlas instances with ⟨reason, hno, h⟩ | ⟨built, hget, hl, h⟩
  · rw [hn] at hno
    -- the update is refused, which leaves the map as it is, for `replaced` refuses the same lists
    have hsame : (r.find? .tlas (some n)).map (Content.replaced instances) =
        r.find? .tlas (some n) := by
      cases hget : r.find? .tlas (some n) with
      | none => rfl
      | some built => exact congrArg some (if_neg (hno built hget))
    rw [h, hsame]
    show r.find? .tlas (some m) = _
    by_cases hm : m.odd = n.odd
    · rw [if_pos hm, find?_of_odd hm]
    · rw [if_neg hm]
  · rw [hn] at hget
    have hsome : r.find? .tlas (some n) = some built := hget
    rw [h, hn, hsome]
    show ((r.arena .tlas).update (some n) fun _ => instances).get? (some m) = _
    have hreplaced : Content.replaced instances built = instances := if_pos hl
    rw [Arena.get?_update (hr .tlas), Option.map_some, hreplaced]
    show (if m.odd = n.odd then (r.find? .tlas (some n)).map _ else _) = _
    rw [hsome]
    rfl

end Recorder

/-- The map finds under every handle what the recorder finds under it. -/
structure FindsSame (r : Recorder) (v : HandleMap) : Prop where
  supported : r.supported = v.supported
  failing : r.failing = v.failing
  found : r.find? = v.find?

namespace FindsSame

variable {r : Recorder} {v : HandleMap} (h : FindsSame r v)
include h

theorem put {s : Recorder} {kind : Kind} {n : Native} {x : Option (Content kind)}
    (hsupported : s.supported = r.supported) (hfailing : s.failing = r.failing)
    (hother : ∀ k, k ≠ kind → s.arena k = r.arena k)
    (hkind : ∀ m, s.find? kind (some m) = if m.odd = n then x else r.find? kind (some m)) :
    FindsSame s (v.put kind n x) := by
  refine ⟨hsupported.trans h.supported, hfailing.trans h.failing, ?_⟩
  funext k native
  cases native with
  | none => rfl
  | some m =>
    by_cases hk : k = kind
    · subst hk
      rw [hkind, HandleMap.find?_put, h.found]
    · rw [HandleMap.find?_put_of_ne v hk, Recorder.find?_of_arena (hother k hk), h.found]

theorem same {s : Recorder} (hsupported : s.supported = r.supported)
    (hfailing : s.failing = r.failing) (harena : ∀ k, s.arena k = r.arena k) : FindsSame s v := by
  refine ⟨hsupported.trans h.supported, hfailing.trans h.failing, ?_⟩
  rw [← h.found]
  funext k native
  exact Recorder.find?_of_arena (harena k) native

/-- A creation gives the next handle of the map, or none on both sides. -/
theorem create (hr : r.InRange) {kind : Kind} {source : Source kind}
    (hr' : (r.perform (.create kind source)).InRange) {rest : Kind → List Native}
    (hunused : ∀ k, v.unused k = (r.mints k (.create kind source)).toList ++ rest k) :
    (r.create kind source).value = (v.create kind source).1 ∧
      FindsSame (r.perform (.create kind source)) (v.create kind source).2 ∧
      (v.create kind source).2.unused = rest := by
  have hmints := r.mints_create kind source
  have hother : ∀ k, k ≠ kind → v.unused k = rest k := fun k hk => by
    rw [hunused k, show r.mints k (.create kind source) = none from if_neg (Ne.symm hk)]
    rfl
  have hcan : r.canCreate = true ↔ v.supported = true ∧ v.failing = false := by
    unfold Recorder.canCreate
    rw [h.supported, h.failing, Bool.and_eq_true, Bool.not_eq_true']
  -- both refuse in the same cases, and the names of the source find the same on both
  rcases r.create_spec kind source with ⟨x, hc, he, hx, hcreate⟩ | ⟨hno, reason, hcreate⟩
  · rw [hcreate, Recorder.keep_eq, Recorder.arena_record] at hmints
    have hkind : v.unused kind = ((r.arena kind).insert x).1 :: rest kind := by
      rw [hunused kind, hmints]
      rfl
    have harena := Recorder.arena_create hcreate
    rw [h.found] at hx
    rw [HandleMap.create_of_gather hkind (hcan.1 hc).1 (hcan.1 hc).2 he hx]
    -- in the arena, too, the new resource is found under its own handle and no other
    have hput : FindsSame (r.perform (.create kind source))
        (v.put kind ((r.arena kind).insert x).1 (some x)) := by
      refine h.put (Recorder.supported_perform r _) (Recorder.failing_perform r nofun)
        (fun k hk => Recorder.arena_create_of_ne r source hk) fun m => ?_
      show ((r.perform (.create kind source)).arena kind).get? (some m) = _
      have hfits := hr' kind
      rw [harena] at hfits ⊢
      exact Arena.get?_insert (hr kind) x hfits m
    refine ⟨?_, ⟨hput.supported, hput.failing, hput.found⟩, ?_⟩
    · rw [hcreate, Recorder.keep_eq, Recorder.arena_record]
    · funext k
      show Function.update v.unused kind (rest kind) k = rest k
      by_cases hk : k = kind
      · rw [hk, Function.update_self]
      · rw [Function.update_of_ne hk, hother k hk]
  · have hnone : r.mints kind (.create kind source) = none := by
      rw [hmints, hcreate]
      rfl
    rw [h.found] at hno
    rw [HandleMap.create_of_refused fun hs hf he => hno (hcan.2 ⟨hs, hf⟩) he,
      Recorder.perform_of_mints_none hnone, hcreate]
    refine ⟨rfl, h.same rfl rfl fun k => Recorder.arena_record r _ k, funext fun k => ?_⟩
    by_cases hk : k = kind
    · rw [hk, hunused kind, hnone]
      rfl
    · exact hother k hk

/-- An update changes the scene under the odd form of its handle. -/
theorem updateTlas (hr : r.InRange) (tlas : Handle .tlas) (instances : List Instance) :
    FindsSame (r.perform (.updateTlas tlas instances)) (v.updateTlas tlas instances) := by
  have hother := fun k (hk : k ≠ Kind.tlas) => r.arena_updateTlas_of_ne tlas instances hk
  have hfailing := Recorder.failing_perform r (c := .updateTlas tlas instances) nofun
  have hsupported := Recorder.supported_perform r (.updateTlas tlas instances)
  unfold HandleMap.updateTlas
  cases hn : tlas.native with
  | none =>
    refine h.same hsupported hfailing fun k => ?_
    show (r.updateTlas tlas instances).state.arena k = _
    rcases Recorder.updateTlas_cases r tlas instances with ⟨reason, -, hu⟩ | ⟨built, hget, -⟩
    · rw [hu]
      exact Recorder.arena_record r _ k
    · rw [hn] at hget
      exact absurd hget nofun
  | some n =>
    refine h.put hsupported hfailing hother fun m => ?_
    rw [Recorder.find?_updateTlas hr hn]
    have hfound : r.find? .tlas (some n) = v.contents .tlas n.odd := by
      rw [h.found]
      rfl
    rw [hfound]

/-- A destruction takes out what is under the odd form of its handle. -/
theorem destroy (hr : r.InRange) (kind : Kind) (handle : Handle kind) :
    FindsSame (r.perform (.destroy kind handle)) (v.destroy kind handle) := by
  have harena := Recorder.arena_destroy r kind handle
  have hother := fun k (hk : k ≠ kind) => r.arena_destroy_of_ne handle hk
  have hfailing := Recorder.failing_perform r (c := .destroy kind handle) nofun
  have hsupported := Recorder.supported_perform r (.destroy kind handle)
  unfold HandleMap.destroy
  cases hn : handle.native with
  | none =>
    rw [hn] at harena
    refine h.same hsupported hfailing fun k => ?_
    by_cases hk : k = kind
    · subst hk
      exact harena
    · exact hother k hk
  | some n =>
    rw [hn] at harena
    refine h.put hsupported hfailing hother fun m => ?_
    show ((r.perform (.destroy kind handle)).arena kind).get? (some m) = _
    rw [harena]
    exact Arena.get?_erase (hr kind) n m

/-- **One command.**  The same is seen of it on a recorder and on its map. -/
theorem step (hr : r.InRange) {c : Command} (hr' : (r.perform c).InRange)
    {rest : Kind → List Native} (hunused : ∀ k, v.unused k = (r.mints k c).toList ++ rest k) :
    (r.step c).1 = (v.step c).1 ∧ FindsSame (r.perform c) (v.step c).2 ∧
      (v.step c).2.unused = rest := by
  -- a command that gives no handle is seen by what is found after it
  have hseen : ∀ w : HandleMap, FindsSame (r.perform c) w →
      (⟨none, (r.perform c).find?⟩ : Sight) = ⟨none, w.find?⟩ := fun w hw => by rw [hw.found]
  cases c with
  | create kind source =>
    obtain ⟨hvalue, hfinds, hrest⟩ := h.create hr hr' hunused
    refine ⟨?_, hfinds, hrest⟩
    show (⟨some ⟨kind, _⟩, (r.perform (.create kind source)).find?⟩ : Sight) = ⟨some ⟨kind, _⟩, _⟩
    rw [hvalue, hfinds.found]
  | updateTlas tlas instances =>
    have hfinds := h.updateTlas hr tlas instances
    exact ⟨hseen _ hfinds, hfinds, (v.unused_updateTlas tlas instances).trans (funext hunused)⟩
  | destroy kind handle =>
    have hfinds := h.destroy hr kind handle
    exact ⟨hseen _ hfinds, hfinds, (v.unused_destroy kind handle).trans (funext hunused)⟩
  | traceRays trace =>
    have hfinds : FindsSame (r.perform (.traceRays trace)) v :=
      h.same rfl rfl fun k => Recorder.arena_record r _ k
    exact ⟨hseen v hfinds, hfinds, funext hunused⟩
  | setFailing failing =>
    have hfinds : FindsSame (r.perform (.setFailing failing)) { v with failing } := by
      refine ⟨h.supported, rfl, ?_⟩
      show _ = v.find?
      rw [← h.found]
      funext k native
      exact Recorder.find?_of_arena (Recorder.arena_setFailing r failing k) native
    exact ⟨hseen { v with failing } hfinds, hfinds, funext hunused⟩

end FindsSame

end ScriptedRays
