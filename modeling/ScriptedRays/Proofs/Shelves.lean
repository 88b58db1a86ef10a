import Mathlib.Logic.Function.Basic
import ScriptedRays.Registry.Basic
import ScriptedRays.Proofs.Refinement

/-!
# Shelves — a registry is three maps that forward each destruction once

What a registry answers, and what it has a device destroy, is what one finite map with a counter for
each kind tells (`Shelves`), whatever the device makes of a destruction.  Each operation is answered
alike on both, leaves the device the same and the two related (`Shelved.act`), so this holds all along
a run (`shelves_refine`).
-/

namespace ScriptedRays

namespace Registry

/-- What can be asked of a registry. -/
inductive Operation where
  | register (kind : Kind) (e : Entry kind)
  | resolve (kind : Kind) (id : UInt32)
  | contains (kind : Kind) (id : UInt32)
  | release (kind : Kind) (id : UInt32)
  | releaseAll

/-- What is answered. -/
inductive Answer where
  | registered (kind : Kind) (result : Except Error (Handle kind))
  | resolved (kind : Kind) (result : Except Error (Entry kind))
  | flag (flag : Bool)
  | stats (stats : Stats)

/-- What an operation on a registry with a device behind it answers, with the device after it, and
what it leaves. -/
def act {δ : Type} (destroy : (kind : Kind) → Handle kind → δ → δ) (s : Registry × δ) :
    Operation → (Answer × δ) × (Registry × δ)
  | .register kind e =>
    let done := s.1.register kind e
    ((.registered kind done.value, s.2), (done.state, s.2))
  | .resolve kind id => ((.resolved kind (s.1.resolve kind id), s.2), s)
  | .contains kind id => ((.flag (s.1.contains kind id), s.2), s)
  | .release kind id =>
    let done := s.1.release destroy kind id s.2
    ((.flag done.value, done.state.1), (done.state.2, done.state.1))
  | .releaseAll =>
    let done := s.1.releaseAll destroy s.2
    ((.stats done.value, done.state.1), (done.state.2, done.state.1))

end Registry

/-- A finite map with a counter for each kind. -/
abbrev Shelves : Type := (kind : Kind) → CountedMap (Entry kind)

namespace Shelves

def empty : Shelves := fun _ => {}

/-- How many entries of each kind there are. -/
def stats (m : Shelves) : Stats :=
  ⟨(m .geometry).values.size, (m .blas).values.size, (m .tlas).values.size⟩

/-- Puts what has a native handle under the next id of its kind, with that id in its handle. -/
def register (m : Shelves) (kind : Kind) (e : Entry kind) :
    Except Error (Handle kind) × Shelves :=
  if e.handle.isNull then (.error (.deviceFailure kind), m)
  else
    (.ok (e.handle.withId (m kind).nextId), Function.update m kind ((m kind).insert e.withId))

/-- What is under an id. -/
def resolve (m : Shelves) (kind : Kind) (id : UInt32) : Except Error (Entry kind) :=
  (m kind).values[id]?.elim (.error (.unresolved kind id none)) .ok

section Destroy

variable {δ : Type} (destroy : (kind : Kind) → Handle kind → δ → δ)

/-- Takes out what is under an id, with one destruction of that very handle. -/
def release (m : Shelves) (kind : Kind) (id : UInt32) (d : δ) : Bool × Shelves × δ :=
  (m kind).values[id]?.elim (false, m, d) fun e =>
    (true, Function.update m kind ((m kind).erase id), destroy kind e.handle d)

/-- One destruction for each entry of a kind, by ascending id. -/
def destroyAll (m : Shelves) (kind : Kind) (d : δ) : δ :=
  (m kind).values.toList.foldl (fun d entry => destroy kind (Entry.handle entry.2) d) d

/-- What an operation answers, with the device after it, and what it leaves. -/
def act (s : Shelves × δ) : Registry.Operation → (Registry.Answer × δ) × (Shelves × δ)
  | .register kind e =>
    let done := s.1.register kind e
    ((.registered kind done.1, s.2), (done.2, s.2))
  | .resolve kind id => ((.resolved kind (s.1.resolve kind id), s.2), s)
  | .contains kind id => ((.flag ((s.1 kind).values.contains id), s.2), s)
  | .release kind id =>
    let done := s.1.release destroy kind id s.2
    ((.flag done.1, done.2.2), done.2)
  | .releaseAll =>
    let d := s.1.destroyAll destroy .geometry
      (s.1.destroyAll destroy .blas (s.1.destroyAll destroy .tlas s.2))
    ((.stats s.1.stats, d), (empty, d))

end Destroy

end Shelves

namespace Registry

/-! ### What an operation can make of a registry -/

section Release

variable {δ : Type} (destroy : (kind : Kind) → Handle kind → δ → δ)

/-- The ways in which a registry moves on. -/
inductive Acts (g : Registry) : Operation → Registry → Prop
  | same (op : Operation) : Acts g op g
  | registered {kind : Kind} {e : Entry kind} {id : UInt32} {t : Ledger (Entry kind)}
      (hi : (g.ledger kind).insert e.withId = some (id, t)) :
      Acts g (.register kind e) (g.withLedger kind t)
  | released (kind : Kind) (id : UInt32) :
      Acts g (.release kind id) (g.withLedger kind ((g.ledger kind).erase id))
  | drained : Acts g .releaseAll g.drained

theorem acts_act (s : Registry × δ) (op : Operation) : Acts s.1 op (act destroy s op).2.1 := by
  obtain ⟨g, d⟩ := s
  cases op with
  | register kind e =>
    show Acts g _ (g.register kind e).state
    cases hnull : e.handle.isNull with
    | true => rw [register_of_isNull g hnull]; exact Acts.same _
    | false =>
      cases hi : (g.ledger kind).insert e.withId with
      | none => rw [register_of_insert_none hnull hi]; exact Acts.same _
      | some stored => rw [register_of_insert hnull hi]; exact Acts.registered hi
  | resolve | contains => exact Acts.same _
  | release kind id =>
    show Acts g _ (g.release destroy kind id d).state.2
    cases he : (g.ledger kind).get? id with
    | none => rw [release_of_none destroy he]; exact Acts.same _
    | some e => rw [release_of_some destroy he]; exact Acts.released kind id
  | releaseAll => exact Acts.drained

end Release

/-- An entry has the id under which it is registered. -/
def Stamped (g : Registry) : Prop :=
  ∀ ⦃kind : Kind⦄ ⦃id : UInt32⦄ ⦃e : Entry kind⦄, (g.ledger kind).get? id = some e → e.handle.id = id

theorem stamped_empty : Stamped {} := fun kind id e he => by
  cases kind <;> exact absurd he nofun

theorem Stamped.withLedger {g : Registry} (h : Stamped g) {kind : Kind} {t : Ledger (Entry kind)}
    (ht : ∀ id e, t.get? id = some e → Handle.id (Entry.handle e) = id) :
    Stamped (g.withLedger kind t) := by
  intro other id e he
  by_cases ho : other = kind
  · subst ho
    rw [ledger_withLedger] at he
    exact ht id e he
  · rw [ledger_withLedger_of_ne g t ho] at he
    exact h he

theorem Stamped.acts {g g' : Registry} (h : Stamped g) {op : Operation} (ha : Acts g op g') :
    Stamped g' := by
  cases ha with
  | same => exact h
  | @registered kind e id t hi =>
    -- the new entry is stamped with the id under which it is stored
    refine h.withLedger fun other e' he => ?_
    rw [Ledger.get?_insert hi] at he
    by_cases ho : other = id
    · rw [if_pos ho] at he
      rw [← Option.some.inj he, Entry.handle_withId, Handle.id_withId, ho]
    · rw [if_neg ho] at he
      exact h he
  | released kind id =>
    refine h.withLedger fun other e' he => ?_
    rw [Ledger.get?_erase] at he
    by_cases ho : other = id
    · rw [if_pos ho] at he
      exact absurd he nofun
    · rw [if_neg ho] at he
      exact h he
  | drained => exact fun kind id e he => by cases kind <;> exact absurd he nofun

/-- Whether an operation may change what is registered of a kind. -/
def Operation.Concerns : Operation → Kind → Prop
  | .register k _, kind => k = kind
  | .release k _, kind => k = kind
  | .releaseAll, _ => True
  | _, _ => False

/-- What happens to one kind leaves the others alone. -/
theorem Acts.ledger_eq {g g' : Registry} {op : Operation} (ha : Acts g op g') {kind : Kind}
    (h : ¬ op.Concerns kind) : g'.ledger kind = g.ledger kind := by
  cases ha with
  | same => rfl
  | registered hi => exact ledger_withLedger_of_ne g _ (Ne.symm h)
  | released k id => exact ledger_withLedger_of_ne g _ (Ne.symm h)
  | drained => exact absurd trivial h

/-! ### A registry and shelves -/

/-- A registry whose ledger of each kind holds what stands on the shelf of that kind. -/
def Shelved (g : Registry) (m : Shelves) : Prop := ∀ kind, (g.ledger kind).Refines (m kind)

theorem shelved_empty : Shelved {} Shelves.empty := fun kind => by
  cases kind <;> exact Ledger.refines_empty

theorem shelved_drained (g : Registry) : Shelved g.drained Shelves.empty := fun kind => by
  cases kind <;> exact Ledger.refines_drained _

namespace Shelved

variable {g : Registry} {m : Shelves} (h : Shelved g m)
include h

theorem update {kind : Kind} {t : Ledger (Entry kind)} {c : CountedMap (Entry kind)}
    (ht : t.Refines c) : Shelved (g.withLedger kind t) (Function.update m kind c) := by
  intro other
  by_cases ho : other = kind
  · subst ho
    rw [ledger_withLedger, Function.update_self]
    exact ht
  · rw [ledger_withLedger_of_ne g t ho, Function.update_of_ne ho]
    exact h other

theorem stats : g.stats = m.stats := by
  have hg : g.geometries.size = _ := (h .geometry).size
  have hb : g.blases.size = _ := (h .blas).size
  have ht : g.tlases.size = _ := (h .tlas).size
  unfold Registry.stats Shelves.stats
  rw [hg, hb, ht]

theorem register {kind : Kind} (hlt : (m kind).next < UInt32.size) (e : Entry kind) :
    (g.register kind e).value = (m.register kind e).1 ∧
      Shelved (g.register kind e).state (m.register kind e).2 := by
  unfold Shelves.register
  cases hnull : e.handle.isNull with
  | true =>
    rw [register_of_isNull g hnull, if_pos rfl]
    exact ⟨rfl, h⟩
  | false =>
    obtain ⟨t, hi, ht⟩ := (h kind).insert hlt e.withId
    rw [register_of_insert hnull hi, if_neg Bool.false_ne_true]
    exact ⟨rfl, h.update ht⟩

theorem resolve (kind : Kind) (id : UInt32) : g.resolve kind id = m.resolve kind id := by
  unfold Registry.resolve Shelves.resolve
  rw [(h kind).values]
  cases (m kind).values[id]? <;> rfl

section Destroy

variable {δ : Type} (destroy : (kind : Kind) → Handle kind → δ → δ)

theorem release (kind : Kind) (id : UInt32) (d : δ) :
    (g.release destroy kind id d).value = (m.release destroy kind id d).1 ∧
      (g.release destroy kind id d).state.1 = (m.release destroy kind id d).2.2 ∧
      Shelved (g.release destroy kind id d).state.2 (m.release destroy kind id d).2.1 := by
  have hvalue := (h kind).values id
  unfold Shelves.release
  rw [← hvalue]
  cases he : (g.ledger kind).get? id with
  | none =>
    rw [release_of_none destroy he]
    exact ⟨rfl, rfl, h⟩
  | some e =>
    rw [release_of_some destroy he]
    exact ⟨rfl, rfl, h.update ((h kind).erase id)⟩

theorem destroyAll (kind : Kind) (d : δ) :
    Registry.destroyAll destroy kind (g.ledger kind) d = m.destroyAll destroy kind d := by
  unfold Registry.destroyAll Shelves.destroyAll
  rw [(h kind).drain]

theorem releaseAll (d : δ) : (g.releaseAll destroy d).state.1 = m.destroyAll destroy .geometry
    (m.destroyAll destroy .blas (m.destroyAll destroy .tlas d)) := by
  rw [← h.destroyAll destroy .geometry, ← h.destroyAll destroy .blas, ← h.destroyAll destroy .tlas]
  rfl

/-- One operation is answered alike, leaves the device the same and keeps the two related. -/
theorem act (hlt : ∀ kind, (m kind).next < UInt32.size) (d : δ) (op : Operation) :
    (Registry.act destroy (g, d) op).1 = (Shelves.act destroy (m, d) op).1 ∧
      (Registry.act destroy (g, d) op).2.2 = (Shelves.act destroy (m, d) op).2.2 ∧
      Shelved (Registry.act destroy (g, d) op).2.1 (Shelves.act destroy (m, d) op).2.1 := by
  cases op with
  | register kind e =>
    obtain ⟨hvalue, hstate⟩ := h.register (hlt kind) e
    exact ⟨Prod.ext (congrArg (Answer.registered kind) hvalue) rfl, rfl, hstate⟩
  | resolve kind id =>
    exact ⟨Prod.ext (congrArg (Answer.resolved kind) (h.resolve kind id)) rfl, rfl, h⟩
  | contains kind id =>
    refine ⟨Prod.ext (congrArg Answer.flag ?_) rfl, rfl, h⟩
    show ((g.ledger kind).get? id).isSome = (m kind).values.contains id
    rw [(h kind).values, Std.ExtTreeMap.contains_eq_isSome_getElem?]
  | release kind id =>
    obtain ⟨hvalue, hdevice, hstate⟩ := h.release destroy kind id d
    exact ⟨Prod.ext (congrArg Answer.flag hvalue) hdevice, hdevice, hstate⟩
  | releaseAll =>
    have hdevice := h.releaseAll destroy d
    exact ⟨Prod.ext (congrArg Answer.stats h.stats) hdevice, hdevice, g.shelved_drained⟩

end Destroy

end Shelved

/-! ### Runs of operations -/

/-- How many resources of a kind were registered since everything was released, with one operation
more.  Null handles are not registered. -/
def Operation.count (kind : Kind) (n : Nat) : Operation → Nat
  | .register k e => if k = kind ∧ e.handle.isNull = false then n + 1 else n
  | .releaseAll => 0
  | _ => n

/-- How many resources of a kind a run registers after it releases everything for the last time. -/
def registered (kind : Kind) (ops : List Operation) : Nat := ops.foldl (Operation.count kind) 0

theorem Operation.count_le (kind : Kind) (n : Nat) (op : Operation) : op.count kind n ≤ n + 1 := by
  unfold Operation.count
  split
  · split <;> omega
  · exact Nat.zero_le _
  · exact Nat.le_succ n

section Runs

variable {δ : Type} (destroy : (kind : Kind) → Handle kind → δ → δ)

theorem count_register (kind : Kind) (n : Nat) {k : Kind} (e : Entry k) :
    Operation.count kind n (.register k e) =
      if k = kind ∧ e.handle.isNull = false then n + 1 else n := rfl

theorem next_register {m : Shelves} {kind : Kind} {n : Nat} (hn : (m kind).next = n + 1) {k : Kind}
    (e : Entry k) :
    ((m.register k e).2 kind).next = Operation.count kind n (.register k e) + 1 := by
  unfold Shelves.register
  rw [count_register]
  cases hnull : e.handle.isNull with
  | true =>
    rw [if_pos rfl, if_neg fun h => Bool.noConfusion h.2]
    exact hn
  | false =>
    rw [if_neg Bool.false_ne_true]
    show (Function.update m k ((m k).insert e.withId) kind).next = _
    by_cases hk : k = kind
    · subst hk
      rw [if_pos ⟨rfl, rfl⟩, Function.update_self]
      exact congrArg (· + 1) hn
    · rw [if_neg fun h => hk h.1, Function.update_of_ne (Ne.symm hk)]
      exact hn

theorem next_release (m : Shelves) (kind k : Kind) (id : UInt32) (d : δ) :
    ((m.release destroy k id d).2.1 kind).next = (m kind).next := by
  unfold Shelves.release
  cases (m k).values[id]? with
  | none => rfl
  | some e =>
    show (Function.update m k ((m k).erase id) kind).next = _
    by_cases hk : kind = k
    · subst hk
      rw [Function.update_self]
      rfl
    · rw [Function.update_of_ne hk]

theorem next_act {s : Shelves × δ} {kind : Kind} {n : Nat} (hn : (s.1 kind).next = n + 1)
    (op : Operation) : ((Shelves.act destroy s op).2.1 kind).next = op.count kind n + 1 := by
  cases op with
  | register k e => exact next_register hn e
  | resolve | contains => exact hn
  | release k id => exact (next_release destroy s.1 kind k id s.2).trans hn
  | releaseAll => rfl

/-- Answers agree all along a run that begins with a registry and shelves that are related. -/
theorem Shelved.run {g : Registry} {m : Shelves} (h : Shelved g m) {n : Kind → Nat}
    (hn : ∀ kind, (m kind).next = n kind + 1) {ops : List Operation}
    (hfew : ∀ kind front, front <+: ops →
      front.foldl (Operation.count kind) (n kind) < 2 ^ 32 - 1) (d : δ) :
    answers (Registry.act destroy) (g, d) ops = answers (Shelves.act destroy) (m, d) ops := by
  induction ops generalizing g m n d with
  | nil => rfl
  | cons op rest ih =>
    have hlt : ∀ kind, (m kind).next < UInt32.size := fun kind => by
      have hnow : n kind < 2 ^ 32 - 1 := hfew kind [] List.nil_prefix
      rw [hn kind]
      show n kind + 1 < 2 ^ 32
      omega
    obtain ⟨hanswer, hdevice, hstep⟩ := h.act destroy hlt d op
    -- what is counted from here on is what is counted from the start, less this operation
    have hrest := ih hstep (fun kind => next_act destroy (s := (m, d)) (hn kind) op)
      (fun kind front hfront => hfew kind (op :: front) (List.cons_prefix_cons.2 ⟨rfl, hfront⟩))
      (Shelves.act destroy (m, d) op).2.2
    rw [← hdevice] at hrest
    refine congrArg₂ List.cons hanswer (hrest.trans ?_)
    rw [hdevice]

theorem stamped_final {s : Registry × δ} (h : Stamped s.1) (ops : List Operation) :
    Stamped (final (act destroy) s ops).1 := by
  induction ops generalizing s with
  | nil => exact h
  | cons op rest ih => exact ih (h.acts (acts_act destroy s op))

end Runs

/-- As long as fewer than `2 ^ 32 - 1` resources of each kind are registered before everything is
released, a registry answers every operation, and has its device destroy resources, as a finite map
with a counter for each kind tells.  What is resolved has the id that was asked for; an operation on
one kind leaves the others alone; and once everything is released the registry answers as a new one
does. -/
theorem shelves_refine {δ : Type} (destroy : (kind : Kind) → Handle kind → δ → δ) (d : δ)
    (ops : List Operation)
    (hfew : ∀ kind front, front <+: ops → registered kind front < 2 ^ 32 - 1) :
    answers (act destroy) ({}, d) ops = answers (Shelves.act destroy) (.empty, d) ops ∧
    (∀ kind id e, (final (act destroy) ({}, d) ops).1.resolve kind id = .ok e →
      e.handle.id = id) ∧
    (∀ s op kind, ¬ Operation.Concerns op kind →
      (act destroy s op).2.1.ledger kind = s.1.ledger kind) ∧
    (∀ front back, ops = front ++ .releaseAll :: back →
      let released := final (act destroy) ({}, d) (front ++ [.releaseAll])
      answers (act destroy) released back = answers (act destroy) ({}, released.2) back) := by
  refine ⟨shelved_empty.run destroy (fun _ => rfl) hfew d, fun kind id e he => ?_, ?_, ?_⟩
  · unfold resolve at he
    cases hget : ((final (act destroy) ({}, d) ops).1.ledger kind).get? id with
    | none => rw [hget] at he; exact absurd he nofun
    | some e' =>
      rw [hget] at he
      exact Except.ok.inj he ▸ stamped_final destroy (s := ({}, d)) stamped_empty ops hget
  · exact fun s op kind h => (acts_act destroy s op).ledger_eq h
  · rintro front back rfl released
    have hfew' : ∀ kind rest, rest <+: back → registered kind rest < 2 ^ 32 - 1 :=
      fun kind _ => foldl_lt_of_reset (Operation.count kind) (fun _ => rfl) (hfew kind)
    -- a registry that has released everything stands for the same empty maps as a new one
    have hreleased : Shelved released.1 .empty := by
      show Shelved (final (act destroy) ({}, d) (front ++ [.releaseAll])).1 _
      rw [final_append]
      exact shelved_drained _
    exact (hreleased.run destroy (fun _ => rfl) hfew' released.2).trans
      (shelved_empty.run destroy (fun _ => rfl) hfew' released.2).symm

/-- Handles with an id of their own, a null one, and one native handle given twice. -/
def sample : List Operation :=
  [.register .geometry ⟨some ⟨7, by decide⟩, 5⟩, .register .geometry ⟨none, 0⟩,
    .register .blas ⟨some ⟨7, by decide⟩, 0⟩, .register .geometry ⟨some ⟨7, by decide⟩, 0⟩,
    .register .tlas ⟨⟨some ⟨9, by decide⟩, 0⟩, 3⟩, .release .blas 2, .release .geometry 1,
    .resolve .geometry 2, .resolve .geometry 1, .releaseAll,
    .register .geometry ⟨some ⟨8, by decide⟩, 0⟩, .resolve .geometry 1, .contains .blas 1]

/-- A device that tells which handles it was to destroy, the latest last. -/
def noted (kind : Kind) (h : Handle kind) (d : List (Kind × Option Native × UInt32)) :
    List (Kind × Option Native × UInt32) :=
  d ++ [(kind, h.native, h.id)]

theorem registered_lt_of_prefix (kind : Kind) {front : List Operation} (h : front <+: sample) :
    registered kind front < 2 ^ 32 - 1 := by
  have hlen : front.length ≤ 13 := h.length_le
  have hle := foldl_le_add_length (Operation.count kind) (Operation.count_le kind) 0 front
  unfold registered
  omega

theorem shelves_refine_sample :
    (∀ kind front, front <+: sample → registered kind front < 2 ^ 32 - 1) ∧
    answers (act noted) ({}, []) sample = answers (Shelves.act noted) (.empty, []) sample ∧
    (final (act noted) ({}, []) sample).2 = [(.geometry, some ⟨7, by decide⟩, 1),
      (.tlas, some ⟨9, by decide⟩, 1), (.blas, some ⟨7, by decide⟩, 1),
      (.geometry, some ⟨7, by decide⟩, 2)] :=
  ⟨fun kind _ => registered_lt_of_prefix kind,
    (shelves_refine noted [] sample fun kind _ => registered_lt_of_prefix kind).1,
    by decide +kernel⟩

end Registry

end ScriptedRays
