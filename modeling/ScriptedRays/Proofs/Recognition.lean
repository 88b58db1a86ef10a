import ScriptedRays.Proofs.Batch
import ScriptedRays.Proofs.Ledger
import ScriptedRays.Proofs.Truncation

/-!
# Recognition — what a value is taken for

An object is taken for a resource of a kind unless its tag says otherwise (`Tagged`), namely for the
one whose id it tells; nothing else is (`readsByTag`).  So a wrapper is taken for the resource that it
was made for and for none of another kind.  An object that tells no word is taken for zero, an id that
no registry gives out (`Ledger.get?_zero`).
-/

namespace ScriptedRays

theorem Kind.tag_injective : Function.Injective tag := by
  intro kind other h
  cases kind <;> cases other <;> first | rfl | exact absurd h (by decide)

/-- Zero is no id. -/
theorem Ledger.get?_zero {α : Type} (t : Ledger α) : t.get? 0 = none := by
  refine Option.eq_none_iff_forall_not_mem.2 fun v hv => ?_
  exact absurd (mem_issued (get?_eq_some_iff.1 hv)).1 (by decide)

theorem Registry.resolve_zero (g : Registry) (kind : Kind) :
    g.resolve kind 0 = .error (.unresolved kind 0 none) := by
  unfold resolve
  rw [Ledger.get?_zero]

namespace Wrapper

/-! ### Tags -/

/-- An object's tag is missing or undefined, or it is that of the kind. -/
def Tagged (kind : Kind) (o : Object) : Prop :=
  o.get? "type" = none ∨ o.get? "type" = some .undefined ∨
    o.get? "type" = some (.string kind.tag)

theorem admits_iff_tagged {kind : Kind} {o : Object} :
    admits kind (o.get "type") = true ↔ Tagged kind o := by
  rw [← Bool.not_eq_false, admits_eq_false_iff, not_and_or, not_not, not_not]
  unfold Object.get Tagged
  cases o.get? "type" with
  | none => simp
  | some tag => simp

/-! ### Reading -/

/-- What a value is read as depends on three things only: whether it is an object, whether its tag fits
the kind, and what word its id comes to, zero where there is none. -/
structure ReadsByTag (kind : Kind) (v : Value) : Prop where
  ok : ∀ id, read kind v = .ok id ↔
    ∃ o : Object, v = o.toValue ∧ Tagged kind o ∧ id = (o.get "id").word?.getD 0
  unresolved : ∀ k id position, read kind v = .error (.unresolved k id position) ↔
    k = kind ∧ position = none ∧
      ∃ o : Object, v = o.toValue ∧ ¬ Tagged kind o ∧ id = (o.get "id").word?.getD 0
  invalid : ∀ complaint positions, read kind v = .error (.invalidInput complaint positions) ↔
    (∀ o : Object, v ≠ o.toValue) ∧ complaint = .notHandle kind v.typeName ∧ positions = []

section Read

variable {kind : Kind} {o : Object}

theorem read_of_tagged (h : Tagged kind o) :
    read kind o.toValue = .ok ((o.get "id").word?.getD 0) := by
  unfold read
  rw [Value.object?_toValue]
  exact if_pos (admits_iff_tagged.2 h)

theorem read_of_not_tagged (h : ¬ Tagged kind o) :
    read kind o.toValue = .error (.unresolved kind ((o.get "id").word?.getD 0) none) := by
  unfold read
  rw [Value.object?_toValue]
  exact if_neg fun hadmits => h (admits_iff_tagged.1 hadmits)

theorem readsByTag_of_tagged (h : Tagged kind o) : ReadsByTag kind o.toValue := by
  have hread := read_of_tagged h
  refine ⟨fun id => ?_, fun k id position => ?_, fun complaint positions => ?_⟩
  · rw [hread, Except.ok.injEq]
    refine ⟨fun hid => ⟨o, rfl, h, hid.symm⟩, ?_⟩
    rintro ⟨p, hp, -, rfl⟩
    rw [Value.toValue_inj.1 hp]
  · refine iff_of_false (hread ▸ nofun) ?_
    rintro ⟨-, -, p, hp, hno, -⟩
    exact hno (Value.toValue_inj.1 hp ▸ h)
  · exact iff_of_false (hread ▸ nofun) fun ⟨hno, _⟩ => hno o rfl

theorem readsByTag_of_not_tagged (h : ¬ Tagged kind o) : ReadsByTag kind o.toValue := by
  have hread := read_of_not_tagged h
  refine ⟨fun id => ?_, fun k id position => ?_, fun complaint positions => ?_⟩
  · refine iff_of_false (hread ▸ nofun) ?_
    rintro ⟨p, hp, hyes, -⟩
    exact h (Value.toValue_inj.1 hp ▸ hyes)
  · rw [hread, Except.error.injEq, Error.unresolved.injEq]
    constructor
    · rintro ⟨rfl, hid, rfl⟩
      exact ⟨rfl, rfl, o, rfl, h, hid.symm⟩
    · rintro ⟨rfl, rfl, p, hp, -, rfl⟩
      rw [Value.toValue_inj.1 hp]
      exact ⟨rfl, rfl, rfl⟩
  · exact iff_of_false (hread ▸ nofun) fun ⟨hno, _⟩ => hno o rfl

theorem readsByTag_of_not_object {v : Value} (h : v.object? = none) : ReadsByTag kind v := by
  have hno : ∀ o : Object, v ≠ o.toValue := fun o ho => by
    rw [Value.object?_eq_some.2 ho] at h
    cases h
  have hread : read kind v = .error (.invalidInput (.notHandle kind v.typeName) []) :=
    read_of_not_object h
  refine ⟨fun id => ?_, fun k id position => ?_, fun complaint positions => ?_⟩
  · exact iff_of_false (hread ▸ nofun) fun ⟨o, ho, _⟩ => hno o ho
  · exact iff_of_false (hread ▸ nofun) fun ⟨_, _, o, ho, _⟩ => hno o ho
  · rw [hread, Except.error.injEq, Error.invalidInput.injEq, eq_comm, @eq_comm _ []]
    exact (and_iff_right hno).symm

end Read

theorem readsByTag (kind : Kind) (v : Value) : ReadsByTag kind v := by
  cases ho : v.object? with
  | none => exact readsByTag_of_not_object ho
  | some o =>
    obtain rfl := Value.object?_eq_some.1 ho
    by_cases h : Tagged kind o
    · exact readsByTag_of_tagged h
    · exact readsByTag_of_not_tagged h

/-! ### Wrappers of another kind -/

theorem read_make_of_ne {kind other : Kind} (h : kind ≠ other) (id : UInt32) :
    read other (make kind id) = .error (.unresolved other id none) := by
  obtain ⟨o, ho, htype, hid⟩ := object?_make kind id
  obtain hmake := Value.object?_eq_some.1 ho
  have hadmits : ¬ Tagged other o := by
    rw [← admits_iff_tagged, Bool.not_eq_true, admits_eq_false_iff, htype]
    exact ⟨nofun, fun htag => h (Kind.tag_injective (Value.string.inj htag))⟩
  rw [hmake, read_of_not_tagged hadmits, hid, Value.word?_ofWord]
  rfl

/-- An object that tells no word is taken for zero, if for anything. -/
theorem lookup_of_wordless (g : Registry) (kind : Kind) {o : Object}
    (h : (o.get "id").Wordless) :
    g.lookup kind o.toValue = .error (.unresolved kind 0 none) := by
  have hzero : (o.get "id").word?.getD 0 = 0 := by rw [Value.word?_eq_none_iff.2 h, Option.getD_none]
  unfold Registry.lookup
  by_cases htagged : Tagged kind o
  · rw [read_of_tagged htagged, hzero]
    exact g.resolve_zero kind
  · rw [read_of_not_tagged htagged, hzero]

/-- **A wrapper is taken for the resource that it was made for, and for none of another kind**; every
other value by whether it is an object, by its tag and by its id.  An object whose id is no number, not
finite or out of range is taken for zero at most, and in no registry does that name anything. -/
theorem kinds_told_apart :
    (∀ kind other id, read other (make kind id) =
      if kind = other then .ok id else .error (.unresolved other id none)) ∧
    (∀ kind v, ReadsByTag kind v) ∧
    ∀ (g : Registry) (kind : Kind) (o : Object), (o.get "id").Wordless →
      (∀ id, read kind o.toValue = .ok id → id = 0) ∧
      g.contains kind 0 = false ∧ g.resolve kind 0 = .error (.unresolved kind 0 none) ∧
      g.lookup kind o.toValue = .error (.unresolved kind 0 none) := by
  refine ⟨fun kind other id => ?_, readsByTag, fun g kind o h => ⟨fun id hid => ?_, ?_, ?_, ?_⟩⟩
  · split
    next heq => exact heq ▸ read_make kind id
    next hne => exact read_make_of_ne hne id
  · obtain ⟨p, hp, -, rfl⟩ := ((readsByTag kind o.toValue).ok id).1 hid
    rw [← Value.toValue_inj.1 hp, Value.word?_eq_none_iff.2 h, Option.getD_none]
  · unfold Registry.contains Ledger.contains
    rw [Ledger.get?_zero, Option.isSome_none]
  · exact g.resolve_zero kind
  · exact lookup_of_wordless g kind h

/-- Where a geometry, a structure and a scene are registered, a scene is not found under minus one, nor
a structure by a wrapper of a geometry. -/
theorem kinds_told_apart_stocked :
    Value.Wordless (.number ⟨0xBFF0000000000000⟩) ∧
    Registry.stocked.lookup .tlas
        (.ofPairs [("type", .string "tlas"), ("id", .number ⟨0xBFF0000000000000⟩)]) =
      .error (.unresolved .tlas 0 none) ∧
    read .blas (make .geometry 1) = .error (.unresolved .blas 1 none) := by
  have hone : Value.Wordless (.number ⟨0xBFF0000000000000⟩) := by
    refine .low (@Double.Denotes.normal _ true 0x3FF 0 (by decide) (by decide) (by decide) rfl) ?_
    norm_num
  obtain ⟨hmake, -, hzero⟩ := kinds_told_apart
  refine ⟨hone, ?_, hmake .geometry .blas 1⟩
  exact (hzero Registry.stocked .tlas
    (.ofList [("type", .string "tlas"), ("id", .number ⟨0xBFF0000000000000⟩)]) hone).2.2.2

end Wrapper

end ScriptedRays
