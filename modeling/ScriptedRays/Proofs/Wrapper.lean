import ScriptedRays.Proofs.Double
import ScriptedRays.Request.Wrapper

/-!
# Wrapper — an id survives the way through a script

A word is a double of its own, so it comes back from a script as it went there (`word?_ofWord`), and
the wrapper of a resource is read as the id that it was made with (`read_make`).
-/

namespace ScriptedRays

theorem Value.word?_ofWord (w : UInt32) : (Value.ofWord w).word? = some w := by
  have hnumber : (Value.ofWord w).number? = some (Double.ofNat w.toNat) := rfl
  unfold Value.word?
  rw [hnumber, Option.bind_some, Double.toUInt32?_ofNat w.toNat_lt, UInt32.ofNat_toNat]

/-! ### Wrappers -/

namespace Wrapper

/-- A tag keeps a value from standing for a resource if it is there and is not that of its kind. -/
theorem admits_eq_false_iff {kind : Kind} {tag : Value} :
    admits kind tag = false ↔ tag ≠ .undefined ∧ tag ≠ .string kind.tag := by
  cases tag with
  | undefined => exact iff_of_false nofun fun h => h.1 rfl
  | string s =>
    show (some s == some kind.tag) = false ↔ _
    rw [beq_eq_false_iff_ne]
    simp
  | _ => exact iff_of_true rfl ⟨nofun, nofun⟩

/-- The fields of a wrapper. -/
theorem object?_make (kind : Kind) (id : UInt32) :
    ∃ o, (make kind id).object? = some o ∧ o.get "type" = .string kind.tag ∧
      o.get "id" = .ofWord id := by
  refine ⟨_, rfl, rfl, rfl⟩

/-- **A wrapper is read as the id that it was made with.** -/
theorem read_make (kind : Kind) (id : UInt32) : read kind (make kind id) = .ok id := by
  obtain ⟨o, ho, htype, hid⟩ := object?_make kind id
  have hadmits : admits kind (o.get "type") = true := by
    rw [htype]
    exact beq_self_eq_true (some kind.tag)
  unfold read
  rw [ho]
  dsimp only
  rw [if_pos hadmits, hid, Value.word?_ofWord]
  rfl

theorem make_injective (kind : Kind) : Function.Injective (make kind) := by
  intro id other h
  have hread := read_make kind id
  rw [h, read_make] at hread
  exact (Except.ok.inj hread).symm

end Wrapper

end ScriptedRays
