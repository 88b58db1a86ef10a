import Mathlib.Data.List.Nodup
import Mathlib.Algebra.Group.Nat.Defs
import ScriptedRays.Device.Present

/-!
# Arena — handles never come back

As long as fewer than `2 ^ 31` items were put in (`Arena.Within`), no version of a slot comes back.
So a new handle differs from every one that was given out before (`not_spent_insert`).
-/

namespace ScriptedRays.Arena

variable {α : Type}

theorem toNat_version {s : Slot α} (h : s.reuses.toNat < 2 ^ 31) :
    s.version.toNat = 2 * s.reuses.toNat + 1 := by
  simp only [Slot.version, UInt32.toNat_add, UInt32.toNat_mul, UInt32.reduceToNat]
  omega

/-- An arena into which at most `n` items were put in all its time. -/
structure Within (a : Arena α) (n : Nat) : Prop where
  length_le : a.slots.length ≤ n
  reuses_lt : ∀ s ∈ a.slots, s.reuses.toNat < n

theorem within_empty : (empty : Arena α).Within 0 := ⟨Nat.le_refl 0, by simp [empty]⟩

section Within

variable {a : Arena α} {n : Nat} (w : a.Within n) (hn : n < 2 ^ 31)
include w hn

theorem Within.fits : a.Fits := by
  have hlen := w.length_le
  show a.slots.length < 2 ^ 32
  omega

theorem slots_lt {place : Nat} {s : Slot α} (hs : a.slots[place]? = some s) :
    place + 1 < UInt32.size ∧ s.reuses.toNat < 2 ^ 31 :=
  ⟨(w.fits hn).place_lt hs, Nat.lt_trans (w.reuses_lt s (List.mem_of_getElem? hs)) hn⟩

end Within

theorem Within.insert {a : Arena α} {n : Nat} (w : a.Within n) (hn : n < 2 ^ 31) (x : α) :
    (a.insert x).2.Within (n + 1) := by
  rcases insert_cases a x with ⟨-, -, hs⟩ | ⟨place, s, hs, -, -, hset⟩
  · refine ⟨?_, ?_⟩
    · rw [hs, List.length_append]
      exact Nat.add_le_add_right w.length_le 1
    · intro t ht
      rw [hs] at ht
      rcases List.mem_append.1 ht with ht | ht
      · exact Nat.lt_succ_of_lt (w.reuses_lt t ht)
      · rw [List.mem_singleton.1 ht]
        exact Nat.succ_pos n
  · refine ⟨?_, ?_⟩
    · rw [hset, List.length_set]
      exact Nat.le_succ_of_le w.length_le
    · intro t ht
      rw [hset] at ht
      rcases List.mem_or_eq_of_mem_set ht with ht | rfl
      · exact Nat.lt_succ_of_lt (w.reuses_lt t ht)
      -- the slot taken again was used before, so its count, one higher, is still within the bound
      · have hr := w.reuses_lt s (List.mem_of_getElem? hs)
        show (s.reuses + 1).toNat < n + 1
        rw [UInt32.toNat_add]
        simp only [UInt32.reduceToNat]
        omega

theorem Within.of_reuses {a b : Arena α} {n : Nat} (w : a.Within n)
    (h : b.slots.map Slot.reuses = a.slots.map Slot.reuses) : b.Within n := by
  refine ⟨?_, fun t ht => ?_⟩
  · have hlen := congrArg List.length h
    rw [List.length_map, List.length_map] at hlen
    rw [hlen]
    exact w.length_le
  · have hm : t.reuses ∈ b.slots.map Slot.reuses := List.mem_map_of_mem ht
    rw [h] at hm
    obtain ⟨s, hs, he⟩ := List.mem_map.1 hm
    rw [← he]
    exact w.reuses_lt s hs

theorem Within.erase {a : Arena α} {n : Nat} (w : a.Within n) (native : Option Native) :
    (a.erase native).Within n := w.of_reuses (a.map_reuses_erase native)

theorem Within.update {a : Arena α} {n : Nat} (w : a.Within n) (native : Option Native)
    (f : α → α) : (a.update native f).Within n := w.of_reuses (a.map_reuses_update native f)

/-! ### Handles never come back -/

/-- No slot is lost and no use of a slot comes back. -/
def Grows (a b : Arena α) : Prop :=
  ∀ (place : Nat) (s : Slot α), a.slots[place]? = some s →
    ∃ t : Slot α, b.slots[place]? = some t ∧ s.reuses.toNat ≤ t.reuses.toNat

theorem grows_of_set {a b : Arena α} {place : Nat} {s t : Slot α} (hs : a.slots[place]? = some s)
    (hb : b.slots = a.slots.set place t) (hle : s.reuses.toNat ≤ t.reuses.toNat) : Grows a b := by
  intro i u hu
  rw [hb]
  by_cases hi : place = i
  · subst hi
    rw [hs] at hu
    obtain rfl := Option.some.inj hu
    exact ⟨t, List.getElem?_set_self (List.getElem?_eq_some_iff.1 hs).1, hle⟩
  · exact ⟨u, by rw [List.getElem?_set_ne hi]; exact hu, Nat.le_refl _⟩

theorem grows_insert {a : Arena α} {n : Nat} (w : a.Within n) (hn : n < 2 ^ 31) (x : α) :
    Grows a (a.insert x).2 := by
  rcases insert_cases a x with ⟨-, -, hs⟩ | ⟨place, s, hs, -, -, hset⟩
  · intro i u hu
    rw [hs, List.getElem?_append_left (List.getElem?_eq_some_iff.1 hu).1]
    exact ⟨u, hu, Nat.le_refl _⟩
  · refine grows_of_set hs hset ?_
    have hr := slots_lt w hn hs
    rw [UInt32.toNat_add]
    simp only [UInt32.reduceToNat]
    omega

theorem grows_of_reuses {a b : Arena α}
    (h : b.slots.map Slot.reuses = a.slots.map Slot.reuses) : Grows a b := by
  intro place s hs
  have hp : (b.slots.map Slot.reuses)[place]? = some s.reuses := by
    rw [h, List.getElem?_map, hs]
    rfl
  rw [List.getElem?_map] at hp
  obtain ⟨t, ht, he⟩ := Option.map_eq_some_iff.1 hp
  exact ⟨t, ht, Nat.le_of_eq (congrArg UInt32.toNat he.symm)⟩

/-- A handle that an arena has given out: one of its slots is in that use or past it. -/
def Spent (a : Arena α) (h : Native) : Prop :=
  ∃ (place : Nat) (s : Slot α), a.slots[place]? = some s ∧
    ∃ t : Slot α, t.reuses.toNat ≤ s.reuses.toNat ∧ h = handle t place

theorem Spent.mono {a b : Arena α} {h : Native} (hs : a.Spent h) (hg : Grows a b) : b.Spent h := by
  obtain ⟨place, s, hs, t, hle, rfl⟩ := hs
  obtain ⟨u, hu, hle'⟩ := hg place s hs
  exact ⟨place, u, hu, t, Nat.le_trans hle hle', rfl⟩

theorem spent_of_mem {a : Arena α} {h : Native} (hm : h ∈ a.handles) : a.Spent h := by
  obtain ⟨x, hx⟩ := exists_of_mem_handles hm
  obtain ⟨place, s, y, hs, -, he⟩ := mem_toList.1 hx
  exact ⟨place, s, hs, s, Nat.le_refl _, (Prod.mk.inj he).1⟩

/-- A new handle differs from all that were given out before. -/
theorem not_spent_insert {a : Arena α} {n : Nat} (w : a.Within n) (hn : n < 2 ^ 31) (x : α) :
    ¬ a.Spent (a.insert x).1 := by
  rintro ⟨place, s, hs, t, hle, he⟩
  have hlt := slots_lt w hn hs
  rcases insert_cases a x with ⟨-, hh, -⟩ | ⟨other, u, hu, -, hh, -⟩
  · rw [hh] at he
    have hlast : a.slots.length + 1 < UInt32.size := by
      have hlen := w.length_le
      show a.slots.length + 1 < 2 ^ 32
      omega
    have hplace := congrArg placeOf he
    rw [placeOf_handle _ hlast, placeOf_handle _ hlt.1] at hplace
    have hin := (List.getElem?_eq_some_iff.1 hs).1
    have := Option.some.inj hplace
    omega
  · rw [hh] at he
    have hult := slots_lt w hn hu
    have hplace := congrArg placeOf he
    rw [placeOf_handle _ hult.1, placeOf_handle _ hlt.1] at hplace
    obtain rfl := Option.some.inj hplace
    obtain rfl : u = s := Option.some.inj (hu.symm.trans hs)
    have hr := w.reuses_lt u (List.mem_of_getElem? hu)
    have hsum : (u.reuses + 1).toNat = u.reuses.toNat + 1 := by
      rw [UInt32.toNat_add]
      simp only [UInt32.reduceToNat]
      omega
    -- the same place, so the versions would have to be the same
    have hversion := congrArg versionOf he
    rw [versionOf_handle _ hult.1, versionOf_handle _ hlt.1] at hversion
    have hv := congrArg UInt32.toNat hversion
    have hreuses : (u.reuses + 1).toNat < 2 ^ 31 := by omega
    rw [toNat_version (s := t) (by omega), toNat_version hreuses] at hv
    have : (u.reuses + 1).toNat = t.reuses.toNat := by
      show (⟨u.reuses + 1, some x⟩ : Slot α).reuses.toNat = _
      omega
    omega

end ScriptedRays.Arena
