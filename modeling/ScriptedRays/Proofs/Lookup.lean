import ScriptedRays.Proofs.Arena

/-!
# Lookup — what any handle finds

Looking a handle up sets the lowest bit of its version, so a handle made up by hand finds what its odd
form was given out for (`Native.odd`), or nothing (`get?_eq_some_iff`).  Each operation, whatever
handle it is given, changes what is found under that odd form and nothing else (`get?_insert`,
`get?_erase`, `get?_update`).
-/

namespace ScriptedRays

/-- The handle with the lowest bit of its version set. -/
def Native.odd (n : Native) : Native where
  raw := n.raw ||| 0x100000000
  raw_ne_zero h := n.raw_ne_zero (UInt64.or_eq_zero_iff.1 h).1

namespace Arena

/-! ### The words of an odd handle -/

theorem toNat_odd (n : Native) :
    n.odd.raw.toNat = (n.raw.toNat / 2 ^ 32 ||| 1) * 2 ^ 32 + n.raw.toNat % 2 ^ 32 := by
  have hor : n.odd.raw.toNat = n.raw.toNat ||| 2 ^ 32 := UInt64.toNat_or _ _
  rw [hor, ← Nat.div_add_mod (n.raw.toNat ||| 2 ^ 32) (2 ^ 32), Nat.or_div_two_pow,
    Nat.or_mod_two_pow, Nat.div_self (by decide), Nat.mod_self, Nat.or_zero, Nat.mul_comm]

theorem toNat_versionOf (n : Native) : (versionOf n).toNat = n.raw.toNat / 2 ^ 32 ||| 1 := by
  have hlt := n.raw.toNat_lt
  show (n.raw >>> 32).toUInt32.toNat ||| 1 = _
  rw [UInt64.toNat_toUInt32, UInt64.toNat_shiftRight]
  show n.raw.toNat >>> 32 % 2 ^ 32 ||| 1 = _
  rw [Nat.shiftRight_eq_div_pow, Nat.mod_eq_of_lt (by omega)]

theorem placeOf_eq_some_iff {n : Native} {place : Nat} :
    placeOf n = some place ↔ n.raw.toNat % 2 ^ 32 = place + 1 := by
  unfold placeOf
  rw [UInt64.toNat_toUInt32]
  cases n.raw.toNat % 2 ^ 32 <;> simp

theorem placeOf_odd (n : Native) : placeOf n.odd = placeOf n := by
  refine Option.ext fun place => ?_
  rw [placeOf_eq_some_iff, placeOf_eq_some_iff, toNat_odd]
  omega

theorem versionOf_odd (n : Native) : versionOf n.odd = versionOf n := by
  apply UInt32.toNat_inj.1
  have hhigh : n.odd.raw.toNat / 2 ^ 32 = n.raw.toNat / 2 ^ 32 ||| 1 := by
    rw [toNat_odd]
    omega
  rw [toNat_versionOf, toNat_versionOf, hhigh, Nat.or_assoc, Nat.or_self]

variable {α : Type}

/-- A handle and its odd form find the same. -/
theorem find_odd (a : Arena α) (n : Native) : a.find n.odd = a.find n := by
  unfold find
  rw [placeOf_odd, versionOf_odd]

theorem get?_eq (a : Arena α) (n : Native) :
    a.get? (some n) = (a.find n).bind fun place => (a.slots[place]?).bind Slot.item := rfl

theorem get?_odd (a : Arena α) (n : Native) : a.get? (some n.odd) = a.get? (some n) := by
  rw [get?_eq, get?_eq, find_odd]

theorem erase_congr {a : Arena α} {x y : Option Native} (h : x.bind a.find = y.bind a.find) :
    a.erase x = a.erase y := by
  unfold erase
  split <;> split
  · rfl
  · next hx _ hy => cases hx.symm.trans (h.trans hy)
  · next hx hy => cases hy.symm.trans (h.symm.trans hx)
  · next place hx other hy =>
    obtain rfl : place = other := Option.some.inj (hx.symm.trans (h.trans hy))
    rfl

theorem erase_odd (a : Arena α) (n : Native) : a.erase (some n.odd) = a.erase (some n) :=
  erase_congr (a.find_odd n)

theorem update_congr {a : Arena α} {x y : Option Native} (h : x.bind a.find = y.bind a.find)
    (f : α → α) : a.update x f = a.update y f := by
  unfold update
  rw [h]

theorem update_odd (a : Arena α) (n : Native) (f : α → α) :
    a.update (some n.odd) f = a.update (some n) f :=
  update_congr (x := some n.odd) (y := some n) (a.find_odd n) f

/-- A handle that finds nothing points to no slot in its present use. -/
theorem find_eq_none {a : Arena α} {n : Native} (h : a.get? (some n) = none) : a.find n = none := by
  cases hfind : a.find n with
  | none => rfl
  | some place =>
    obtain ⟨-, s, hs, hi, -⟩ := find_eq_some_iff.1 hfind
    rw [get?_eq, hfind, Option.bind_some, hs, Option.bind_some] at h
    rw [h] at hi
    exact absurd hi nofun

theorem erase_of_get?_eq_none {a : Arena α} {n : Native} (h : a.get? (some n) = none) :
    a.erase (some n) = a :=
  erase_congr (y := none) (find_eq_none h)

theorem update_of_get?_eq_none {a : Arena α} {n : Native} (h : a.get? (some n) = none)
    (f : α → α) : a.update (some n) f = a :=
  update_congr (x := some n) (y := none) (find_eq_none h) f

/-- The odd form of a handle that points to a slot in its present use is that slot's handle. -/
theorem odd_eq_handle {n : Native} {s : Slot α} {place : Nat} (hp : placeOf n = some place)
    (hv : s.version = versionOf n) (hlt : place + 1 < UInt32.size) : n.odd = handle s place := by
  have hraw : n.odd.raw = (handle s place).raw := by
    apply UInt64.toNat_inj.1
    rw [toNat_odd, toNat_handle s hlt, hv, toNat_versionOf, placeOf_eq_some_iff.1 hp]
    rfl
  cases hn : n.odd
  cases hh : handle s place
  simp only [hn, hh] at hraw
  simp only [hraw]

section Fits

variable {a : Arena α} (hf : a.Fits)
include hf

/-- **A handle finds the item whose handle is its odd form.** -/
theorem get?_eq_some_iff {n : Native} {x : α} :
    a.get? (some n) = some x ↔ (n.odd, x) ∈ a.toList := by
  constructor
  · intro h
    obtain ⟨place, hfind, hx⟩ := Option.bind_eq_some_iff.1 h
    obtain ⟨hp, s, hs, -, hv⟩ := find_eq_some_iff.1 hfind
    rw [hs] at hx
    exact mem_toList.2 ⟨place, s, x, hs, hx, by rw [odd_eq_handle hp hv (hf.place_lt hs)]⟩
  · intro h
    rw [← get?_odd]
    exact get?_of_mem hf h

/-! ### What a handle finds after each operation -/

theorem get?_insert (x : α) (hf' : (a.insert x).2.Fits) (n : Native) :
    (a.insert x).2.get? (some n) =
      if n.odd = (a.insert x).1 then some x else a.get? (some n) := by
  have hnew : ((a.insert x).1, x) ∈ (a.insert x).2.toList := mem_insert.2 (Or.inl rfl)
  by_cases hn : n.odd = (a.insert x).1
  · rw [if_pos hn, get?_eq_some_iff hf', hn]
    exact hnew
  · rw [if_neg hn]
    refine Option.ext fun y => ?_
    rw [get?_eq_some_iff hf', get?_eq_some_iff hf, mem_insert]
    exact or_iff_right fun he => hn (Prod.mk.inj he).1

theorem get?_erase (m n : Native) :
    (a.erase (some m)).get? (some n) = if n.odd = m.odd then none else a.get? (some n) := by
  cases hm : a.get? (some m) with
  | none =>
    rw [erase_of_get?_eq_none hm]
    by_cases hn : n.odd = m.odd
    · rw [if_pos hn, ← get?_odd, hn, get?_odd, hm]
    · rw [if_neg hn]
  | some x =>
    have hin := (get?_eq_some_iff hf).1 hm
    have hf' : (a.erase (some m.odd)).Fits := hf.erase _
    rw [← erase_odd]
    refine Option.ext fun y => ?_
    rw [get?_eq_some_iff hf', mem_erase hf hin]
    by_cases hn : n.odd = m.odd
    · rw [if_pos hn]
      exact ⟨fun h => absurd hn h.2, nofun⟩
    · rw [if_neg hn, get?_eq_some_iff hf]
      exact and_iff_left hn

theorem get?_update (m n : Native) (f : α → α) :
    (a.update (some m) f).get? (some n) =
      if n.odd = m.odd then (a.get? (some m)).map f else a.get? (some n) := by
  cases hm : a.get? (some m) with
  | none =>
    rw [update_of_get?_eq_none hm]
    by_cases hn : n.odd = m.odd
    · rw [if_pos hn, ← get?_odd, hn, get?_odd, hm]
      rfl
    · rw [if_neg hn]
  | some x =>
    -- the arena answers alike for a handle and for the odd one that it stands for
    have hin := (get?_eq_some_iff hf).1 hm
    have hf' : (a.update (some m.odd) f).Fits := hf.update _ f
    rw [← update_odd]
    refine Option.ext fun y => ?_
    rw [get?_eq_some_iff hf', mem_update hf hin]
    by_cases hn : n.odd = m.odd
    · rw [if_pos hn]
      simp [hn, eq_comm]
    · rw [if_neg hn, get?_eq_some_iff hf]
      simp [hn]

theorem handles_update_of_fits (native : Option Native) (f : α → α) :
    (a.update native f).handles = a.handles := by
  cases native with
  | none => rfl
  | some m =>
    cases hm : a.get? (some m) with
    | none => rw [update_of_get?_eq_none hm]
    | some x =>
      rw [← update_odd]
      exact handles_update hf ((get?_eq_some_iff hf).1 hm) f

end Fits

end Arena

end ScriptedRays
