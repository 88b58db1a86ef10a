import Mathlib.Data.List.Nodup
import Mathlib.Data.List.Perm.Basic
import Mathlib.Algebra.Group.Nat.Defs
import ScriptedRays.Registry.Ledger

/-!
# Ledger — its entries as a set of pairs

An id stands under at most one entry, so looking up is membership (`get?_eq_some_iff`); erasing
takes out exactly one entry (`perm_erase`), and draining lists the entries by ascending id
(`ascending_drain`, `mem_drain`).
-/

namespace ScriptedRays.Ledger

variable {α : Type}

theorem get?_eq_some_iff {t : Ledger α} {id : UInt32} {v : α} :
    t.get? id = some v ↔ (id, v) ∈ t.entries := by
  rw [get?_eq_some, entries, List.mem_map]
  exact ⟨fun ⟨key, hm⟩ => ⟨_, hm, rfl⟩, fun ⟨⟨key, _⟩, hm, he⟩ => ⟨key, he ▸ hm⟩⟩

theorem nodup_ids (t : Ledger α) : (t.entries.map Prod.fst).Nodup := by
  have hhandles : t.slots.handles.Nodup := Arena.nodup_handles t.fits
  unfold entries
  rw [List.map_map]
  refine List.Nodup.map_on ?_ hhandles.of_map
  rintro ⟨key, id, v⟩ hm ⟨other, _, w⟩ hm' rfl
  -- the index has one key for the id
  obtain rfl : key = other :=
    Option.some.inj (((t.keyed id key).2 ⟨v, hm⟩).symm.trans ((t.keyed id other).2 ⟨w, hm'⟩))
  exact congrArg (Prod.mk key)
    (Option.some.inj ((Arena.get?_of_mem t.fits hm).symm.trans (Arena.get?_of_mem t.fits hm')))

theorem issued_empty : (empty : Ledger α).issued = 0 := by
  show ((1 : UInt32) - 1).toNat = 0
  decide

theorem length_entries (t : Ledger α) : t.entries.length = t.size := List.length_map _

theorem mem_ids {t : Ledger α} {id : UInt32} :
    id ∈ t.entries.map Prod.fst ↔ ∃ v, t.get? id = some v := by
  constructor
  · intro h
    obtain ⟨⟨_, v⟩, hm, rfl⟩ := List.mem_map.1 h
    exact ⟨v, get?_eq_some_iff.2 hm⟩
  · rintro ⟨v, hv⟩
    exact List.mem_map.2 ⟨(id, v), get?_eq_some_iff.1 hv, rfl⟩

theorem perm_erase {t : Ledger α} {id : UInt32} {v : α} (h : t.get? id = some v) :
    t.entries.Perm ((id, v) :: (t.erase id).entries) := by
  obtain ⟨key, hm⟩ := get?_eq_some.1 h
  have hkey : t.keys.get? id = some key := (t.keyed id key).2 ⟨v, hm⟩
  have hslots : (t.erase id).slots = t.slots.erase (some key) := congrArg t.slots.erase hkey
  have hperm := (Arena.perm_erase t.fits hm).map Prod.snd
  rw [← hslots] at hperm
  exact hperm

/-- What an insertion does: the new entry is the value made from the next id. -/
theorem perm_insert {t u : Ledger α} {value : UInt32 → α} {id : UInt32}
    (h : t.insert value = some (id, u)) : u.entries.Perm ((id, value id) :: t.entries) := by
  unfold insert at h
  split at h
  · obtain ⟨rfl, rfl⟩ := Prod.mk.inj (Option.some.inj h)
    exact (Arena.perm_insert t.slots _).map Prod.snd
  · exact absurd h nofun

theorem issued_insert {t u : Ledger α} {value : UInt32 → α} {id : UInt32}
    (h : t.insert value = some (id, u)) : u.issued = t.issued + 1 := by
  unfold insert at h
  split at h
  · next hlt =>
    obtain ⟨rfl, rfl⟩ := Prod.mk.inj (Option.some.inj h)
    exact issued_of_succ hlt
  · exact absurd h nofun

theorem nextId?_eq_some {t : Ledger α} {id : UInt32} (h : t.nextId? = some id) :
    id.toNat = t.issued + 1 := by
  unfold nextId? at h
  split at h
  · next hle => exact Option.some.inj h ▸ toNat_next hle
  · exact absurd h nofun

theorem toNat_of_insert {t u : Ledger α} {value : UInt32 → α} {id : UInt32}
    (h : t.insert value = some (id, u)) : id.toNat = t.issued + 1 := nextId?_eq_some (fst_insert h)

/-- There is a next id until all words but zero are issued. -/
theorem exists_nextId? {t : Ledger α} (h : t.issued + 1 < UInt32.size) :
    ∃ id, t.nextId? = some id := by
  unfold nextId?
  by_cases hle : 1 ≤ t.next
  · exact ⟨_, if_pos hle⟩
  · have hzero : t.next.toNat < 1 := UInt32.lt_iff_toNat_lt.1 (UInt32.not_le.1 hle)
    have hnext : t.next = 0 := UInt32.toNat_inj.1 (Nat.lt_one_iff.1 hzero)
    unfold issued at h
    rw [hnext] at h
    exact absurd h (by decide)

theorem nextId?_congr {t : Ledger α} {β : Type} {u : Ledger β} (h : t.issued = u.issued) :
    t.nextId? = u.nextId? := by
  have hnext : t.next = u.next := by
    have hsub : t.next - 1 + 1 = u.next - 1 + 1 :=
      congrArg (fun i : UInt32 => i + 1) (UInt32.toNat_inj.1 h)
    rwa [UInt32.sub_add_cancel, UInt32.sub_add_cancel] at hsub
  unfold nextId?
  rw [hnext]

/-- The next id tells how many were issued. -/
theorem nextId?_eq_iff {t u : Ledger α} (ht : t.issued + 1 < UInt32.size) :
    t.nextId? = u.nextId? ↔ t.issued = u.issued := by
  refine ⟨fun h => ?_, nextId?_congr⟩
  obtain ⟨id, hid⟩ := exists_nextId? ht
  have hsucc := (nextId?_eq_some hid).symm.trans (nextId?_eq_some (h ▸ hid))
  exact Nat.succ.inj hsucc

theorem exists_insert {t : Ledger α} (h : t.issued + 1 < UInt32.size) (value : UInt32 → α) :
    ∃ id u, t.insert value = some (id, u) := by
  obtain ⟨id, hid⟩ := exists_nextId? h
  cases hi : t.insert value with
  | none =>
    rw [insert_eq_none_iff.1 hi] at hid
    exact absurd hid nofun
  | some stored => exact ⟨stored.1, stored.2, rfl⟩

theorem succ_lt_size {n : Nat} (h : n < 2 ^ 31) : n + 1 < UInt32.size := by
  show n + 1 < 2 ^ 32
  omega

theorem succ_lt_size_of_add {m n : Nat} (h : m + n < 2 ^ 31) : n + 1 < UInt32.size :=
  succ_lt_size (Nat.lt_of_le_of_lt (Nat.le_add_left n m) h)

/-! ### Draining -/

theorem perm_insertById (e : UInt32 × α) (l : List (UInt32 × α)) :
    (insertById e l).Perm (e :: l) := by
  induction l with
  | nil => exact List.Perm.refl _
  | cons other rest ih =>
    unfold insertById
    split
    · exact List.Perm.refl _
    · exact (ih.cons other).trans (List.Perm.swap _ _ _)

theorem perm_sortById (l : List (UInt32 × α)) : (sortById l).Perm l := by
  induction l with
  | nil => exact List.Perm.refl _
  | cons e rest ih => exact (perm_insertById e _).trans (ih.cons e)

theorem pairwise_insertById {e : UInt32 × α} {l : List (UInt32 × α)}
    (h : (l.map Prod.fst).Pairwise (· ≤ ·)) :
    ((insertById e l).map Prod.fst).Pairwise (· ≤ ·) := by
  induction l with
  | nil => exact List.pairwise_singleton _ _
  | cons other rest ih =>
    rw [List.map_cons, List.pairwise_cons] at h
    unfold insertById
    split
    · next hle =>
      refine List.pairwise_cons.2 ⟨fun id hid => ?_, List.pairwise_cons.2 h⟩
      rcases List.mem_cons.1 hid with rfl | hid
      · exact hle
      · exact UInt32.le_trans hle (h.1 id hid)
    · next hnle =>
      refine List.pairwise_cons.2 ⟨fun id hid => ?_, ih h.2⟩
      -- what follows `other` is what followed it before, together with `e`
      rw [((perm_insertById e rest).map Prod.fst).mem_iff, List.map_cons] at hid
      rcases List.mem_cons.1 hid with rfl | hid
      · exact UInt32.le_of_lt (UInt32.not_le.1 hnle)
      · exact h.1 id hid

theorem pairwise_sortById (l : List (UInt32 × α)) :
    ((sortById l).map Prod.fst).Pairwise (· ≤ ·) := by
  induction l with
  | nil => exact List.Pairwise.nil
  | cons e rest ih => exact pairwise_insertById ih

theorem perm_drain (t : Ledger α) : t.drain.Perm t.entries := perm_sortById t.entries

theorem ascending_drain (t : Ledger α) : (t.drain.map Prod.fst).Pairwise (· < ·) := by
  have hnodup := (t.perm_drain.map Prod.fst).nodup_iff.2 t.nodup_ids
  exact ((pairwise_sortById t.entries).and hnodup).imp fun h => UInt32.lt_of_le_of_ne h.1 h.2

theorem mem_drain {t : Ledger α} {id : UInt32} {v : α} :
    (id, v) ∈ t.drain ↔ t.get? id = some v := by
  rw [t.perm_drain.mem_iff, get?_eq_some_iff]

end ScriptedRays.Ledger
