import ScriptedRays.Device.Present
import ScriptedRays.Registry.Index

/-!
# Ledger — values under ids that are never used twice

Ids are issued in ascending order from one; zero is none.  Removing a value does not free its id.
Only draining the ledger starts anew.

The values lie in an arena, each beside its id, and an index has the key of each id's value.  The two
agree at all times (`Ledger.Keyed`), so an id that was taken out finds nothing, although its slot may
hold another value by then.  The ledger is seen through `get?`, one equation for each operation.
-/

namespace ScriptedRays

namespace Ledger

variable {α : Type}

/-- An index that has the key of each value in the slots, under the id beside the value. -/
def Keyed (slots : Arena (UInt32 × α)) (keys : Index Native) : Prop :=
  ∀ id key, keys.get? id = some key ↔ ∃ value, (key, id, value) ∈ slots.toList

namespace Keyed

theorem empty : Keyed (.empty : Arena (UInt32 × α)) .empty := fun id key => by simp

section Keyed

variable {slots : Arena (UInt32 × α)} {keys : Index Native} (hk : Keyed slots keys)
include hk

theorem insert {id : UInt32} (hid : ∀ key value, (key, id, value) ∉ slots.toList) (v : α) :
    Keyed (slots.insert (id, v)).2 (keys.insert id (slots.insert (id, v)).1) := by
  intro other key
  rw [Index.get?_insert]
  simp only [Arena.mem_insert]
  by_cases ho : other = id
  · subst ho
    rw [if_pos rfl]
    constructor
    · rintro he
      exact ⟨v, Or.inl (by rw [Option.some.inj he])⟩
    · rintro ⟨value, he | hm⟩
      · rw [(Prod.mk.inj he).1]
      · exact absurd hm (hid _ _)
  · rw [if_neg ho, hk other key]
    refine exists_congr fun value => ⟨Or.inr, fun h => h.resolve_left fun he => ho ?_⟩
    exact (Prod.mk.inj (Prod.mk.inj he).2).1

/-- Exactly the value under the id is taken out. -/
theorem mem_erase (hf : slots.Fits) {id other : UInt32} {key : Native} {v : α} :
    (key, other, v) ∈ (slots.erase (keys.get? id)).toList ↔
      other ≠ id ∧ (key, other, v) ∈ slots.toList := by
  cases hid : keys.get? id with
  | none =>
    rw [Arena.erase_none]
    refine ⟨fun hm => ⟨?_, hm⟩, And.right⟩
    rintro rfl
    rw [(hk other key).2 ⟨v, hm⟩] at hid
    exact absurd hid nofun
  | some gone =>
    obtain ⟨w, hw⟩ := (hk id gone).1 hid
    rw [Arena.mem_erase hf hw, and_comm]
    refine and_congr_left fun hm => not_congr ⟨?_, ?_⟩
    · -- one key has one id beside its value
      rintro rfl
      have he := (Arena.get?_of_mem hf hm).symm.trans (Arena.get?_of_mem hf hw)
      exact (Prod.mk.inj (Option.some.inj he)).1
    · rintro rfl
      exact Option.some.inj (((hk other key).2 ⟨v, hm⟩).symm.trans hid)

theorem erase (hf : slots.Fits) (id : UInt32) :
    Keyed (slots.erase (keys.get? id)) (keys.erase id) := by
  intro other key
  simp only [hk.mem_erase hf]
  rw [Index.get?_erase]
  by_cases ho : other = id
  · simp [ho]
  · simp [ho, hk other key]

end Keyed

end Keyed

end Ledger

/-- Values in slots, the keys of the ids in use, and the id to be issued next: zero when all are. -/
structure Ledger (α : Type) where
  slots : Arena (UInt32 × α)
  keys : Index Native
  next : UInt32
  fits : slots.Fits
  keyed : Ledger.Keyed slots keys
  size_le : slots.size ≤ (next - 1).toNat
  ids_issued : ∀ key id value, (key, id, value) ∈ slots.toList →
    0 < id.toNat ∧ id.toNat ≤ (next - 1).toNat

namespace Ledger

variable {α : Type}

def empty : Ledger α where
  slots := .empty
  keys := .empty
  next := 1
  fits := Arena.fits_empty
  keyed := .empty
  size_le := Nat.zero_le _
  ids_issued key id value h := by simp at h

instance : Inhabited (Ledger α) := ⟨empty⟩

/-- How many ids have been issued. -/
def issued (t : Ledger α) : Nat := (t.next - 1).toNat

/-- The values, each with its id, by slot. -/
def entries (t : Ledger α) : List (UInt32 × α) := t.slots.toList.map Prod.snd

/-- The id that the next value will get: none when all are issued. -/
def nextId? (t : Ledger α) : Option UInt32 := if 1 ≤ t.next then some t.next else none

/-- The value under an id. -/
def get? (t : Ledger α) (id : UInt32) : Option α := (t.slots.get? (t.keys.get? id)).map Prod.snd

def contains (t : Ledger α) (id : UInt32) : Bool := (t.get? id).isSome

def size (t : Ledger α) : Nat := t.slots.size

def isEmpty (t : Ledger α) : Bool := t.size == 0

theorem toNat_next {t : Ledger α} (h : 1 ≤ t.next) : t.next.toNat = t.issued + 1 := by
  have h1 : 1 ≤ t.next.toNat := UInt32.le_iff_toNat_le.1 h
  have hsub : t.issued = t.next.toNat - 1 := UInt32.toNat_sub_of_le _ _ h
  omega

theorem issued_of_succ {t : Ledger α} (h : 1 ≤ t.next) : (t.next + 1 - 1).toNat = t.issued + 1 := by
  rw [UInt32.add_sub_cancel, toNat_next h]

theorem mem_issued {t : Ledger α} {id : UInt32} {v : α} (h : (id, v) ∈ t.entries) :
    0 < id.toNat ∧ id.toNat ≤ t.issued := by
  obtain ⟨⟨key, e⟩, hm, rfl⟩ := List.mem_map.1 h
  exact t.ids_issued key id v hm

/-- Stores the value made from the next id. -/
def insert (t : Ledger α) (value : UInt32 → α) : Option (UInt32 × Ledger α) :=
  if h : 1 ≤ t.next then
    let stored := t.slots.insert (t.next, value t.next)
    some (t.next,
      { slots := stored.2
        keys := t.keys.insert t.next stored.1
        next := t.next + 1
        fits := by
          refine t.fits.insert ?_ _
          have hlt := t.next.toNat_lt
          have hsize : t.slots.size ≤ t.issued := t.size_le
          have hn := toNat_next h
          show t.slots.size + 1 < 4294967296
          omega
        keyed := by
          refine t.keyed.insert (fun key v hm => ?_) _
          have hle : t.next.toNat ≤ t.issued := (t.ids_issued key _ v hm).2
          have hn := toNat_next h
          omega
        size_le := by
          rw [issued_of_succ h, Arena.size_insert]
          exact Nat.succ_le_succ t.size_le
        ids_issued := fun key id v hm => by
          rw [issued_of_succ h]
          rcases Arena.mem_insert.1 hm with he | hm
          · obtain ⟨rfl, -⟩ := Prod.mk.inj (Prod.mk.inj he).2
            rw [toNat_next h]
            omega
          · have hid : 0 < id.toNat ∧ id.toNat ≤ t.issued := t.ids_issued key id v hm
            omega })
  else none

/-- Removes the value under an id, if any. -/
def erase (t : Ledger α) (id : UInt32) : Ledger α where
  slots := t.slots.erase (t.keys.get? id)
  keys := t.keys.erase id
  next := t.next
  fits := t.fits.erase _
  keyed := t.keyed.erase t.fits id
  size_le := Nat.le_trans (t.slots.sublist_erase _).length_le t.size_le
  ids_issued key other v hm :=
    t.ids_issued key other v ((t.slots.sublist_erase _).subset hm)

/-- A pair put into a list by ascending id, in front of the first that is not below it. -/
def insertById (e : UInt32 × α) : List (UInt32 × α) → List (UInt32 × α)
  | [] => [e]
  | other :: rest => if e.1 ≤ other.1 then e :: other :: rest else other :: insertById e rest

/-- Pairs by ascending id. -/
def sortById (l : List (UInt32 × α)) : List (UInt32 × α) := l.foldr insertById []

/-- All values by ascending id. -/
def drain (t : Ledger α) : List (UInt32 × α) := sortById t.entries

/-- What remains of a ledger that is drained: its slots, none of which holds a value.  Ids start
anew. -/
def drained (t : Ledger α) : Ledger α where
  slots := t.slots.clear
  keys := .empty
  next := 1
  fits := t.fits.clear
  keyed id key := by simp [Arena.toList_clear]
  size_le := by
    unfold Arena.size
    rw [Arena.toList_clear]
    exact Nat.zero_le _
  ids_issued key id value h := by simp [Arena.toList_clear] at h

@[simp] theorem get?_empty (id : UInt32) : (empty : Ledger α).get? id = none := rfl

@[simp] theorem get?_drained (t : Ledger α) (id : UInt32) : t.drained.get? id = none := rfl

@[simp] theorem nextId?_erase (t : Ledger α) (id : UInt32) : (t.erase id).nextId? = t.nextId? := rfl

theorem insert_eq_none_iff {t : Ledger α} {value : UInt32 → α} :
    t.insert value = none ↔ t.nextId? = none := by
  simp only [insert, nextId?]
  split <;> simp

theorem fst_insert {t u : Ledger α} {value : UInt32 → α} {id : UInt32}
    (h : t.insert value = some (id, u)) : t.nextId? = some id := by
  simp only [insert, nextId?] at h ⊢
  split at h
  · next hlt =>
    simp only [Option.some.injEq, Prod.mk.injEq] at h
    rw [if_pos hlt, h.1]
  · simp at h

/-- An id finds the value that lies in the slots beside it. -/
theorem get?_eq_some {t : Ledger α} {id : UInt32} {v : α} :
    t.get? id = some v ↔ ∃ key, (key, id, v) ∈ t.slots.toList := by
  unfold get?
  rw [Option.map_eq_some_iff]
  constructor
  · rintro ⟨⟨other, _⟩, hs, rfl⟩
    cases hkey : t.keys.get? id with
    | none => rw [hkey] at hs; exact absurd hs nofun
    | some key =>
      obtain ⟨w, hw⟩ := (t.keyed id key).1 hkey
      rw [hkey, Arena.get?_of_mem t.fits hw] at hs
      obtain ⟨rfl, rfl⟩ := Prod.mk.inj (Option.some.inj hs)
      exact ⟨key, hw⟩
  · rintro ⟨key, hm⟩
    rw [(t.keyed id key).2 ⟨v, hm⟩, Arena.get?_of_mem t.fits hm]
    exact ⟨_, rfl, rfl⟩

theorem get?_insert {t u : Ledger α} {value : UInt32 → α} {id : UInt32}
    (h : t.insert value = some (id, u)) (other : UInt32) :
    u.get? other = if other = id then some (value id) else t.get? other := by
  simp only [insert] at h
  split at h
  · next hlt =>
    obtain ⟨rfl, rfl⟩ := Prod.mk.inj (Option.some.inj h)
    by_cases ho : other = t.next
    · rw [if_pos ho, ho]
      exact get?_eq_some.2 ⟨_, Arena.mem_insert.2 (Or.inl rfl)⟩
    · rw [if_neg ho]
      refine Option.ext fun v => ?_
      rw [get?_eq_some, get?_eq_some]
      refine exists_congr fun key => Arena.mem_insert.trans (or_iff_right fun he => ho ?_)
      exact (Prod.mk.inj (Prod.mk.inj he).2).1
  · exact absurd h nofun

theorem get?_erase (t : Ledger α) (id other : UInt32) :
    (t.erase id).get? other = if other = id then none else t.get? other := by
  refine Option.ext fun v => ?_
  have hmem : ∀ key, (key, other, v) ∈ (t.erase id).slots.toList ↔
      other ≠ id ∧ (key, other, v) ∈ t.slots.toList := fun _ => t.keyed.mem_erase t.fits
  rw [get?_eq_some]
  simp only [hmem]
  by_cases ho : other = id
  · simp [ho]
  · simp [ho, get?_eq_some]

end Ledger

end ScriptedRays
