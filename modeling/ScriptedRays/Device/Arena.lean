import ScriptedRays.Resource.Kind

/-!
# Arena — storage whose handles go stale

Items live in numbered slots.  A slot freed is used again, the slot freed last first, and each use
has a version of its own: the first is 1 and each later one is two more, so versions are odd.  A
handle is a version above a slot number; it finds its item only as long as the slot is in that very
use.  The lowest bit of a handle's version is set before it is compared.
-/

namespace ScriptedRays

/-- A slot: how often it has been used again, and what it holds. -/
structure Slot (α : Type) where
  reuses : UInt32
  item : Option α

/-- The version of a slot's present or latest use. -/
def Slot.version {α : Type} (s : Slot α) : UInt32 := 2 * s.reuses + 1

/-- A slot that has been used and holds nothing. -/
def Slot.Vacant {α : Type} (slots : List (Slot α)) (place : Nat) : Prop :=
  ∃ s, slots[place]? = some s ∧ s.item = none

/-- Slots, numbered from one, and those that are free, the one freed last in front. -/
structure Arena (α : Type) where
  slots : List (Slot α)
  free : List Nat
  free_nodup : free.Nodup
  mem_free : ∀ place, place ∈ free ↔ Slot.Vacant slots place

namespace Slot

variable {α : Type} {slots : List (Slot α)}

theorem vacant_concat {s : Slot α} (hs : s.item.isSome = true) (place : Nat) :
    Vacant (slots ++ [s]) place ↔ Vacant slots place := by
  unfold Vacant
  rw [List.getElem?_append]
  by_cases hlt : place < slots.length
  · rw [if_pos hlt]
  · have hnone : slots[place]? = none := List.getElem?_eq_none (Nat.le_of_not_lt hlt)
    rw [if_neg hlt, hnone]
    constructor
    · rintro ⟨t, ht, hv⟩
      obtain rfl := List.mem_singleton.1 (List.mem_of_getElem? ht)
      rw [hv] at hs
      exact absurd hs nofun
    · rintro ⟨t, ht, -⟩
      exact absurd ht nofun

theorem vacant_set {place : Nat} {s : Slot α} (h : place < slots.length) (other : Nat) :
    Vacant (slots.set place s) other ↔
      if other = place then s.item = none else Vacant slots other := by
  unfold Vacant
  by_cases ho : other = place
  · subst ho
    rw [if_pos rfl, List.getElem?_set_self h]
    exact ⟨fun ⟨t, ht, hv⟩ => Option.some.inj ht ▸ hv, fun hv => ⟨s, rfl, hv⟩⟩
  · rw [if_neg ho, List.getElem?_set_ne (Ne.symm ho)]

theorem vacant_modify (place : Nat) (f : Slot α → Slot α) (other : Nat) :
    Vacant (slots.modify place f) other ↔
      ∃ s, slots[other]? = some s ∧ (if place = other then f s else s).item = none := by
  unfold Vacant
  rw [List.getElem?_modify]
  cases slots[other]? <;> simp

end Slot

namespace Arena

variable {α : Type}

def empty : Arena α := ⟨[], [], List.nodup_nil, fun place => by simp [Slot.Vacant]⟩

instance : Inhabited (Arena α) := ⟨empty⟩

theorem version_ne_zero (s : Slot α) : s.version ≠ 0 := by
  intro h
  have hn := congrArg UInt32.toNat h
  simp only [Slot.version, UInt32.toNat_add, UInt32.toNat_mul, UInt32.reduceToNat] at hn
  omega

/-- The handle of a slot's present use, the slot being at the given place. -/
def handle (s : Slot α) (place : Nat) : Native where
  raw := s.version.toUInt64 <<< 32 ||| UInt64.ofNat (place + 1)
  raw_ne_zero h := by
    have hz := congrArg UInt64.toNat (UInt64.or_eq_zero_iff.1 h).1
    have hv : s.version.toNat ≠ 0 := fun e => version_ne_zero s (UInt32.toNat_inj.1 e)
    have hlt := s.version.toNat_lt
    simp only [UInt64.toNat_shiftLeft, UInt32.toNat_toUInt64, UInt64.reduceToNat,
      Nat.shiftLeft_eq, Nat.reduceMod, Nat.reducePow] at hz
    omega

/-- The version that a handle asks for. -/
def versionOf (n : Native) : UInt32 := (n.raw >>> 32).toUInt32 ||| 1

/-- The place that a handle points to: none for the number zero. -/
def placeOf (n : Native) : Option Nat :=
  match n.raw.toUInt32.toNat with
  | 0 => none
  | number + 1 => some number

/-- The place of the item that a handle finds. -/
def find (a : Arena α) (n : Native) : Option Nat := do
  let place ← placeOf n
  let s ← a.slots[place]?
  if s.item.isSome = true ∧ s.version = versionOf n then some place else none

theorem find_eq_some_iff {a : Arena α} {n : Native} {place : Nat} :
    a.find n = some place ↔
      placeOf n = some place ∧
        ∃ s, a.slots[place]? = some s ∧ s.item.isSome = true ∧ s.version = versionOf n := by
  simp only [find, Option.bind_eq_bind, Option.bind_eq_some_iff, Option.ite_none_right_eq_some,
    Option.some.injEq]
  grind

/-- The item that a handle finds. -/
def get? (a : Arena α) (native : Option Native) : Option α := do
  let place ← a.find (← native)
  (← a.slots[place]?).item

def contains (a : Arena α) (native : Option Native) : Bool := (a.get? native).isSome

/-- The items present, each with its handle, by slot. -/
def toList (a : Arena α) : List (Native × α) :=
  a.slots.zipIdx.filterMap fun (s, place) => s.item.map fun item => (handle s place, item)

/-- How many items there are. -/
def size (a : Arena α) : Nat := a.toList.length

@[simp] theorem toList_empty : (empty : Arena α).toList = [] := rfl

theorem vacant_of_free {a : Arena α} {place : Nat} {rest : List Nat} (h : a.free = place :: rest) :
    Slot.Vacant a.slots place :=
  (a.mem_free place).1 (h ▸ List.mem_cons_self)

/-- Stores an item and gives its handle. -/
def insert (a : Arena α) (item : α) : Native × Arena α :=
  match hf : a.free with
  | [] =>
    let s : Slot α := ⟨0, some item⟩
    (handle s a.slots.length, ⟨a.slots ++ [s], [], List.nodup_nil, fun place => by
      rw [Slot.vacant_concat rfl, ← a.mem_free, hf]⟩)
  | place :: rest =>
    let s : Slot α := ⟨(a.slots[place]?).elim 0 Slot.reuses + 1, some item⟩
    (handle s place,
      { slots := a.slots.set place s
        free := rest
        free_nodup := (List.nodup_cons.1 (hf ▸ a.free_nodup)).2
        mem_free := fun other => by
          obtain ⟨t, ht, -⟩ := vacant_of_free hf
          have hn := (List.nodup_cons.1 (hf ▸ a.free_nodup)).1
          rw [Slot.vacant_set (List.getElem?_eq_some_iff.1 ht).1, ← a.mem_free, hf]
          by_cases ho : other = place
          · rw [if_pos ho, ho]
            exact ⟨fun hm => absurd hm hn, nofun⟩
          · rw [if_neg ho, List.mem_cons]
            exact ⟨Or.inr, fun hm => hm.resolve_left ho⟩ })

/-- Where the item stands that a handle finds, if any. -/
theorem exists_of_bind_find {a : Arena α} {native : Option Native} {place : Nat}
    (h : native.bind a.find = some place) :
    ∃ s, a.slots[place]? = some s ∧ s.item.isSome = true := by
  obtain ⟨n, -, hn⟩ := Option.bind_eq_some_iff.1 h
  obtain ⟨-, s, hs, hi, -⟩ := find_eq_some_iff.1 hn
  exact ⟨s, hs, hi⟩

/-- Takes out the item that a handle finds, if any. -/
def erase (a : Arena α) (native : Option Native) : Arena α :=
  match h : native.bind a.find with
  | none => a
  | some place =>
    { slots := a.slots.modify place fun s => { s with item := none }
      free := place :: a.free
      free_nodup := by
        obtain ⟨s, hs, hi⟩ := exists_of_bind_find h
        refine List.nodup_cons.2 ⟨fun hm => ?_, a.free_nodup⟩
        obtain ⟨t, ht, hv⟩ := (a.mem_free place).1 hm
        grind
      mem_free := fun other => by
        obtain ⟨s, hs, -⟩ := exists_of_bind_find h
        rw [List.mem_cons, a.mem_free, Slot.vacant_modify]
        by_cases ho : place = other
        · simp [← ho, hs]
        · simp [ho, Ne.symm ho, Slot.Vacant] }

/-- Changes the item that a handle finds, if any. -/
def update (a : Arena α) (native : Option Native) (f : α → α) : Arena α :=
  match native.bind a.find with
  | none => a
  | some place =>
    { slots := a.slots.modify place fun s => { s with item := s.item.map f }
      free := a.free
      free_nodup := a.free_nodup
      mem_free := fun other => by
        rw [a.mem_free, Slot.vacant_modify]
        by_cases ho : place = other <;> simp [ho, Slot.Vacant] }

/-- The places of the items present, in ascending order. -/
def occupied (a : Arena α) : List Nat :=
  (List.range a.slots.length).filter fun place => ((a.slots[place]?).bind Slot.item).isSome

theorem mem_occupied {a : Arena α} {place : Nat} :
    place ∈ a.occupied ↔ ∃ s, a.slots[place]? = some s ∧ s.item.isSome = true := by
  unfold occupied
  rw [List.mem_filter, List.mem_range]
  constructor
  · rintro ⟨hlt, hi⟩
    rw [List.getElem?_eq_getElem hlt] at hi ⊢
    exact ⟨_, rfl, hi⟩
  · rintro ⟨s, hs, hi⟩
    rw [hs]
    exact ⟨(List.getElem?_eq_some_iff.1 hs).1, hi⟩

/-- Takes out all items, from the first slot on. -/
def clear (a : Arena α) : Arena α where
  slots := a.slots.map fun s => { s with item := none }
  free := a.occupied.reverse ++ a.free
  free_nodup := by
    refine List.nodup_append.2 ⟨?_, a.free_nodup, ?_⟩
    · exact List.pairwise_reverse.2 ((List.nodup_range.filter _).imp Ne.symm)
    · rintro place hp _ hf rfl
      obtain ⟨s, hs, hi⟩ := mem_occupied.1 (List.mem_reverse.1 hp)
      obtain ⟨t, ht, hv⟩ := (a.mem_free place).1 hf
      grind
  mem_free place := by
    rw [List.mem_append, List.mem_reverse, mem_occupied, a.mem_free]
    unfold Slot.Vacant
    rw [List.getElem?_map]
    cases a.slots[place]? with
    | none => simp
    | some s => cases hi : s.item <;> simp [hi]

end Arena

end ScriptedRays
