import ScriptedRays.Device.Arena

/-!
# Present — the items of an arena and the handles that find them

As long as the slots of an arena can be numbered by words (`Arena.Fits`), a handle determines the
place and the version of its slot.  So the handles of the items present differ (`nodup_handles`) and
each finds its own item (`get?_of_mem`).  The view is `Arena.toList`: each operation adds, takes out
or changes one item (`mem_insert`, `mem_erase`, `mem_update`), and `clear` takes out all of them.
-/

namespace ScriptedRays.Arena

variable {α : Type}

/-! ### The words of a handle -/

theorem toNat_handle (s : Slot α) {place : Nat} (h : place + 1 < UInt32.size) :
    (handle s place).raw.toNat = s.version.toNat * UInt32.size + (place + 1) := by
  have hv := s.version.toNat_lt
  have hp : (UInt64.ofNat (place + 1)).toNat = place + 1 :=
    UInt64.toNat_ofNat_of_lt' (Nat.lt_trans h (by decide))
  have hshift : s.version.toNat <<< 32 = s.version.toNat * UInt32.size := Nat.shiftLeft_eq _ _
  have hlt : s.version.toNat <<< 32 < 18446744073709551616 := by
    rw [hshift]
    show s.version.toNat * 4294967296 < _
    omega
  show (s.version.toUInt64 <<< 32 ||| UInt64.ofNat (place + 1)).toNat = _
  rw [UInt64.toNat_or, hp, UInt64.toNat_shiftLeft, UInt32.toNat_toUInt64]
  show (s.version.toNat <<< 32 % 18446744073709551616) ||| (place + 1) = _
  rw [Nat.mod_eq_of_lt hlt, ← Nat.shiftLeft_add_eq_or_of_lt h, hshift]

theorem placeOf_handle (s : Slot α) {place : Nat} (h : place + 1 < UInt32.size) :
    placeOf (handle s place) = some place := by
  have hn : (handle s place).raw.toUInt32.toNat = place + 1 := by
    rw [UInt64.toNat_toUInt32, toNat_handle s h]
    show (s.version.toNat * 4294967296 + (place + 1)) % 4294967296 = _
    have hlt : place + 1 < 4294967296 := h
    omega
  unfold placeOf
  rw [hn]

theorem two_mul_add_one_or_one (n : Nat) : (2 * n + 1) ||| 1 = 2 * n + 1 := by
  have h : 2 * n + 1 = 2 * n ||| 1 := Nat.two_pow_add_eq_or_of_lt (i := 1) (by decide) n
  rw [h, Nat.or_assoc, Nat.or_self]

theorem versionOf_handle (s : Slot α) {place : Nat} (h : place + 1 < UInt32.size) :
    versionOf (handle s place) = s.version := by
  have hodd : s.version.toNat = 2 * (s.reuses.toNat % 2147483648) + 1 := by
    simp only [Slot.version, UInt32.toNat_add, UInt32.toNat_mul, UInt32.reduceToNat]
    omega
  have hv := s.version.toNat_lt
  have hlt : place + 1 < 4294967296 := h
  have hhigh : (handle s place).raw.toNat >>> 32 % 4294967296 = s.version.toNat := by
    rw [toNat_handle s h, Nat.shiftRight_eq_div_pow]
    show (s.version.toNat * 4294967296 + (place + 1)) / 4294967296 % 4294967296 = _
    omega
  apply UInt32.toNat_inj.1
  show ((handle s place).raw >>> 32).toUInt32.toNat ||| 1 = _
  rw [UInt64.toNat_toUInt32, UInt64.toNat_shiftRight]
  show (handle s place).raw.toNat >>> 32 % 4294967296 ||| 1 = _
  rw [hhigh, hodd, two_mul_add_one_or_one]

/-! ### The items present -/

/-- The items present in slots that are numbered from a given place on, each with its handle. -/
def presentFrom (start : Nat) (slots : List (Slot α)) : List (Native × α) :=
  (slots.zipIdx start).filterMap fun (s, place) => s.item.map fun item => (handle s place, item)

theorem toList_eq (a : Arena α) : a.toList = presentFrom 0 a.slots := rfl

theorem presentFrom_cons (start : Nat) (s : Slot α) (slots : List (Slot α)) :
    presentFrom start (s :: slots) =
      (s.item.map fun item => (handle s start, item)).toList ++ presentFrom (start + 1) slots := by
  unfold presentFrom
  obtain ⟨reuses, item⟩ := s
  rw [List.zipIdx_cons, List.filterMap_cons]
  cases item <;> rfl

theorem presentFrom_append (start : Nat) (front back : List (Slot α)) :
    presentFrom start (front ++ back) =
      presentFrom start front ++ presentFrom (start + front.length) back := by
  unfold presentFrom
  rw [List.zipIdx_append, List.filterMap_append]

theorem set_eq_self {slots : List (Slot α)} {place : Nat} {s : Slot α}
    (h : slots[place]? = some s) : slots.set place s = slots := by
  obtain ⟨hp, rfl⟩ := List.getElem?_eq_some_iff.1 h
  exact List.set_getElem_self hp

/-- One slot's part of the items present: whatever else stands in the slot, the items in the other
slots stay the same and in the same order. -/
theorem exists_presentFrom_set {slots : List (Slot α)} {place : Nat} (h : place < slots.length) :
    ∃ before after, ∀ t : Slot α, presentFrom 0 (slots.set place t) =
      before ++ (t.item.map fun item => (handle t place, item)).toList ++ after := by
  refine ⟨presentFrom 0 (slots.take place), presentFrom (place + 1) (slots.drop (place + 1)), ?_⟩
  intro t
  rw [List.set_eq_take_append_cons_drop, if_pos h, presentFrom_append, presentFrom_cons,
    List.length_take, Nat.min_eq_left (by omega), Nat.zero_add, List.append_assoc]

theorem mem_presentFrom {start : Nat} {slots : List (Slot α)} {p : Native × α} :
    p ∈ presentFrom start slots ↔
      ∃ i s x, slots[i]? = some s ∧ s.item = some x ∧ p = (handle s (start + i), x) := by
  unfold presentFrom
  rw [List.mem_filterMap]
  constructor
  · rintro ⟨⟨s, place⟩, hs, hp⟩
    obtain ⟨x, hx, rfl⟩ := Option.map_eq_some_iff.1 hp
    obtain ⟨i, hi⟩ := List.getElem?_of_mem hs
    rw [List.getElem?_zipIdx] at hi
    obtain ⟨t, ht, he⟩ := Option.map_eq_some_iff.1 hi
    obtain ⟨rfl, rfl⟩ := Prod.mk.inj he
    exact ⟨i, t, x, ht, hx, rfl⟩
  · rintro ⟨i, s, x, hs, hx, rfl⟩
    refine ⟨(s, start + i), ?_, by simp [hx]⟩
    refine List.mem_of_getElem? (i := i) ?_
    rw [List.getElem?_zipIdx, hs]
    rfl

theorem mem_toList {a : Arena α} {p : Native × α} :
    p ∈ a.toList ↔
      ∃ place s x, a.slots[place]? = some s ∧ s.item = some x ∧ p = (handle s place, x) := by
  rw [toList_eq, mem_presentFrom]
  simp only [Nat.zero_add]

/-- Handles of items in different slots differ, as long as the slot numbers are words. -/
theorem nodup_presentFrom {start : Nat} {slots : List (Slot α)}
    (h : start + slots.length < UInt32.size) :
    ((presentFrom start slots).map Prod.fst).Nodup := by
  induction slots generalizing start with
  | nil => exact List.nodup_nil
  | cons s rest ih =>
    rw [List.length_cons] at h
    have hrest : ((presentFrom (start + 1) rest).map Prod.fst).Nodup := ih (by omega)
    rw [presentFrom_cons]
    cases hs : s.item with
    | none => exact hrest
    | some x =>
      refine List.nodup_cons.2 ⟨?_, hrest⟩
      intro hm
      obtain ⟨p, hp, hh⟩ := List.mem_map.1 hm
      obtain ⟨i, t, y, ht, -, rfl⟩ := mem_presentFrom.1 hp
      have hi := (List.getElem?_eq_some_iff.1 ht).1
      have hplace := congrArg placeOf hh
      rw [placeOf_handle _ (by omega), placeOf_handle _ (by omega)] at hplace
      have := Option.some.inj hplace
      omega

/-- The slots of the arena can be numbered by words. -/
def Fits (a : Arena α) : Prop := a.slots.length < UInt32.size

theorem fits_empty : (empty : Arena α).Fits := by
  show 0 < UInt32.size
  decide

/-- The handles of the items present. -/
def handles (a : Arena α) : List Native := a.toList.map Prod.fst

theorem length_handles (a : Arena α) : a.handles.length = a.size := List.length_map _

theorem mem_handles_of_mem {a : Arena α} {h : Native} {x : α} (hm : (h, x) ∈ a.toList) :
    h ∈ a.handles := List.mem_map.2 ⟨(h, x), hm, rfl⟩

theorem exists_of_mem_handles {a : Arena α} {h : Native} (hm : h ∈ a.handles) :
    ∃ x, (h, x) ∈ a.toList := by
  obtain ⟨⟨n, x⟩, hp, rfl⟩ := List.mem_map.1 hm
  exact ⟨x, hp⟩

section Fits

variable {a : Arena α} (hf : a.Fits)
include hf

theorem nodup_handles : a.handles.Nodup := nodup_presentFrom (by rw [Nat.zero_add]; exact hf)

theorem Fits.place_lt {place : Nat} {s : Slot α} (hs : a.slots[place]? = some s) :
    place + 1 < UInt32.size :=
  Nat.lt_of_le_of_lt (List.getElem?_eq_some_iff.1 hs).1 hf

theorem find_handle {place : Nat} {s : Slot α} {x : α} (hs : a.slots[place]? = some s)
    (hx : s.item = some x) : a.find (handle s place) = some place := by
  have hlt := hf.place_lt hs
  refine find_eq_some_iff.2 ⟨placeOf_handle s hlt, s, hs, by rw [hx]; rfl, ?_⟩
  rw [versionOf_handle s hlt]

theorem get?_of_mem {h : Native} {x : α} (hm : (h, x) ∈ a.toList) : a.get? (some h) = some x := by
  obtain ⟨place, s, y, hs, hy, he⟩ := mem_toList.1 hm
  obtain ⟨rfl, rfl⟩ := Prod.mk.inj he
  simp only [get?, Option.bind_eq_bind, Option.bind_some]
  rw [find_handle hf hs hy, Option.bind_some, hs, Option.bind_some, hy]

theorem contains_of_mem_handles {h : Native} (hm : h ∈ a.handles) :
    a.contains (some h) = true := by
  obtain ⟨x, hx⟩ := exists_of_mem_handles hm
  unfold contains
  rw [get?_of_mem hf hx]
  rfl

end Fits

/-! ### Insertion -/

/-- Where an insertion puts its item: into a slot of its own at the end, if no slot is free, or else
into one that is vacant. -/
theorem insert_cases (a : Arena α) (x : α) :
    (a.free = [] ∧ (a.insert x).1 = handle ⟨0, some x⟩ a.slots.length ∧
      (a.insert x).2.slots = a.slots ++ [⟨0, some x⟩]) ∨
    ∃ place s, a.slots[place]? = some s ∧ s.item = none ∧
      (a.insert x).1 = handle ⟨s.reuses + 1, some x⟩ place ∧
      (a.insert x).2.slots = a.slots.set place ⟨s.reuses + 1, some x⟩ := by
  unfold insert
  split
  · next hf => exact Or.inl ⟨hf, rfl, rfl⟩
  · next place rest hf =>
    obtain ⟨s, hs, hv⟩ := vacant_of_free hf
    refine Or.inr ⟨place, s, hs, hv, ?_, ?_⟩ <;> simp only [hs, Option.elim_some]

theorem perm_insert (a : Arena α) (x : α) :
    (a.insert x).2.toList.Perm (((a.insert x).1, x) :: a.toList) := by
  rcases insert_cases a x with ⟨-, hh, hs⟩ | ⟨place, s, hs, hv, hh, hset⟩
  · rw [toList_eq, hs, presentFrom_append, hh, Nat.zero_add]
    exact List.perm_append_comm
  · have hp := (List.getElem?_eq_some_iff.1 hs).1
    obtain ⟨before, after, hsplit⟩ := exists_presentFrom_set hp
    have hold : a.toList = before ++ after := by
      have := hsplit s
      rw [set_eq_self hs, hv] at this
      rw [toList_eq, this]
      simp
    rw [toList_eq, hset, hsplit, hold, hh]
    simp only [Option.map_some, Option.toList_some, List.append_assoc, List.singleton_append]
    exact List.perm_middle

theorem mem_insert {a : Arena α} {x : α} {p : Native × α} :
    p ∈ (a.insert x).2.toList ↔ p = ((a.insert x).1, x) ∨ p ∈ a.toList := by
  rw [(perm_insert a x).mem_iff, List.mem_cons]

theorem size_insert (a : Arena α) (x : α) : (a.insert x).2.size = a.size + 1 :=
  (perm_insert a x).length_eq

/-- Without a free slot every slot holds an item. -/
theorem length_slots_of_free {a : Arena α} (h : a.free = []) : a.slots.length = a.size := by
  have hall : ∀ s ∈ a.slots, s.item.isSome = true := by
    intro s hs
    obtain ⟨place, hp⟩ := List.getElem?_of_mem hs
    cases hi : s.item with
    | some x => rfl
    | none =>
      have hm := (a.mem_free place).2 ⟨s, hp, hi⟩
      rw [h] at hm
      exact absurd hm nofun
  unfold size
  rw [toList_eq]
  generalize 0 = start, a.slots = slots at hall ⊢
  induction slots generalizing start with
  | nil => rfl
  | cons s rest ih =>
    obtain ⟨x, hx⟩ := Option.isSome_iff_exists.1 (hall s List.mem_cons_self)
    rw [presentFrom_cons, hx, List.length_cons, List.length_append,
      ← ih (start + 1) fun t ht => hall t (List.mem_cons_of_mem _ ht)]
    exact Nat.add_comm _ _

theorem Fits.insert {a : Arena α} (hf : a.Fits) (hlt : a.size + 1 < UInt32.size) (x : α) :
    (a.insert x).2.Fits := by
  unfold Fits
  rcases insert_cases a x with ⟨hfree, -, hs⟩ | ⟨place, s, -, -, -, hset⟩
  · rw [hs, List.length_append, length_slots_of_free hfree]
    exact hlt
  · rw [hset, List.length_set]
    exact hf

/-! ### Taking out and changing items -/

theorem modify_eq_set {slots : List (Slot α)} {place : Nat} {s : Slot α}
    (h : slots[place]? = some s) (f : Slot α → Slot α) :
    slots.modify place f = slots.set place (f s) := by
  refine List.ext_getElem? fun i => ?_
  rw [List.getElem?_modify, List.getElem?_set]
  by_cases hi : place = i
  · subst hi
    rw [h, if_pos rfl, if_pos (List.getElem?_eq_some_iff.1 h).1]
    exact congrArg some (if_pos rfl)
  · rw [if_neg hi]
    cases slots[i]? with
    | none => rfl
    | some t => exact congrArg some (if_neg hi)

theorem erase_of_find {a : Arena α} {h : Native} {place : Nat} {s : Slot α}
    (hf : a.find h = some place) (hs : a.slots[place]? = some s) :
    (a.erase (some h)).slots = a.slots.set place { s with item := none } := by
  unfold erase
  split
  · next hnone => simp [hf] at hnone
  · next p hp =>
    obtain rfl : place = p := by simpa [hf] using hp
    exact modify_eq_set hs _

theorem update_of_find {a : Arena α} {h : Native} {place : Nat} {s : Slot α} {f : α → α}
    (hf : a.find h = some place) (hs : a.slots[place]? = some s) :
    (a.update (some h) f).slots = a.slots.set place { s with item := s.item.map f } := by
  unfold update
  split
  · next hnone => simp [hf] at hnone
  · next p hp =>
    obtain rfl : place = p := by simpa [hf] using hp
    exact modify_eq_set hs _

section Present

variable {a : Arena α} (hf : a.Fits) {h : Native} {x : α} (hm : (h, x) ∈ a.toList)
include hf hm

/-- Where an item present stands, and how to take it out or to change it there. -/
theorem exists_slot : ∃ place s before after, a.slots[place]? = some s ∧ s.item = some x ∧
    h = handle s place ∧ a.toList = before ++ (h, x) :: after ∧
    (a.erase (some h)).slots = a.slots.set place { s with item := none } ∧
    (a.erase (some h)).toList = before ++ after ∧
    ∀ f : α → α, (a.update (some h) f).slots = a.slots.set place { s with item := s.item.map f } ∧
      (a.update (some h) f).toList = before ++ (h, f x) :: after := by
  obtain ⟨place, s, y, hs, hx, he⟩ := mem_toList.1 hm
  obtain ⟨rfl, rfl⟩ := Prod.mk.inj he
  have hfind := find_handle hf hs hx
  obtain ⟨before, after, hsplit⟩ := exists_presentFrom_set (List.getElem?_eq_some_iff.1 hs).1
  refine ⟨place, s, before, after, hs, hx, rfl, ?_, erase_of_find hfind hs, ?_, fun f =>
    ⟨update_of_find hfind hs, ?_⟩⟩
  · have := hsplit s
    rw [set_eq_self hs, hx] at this
    rw [toList_eq, this]
    simp
  · rw [toList_eq, erase_of_find hfind hs, hsplit]
    simp
  · rw [toList_eq, update_of_find hfind hs, hsplit, hx]
    show _ ++ [(handle s place, f x)] ++ after = _
    simp

theorem perm_erase : a.toList.Perm ((h, x) :: (a.erase (some h)).toList) := by
  obtain ⟨place, s, before, after, -, -, -, hl, -, he, -⟩ := exists_slot hf hm
  rw [hl, he]
  exact List.perm_middle

theorem mem_erase {p : Native × α} :
    p ∈ (a.erase (some h)).toList ↔ p ∈ a.toList ∧ p.1 ≠ h := by
  have hperm := perm_erase hf hm
  have hnodup := nodup_handles hf
  unfold handles at hnodup
  rw [(hperm.map Prod.fst).nodup_iff, List.map_cons, List.nodup_cons] at hnodup
  rw [hperm.mem_iff, List.mem_cons]
  constructor
  · intro hp
    refine ⟨Or.inr hp, ?_⟩
    rintro rfl
    exact hnodup.1 (List.mem_map.2 ⟨p, hp, rfl⟩)
  · rintro ⟨rfl | hp, hne⟩
    · exact absurd rfl hne
    · exact hp

theorem mem_update {f : α → α} {p : Native × α} :
    p ∈ (a.update (some h) f).toList ↔ p = (h, f x) ∨ p ∈ a.toList ∧ p.1 ≠ h := by
  rw [← mem_erase hf hm]
  obtain ⟨place, s, before, after, -, -, -, -, -, he, hu⟩ := exists_slot hf hm
  rw [he, (hu f).2, List.mem_append, List.mem_cons, List.mem_append]
  exact or_left_comm

theorem handles_update (f : α → α) : (a.update (some h) f).handles = a.handles := by
  obtain ⟨place, s, before, after, -, -, -, hl, -, -, hu⟩ := exists_slot hf hm
  unfold handles
  rw [hl, (hu f).2]
  simp

end Present

theorem map_reuses_modify {slots : List (Slot α)} (place : Nat) (f : Slot α → Option α) :
    (slots.modify place fun s => { s with item := f s }).map Slot.reuses =
      slots.map Slot.reuses := by
  refine List.ext_getElem? fun i => ?_
  rw [List.getElem?_map, List.getElem?_map, List.getElem?_modify]
  cases slots[i]? with
  | none => rfl
  | some s => by_cases hi : place = i <;> simp [hi]

/-- Taking out begins no new use of a slot. -/
theorem map_reuses_erase (a : Arena α) (native : Option Native) :
    (a.erase native).slots.map Slot.reuses = a.slots.map Slot.reuses := by
  unfold erase
  split
  · rfl
  · exact map_reuses_modify _ _

/-- Neither does a change. -/
theorem map_reuses_update (a : Arena α) (native : Option Native) (f : α → α) :
    (a.update native f).slots.map Slot.reuses = a.slots.map Slot.reuses := by
  unfold update
  split
  · rfl
  · exact map_reuses_modify _ _

theorem Fits.of_reuses {a b : Arena α} (hf : a.Fits)
    (h : b.slots.map Slot.reuses = a.slots.map Slot.reuses) : b.Fits := by
  have hlen := congrArg List.length h
  rw [List.length_map, List.length_map] at hlen
  unfold Fits
  rw [hlen]
  exact hf

theorem Fits.erase {a : Arena α} (hf : a.Fits) (native : Option Native) : (a.erase native).Fits :=
  hf.of_reuses (a.map_reuses_erase native)

theorem Fits.update {a : Arena α} (hf : a.Fits) (native : Option Native) (f : α → α) :
    (a.update native f).Fits := hf.of_reuses (a.map_reuses_update native f)

@[simp] theorem erase_none (a : Arena α) : a.erase none = a := rfl

/-- Whatever handle is given, an item that is not taken out stays where it is. -/
theorem sublist_erase (a : Arena α) (native : Option Native) :
    (a.erase native).toList.Sublist a.toList := by
  cases native with
  | none => exact List.Sublist.refl _
  | some n =>
    cases hfind : a.find n with
    | none =>
      have he : a.erase (some n) = a := by
        unfold erase
        split
        · rfl
        · next place hp => exact absurd (hfind.symm.trans hp) nofun
      rewrite [he]
      exact List.Sublist.refl _
    | some place =>
      obtain ⟨-, s, hs, -⟩ := find_eq_some_iff.1 hfind
      obtain ⟨before, after, hsplit⟩ :=
        exists_presentFrom_set (List.getElem?_eq_some_iff.1 hs).1
      have hold := hsplit s
      rw [set_eq_self hs] at hold
      rw [toList_eq, toList_eq, erase_of_find hfind hs, hsplit, hold]
      exact (((List.nil_sublist _).append_left before)).append_right after

/-! ### Taking out everything -/

theorem toList_clear (a : Arena α) : a.clear.toList = [] := by
  refine List.eq_nil_iff_forall_not_mem.2 fun p hp => ?_
  obtain ⟨place, s, x, hs, hx, -⟩ := mem_toList.1 hp
  have hs' : (a.slots.map fun s => ({ s with item := none } : Slot α))[place]? = some s := hs
  rw [List.getElem?_map] at hs'
  obtain ⟨t, -, rfl⟩ := Option.map_eq_some_iff.1 hs'
  exact absurd hx nofun

theorem Fits.clear {a : Arena α} (hf : a.Fits) : a.clear.Fits := by
  refine hf.of_reuses ?_
  show (a.slots.map _).map Slot.reuses = _
  rw [List.map_map]
  rfl

end ScriptedRays.Arena
