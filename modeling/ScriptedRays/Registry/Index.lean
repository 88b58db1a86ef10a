/-!
# Index — what is filed under each id

The entries of an index stand in a row.  A new one is put at the end; when one is taken out, the last
one moves into its place.  An index is seen through `get?`, one equation for each operation, and the
entries are what it finds (`get?_eq_some_iff`).
-/

namespace ScriptedRays

/-- Values filed under ids, at most one under each. -/
structure Index (β : Type) where
  entries : List (UInt32 × β)
  nodup_ids : (entries.map Prod.fst).Nodup

namespace Index

/-- The list without the item at a place, which the last item takes. -/
def swapOut {ε : Type} (l : List ε) (place : Nat) : List ε :=
  match l.getLast? with
  | none => []
  | some last => (l.set place last).dropLast

theorem perm_cons_set {ε : Type} {l : List ε} {place : Nat} {x : ε} (h : l[place]? = some x)
    (y : ε) : (y :: l).Perm (x :: l.set place y) := by
  obtain ⟨hp, rfl⟩ := List.getElem?_eq_some_iff.1 h
  have hl : l = l.take place ++ l[place] :: l.drop (place + 1) := by
    rw [← List.drop_eq_getElem_cons hp, List.take_append_drop]
  rw [List.set_eq_take_append_cons_drop, if_pos hp]
  conv => lhs; rw [hl]
  exact (List.perm_middle.cons y).trans
    ((List.Perm.swap _ _ _).trans (List.perm_middle.symm.cons _))

theorem perm_swapOut {ε : Type} {l : List ε} {place : Nat} {x : ε} (h : l[place]? = some x) :
    l.Perm (x :: swapOut l place) := by
  unfold swapOut
  split
  · next hnone =>
    rw [List.getLast?_eq_none_iff.1 hnone] at h
    exact absurd h nofun
  · next last hlast =>
    obtain ⟨init, rfl⟩ := List.getLast?_eq_some_iff.1 hlast
    refine List.perm_append_comm.trans ?_
    by_cases hp : place < init.length
    · rw [List.set_append_left _ _ hp, List.dropLast_concat]
      rw [List.getElem?_append_left hp] at h
      exact perm_cons_set h last
    · have hend : place = init.length := by
        have := (List.getElem?_eq_some_iff.1 h).1
        rw [List.length_append, List.length_singleton] at this
        omega
      subst hend
      rw [List.getElem?_concat_length] at h
      rw [List.set_append_right _ _ (Nat.le_refl _), Nat.sub_self, Option.some.inj h]
      show List.Perm _ (x :: (init ++ [x]).dropLast)
      rw [List.dropLast_concat]
      exact List.Perm.refl _

variable {β : Type}

def empty : Index β := ⟨[], List.nodup_nil⟩

instance : Inhabited (Index β) := ⟨empty⟩

/-- What is filed under an id. -/
def get? (i : Index β) (id : UInt32) : Option β := i.entries.lookup id

/-- Where an id stands in the row. -/
def place? (i : Index β) (id : UInt32) : Option Nat := i.entries.findIdx? fun e => e.1 == id

theorem lookup_iff_mem {l : List (UInt32 × β)} (hnd : (l.map Prod.fst).Nodup) {id : UInt32} {v : β} :
    l.lookup id = some v ↔ (id, v) ∈ l := by
  induction l with
  | nil => simp
  | cons e rest ih =>
    obtain ⟨k, u⟩ := e
    rw [List.map_cons, List.nodup_cons] at hnd
    rw [List.lookup_cons, List.mem_cons]
    by_cases hk : id = k
    · subst hk
      have hfresh : (id, v) ∉ rest := fun hm => hnd.1 (List.mem_map.2 ⟨_, hm, rfl⟩)
      simp [hfresh, eq_comm]
    · have hne : (id, v) ≠ (k, u) := fun he => hk (Prod.mk.inj he).1
      rw [beq_eq_false_iff_ne.2 hk]
      simp only [hne, false_or]
      exact ih hnd.2

theorem get?_eq_some_iff {i : Index β} {id : UInt32} {v : β} :
    i.get? id = some v ↔ (id, v) ∈ i.entries :=
  lookup_iff_mem i.nodup_ids

theorem place?_eq_some {i : Index β} {id : UInt32} {place : Nat} (h : i.place? id = some place) :
    ∃ v, i.entries[place]? = some (id, v) := by
  obtain ⟨hp, he, -⟩ := List.findIdx?_eq_some_iff_getElem.1 h
  refine ⟨i.entries[place].2, List.getElem?_eq_some_iff.2 ⟨hp, ?_⟩⟩
  rw [← beq_iff_eq.1 he]

theorem place?_eq_none_iff {i : Index β} {id : UInt32} :
    i.place? id = none ↔ id ∉ i.entries.map Prod.fst := by
  unfold place?
  rw [List.findIdx?_eq_none_iff, List.mem_map]
  constructor
  · rintro h ⟨e, he, rfl⟩
    simpa using h e he
  · intro h e he
    exact beq_eq_false_iff_ne.2 fun hid => h ⟨e, he, hid⟩

/-- Files a value under an id, in place of what is filed there. -/
def insert (i : Index β) (id : UInt32) (v : β) : Index β :=
  match h : i.place? id with
  | some place =>
    { entries := i.entries.set place (id, v)
      nodup_ids := by
        obtain ⟨u, hu⟩ := place?_eq_some h
        have hp := ((perm_cons_set hu (id, v)).map Prod.fst).cons_inv
        exact hp.nodup_iff.1 i.nodup_ids }
  | none =>
    { entries := i.entries ++ [(id, v)]
      nodup_ids := by
        rw [List.map_append]
        exact (List.perm_append_comm.nodup_iff).1
          (List.nodup_cons.2 ⟨place?_eq_none_iff.1 h, i.nodup_ids⟩) }

/-- Takes out what is filed under an id, if anything. -/
def erase (i : Index β) (id : UInt32) : Index β :=
  match h : i.place? id with
  | some place =>
    { entries := swapOut i.entries place
      nodup_ids := by
        obtain ⟨v, hv⟩ := place?_eq_some h
        exact (List.nodup_cons.1 (((perm_swapOut hv).map Prod.fst).nodup_iff.1 i.nodup_ids)).2 }
  | none => i

@[simp] theorem get?_empty (id : UInt32) : (empty : Index β).get? id = none := rfl

theorem get?_eq_none_iff {i : Index β} {id : UInt32} :
    i.get? id = none ↔ id ∉ i.entries.map Prod.fst := by
  constructor
  · intro h hm
    obtain ⟨⟨k, v⟩, hv, rfl⟩ := List.mem_map.1 hm
    rw [get?_eq_some_iff.2 hv] at h
    exact absurd h nofun
  · intro h
    refine Option.eq_none_iff_forall_not_mem.2 fun v hv => h ?_
    exact List.mem_map.2 ⟨_, get?_eq_some_iff.1 hv, rfl⟩

theorem mem_insert_self (i : Index β) (id : UInt32) (v : β) : (id, v) ∈ (i.insert id v).entries := by
  unfold insert
  split
  · next place h =>
    obtain ⟨w, hw⟩ := place?_eq_some h
    exact List.mem_set (List.getElem?_eq_some_iff.1 hw).1 _
  · exact List.mem_append_right _ List.mem_cons_self

theorem mem_cons_of_ne {id other : UInt32} (h : other ≠ id) {u v : β} {l : List (UInt32 × β)} :
    (other, u) ∈ (id, v) :: l ↔ (other, u) ∈ l :=
  List.mem_cons.trans (or_iff_right fun he => h (Prod.mk.inj he).1)

theorem mem_insert_of_ne {i : Index β} {id other : UInt32} {u v : β} (ho : other ≠ id) :
    (other, u) ∈ (i.insert id v).entries ↔ (other, u) ∈ i.entries := by
  unfold insert
  split
  · next place h =>
    obtain ⟨w, hw⟩ := place?_eq_some h
    have hset : (other, u) ∈ (id, v) :: i.entries ↔
        (other, u) ∈ (id, w) :: i.entries.set place (id, v) := (perm_cons_set hw (id, v)).mem_iff
    rw [mem_cons_of_ne ho, mem_cons_of_ne ho] at hset
    exact hset.symm
  · rw [List.perm_append_comm.mem_iff]
    exact mem_cons_of_ne ho

theorem get?_insert (i : Index β) (id : UInt32) (v : β) (other : UInt32) :
    (i.insert id v).get? other = if other = id then some v else i.get? other := by
  by_cases ho : other = id
  · rw [if_pos ho, ho]
    exact get?_eq_some_iff.2 (i.mem_insert_self id v)
  · rw [if_neg ho]
    refine Option.ext fun u => ?_
    rw [get?_eq_some_iff, get?_eq_some_iff, mem_insert_of_ne ho]

theorem get?_erase (i : Index β) (id other : UInt32) :
    (i.erase id).get? other = if other = id then none else i.get? other := by
  unfold erase
  split
  · next place h =>
    obtain ⟨v, hv⟩ := place?_eq_some h
    have hp := perm_swapOut hv
    have hid := (List.nodup_cons.1 ((hp.map Prod.fst).nodup_iff.1 i.nodup_ids)).1
    by_cases ho : other = id
    · rw [if_pos ho, ho]
      exact get?_eq_none_iff.2 hid
    · rw [if_neg ho]
      refine Option.ext fun u => ?_
      rw [get?_eq_some_iff, get?_eq_some_iff, hp.mem_iff, mem_cons_of_ne ho]
  · next h =>
    by_cases ho : other = id
    · rw [if_pos ho, ho]
      exact get?_eq_none_iff.2 (place?_eq_none_iff.1 h)
    · rw [if_neg ho]

end Index

end ScriptedRays
