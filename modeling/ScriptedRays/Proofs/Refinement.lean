import Mathlib.Data.List.Sort
import Mathlib.Data.List.Infix
import ScriptedRays.Proofs.Ledger

/-!
# Refinement — a ledger is a finite map with a counter

A ledger keeps its values in an arena and finds them through an index of keys.  What can be observed
of it is what a finite map and the next id tell (`CountedMap`): each operation answers alike on both
and leaves the two related (`Refines.act`), so all answers of a run agree (`refines_map`).
-/

namespace ScriptedRays

/-! ### Runs -/

section Run

variable {ι ω σ : Type} (step : σ → ι → ω × σ)

/-- The answers to one input after another. -/
def answers : σ → List ι → List ω
  | _, [] => []
  | s, i :: rest => (step s i).1 :: answers (step s i).2 rest

/-- The state after one input after another. -/
def final (s : σ) (inputs : List ι) : σ := inputs.foldl (fun s i => (step s i).2) s

theorem final_append (s : σ) (front back : List ι) :
    final step s (front ++ back) = final step (final step s front) back := List.foldl_append

end Run

section Count

variable {ι : Type} (count : Nat → ι → Nat)

theorem foldl_le_add_length (h : ∀ n i, count n i ≤ n + 1) (n : Nat) (inputs : List ι) :
    inputs.foldl count n ≤ n + inputs.length := by
  induction inputs generalizing n with
  | nil => exact Nat.le_refl n
  | cons i rest ih =>
    have hnow := h n i
    have hrest := ih (count n i)
    rw [List.foldl_cons, List.length_cons]
    omega

/-- A bound on a count along a run is one after an input that makes it start anew. -/
theorem foldl_lt_of_reset {reset : ι} (h : ∀ n, count n reset = 0) {front back : List ι}
    {bound : Nat} (hall : ∀ inputs, inputs <+: front ++ reset :: back → inputs.foldl count 0 < bound)
    {rest : List ι} (hrest : rest <+: back) : rest.foldl count 0 < bound := by
  have hlt := hall (front ++ reset :: rest)
    ((List.prefix_append_right_inj _).2 (List.cons_prefix_cons.2 ⟨rfl, hrest⟩))
  rwa [List.foldl_append, List.foldl_cons, h] at hlt

end Count

/-- A finite map and the id that comes next. -/
structure CountedMap (α : Type) where
  values : Std.ExtTreeMap UInt32 α := {}
  next : Nat := 1

namespace CountedMap

variable {α : Type}

/-- The id that comes next. -/
def nextId (m : CountedMap α) : UInt32 := UInt32.ofNat m.next

/-- The map with the value made from the next id under it. -/
def insert (m : CountedMap α) (value : UInt32 → α) : CountedMap α :=
  ⟨m.values.insert m.nextId (value m.nextId), m.next + 1⟩

def erase (m : CountedMap α) (id : UInt32) : CountedMap α := { m with values := m.values.erase id }

end CountedMap

namespace Ledger

variable {α : Type}

/-- What can be asked of a ledger. -/
inductive Operation (α : Type) where
  | insert (value : UInt32 → α)
  | remove (id : UInt32)
  | get (id : UInt32)
  | contains (id : UInt32)
  | drain
  | nextId
  | size
  | isEmpty

/-- What is answered. -/
inductive Answer (α : Type) where
  | id (id : Option UInt32)
  | value (value : Option α)
  | flag (flag : Bool)
  | count (count : Nat)
  | pairs (pairs : List (UInt32 × α))
  deriving DecidableEq

/-- What an operation on a ledger answers and leaves. -/
def act (t : Ledger α) : Operation α → Answer α × Ledger α
  | .insert value =>
    (t.insert value).elim (.id none, t) fun stored => (.id (some stored.1), stored.2)
  | .remove id => (.value (t.get? id), t.erase id)
  | .get id => (.value (t.get? id), t)
  | .contains id => (.flag (t.contains id), t)
  | .drain => (.pairs t.drain, t.drained)
  | .nextId => (.id t.nextId?, t)
  | .size => (.count t.size, t)
  | .isEmpty => (.flag t.isEmpty, t)

end Ledger

/-- What an operation on a finite map with a counter answers and leaves. -/
def CountedMap.act {α : Type} (m : CountedMap α) :
    Ledger.Operation α → Ledger.Answer α × CountedMap α
  | .insert value => (.id (some m.nextId), m.insert value)
  | .remove id => (.value m.values[id]?, m.erase id)
  | .get id => (.value m.values[id]?, m)
  | .contains id => (.flag (m.values.contains id), m)
  | .drain => (.pairs m.values.toList, {})
  | .nextId => (.id (some m.nextId), m)
  | .size => (.count m.values.size, m)
  | .isEmpty => (.flag m.values.isEmpty, m)

namespace Ledger

variable {α : Type}

theorem act_insert (t : Ledger α) (value : UInt32 → α) : t.act (.insert value) =
    (t.insert value).elim (.id none, t) fun stored => (.id (some stored.1), stored.2) := rfl

/-- A ledger that holds what a map has under each id, and has issued the ids before the next. -/
structure Refines (t : Ledger α) (m : CountedMap α) : Prop where
  values : ∀ id, t.get? id = m.values[id]?
  issued : t.issued + 1 = m.next

theorem refines_empty : Refines (empty : Ledger α) {} :=
  ⟨fun id => by rw [get?_empty, Std.ExtTreeMap.getElem?_empty], by rw [issued_empty]⟩

theorem refines_drained (t : Ledger α) : Refines t.drained {} :=
  ⟨fun id => by rw [get?_drained, Std.ExtTreeMap.getElem?_empty],
    congrArg (· + 1) (issued_empty (α := α))⟩

namespace Refines

variable {t : Ledger α} {m : CountedMap α} (h : Refines t m)
include h

/-- Draining lists the map by ascending id. -/
theorem drain : t.drain = m.values.toList := by
  have hledger : t.drain.Pairwise fun e other => e.1 < other.1 :=
    List.pairwise_map.1 t.ascending_drain
  have hmap : m.values.toList.Pairwise fun e other => e.1 < other.1 :=
    m.values.ordered_keys_toList.imp compareOfLessAndEq_eq_lt.mp
  have hne : ∀ {e other : UInt32 × α}, e.1 < other.1 → e ≠ other := by
    rintro e _ hlt rfl
    exact UInt32.lt_irrefl _ hlt
  refine List.Perm.eq_of_pairwise (fun e other _ _ hlt hgt => ?_) hledger hmap ?_
  · exact absurd (UInt32.lt_trans hlt hgt) (UInt32.lt_irrefl _)
  · refine (List.perm_ext_iff_of_nodup (hledger.imp hne) (hmap.imp hne)).2 fun ⟨id, v⟩ => ?_
    rw [mem_drain, h.values, Std.ExtTreeMap.mem_toList_iff_getElem?_eq_some]

theorem size : t.size = m.values.size := by
  rw [← length_entries, ← t.perm_drain.length_eq, h.drain, Std.ExtTreeMap.length_toList]

/-- Inserting gives the next id, as long as there is one. -/
theorem insert (hlt : m.next < UInt32.size) (value : UInt32 → α) :
    ∃ u, t.insert value = some (m.nextId, u) ∧ Refines u (m.insert value) := by
  obtain ⟨id, u, hi⟩ := exists_insert (t := t) (by rw [h.issued]; exact hlt) value
  obtain rfl : id = m.nextId := by
    rw [CountedMap.nextId, ← h.issued, ← toNat_of_insert hi, UInt32.ofNat_toNat]
  refine ⟨u, hi, fun other => ?_, ?_⟩
  · rw [get?_insert hi, CountedMap.insert, Std.ExtTreeMap.getElem?_insert, h.values]
    simp only [Std.LawfulEqOrd.compare_eq_iff_eq, eq_comm (a := other)]
  · rw [issued_insert hi, h.issued]
    rfl

theorem erase (id : UInt32) : Refines (t.erase id) (m.erase id) := by
  refine ⟨fun other => ?_, h.issued⟩
  rw [get?_erase, CountedMap.erase, Std.ExtTreeMap.getElem?_erase, h.values]
  simp only [Std.LawfulEqOrd.compare_eq_iff_eq, eq_comm (a := other)]

theorem nextId? (hlt : m.next < UInt32.size) : t.nextId? = some m.nextId := by
  obtain ⟨id, hid⟩ := exists_nextId? (t := t) (by rw [h.issued]; exact hlt)
  rw [hid, CountedMap.nextId, ← h.issued, ← nextId?_eq_some hid, UInt32.ofNat_toNat]

/-- One operation is answered alike and keeps the two related. -/
theorem act (hlt : m.next < UInt32.size) (op : Operation α) :
    (t.act op).1 = (m.act op).1 ∧ Refines (t.act op).2 (m.act op).2 := by
  cases op with
  | insert value =>
    obtain ⟨u, hi, hu⟩ := h.insert hlt value
    rw [act_insert, hi]
    exact ⟨rfl, hu⟩
  | remove id => exact ⟨congrArg Answer.value (h.values id), h.erase id⟩
  | get id => exact ⟨congrArg Answer.value (h.values id), h⟩
  | contains id =>
    refine ⟨congrArg Answer.flag ?_, h⟩
    rw [Ledger.contains, h.values, Std.ExtTreeMap.contains_eq_isSome_getElem?]
  | drain => exact ⟨congrArg Answer.pairs h.drain, t.refines_drained⟩
  | nextId => exact ⟨congrArg Answer.id (h.nextId? hlt), h⟩
  | size => exact ⟨congrArg Answer.count h.size, h⟩
  | isEmpty =>
    refine ⟨congrArg Answer.flag ?_, h⟩
    rw [Ledger.isEmpty, h.size, Std.ExtTreeMap.isEmpty_eq_size_beq_zero]

end Refines

/-! ### Runs of operations -/

/-- How many values were put in since the ledger was drained, with one operation more. -/
def Operation.count (n : Nat) : Operation α → Nat
  | .insert _ => n + 1
  | .drain => 0
  | _ => n

/-- How many values a run puts in after its last drain. -/
def inserted (ops : List (Operation α)) : Nat := ops.foldl Operation.count 0

theorem Operation.count_le (n : Nat) (op : Operation α) : op.count n ≤ n + 1 := by
  cases op <;> first | exact Nat.le_refl _ | exact Nat.le_succ n | exact Nat.zero_le _

theorem next_act {m : CountedMap α} {n : Nat} (hn : m.next = n + 1) (op : Operation α) :
    (m.act op).2.next = op.count n + 1 := by
  cases op <;> first | exact hn | exact congrArg (· + 1) hn | rfl

/-- Answers agree all along a run that begins with a ledger and a map that are related. -/
theorem Refines.run {t : Ledger α} {m : CountedMap α} (h : Refines t m) {n : Nat}
    (hn : m.next = n + 1) {ops : List (Operation α)}
    (hfew : ∀ front, front <+: ops → front.foldl Operation.count n < 2 ^ 32 - 1) :
    answers Ledger.act t ops = answers CountedMap.act m ops ∧
      Refines (final Ledger.act t ops) (final CountedMap.act m ops) := by
  induction ops generalizing t m n with
  | nil => exact ⟨rfl, h⟩
  | cons op rest ih =>
    have hlt : m.next < UInt32.size := by
      have hnow : n < 2 ^ 32 - 1 := hfew [] (List.nil_prefix)
      show m.next < 2 ^ 32
      omega
    obtain ⟨hanswer, hstep⟩ := h.act hlt op
    obtain ⟨hanswers, hfinal⟩ := ih hstep (next_act hn op) fun front hfront =>
      hfew (op :: front) (List.cons_prefix_cons.2 ⟨rfl, hfront⟩)
    exact ⟨congrArg₂ List.cons hanswer hanswers, hfinal⟩

/-! ### Ids that are gone -/

/-- An id that was issued and finds nothing. -/
def Gone (t : Ledger α) (id : UInt32) : Prop := id.toNat ≤ t.issued ∧ t.get? id = none

/-- Only draining brings back an id that is gone. -/
theorem Gone.act {t : Ledger α} {id : UInt32} (h : t.Gone id) {op : Operation α}
    (hop : op ≠ .drain) : (t.act op).2.Gone id := by
  cases op with
  | insert value =>
    rw [act_insert]
    cases hi : t.insert value with
    | none => exact h
    | some stored =>
      obtain ⟨other, u⟩ := stored
      -- a new id is larger than all issued so far, and `id` is one of those
      have hne : id ≠ other := by
        rintro rfl
        have hid := toNat_of_insert hi
        have hle := h.1
        omega
      refine ⟨?_, ?_⟩
      · exact Nat.le_trans h.1 (Nat.le_of_lt (issued_insert hi ▸ Nat.lt_succ_self _))
      · exact ((get?_insert hi id).trans (if_neg hne)).trans h.2
  | remove other =>
    refine ⟨h.1, ?_⟩
    show (t.erase other).get? id = none
    rw [get?_erase, h.2, ite_self]
  | drain => exact absurd rfl hop
  | get | contains | nextId | size | isEmpty => exact h

theorem Gone.final {t : Ledger α} {id : UInt32} (h : t.Gone id) {ops : List (Operation α)}
    (hops : .drain ∉ ops) : (final Ledger.act t ops).Gone id := by
  induction ops generalizing t with
  | nil => exact h
  | cons op rest ih =>
    rw [List.mem_cons, not_or] at hops
    exact ih (h.act (Ne.symm hops.1)) hops.2

theorem gone_remove {t : Ledger α} {id : UInt32} (h : t.contains id = true) :
    (t.act (.remove id)).2.Gone id := by
  obtain ⟨v, hv⟩ := Option.isSome_iff_exists.1 h
  refine ⟨(mem_issued (get?_eq_some_iff.1 hv)).2, ?_⟩
  show (t.erase id).get? id = none
  rw [get?_erase, if_pos rfl]

/-- As long as fewer than `2 ^ 32 - 1` values are put in between drains, a ledger answers every
operation as a finite map with a counter does.  So the ids in use lie between one and the next id, an
id that was removed finds nothing until the ledger is drained, and a drained ledger answers as a new
one, whatever its slots went through. -/
theorem refines_map (ops : List (Operation α))
    (hfew : ∀ front, front <+: ops → inserted front < 2 ^ 32 - 1) :
    answers act empty ops = answers CountedMap.act {} ops ∧
    (∀ id, (final act empty ops).contains id = true →
      1 ≤ id.toNat ∧ id.toNat < (final CountedMap.act ({} : CountedMap α) ops).next) ∧
    (∀ front id back, ops = front ++ .remove id :: back → .drain ∉ back →
      (final act empty front).contains id = true → (final act empty ops).contains id = false) ∧
    (∀ front back, ops = front ++ .drain :: back →
      answers act (final act empty (front ++ [.drain])) back = answers act empty back) := by
  obtain ⟨hanswers, hfinal⟩ := refines_empty.run (n := 0) rfl hfew
  refine ⟨hanswers, fun id hid => ?_, ?_, ?_⟩
  · obtain ⟨v, hv⟩ := Option.isSome_iff_exists.1 hid
    obtain ⟨hpos, hle⟩ := mem_issued (get?_eq_some_iff.1 hv)
    rw [← hfinal.issued]
    omega
  · rintro front id back rfl hback hid
    have hgone := (gone_remove hid).final hback
    rw [final_append]
    exact Option.isSome_eq_false_iff.2 (Option.isNone_iff_eq_none.2 hgone.2)
  · rintro front back rfl
    have hfew' : ∀ rest, rest <+: back → inserted rest < 2 ^ 32 - 1 := fun rest hrest =>
      foldl_lt_of_reset Operation.count (fun _ => rfl) hfew hrest
    rw [final_append]
    -- a drained ledger and a new one are the same map, with the same number next
    have hdrained := (refines_drained (final act empty front)).run (n := 0) rfl hfew'
    have hnew := (refines_empty (α := α)).run (n := 0) rfl hfew'
    exact hdrained.1.trans hnew.1.symm

/-- A slot that is used again, and a ledger that is used again. -/
def sample : List (Operation Nat) :=
  [.insert UInt32.toNat, .insert fun _ => 7, .remove 1, .insert fun id => id.toNat + 10, .get 1,
    .get 3, .size, .drain, .insert fun _ => 9, .get 1, .get 2, .nextId]

theorem inserted_lt_of_prefix {front : List (Operation Nat)} (h : front <+: sample) :
    inserted front < 2 ^ 32 - 1 := by
  have hlen : front.length ≤ 12 := h.length_le
  have hle := foldl_le_add_length Operation.count Operation.count_le 0 front
  unfold inserted
  omega

theorem refines_map_sample :
    (∀ front, front <+: sample → inserted front < 2 ^ 32 - 1) ∧
    answers act empty sample = answers CountedMap.act {} sample ∧
    answers act empty sample = [.id (some 1), .id (some 2), .value (some 1), .id (some 3),
      .value none, .value (some 13), .count 2, .pairs [(2, 7), (3, 13)], .id (some 1),
      .value (some 9), .value none, .id (some 2)] :=
  ⟨fun _ => inserted_lt_of_prefix, (refines_map sample fun _ => inserted_lt_of_prefix).1,
    by decide +kernel⟩

end Ledger

end ScriptedRays
