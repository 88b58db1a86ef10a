import ScriptedRays.Proofs.Refinement
import ScriptedRays.Script.Object

/-!
# Insertion — an object keeps its names in the order in which they came

What an object holds after some operations is told from the operations alone (`Records`): a name is
there if the last operation on it set it, with that value (`LastSet`), and the names are in the order of
the operations that brought them in (`Entered`).  Both are known for one operation more
(`lastSet_concat`, `entered_concat`), so that the object is followed from operation to operation
(`records_run`).
-/

namespace ScriptedRays

namespace Object

/-- What can be done to the fields of an object: a name is set, be it in a chain of settings or by itself,
or removed. -/
inductive Operation where
  | set (name : String) (value : Value)
  | remove (name : String)

/-- The name that an operation is about. -/
def Operation.name : Operation → String
  | set name _ => name
  | remove name => name

/-- What an operation hands over and leaves. -/
def act (o : Object) : Operation → Option Value × Object
  | .set name value => (none, o.set name value)
  | .remove name => o.remove name

/-- What operations make of the object without fields. -/
def run (ops : List Operation) : Object := final act empty ops

theorem run_concat (ops : List Operation) (op : Operation) :
    run (ops ++ [op]) = ((run ops).act op).2 := final_append ..

/-! ### Operations by themselves -/

/-- The last operation on a name sets it to a value. -/
def LastSet (ops : List Operation) (name : String) (value : Value) : Prop :=
  ∃ front back, ops = front ++ .set name value :: back ∧ ∀ op ∈ back, op.name ≠ name

/-- An operation, told by its position, brings in a name for good: it sets the name, which was not there
before, and the name is not removed later. -/
def Entered (ops : List Operation) (position : Nat) (name : String) : Prop :=
  ∃ front value back, ops = front ++ .set name value :: back ∧ front.length = position ∧
    (∀ old, ¬ LastSet front name old) ∧ .remove name ∉ back

/-- One name came in before another. -/
def ByEntry (ops : List Operation) (earlier later : String) : Prop :=
  ∀ i j, Entered ops i earlier → Entered ops j later → i < j

section Concat

variable {ops : List Operation} {op : Operation} {name : String} {value : Value} {position : Nat}

theorem concat_eq_append_cons {x : Operation} {front back : List Operation} :
    ops ++ [op] = front ++ x :: back ↔
      (back = [] ∧ ops = front ∧ op = x) ∨
        ∃ rest, back = rest ++ [op] ∧ ops = front ++ x :: rest := by
  constructor
  · intro h
    rcases List.eq_nil_or_concat back with rfl | ⟨rest, last, rfl⟩
    · obtain ⟨hops, hop⟩ := List.append_inj' h rfl
      exact .inl ⟨rfl, hops, List.singleton_inj.1 hop⟩
    · rw [List.concat_eq_append, ← List.cons_append, ← List.append_assoc] at h
      obtain ⟨hops, hop⟩ := List.append_inj' h rfl
      exact .inr ⟨rest, by rw [List.concat_eq_append, List.singleton_inj.1 hop], hops⟩
  · rintro (⟨rfl, rfl, rfl⟩ | ⟨rest, rfl, rfl⟩)
    · rfl
    · rw [List.append_assoc, List.cons_append]

theorem not_lastSet_nil : ¬ LastSet [] name value := by
  rintro ⟨front, back, h, -⟩
  exact List.append_ne_nil_of_right_ne_nil front (List.cons_ne_nil _ back) h.symm

theorem lastSet_concat : LastSet (ops ++ [op]) name value ↔
    op = .set name value ∨ op.name ≠ name ∧ LastSet ops name value := by
  constructor
  · rintro ⟨front, back, h, hback⟩
    rcases concat_eq_append_cons.1 h with ⟨-, -, rfl⟩ | ⟨rest, rfl, hops⟩
    · exact .inl rfl
    · have hop : op ∈ rest ++ [op] := List.mem_append_right _ (List.mem_singleton.2 rfl)
      refine .inr ⟨hback op hop, front, rest, hops, fun other hother => ?_⟩
      exact hback other (List.mem_append_left _ hother)
  · rintro (rfl | ⟨hne, front, back, rfl, hback⟩)
    · exact ⟨ops, [], rfl, nofun⟩
    · refine ⟨front, back ++ [op], by rw [List.append_assoc, List.cons_append], fun other hother => ?_⟩
      rcases List.mem_append.1 hother with h | h
      · exact hback other h
      · exact List.mem_singleton.1 h ▸ hne

theorem not_entered_nil : ¬ Entered [] position name := by
  rintro ⟨front, v, back, h, -⟩
  exact List.append_ne_nil_of_right_ne_nil front (List.cons_ne_nil _ back) h.symm

theorem Entered.lt (h : Entered ops position name) : position < ops.length := by
  obtain ⟨front, v, back, rfl, rfl, -⟩ := h
  rw [List.length_append, List.length_cons]
  omega

theorem entered_concat : Entered (ops ++ [op]) position name ↔
    (Entered ops position name ∧ op ≠ .remove name) ∨
      position = ops.length ∧ (∃ v, op = .set name v) ∧ ∀ old, ¬ LastSet ops name old := by
  constructor
  · rintro ⟨front, v, back, h, hposition, hnew, hback⟩
    rcases concat_eq_append_cons.1 h with ⟨-, rfl, rfl⟩ | ⟨rest, rfl, hops⟩
    · exact .inr ⟨hposition.symm, ⟨v, rfl⟩, hnew⟩
    · rw [List.mem_append, List.mem_singleton, not_or] at hback
      exact .inl ⟨⟨front, v, rest, hops, hposition, hnew, hback.1⟩, Ne.symm hback.2⟩
  · rintro (⟨⟨front, v, back, rfl, hposition, hnew, hback⟩, hop⟩ | ⟨rfl, ⟨v, rfl⟩, hnew⟩)
    · refine ⟨front, v, back ++ [op], by rw [List.append_assoc, List.cons_append], hposition, hnew, ?_⟩
      rw [List.mem_append, List.mem_singleton, not_or]
      exact ⟨hback, Ne.symm hop⟩
    · exact ⟨ops, v, [], rfl, rfl, hnew, nofun⟩

theorem lastSet_concat_of_ne (h : op.name ≠ name) :
    LastSet (ops ++ [op]) name value ↔ LastSet ops name value := by
  have hset : op ≠ .set name value := fun heq => h (heq ▸ rfl)
  rw [lastSet_concat, or_iff_right hset, and_iff_right h]

theorem entered_concat_of_ne (h : op.name ≠ name) :
    Entered (ops ++ [op]) position name ↔ Entered ops position name := by
  have hremove : op ≠ .remove name := fun heq => h (heq ▸ rfl)
  have hset : ¬ ∃ v, op = .set name v := fun ⟨v, heq⟩ => h (heq ▸ rfl)
  rw [entered_concat, and_iff_left hremove, or_iff_left fun hnew => hset hnew.2.1]

end Concat

/-- The names that came in for good are those that were set last. -/
theorem exists_entered_iff {ops : List Operation} {name : String} :
    (∃ position, Entered ops position name) ↔ ∃ value, LastSet ops name value := by
  induction ops using List.reverseRecOn with
  | nil => exact iff_of_false (fun ⟨_, h⟩ => not_entered_nil h) fun ⟨_, h⟩ => not_lastSet_nil h
  | append_singleton ops op ih =>
    -- only an operation on `name` matters, and a setting always makes it a name of the object
    by_cases hname : op.name = name
    · cases op with
      | set k v =>
        obtain rfl : k = name := hname
        refine iff_of_true ?_ ⟨v, lastSet_concat.2 (.inl rfl)⟩
        -- a name already entered keeps its position, and any other is entered here
        by_cases hold : ∃ old, LastSet ops k old
        · obtain ⟨i, hi⟩ := ih.2 hold
          exact ⟨i, entered_concat.2 (.inl ⟨hi, nofun⟩)⟩
        · exact ⟨_, entered_concat.2 (.inr ⟨rfl, ⟨v, rfl⟩, not_exists.1 hold⟩)⟩
      | remove k =>
        obtain rfl : k = name := hname
        refine iff_of_false ?_ ?_
        · rintro ⟨i, hi⟩
          rcases entered_concat.1 hi with ⟨-, hne⟩ | ⟨-, ⟨_, hset⟩, -⟩
          · exact hne rfl
          · cases hset
        · rintro ⟨v, hv⟩
          rcases lastSet_concat.1 hv with hset | ⟨hne, -⟩
          · cases hset
          · exact hne rfl
    · simp only [entered_concat_of_ne hname, lastSet_concat_of_ne hname, ih]

/-! ### What operations make of an object -/

theorem get?_act_of_ne (o : Object) {op : Operation} {name : String} (h : op.name ≠ name) :
    (o.act op).2.get? name = o.get? name := by
  cases op with
  | set k v => exact (o.get?_set k name v).trans (if_neg h)
  | remove k =>
    rw [act, remove_eq, get?_erase]
    exact if_neg h

/-- What an object holds after some operations: what they set last, in the order in which the names came
in. -/
structure Records (ops : List Operation) (o : Object) : Prop where
  found : ∀ name value, o.get? name = some value ↔ LastSet ops name value
  entered : ∀ name, name ∈ o.keys ↔ ∃ position, Entered ops position name
  ordered : o.keys.Pairwise (ByEntry ops)

/-- Which names came in follows from what is found. -/
theorem mem_keys_iff_entered {ops : List Operation} {o : Object}
    (hfound : ∀ name value, o.get? name = some value ↔ LastSet ops name value) (name : String) :
    name ∈ o.keys ↔ ∃ position, Entered ops position name := by
  rw [exists_entered_iff, ← o.fields.isSome_get?_iff, Option.isSome_iff_exists]
  exact exists_congr fun value => hfound name value

theorem records_empty : Records [] empty where
  found _ _ := iff_of_false nofun not_lastSet_nil
  entered _ := iff_of_false nofun fun ⟨_, h⟩ => not_entered_nil h
  ordered := .nil

namespace Records

variable {ops : List Operation} {o : Object} (h : Records ops o)
include h

theorem found_act (op : Operation) (name : String) (value : Value) :
    (o.act op).2.get? name = some value ↔ LastSet (ops ++ [op]) name value := by
  by_cases hname : op.name = name
  · rw [lastSet_concat, or_iff_left fun hne => hne.1 hname]
    cases op with
    | set k v =>
      obtain rfl : k = name := hname
      rw [act, get?_set, if_pos rfl, Option.some.injEq, Operation.set.injEq, and_iff_right rfl]
    | remove k =>
      obtain rfl : k = name := hname
      rw [act, remove_eq, get?_erase, if_pos rfl]
      exact iff_of_false nofun nofun
  · rw [get?_act_of_ne o hname, h.found, lastSet_concat_of_ne hname]

theorem ordered_set (name : String) (value : Value) :
    (o.set name value).keys.Pairwise (ByEntry (ops ++ [.set name value])) := by
  -- what is there already did not come in now
  have hold : ∀ {k : String} {i : Nat}, k ∈ o.keys → Entered (ops ++ [.set name value]) i k →
      Entered ops i k := fun hk hi => by
    rcases entered_concat.1 hi with ⟨hi, -⟩ | ⟨-, -, hnew⟩
    · exact hi
    · exact absurd (exists_entered_iff.1 ((h.entered _).1 hk)) (not_exists.2 hnew)
  have hkept : o.keys.Pairwise (ByEntry (ops ++ [.set name value])) :=
    h.ordered.imp_of_mem fun hk hl hlt i j hi hj => hlt i j (hold hk hi) (hold hl hj)
  by_cases hname : name ∈ o.keys
  · rwa [keys_set_of_mem hname]
  · rw [keys_set_of_not_mem hname, List.pairwise_append]
    refine ⟨hkept, List.pairwise_singleton .., fun k hk l hl i j hi hj => ?_⟩
    obtain rfl := List.mem_singleton.1 hl
    rcases entered_concat.1 hj with ⟨hj, -⟩ | ⟨rfl, -⟩
    · exact absurd ((h.entered _).2 ⟨j, hj⟩) hname
    · exact (hold hk hi).lt

theorem ordered_remove (name : String) :
    (o.erase name).keys.Pairwise (ByEntry (ops ++ [.remove name])) := by
  have hold : ∀ {k : String} {i : Nat}, Entered (ops ++ [.remove name]) i k →
      Entered ops i k := fun hi => by
    rcases entered_concat.1 hi with ⟨hi, -⟩ | ⟨-, ⟨_, hset⟩, -⟩
    · exact hi
    · cases hset
  rw [keys_erase]
  exact (h.ordered.filter _).imp fun hlt i j hi hj => hlt i j (hold hi) (hold hj)

/-- An operation more, and the object holds what the operations then tell. -/
theorem act (op : Operation) : Records (ops ++ [op]) (o.act op).2 := by
  refine ⟨h.found_act op, mem_keys_iff_entered (h.found_act op), ?_⟩
  cases op with
  | set name value => exact h.ordered_set name value
  | remove name =>
    rw [Object.act, remove_eq]
    exact h.ordered_remove name

end Records

theorem records_run (ops : List Operation) : Records ops (run ops) := by
  induction ops using List.reverseRecOn with
  | nil => exact records_empty
  | append_singleton ops op ih => exact run_concat ops op ▸ ih.act op

/-! ### Pairs set one after another -/

theorem ofList_concat (pairs : List (String × Value)) (pair : String × Value) :
    ofList (pairs ++ [pair]) = (ofList pairs).set pair.1 pair.2 := List.foldl_append

/-- Pairs with distinct names are kept as they are. -/
theorem toList_ofList {pairs : List (String × Value)} (h : (pairs.map Prod.fst).Nodup) :
    (ofList pairs).toList = pairs := by
  induction pairs using List.reverseRecOn with
  | nil => rfl
  | append_singleton pairs pair ih =>
    rw [List.map_append, List.nodup_append] at h
    obtain ⟨hpairs, -, hnew⟩ := h
    have hmem : pair.1 ∉ (ofList pairs).keys := fun hmem => by
      rw [← map_fst_toList, ih hpairs] at hmem
      exact hnew _ hmem _ (List.mem_singleton.2 rfl) rfl
    rw [ofList_concat, toList_set_of_not_mem hmem, ih hpairs]

theorem ofList_toList (o : Object) : ofList o.toList = o := ext (toList_ofList o.nodup_keys)

theorem ofList_eq_run (pairs : List (String × Value)) :
    ofList pairs = run (pairs.map fun pair => .set pair.1 pair.2) := by
  unfold ofList run final
  rw [List.foldl_map]
  rfl

/-- **An object is a map in order of insertion.**  After any operations it holds what they set last, in
the order in which the names came in.  Setting a name anew keeps its place and a new one goes to the end;
removing hands over what is there, leaves the others as they are and in order, and does nothing where the
name is missing; setting after removing is adding at the end.  Pairs make the object that setting them in
order makes, and the fields of an object make the object. -/
theorem kept_in_order :
    (∀ ops, Records ops (run ops)) ∧
    (∀ ops name, (∀ v, LastSet ops name v → (run ops).get name = v) ∧
      ((∀ v, ¬ LastSet ops name v) → (run ops).get name = .undefined)) ∧
    (∀ o : Object, (o.toList.map Prod.fst).Nodup ∧ o.size = o.toList.length ∧
      ∀ name v, (name, v) ∈ o.toList ↔ o.get? name = some v) ∧
    (∀ (o : Object) (name : String) (v : Value),
      (name ∈ o.keys → (o.set name v).keys = o.keys) ∧
      (name ∉ o.keys → (o.set name v).toList = o.toList ++ [(name, v)]) ∧
      ∀ other, other ≠ name → (o.set name v).get? other = o.get? other) ∧
    (∀ (o : Object) (name : String),
      (o.remove name).1 = o.get? name ∧
      (o.remove name).2.toList = (o.toList.filter fun field => field.1 ≠ name) ∧
      (∀ other, other ≠ name → (o.remove name).2.get? other = o.get? other) ∧
      (name ∉ o.keys → o.remove name = (none, o)) ∧
      ∀ v, ((o.remove name).2.set name v).keys = o.keys.filter (· ≠ name) ++ [name]) ∧
    (∀ pairs, ofList pairs = run (pairs.map fun pair => .set pair.1 pair.2)) ∧
    ∀ o : Object, ofList o.toList = o := by
  refine ⟨records_run, fun ops name => ⟨fun v hv => ?_, fun hnone => ?_⟩,
    fun o => ⟨o.nodup_keys, o.length_toList.symm, fun _ _ => get?_eq_some_iff.symm⟩,
    fun o name v => ⟨fun h => keys_set_of_mem h v, fun h => toList_set_of_not_mem h v,
      fun other h => @get?_act_of_ne o (.set name v) other h.symm⟩,
    fun o name => ⟨?_, ?_, fun other h => @get?_act_of_ne o (.remove name) other h.symm, ?_, ?_⟩,
    ofList_eq_run, ofList_toList⟩
  · rw [get, ((records_run ops).found name v).2 hv, Option.getD_some]
  · have hmissing : (run ops).get? name = none :=
      Option.eq_none_iff_forall_not_mem.2 fun v hv => hnone v (((records_run ops).found name v).1 hv)
    rw [get, hmissing, Option.getD_none]
  · rw [remove_eq]
  · rw [remove_eq, toList_erase]
  · intro hname
    rw [remove_eq, erase_of_not_mem hname, get?_eq_none_iff.2 hname]
  · intro v
    -- a name that was taken out is new again, and comes last
    have hgone : name ∉ (o.erase name).keys := fun hmem => by
      rw [keys_erase] at hmem
      exact of_decide_eq_true (List.mem_filter.1 hmem).2 rfl
    rw [remove_eq, keys_set_of_not_mem hgone, keys_erase]

/-- Of two names the first keeps its place when it is set, but comes last when it is removed before; what
was removed reads as undefined, and cannot be removed again. -/
theorem kept_in_order_anew :
    (run [.set "id" .null, .set "type" .null, .set "id" (.boolean true)]).keys = ["id", "type"] ∧
    (run [.set "id" .null, .set "type" .null, .remove "id", .set "id" .null]).keys = ["type", "id"] ∧
    (run [.set "id" .null, .remove "id"]).get "id" = .undefined ∧
    (run [.set "id" .null, .remove "id"]).remove "id" = (none, run [.set "id" .null, .remove "id"]) := by
  obtain ⟨-, hget, -, hset, hremove, -, -⟩ := kept_in_order
  obtain ⟨-, -, -, -, hanew⟩ := hremove (run [.set "id" .null, .set "type" .null]) "id"
  obtain ⟨-, -, -, hmissing, -⟩ := hremove (run [.set "id" .null, .remove "id"]) "id"
  refine ⟨?_, (hanew .null).trans (by decide), (hget _ "id").2 fun v hv => ?_, hmissing (by decide)⟩
  · exact ((hset (run [.set "id" .null, .set "type" .null]) "id" (.boolean true)).1 (by decide)).trans
      (by decide)
  · have hlast : LastSet ([.set "id" .null] ++ [.remove "id"]) "id" v := hv
    rcases lastSet_concat.1 hlast with h | ⟨hne, -⟩
    · cases h
    · exact hne rfl

end Object

end ScriptedRays
