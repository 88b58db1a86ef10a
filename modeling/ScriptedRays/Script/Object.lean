import ScriptedRays.Script.Value

/-!
# Object — named values in order of insertion

`Object.toList` is the view: an object is known by its list of fields (`Object.ext`), and any list
with distinct names is one (`Object.ofDistinct`).  Setting a name anew keeps its place, a new name
goes to the end, erasing closes the gap, and removing hands over the value besides (`Object.remove_eq`).
-/

namespace ScriptedRays

namespace Fields

/-- Fields from pairs with distinct names. -/
def ofDistinct :
    (pairs : List (String × Value)) → (pairs.map Prod.fst).Nodup → Fields (pairs.map Prod.fst)
  | [], _ => nil
  | (key, value) :: rest, h =>
    cons key value (List.nodup_cons.1 h).1 (ofDistinct rest (List.nodup_cons.1 h).2)

@[simp] theorem toList_ofDistinct :
    ∀ (pairs : List (String × Value)) (h : (pairs.map Prod.fst).Nodup),
      (ofDistinct pairs h).toList = pairs
  | [], _ => rfl
  | (key, value) :: rest, h => by
    show (key, value) :: (ofDistinct rest (List.nodup_cons.1 h).2).toList = _
    rw [toList_ofDistinct rest]

end Fields

namespace Object

def empty : Object := ⟨[], .nil⟩

instance : Inhabited Object := ⟨empty⟩

/-- The fields with their values, in order. -/
def toList (o : Object) : List (String × Value) := o.fields.toList

/-- The object with just these fields, in this order. -/
def ofDistinct (pairs : List (String × Value)) (h : (pairs.map Prod.fst).Nodup) : Object :=
  ⟨pairs.map Prod.fst, .ofDistinct pairs h⟩

def toValue (o : Object) : Value := .object o.keys o.fields

def size (o : Object) : Nat := o.keys.length

def isEmpty (o : Object) : Bool := o.keys.isEmpty

def get? (o : Object) (name : String) : Option Value := o.fields.get? name

/-- The value under a name, undefined where there is none. -/
def get (o : Object) (name : String) : Value := (o.get? name).getD .undefined

/-- A list of pairs with the first pair of a name replaced, or a pair added at the end. -/
def assign (name : String) (value : Value) : List (String × Value) → List (String × Value)
  | [] => [(name, value)]
  | (key, old) :: rest =>
    if key = name then (key, value) :: rest else (key, old) :: assign name value rest

theorem mem_keys_assign {name key : String} {value : Value} {pairs : List (String × Value)} :
    key ∈ (assign name value pairs).map Prod.fst ↔ key = name ∨ key ∈ pairs.map Prod.fst := by
  induction pairs with
  | nil => simp [assign]
  | cons p rest ih =>
    obtain ⟨k, old⟩ := p
    by_cases h : k = name <;> simp_all [assign]
    grind

theorem nodup_keys_assign {name : String} {value : Value} {pairs : List (String × Value)}
    (h : (pairs.map Prod.fst).Nodup) : ((assign name value pairs).map Prod.fst).Nodup := by
  induction pairs with
  | nil => simp [assign]
  | cons p rest ih =>
    obtain ⟨k, old⟩ := p
    have hc := List.nodup_cons.1 h
    by_cases hk : k = name
    · simpa [assign, hk] using h
    · rw [assign, if_neg hk, List.map_cons, List.nodup_cons, mem_keys_assign]
      exact ⟨fun hm => hm.elim hk hc.1, ih hc.2⟩

@[simp] theorem map_fst_toList (o : Object) : o.toList.map Prod.fst = o.keys := by
  simp [toList]

theorem nodup_keys (o : Object) : (o.toList.map Prod.fst).Nodup := by
  simpa using o.fields.nodup

/-- Gives a name a value: in its place if it is there, at the end if not. -/
def set (o : Object) (name : String) (value : Value) : Object :=
  ofDistinct (assign name value o.toList) (nodup_keys_assign o.nodup_keys)

/-- Takes a name out. -/
def erase (o : Object) (name : String) : Object :=
  ofDistinct (o.toList.filter fun field => field.1 ≠ name)
    (o.nodup_keys.sublist (List.filter_sublist.map Prod.fst))

/-- The value of the first pair of a name, and the pairs without that one. -/
def takeOut (name : String) : List (String × Value) → Option Value × List (String × Value)
  | [] => (none, [])
  | (key, value) :: rest =>
    if key = name then (some value, rest)
    else ((takeOut name rest).1, (key, value) :: (takeOut name rest).2)

theorem takeOut_sublist (name : String) (pairs : List (String × Value)) :
    (takeOut name pairs).2.Sublist pairs := by
  induction pairs with
  | nil => exact .slnil
  | cons pair rest ih =>
    rw [takeOut]
    split
    · exact .cons _ (.refl _)
    · exact .cons_cons _ ih

/-- Takes a name out and hands over what was under it. -/
def remove (o : Object) (name : String) : Option Value × Object :=
  ((takeOut name o.toList).1, ofDistinct (takeOut name o.toList).2
    (o.nodup_keys.sublist ((takeOut_sublist name o.toList).map Prod.fst)))

/-- The object with the pairs set one after another. -/
def ofList (pairs : List (String × Value)) : Object :=
  pairs.foldl (fun o pair => o.set pair.1 pair.2) empty

@[simp] theorem toList_empty : empty.toList = [] := rfl

@[simp] theorem toList_ofDistinct (pairs : List (String × Value))
    (h : (pairs.map Prod.fst).Nodup) : (ofDistinct pairs h).toList = pairs :=
  Fields.toList_ofDistinct pairs h

@[simp] theorem toList_set (o : Object) (name : String) (value : Value) :
    (o.set name value).toList = assign name value o.toList := by
  simp [set]

@[simp] theorem toList_erase (o : Object) (name : String) :
    (o.erase name).toList = o.toList.filter fun field => field.1 ≠ name := by
  simp [erase]

@[simp] theorem length_toList (o : Object) : o.toList.length = o.size := by
  rw [size, ← o.map_fst_toList, List.length_map]

theorem get?_eq_some_iff {o : Object} {name : String} {v : Value} :
    o.get? name = some v ↔ (name, v) ∈ o.toList := Fields.get?_eq_some_iff

theorem get?_eq_none_iff {o : Object} {name : String} : o.get? name = none ↔ name ∉ o.keys :=
  o.fields.get?_eq_none_iff

/-- The order of the fields does not matter to what is under a name. -/
theorem get?_of_perm {o p : Object} (h : o.toList.Perm p.toList) (name : String) :
    o.get? name = p.get? name :=
  Option.ext fun v => by rw [get?_eq_some_iff, get?_eq_some_iff, h.mem_iff]

/-- An object is known by its list of fields. -/
theorem ext {o p : Object} (h : o.toList = p.toList) : o = p := by
  obtain ⟨ks, fs⟩ := o
  obtain ⟨ls, gs⟩ := p
  have hk : ks = ls := by
    have := congrArg (List.map Prod.fst) h
    simpa using this
  subst hk
  congr
  induction ks with
  | nil => cases fs; cases gs; rfl
  | cons key rest ih =>
    cases fs with
    | cons _ v hv fs =>
      cases gs with
      | cons _ w hw gs =>
        simp only [toList, Fields.toList, List.cons.injEq, Prod.mk.injEq, true_and] at h
        obtain ⟨rfl, h⟩ := h
        rw [ih fs gs h]

/-! ### One operation -/

theorem get?_eq_lookup (o : Object) (name : String) : o.get? name = o.toList.lookup name :=
  (o.fields.lookup_toList name).symm

theorem lookup_assign (name other : String) (value : Value) (pairs : List (String × Value)) :
    (assign name value pairs).lookup other =
      if name = other then some value else pairs.lookup other := by
  induction pairs with
  | nil => exact Fields.lookup_cons_pair ..
  | cons p rest ih =>
    obtain ⟨key, old⟩ := p
    rw [assign, Fields.lookup_cons_pair]
    split
    next hk =>
      rw [Fields.lookup_cons_pair, hk]
      split <;> rfl
    next hk =>
      rw [Fields.lookup_cons_pair, ih]
      split
      next hother => rw [if_neg fun hname => hk (hother.trans hname.symm)]
      next => rfl

theorem get?_set (o : Object) (name other : String) (value : Value) :
    (o.set name value).get? other = if name = other then some value else o.get? other := by
  rw [get?_eq_lookup, toList_set, lookup_assign, get?_eq_lookup]

theorem assign_of_not_mem {name : String} {value : Value} {pairs : List (String × Value)}
    (h : name ∉ pairs.map Prod.fst) : assign name value pairs = pairs ++ [(name, value)] := by
  induction pairs with
  | nil => rfl
  | cons p rest ih =>
    rw [List.map_cons, List.mem_cons, not_or] at h
    rw [assign, if_neg (Ne.symm h.1), ih h.2, List.cons_append]

theorem map_fst_assign_of_mem {name : String} {value : Value} {pairs : List (String × Value)}
    (h : name ∈ pairs.map Prod.fst) :
    (assign name value pairs).map Prod.fst = pairs.map Prod.fst := by
  induction pairs with
  | nil => cases h
  | cons p rest ih =>
    rw [assign]
    split
    next => rfl
    next hk =>
      rw [List.map_cons, List.map_cons, ih ((List.mem_cons.1 h).resolve_left (Ne.symm hk))]

/-- A new name goes to the end. -/
theorem toList_set_of_not_mem {o : Object} {name : String} (h : name ∉ o.keys) (value : Value) :
    (o.set name value).toList = o.toList ++ [(name, value)] := by
  rw [toList_set, assign_of_not_mem (o.map_fst_toList ▸ h)]

theorem keys_set_of_not_mem {o : Object} {name : String} (h : name ∉ o.keys) (value : Value) :
    (o.set name value).keys = o.keys ++ [name] := by
  rw [← map_fst_toList, toList_set_of_not_mem h, List.map_append, map_fst_toList]
  rfl

/-- Setting a name anew keeps its place. -/
theorem keys_set_of_mem {o : Object} {name : String} (h : name ∈ o.keys) (value : Value) :
    (o.set name value).keys = o.keys := by
  rw [← map_fst_toList, toList_set, map_fst_assign_of_mem (o.map_fst_toList ▸ h), map_fst_toList]

theorem keys_erase (o : Object) (name : String) :
    (o.erase name).keys = o.keys.filter (· ≠ name) := by
  rw [← map_fst_toList, toList_erase, ← map_fst_toList, List.filter_map]
  rfl

theorem get?_erase (o : Object) (name other : String) :
    (o.erase name).get? other = if name = other then none else o.get? other := by
  ext v
  rw [get?_eq_some_iff, toList_erase, List.mem_filter, ← get?_eq_some_iff, decide_eq_true_iff]
  split
  next h => exact iff_of_false (fun hmem => hmem.2 h.symm) nofun
  next h => exact and_iff_left (Ne.symm h)

theorem erase_of_not_mem {o : Object} {name : String} (h : name ∉ o.keys) : o.erase name = o := by
  refine ext ?_
  rw [toList_erase, List.filter_eq_self]
  intro p hp
  exact decide_eq_true fun hname => h (hname ▸ o.map_fst_toList ▸ List.mem_map_of_mem hp)

theorem takeOut_eq {name : String} {pairs : List (String × Value)}
    (h : (pairs.map Prod.fst).Nodup) :
    takeOut name pairs = (pairs.lookup name, pairs.filter fun field => field.1 ≠ name) := by
  induction pairs with
  | nil => rfl
  | cons p rest ih =>
    obtain ⟨key, value⟩ := p
    obtain ⟨hfresh, hrest⟩ := List.nodup_cons.1 h
    rw [takeOut, ih hrest, Fields.lookup_cons_pair]
    split
    next hk =>
      -- the name does not come again
      have hkept : rest.filter (fun field => field.1 ≠ name) = rest :=
        List.filter_eq_self.2 fun p hp =>
          have hp : p.1 ∈ rest.map Prod.fst := List.mem_map_of_mem hp
          decide_eq_true fun hname => hfresh (hk.trans hname.symm ▸ hp)
      rw [List.filter_cons_of_neg (by simpa using hk), hkept]
    next hk => rw [List.filter_cons_of_pos (by simpa using hk)]

/-- Removing is looking up and erasing. -/
theorem remove_eq (o : Object) (name : String) : o.remove name = (o.get? name, o.erase name) := by
  have htaken : takeOut name o.toList = _ := takeOut_eq o.nodup_keys
  refine Prod.ext ?_ (ext ?_)
  · show (takeOut name o.toList).1 = o.get? name
    rw [htaken, get?_eq_lookup]
  · show (ofDistinct (takeOut name o.toList).2 _).toList = _
    rw [toList_ofDistinct, htaken, toList_erase]

end Object

namespace Value

/-- A value read as an object from pairs set in order. -/
def ofPairs (pairs : List (String × Value)) : Value := (Object.ofList pairs).toValue

theorem object?_toValue (o : Object) : o.toValue.object? = some o := rfl

theorem object?_eq_some {v : Value} {o : Object} : v.object? = some o ↔ v = o.toValue := by
  cases v with
  | object keys fields => exact ⟨fun h => Option.some.inj h ▸ rfl, fun h => h ▸ rfl⟩
  | _ => exact iff_of_false nofun nofun

theorem toValue_inj {o p : Object} : o.toValue = p.toValue ↔ o = p := by
  rw [← object?_eq_some, object?_toValue, Option.some.injEq]

theorem get_of_object? {v : Value} {o : Object} (h : v.object? = some o) (name : String) :
    v.get name = o.get name := by
  cases v with
  | object keys fields =>
    obtain rfl := Option.some.inj h
    rfl
  | _ => exact absurd h nofun

end Value

end ScriptedRays
