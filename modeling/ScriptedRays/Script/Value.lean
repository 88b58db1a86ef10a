import ScriptedRays.Script.Buffer

/-!
# Value — what a script hands over and gets back

Values are a closed set of shapes.  The fields of an object are a list whose type holds the names in
use, so that no object has two fields of one name; the order is that of first insertion.
-/

namespace ScriptedRays

mutual

/-- A value of the scripting side. -/
inductive Value where
  | undefined
  | null
  | boolean (b : Bool)
  | number (x : Double)
  | string (s : String)
  | array (elements : List Value)
  | object (keys : List String) (fields : Fields keys)
  | buffer (b : Buffer)
  /-- A handle that belongs to the host; zero is none. -/
  | external (raw : UInt64)

/-- Fields under the given names, in their order; each name occurs once. -/
inductive Fields : List String → Type where
  | nil : Fields []
  | cons (key : String) (value : Value) {rest : List String} (fresh : key ∉ rest)
      (fields : Fields rest) : Fields (key :: rest)

end

/-- An object by itself: names, and a value for each of them. -/
structure Object where
  keys : List String
  fields : Fields keys

instance : Inhabited Value := ⟨.undefined⟩

namespace Fields

variable {keys : List String}

/-- The value under a name. -/
def get? (name : String) : {keys : List String} → Fields keys → Option Value
  | _, nil => none
  | _, cons key value _ fields => if key = name then some value else get? name fields

/-- The fields with their values, in order. -/
def toList : {keys : List String} → Fields keys → List (String × Value)
  | _, nil => []
  | _, cons key value _ fields => (key, value) :: toList fields

@[simp] theorem map_fst_toList (fields : Fields keys) : fields.toList.map Prod.fst = keys := by
  induction keys with
  | nil => cases fields; rfl
  | cons key rest ih =>
    cases fields with
    | cons _ value fresh fields => simp [toList, ih]

theorem nodup : {keys : List String} → Fields keys → keys.Nodup
  | _, nil => List.nodup_nil
  | _, cons _ _ fresh fields => List.nodup_cons.2 ⟨fresh, nodup fields⟩

theorem isSome_get?_iff {name : String} (fields : Fields keys) :
    (fields.get? name).isSome ↔ name ∈ keys := by
  induction keys with
  | nil => cases fields; simp [get?]
  | cons key rest ih =>
    cases fields with
    | cons _ value fresh fields =>
      by_cases h : key = name
      · simp [get?, h]
      · simp [get?, h, ih, Ne.symm h]

theorem get?_eq_none_iff {name : String} (fields : Fields keys) :
    fields.get? name = none ↔ name ∉ keys := by
  rw [← isSome_get?_iff fields, Option.not_isSome_iff_eq_none]

theorem mem_of_get? {fields : Fields keys} {name : String} {v : Value}
    (h : fields.get? name = some v) : name ∈ keys :=
  (isSome_get?_iff fields).1 (h ▸ rfl)

theorem exists_get? (fields : Fields keys) {name : String} (h : name ∈ keys) :
    ∃ v, fields.get? name = some v :=
  Option.isSome_iff_exists.1 ((isSome_get?_iff fields).2 h)

theorem lookup_cons_pair (key name : String) (value : Value) (rest : List (String × Value)) :
    ((key, value) :: rest).lookup name = if key = name then some value else rest.lookup name := by
  by_cases h : key = name
  · rw [if_pos h, h, List.lookup_cons_self]
  · rw [if_neg h, List.lookup_cons, beq_false_of_ne (Ne.symm h)]

theorem lookup_toList (fields : Fields keys) (name : String) :
    fields.toList.lookup name = fields.get? name := by
  induction keys with
  | nil => cases fields; rfl
  | cons key rest ih =>
    cases fields with
    | cons _ value fresh fields => rw [toList, lookup_cons_pair, ih, get?]

theorem get?_eq_some_iff {name : String} {v : Value} {fields : Fields keys} :
    fields.get? name = some v ↔ (name, v) ∈ fields.toList := by
  induction keys with
  | nil => cases fields; exact iff_of_false nofun nofun
  | cons key rest ih =>
    cases fields with
    | cons _ value fresh fields =>
      rw [toList, List.mem_cons, Prod.mk.injEq, get?]
      by_cases hk : key = name
      · subst hk
        -- the name does not come again
        have hrest : (key, v) ∉ fields.toList := fun h => fresh (mem_of_get? (ih.2 h))
        rw [if_pos rfl, Option.some.injEq, eq_comm, or_iff_left hrest, and_iff_right rfl]
      · rw [if_neg hk, ih, or_iff_right fun h => hk h.1.symm]

end Fields

namespace Value

/-- The value under a name: undefined where there is none, or no object. -/
def get (v : Value) (name : String) : Value :=
  match v with
  | object _ fields => (fields.get? name).getD undefined
  | _ => undefined

/-- The name of a value's shape in diagnostics. -/
def typeName : Value → String
  | undefined => "undefined"
  | null => "null"
  | boolean _ => "boolean"
  | number _ => "number"
  | string _ => "string"
  | array _ => "array"
  | object _ _ => "object"
  | buffer b => b.kind.name
  | external _ => "external"

def isUndefined : Value → Bool
  | undefined => true
  | _ => false

def isNull : Value → Bool
  | null => true
  | _ => false

/-- Undefined or null: a field that is as good as missing. -/
def isAbsent (v : Value) : Bool := v.isUndefined || v.isNull

def number? : Value → Option Double
  | number x => some x
  | _ => none

/-- A number cut to a 32-bit word. -/
def word? (v : Value) : Option UInt32 := v.number?.bind Double.toUInt32?

def string? : Value → Option String
  | string s => some s
  | _ => none

def array? : Value → Option (List Value)
  | array elements => some elements
  | _ => none

def object? : Value → Option Object
  | object keys fields => some ⟨keys, fields⟩
  | _ => none

/-- A host handle other than zero. -/
def external? : Value → Option UInt64
  | external raw => if raw = 0 then none else some raw
  | _ => none

def ofWord (w : UInt32) : Value := number (Double.ofNat w.toNat)

/-- A value that may be missing: none is undefined. -/
def ofOption (v : Option Value) : Value := v.getD undefined

theorem number?_eq_some {v : Value} {x : Double} : v.number? = some x ↔ v = .number x := by
  cases v with
  | number y => simp [number?]
  | _ => simp [number?]

theorem array?_eq_some {v : Value} {elements : List Value} :
    v.array? = some elements ↔ v = .array elements := by
  cases v with
  | array es => simp [array?]
  | _ => simp [array?]

end Value

end ScriptedRays
