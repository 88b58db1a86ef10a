/-!
# Table — what a document holds

A document is a table: names with their items, in order.  Tables grow while a document is read, by
headers and by dotted names; how a table came about decides which of them may still add to it.
-/

namespace ScriptedRays.Toml

/-- How a table came about. -/
inductive Origin where
  /-- By a header of its own. -/
  | header
  /-- By a longer header that leads through it; one of its own may still follow. -/
  | implied
  /-- By a dotted name, and others may add to it. -/
  | dotted
  /-- Written out in braces, and complete. -/
  | braces
  deriving DecidableEq, Inhabited

/-- A value, a table, or a series of tables. -/
inductive Item where
  | string (text : String)
  /-- A number, a truth value or a date: no setting takes one, so which it is is not kept. -/
  | scalar
  | array (elements : List Item)
  | table (origin : Origin) (fields : List (String × Item))
  /-- The tables under one repeated header, newest first. -/
  | series (tables : List (List (String × Item)))
  deriving Inhabited

/-- Names with their items, in order. -/
abbrev Table := List (String × Item)

/-- A name and the names of the tables that lead to it. -/
structure Key where
  path : List String
  name : String
  deriving DecidableEq, Inhabited

/-- Whether an item holds nothing, as only an array or a table can. -/
def Item.isEmpty : Item → Bool
  | .array elements => elements.isEmpty
  | .table _ fields => fields.isEmpty
  | .series tables => tables.isEmpty
  | .string _ | .scalar => false

namespace Table

/-- Puts another item in the place of a name's own. -/
def replace (name : String) (item : Item) (t : Table) : Table :=
  t.map fun field => if field.1 = name then (name, item) else field

/-- Changes the table that a path leads to.  What is missing on the way comes about as `born`; of a
series the newest table is meant; dotted names do not lead into tables with a header of their own. -/
def alter (born : Origin) (change : Origin → Table → Option Table) :
    List String → Origin → Table → Option Table
  | [], origin, t => change origin t
  | name :: path, _, t =>
    match t.lookup name with
    | none => do
      return t ++ [(name, .table born (← alter born change path born []))]
    | some (.table origin inner) => do
      guard (origin ≠ .braces ∧ ¬(born = .dotted ∧ origin = .header))
      return t.replace name (.table origin (← alter born change path origin inner))
    | some (.series (newest :: older)) => do
      return t.replace name (.series ((← alter born change path .header newest) :: older))
    | some _ => none

/-- Adds an item under a dotted name.  The table it goes to has to be a result of dotted names
alone. -/
def add (key : Key) (item : Item) : Table → Option Table :=
  alter .dotted (fun origin t => do
    guard (key.path = [] ∨ origin = .dotted)
    guard (t.lookup key.name).isNone
    return t ++ [(key.name, item)]) key.path .header

/-- The table of fields in braces. -/
def ofFields? (fields : List (Key × Item)) : Option Table :=
  fields.foldlM (fun t field => t.add field.1 field.2) []

/-- Opens a table by its header.  If longer headers have led through it already, it moves to the
end. -/
def openTable (name : String) (t : Table) : Option Table :=
  match t.lookup name with
  | none => some (t ++ [(name, .table .header [])])
  | some (.table .implied inner) =>
    some (t.filter (·.1 ≠ name) ++ [(name, .table .header inner)])
  | some _ => none

/-- Opens a further table of a series. -/
def openNext (name : String) (t : Table) : Option Table :=
  match t.lookup name with
  | none => some (t ++ [(name, .series [[]])])
  | some (.series tables) => some (t.replace name (.series ([] :: tables)))
  | some _ => none

end Table

end ScriptedRays.Toml
