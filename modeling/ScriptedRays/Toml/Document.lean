import ScriptedRays.Toml.Scalar
import ScriptedRays.Toml.Table

/-!
# Document — from text to a table

A document is read into entries, line by line, and its entries make up a table.  Arrays and tables in
braces nest to a fixed depth, on which the reading recurs.
-/

namespace ScriptedRays.Toml

/-- An entry of a document. -/
inductive Entry where
  /-- A header: what follows belongs to the table it names. -/
  | header (key : Key)
  /-- A header of a series: what follows belongs to a further table under this name. -/
  | next (key : Key)
  | field (key : Key) (item : Item)

namespace Reader

/-- Arrays, tables in braces and the parts of a name: fewer than this inside one another. -/
def depthLimit : Nat := 80

def isBareKey (c : Char) : Bool := c.isAlphanum || c == '-' || c == '_'

/-- One part of a name, blanks around it. -/
def keyPart : Reader String := do
  blanks
  let part ← basicString <|> literalString <|> (do return String.ofList (← run1 isBareKey))
  blanks
  return part

/-- A name: parts with dots between them. -/
def key : Reader Key := do
  let first ← keyPart
  let more ← many (exactly ['.'] *> keyPart)
  guard (more.length + 1 < depthLimit)
  return ⟨(first :: more).dropLast, more.getLastD first⟩

/-- Rounds with commas between them, perhaps none. -/
def separated {α : Type} (r : Reader α) : Reader (List α) :=
  (do
    let first ← r
    return first :: (← many (exactly [','] *> r))) <|> return []

/-- An array.  After its last element there may be one more comma. -/
def array (element : Reader Item) : Reader Item := do
  exactly ['[']
  let elements ← separated (gaps *> element <* gaps)
  if !elements.isEmpty then discard (optional (exactly [',']))
  gaps
  exactly [']']
  return .array elements

/-- A field: a name, an equals sign, an item. -/
def field (item : Reader Item) : Reader (Key × Item) := do
  let k ← key
  exactly ['=']
  blanks
  return (k, ← item)

/-- A table in braces, on one line. -/
def braces (item : Reader Item) : Reader Item := do
  exactly ['\x7b']
  let fields ← separated (field item <* blanks)
  blanks
  exactly ['\x7d']
  match Table.ofFields? fields with
  | some t => return .table .braces t
  | none => failure

/-- An item with arrays and tables up to a depth. -/
def itemTo : Nat → Reader Item
  | 0 => .string <$> string <|> (scalar *> return .scalar)
  | depth + 1 =>
    .string <$> string <|> array (itemTo depth) <|> braces (itemTo depth) <|>
      (scalar *> return .scalar)

def item : Reader Item := itemTo (depthLimit - 1)

/-- A line of a document: an entry, or none on a line without one. -/
def line : Reader (Option Entry) :=
  (do
    exactly ['[', '[']
    let k ← key
    exactly [']', ']']
    lineEnd
    return some (.next k)) <|>
  (do
    exactly ['[']
    let k ← key
    exactly [']']
    lineEnd
    return some (.header k)) <|>
  (do
    let (k, i) ← field item
    lineEnd
    return some (.field k i)) <|>
  (comment *> (newline <|> atEnd) *> return none) <|>
  (newline *> return none)

/-- All entries of a text, after a byte order mark if there is one. -/
def entries : Reader (List Entry) := do
  discard (optional (exactly ['\ufeff']))
  blanks
  let lines ← many (line <* blanks)
  atEnd
  return lines.filterMap id

end Reader

/-- A table in the making, and the way to the part of it that fields are added to. -/
structure Draft where
  root : Table := []
  path : List String := []
  deriving Inhabited

/-- The draft with one more entry. -/
def Draft.add (d : Draft) : Entry → Option Draft
  | .field k i => do
    return { d with root := ← d.root.alter .implied (fun _ t => t.add k i) d.path .header }
  | .header k => do
    return ⟨← d.root.alter .implied (fun _ t => t.openTable k.name) k.path .header,
      k.path ++ [k.name]⟩
  | .next k => do
    return ⟨← d.root.alter .implied (fun _ t => t.openNext k.name) k.path .header,
      k.path ++ [k.name]⟩

/-- The table that entries make up. -/
def Table.ofEntries? (entries : List Entry) : Option Table := do
  let d ← entries.foldlM Draft.add {}
  return d.root

/-- The table that a text holds, if it is a document. -/
def Table.parse? (s : String) : Option Table := do
  let (entries, _) ← Reader.entries s.toList
  Table.ofEntries? entries

end ScriptedRays.Toml
