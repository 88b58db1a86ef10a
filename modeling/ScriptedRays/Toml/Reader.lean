/-!
# Reader — reading a document from its front

A reader takes a value off the front of a text, or fails and takes nothing.  `many` ends because a
round that leaves no less text than it found is the last (`manyFrom`).
-/

namespace ScriptedRays.Toml

/-- Reads a value and leaves the rest of the text, or fails. -/
abbrev Reader (α : Type) := StateT (List Char) Option α

namespace Reader

variable {α : Type}

/-- One character of a class. -/
def oneOf (p : Char → Bool) : Reader Char := fun s =>
  match s with
  | [] => none
  | c :: rest => if p c then some (c, rest) else none

/-- Exactly these characters. -/
def exactly (w : List Char) : Reader Unit := fun s =>
  if w.isPrefixOf s then some ((), s.drop w.length) else none

/-- The longest run of characters of a class, perhaps empty. -/
def run (p : Char → Bool) : Reader (List Char) := fun s => some (s.takeWhile p, s.dropWhile p)

/-- The longest run of characters of a class, at least one. -/
def run1 (p : Char → Bool) : Reader (List Char) := do
  let s ← run p
  guard (s ≠ [])
  return s

/-- Nothing but the end of the text. -/
def atEnd : Reader Unit := fun s => if s.isEmpty then some ((), s) else none

/-- As many rounds as succeed, and what they leave.  A round that takes nothing is the last. -/
def manyFrom (r : Reader α) (s : List Char) : List α × List Char :=
  match r s with
  | none => ([], s)
  | some (a, rest) =>
    if rest.length < s.length then
      let (more, last) := manyFrom r rest
      (a :: more, last)
    else ([], s)
termination_by s.length

/-- As many rounds as succeed. -/
def many (r : Reader α) : Reader (List α) := fun s => some (manyFrom r s)

/-- A given number of rounds. -/
def times (r : Reader α) : Nat → Reader (List α)
  | 0 => return []
  | n + 1 => do
    let a ← r
    return a :: (← times r n)

/-! ### Blanks, comments, ends of lines -/

def isBlank (c : Char) : Bool := c == ' ' || c == '\t'

/-- The characters that may stand in comments and between quotes: no controls but the tab. -/
def isVisible (c : Char) : Bool :=
  c == '\t' || decide (0x20 ≤ c.toNat ∧ c.toNat ≠ 0x7F)

/-- Blanks of one line. -/
def blanks : Reader Unit := discard (run isBlank)

/-- A line feed, perhaps after a carriage return. -/
def newline : Reader Unit := exactly ['\n'] <|> exactly ['\r', '\n']

/-- From a number sign up to the end of the line. -/
def comment : Reader Unit := exactly ['#'] *> discard (run isVisible)

/-- What may stand behind an entry: blanks and a comment. -/
def lineEnd : Reader Unit := do
  blanks
  discard (optional comment)
  newline <|> atEnd

/-- What may stand between the elements of an array: blanks, comments and new lines. -/
def gaps : Reader Unit :=
  discard (many (discard (run1 isBlank) <|> newline <|> comment *> newline))

end Reader

end ScriptedRays.Toml
