import ScriptedRays.Text.Blank

/-!
# Name — names looked up in a closed list

Options are known by lower-case names.  A name given by hand may have blanks around it and capitals
in it; a name that is not in the list is a failure that quotes it in the form looked up.
-/

namespace ScriptedRays

/-- A name that no option has, in the form in which it was looked up. -/
inductive UnknownName where
  | backend (name : String)
  | verbosity (name : String)
  deriving DecidableEq, Inhabited

/-- The wording of the failure. -/
def UnknownName.message : UnknownName → String
  | backend name => "unknown ray tracing backend: " ++ name
  | verbosity name => "unknown log level: " ++ name

namespace Text

variable {α : Type}

/-- The option of exactly this name. -/
def named? (options : List α) (name : α → String) (s : String) : Option α :=
  options.find? fun option => name option == s

/-- Whether texts are the same but for the case of ASCII letters. -/
def alike : List Char → List Char → Bool
  | [], [] => true
  | c :: s, d :: t => c.toLower == d.toLower && alike s t
  | _, _ => false

theorem alike_iff {s t : List Char} :
    alike s t = true ↔ s.map Char.toLower = t.map Char.toLower := by
  induction s generalizing t with
  | nil => cases t <;> simp [alike]
  | cons c s ih => cases t <;> simp [alike, ih]

/-- Reads an option by a name given by hand. -/
def readName (options : List α) (name : α → String) (fail : String → UnknownName) (s : String) :
    Except UnknownName α :=
  match named? options name (folded s) with
  | some option => .ok option
  | none => .error (fail (folded s))

end Text

end ScriptedRays
