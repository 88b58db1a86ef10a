import ScriptedRays.Config.Basic
import ScriptedRays.Toml.Document

/-!
# Document — settings in a TOML document

The document has the fields `backend` and `log_level`, either of which may be missing, and no others.
A setting is written as a string: here a name counts exactly as it stands, without the leniency that
names given by hand enjoy.
-/

namespace ScriptedRays

namespace Settings

/-- Why a text holds no settings. -/
inductive Problem where
  /-- It is no document, or a setting in it is no name. -/
  | malformed
  | unknownField (name : String)
  | unknownBackend (name : String)
  | unknownVerbosity (name : String)
  deriving DecidableEq, Inhabited

def backendField : String := "backend"

def verbosityField : String := "log_level"

/-- The wording for a name that is none of the options. -/
def unknownVariant (name : String) (options : List String) : String :=
  "unknown variant `" ++ name ++ "`, expected one of " ++
    ", ".intercalate (options.map fun option => "`" ++ option ++ "`")

def Problem.message : Problem → String
  | malformed => "malformed document"
  | unknownField name =>
    "unknown field `" ++ name ++ "`, expected `" ++ backendField ++ "` or `" ++ verbosityField ++ "`"
  | unknownBackend name => unknownVariant name (Preference.all.map Preference.name)
  | unknownVerbosity name => unknownVariant name (Verbosity.all.map Verbosity.name)

variable {α : Type}

/-- The option that an item names: by a string, or as the only name in a table, with nothing under
it. -/
def readOption (named? : String → Option α) (unknown : String → Problem) :
    Toml.Item → Except Problem α
  | .string s => (named? s).elim (.error (unknown s)) .ok
  | .table _ [(name, content)] =>
    match named? name with
    | none => .error (unknown name)
    | some option => if content.isEmpty then .ok option else .error .malformed
  | _ => .error .malformed

/-- The settings with one field of a document added. -/
def readField (s : Settings) (field : String × Toml.Item) : Except Problem Settings :=
  if field.1 = backendField then do
    return { s with backend := ← readOption Preference.named? .unknownBackend field.2 }
  else if field.1 = verbosityField then do
    return { s with verbosity := ← readOption Verbosity.named? .unknownVerbosity field.2 }
  else .error (.unknownField field.1)

/-- The settings in a table.  The first field that is wrong decides the problem. -/
def ofTable (t : Toml.Table) : Except Problem Settings := t.foldlM readField {}

/-- The settings in a text. -/
def parse (text : String) : Except Problem Settings :=
  match Toml.Table.parse? text with
  | none => .error .malformed
  | some t => ofTable t

end Settings

end ScriptedRays
