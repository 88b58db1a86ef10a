import ScriptedRays.Script.Value
import ScriptedRays.Number.Positional
import ScriptedRays.Text.Quoted

/-!
# Display — the text of a value in diagnostics

Objects are written out with all their fields; of an array only the length is told, of a buffer the
element type and the number of bytes.
-/

namespace ScriptedRays

/-- The element type and the size in bytes. -/
def Buffer.display (b : Buffer) : String :=
  b.kind.name ++ "(" ++ Text.decimal b.byteLength ++ " bytes)"

mutual

/-- The text of a value. -/
def Value.display : Value → String
  | .undefined => "undefined"
  | .null => "null"
  | .boolean b => if b then "true" else "false"
  | .number x => x.text
  | .string s => Text.quoted s
  | .array elements => "[array of " ++ Text.decimal elements.length ++ "]"
  | .object _ fields => "\x7b" ++ ", ".intercalate fields.displays ++ "\x7d"
  | .buffer b => b.display
  | .external raw => "external(0x" ++ Text.hexadecimal raw.toNat ++ ")"

/-- The texts of fields, each a name and a value. -/
def Fields.displays {keys : List String} : Fields keys → List String
  | .nil => []
  | .cons key value _ fields => (key ++ ": " ++ value.display) :: fields.displays

end

end ScriptedRays
