import ScriptedRays.Script.Value

/-!
# Equality — when two script values count as the same

Numbers compare as numbers, so a NaN differs from itself; buffers compare by kind and bytes; arrays
element by element; objects by their names and the values under them, in any order.
-/

namespace ScriptedRays

mutual

/-- Equality of script values. -/
def Value.eqv : Value → Value → Bool
  | .undefined, .undefined => true
  | .null, .null => true
  | .boolean a, .boolean b => a == b
  | .number x, .number y => x.eqv y
  | .string s, .string t => s == t
  | .array xs, .array ys => Value.eqvElements xs ys
  | .object ks fs, .object ls gs => ks.length == ls.length && fs.eqvIn gs
  | .buffer a, .buffer b => a == b
  | .external a, .external b => a == b
  | _, _ => false

/-- Equality of arrays: as many elements, equal one by one. -/
def Value.eqvElements : List Value → List Value → Bool
  | [], [] => true
  | x :: xs, y :: ys => x.eqv y && Value.eqvElements xs ys
  | _, _ => false

/-- Whether each of some fields has an equal value under its name among others. -/
def Fields.eqvIn {keys others : List String} : Fields keys → Fields others → Bool
  | .nil, _ => true
  | .cons key value _ fields, gs =>
    (match gs.get? key with
      | some other => value.eqv other
      | none => false) && fields.eqvIn gs

end

end ScriptedRays
