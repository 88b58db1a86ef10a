/-!
# Blank — white space around a text

The blank characters are those with the Unicode property White_Space.  `trim` drops them from both
ends; `folded` is the form in which names are compared, trimmed and with ASCII letters in lower case.
-/

namespace ScriptedRays.Text

/-- The characters with the property White_Space. -/
def isBlank (c : Char) : Bool :=
  let n := c.toNat
  decide (0x09 ≤ n ∧ n ≤ 0x0D) || n == 0x20 || n == 0x85 || n == 0xA0 || n == 0x1680 ||
    decide (0x2000 ≤ n ∧ n ≤ 0x200A) || n == 0x2028 || n == 0x2029 || n == 0x202F || n == 0x205F ||
    n == 0x3000

/-- Characters without the blanks around them. -/
def trim (s : List Char) : List Char :=
  ((s.dropWhile isBlank).reverse.dropWhile isBlank).reverse

/-- The form in which a name is looked up: no blanks around it, ASCII letters in lower case.  Letters
outside ASCII keep their case. -/
def folded (s : String) : String := String.ofList ((trim s.toList).map Char.toLower)

end ScriptedRays.Text
