import ScriptedRays.Text.Hidden
import ScriptedRays.Text.Numeral

/-!
# Quoted — text between double quotes

Double quotes, backslashes and the common controls are escaped with a backslash, hidden characters are
written by their number, everything else, an apostrophe too, stands for itself.
-/

namespace ScriptedRays.Text

/-- How one character is written between quotes. -/
def escaped (c : Char) : List Char :=
  if c = '\x00' then ['\\', '0']
  else if c = '\t' then ['\\', 't']
  else if c = '\n' then ['\\', 'n']
  else if c = '\r' then ['\\', 'r']
  else if c = '"' ∨ c = '\\' then ['\\', c]
  else if isHidden c then "\\u\x7b".toList ++ Nat.toDigits 16 c.toNat ++ "\x7d".toList
  else [c]

/-- A text between quotes. -/
def quoted (s : String) : String := String.ofList ('"' :: s.toList.flatMap escaped ++ ['"'])

end ScriptedRays.Text
