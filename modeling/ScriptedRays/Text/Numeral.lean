/-!
# Numeral — natural numbers in text

Decimal and hexadecimal digits without leading zeros.
-/

namespace ScriptedRays.Text

/-- The decimal digits of a number. -/
def decimal (n : Nat) : String := String.ofList (Nat.toDigits 10 n)

/-- The decimal digits of an integer, behind a minus if it is negative. -/
def signed (n : Int) : String := (if n < 0 then "-" else "") ++ decimal n.natAbs

/-- The lower-case hexadecimal digits of a number. -/
def hexadecimal (n : Nat) : String := String.ofList (Nat.toDigits 16 n)

end ScriptedRays.Text
