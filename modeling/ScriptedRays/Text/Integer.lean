/-!
# Integer — 64-bit integers from text

An optional sign and decimal digits, nothing else.  Digits are taken from the left, and the first
fault decides: a character that is no digit, or a digit that takes the number out of range.
-/

namespace ScriptedRays.Text

/-- Why a text is no 64-bit integer. -/
inductive IntegerFault where
  | empty
  | notDigit
  | tooLarge
  | tooSmall
  deriving DecidableEq, Inhabited

def IntegerFault.message : IntegerFault → String
  | empty => "cannot parse integer from empty string"
  | notDigit => "invalid digit found in string"
  | tooLarge => "number too large to fit in target type"
  | tooSmall => "number too small to fit in target type"

/-- The number of some digits, put behind those of `n`; it may reach `bound` and not pass it. -/
def digitsUpTo (bound : Nat) (beyond : IntegerFault) (n : Nat) :
    List Char → Except IntegerFault Nat
  | [] => .ok n
  | c :: rest =>
    if !c.isDigit then .error .notDigit
    else
      let next := 10 * n + (c.toNat - '0'.toNat)
      if bound < next then .error beyond else digitsUpTo bound beyond next rest

/-- The largest 64-bit integer; the least is one further from zero. -/
def largestInteger : Nat := 0x7FFFFFFFFFFFFFFF

/-- Reads a 64-bit integer. -/
def readInteger (s : String) : Except IntegerFault Int :=
  match s.toList with
  | [] => .error .empty
  | ['+'] | ['-'] => .error .notDigit
  | '-' :: digits => (digitsUpTo (largestInteger + 1) .tooSmall 0 digits).map fun n => -(n : Int)
  | '+' :: digits | digits => (digitsUpTo largestInteger .tooLarge 0 digits).map fun n => (n : Int)

end ScriptedRays.Text
