import ScriptedRays.Number.Rounding

/-!
# Double — binary64 numbers as bit patterns

A script number is kept as its 64 bits, so that zeros of both signs, subnormal numbers and NaN
payloads stay apart.  A finite number is `± units / 2 ^ 1074`, with `units` a natural number; every
question about its value is answered there, in exact arithmetic.
-/

namespace ScriptedRays

/-- A binary64 number by its bits. -/
structure Double where
  bits : UInt64
  deriving DecidableEq, Inhabited

namespace Double

/-- The pattern of positive infinity. -/
def infinityBits : Nat := 0x7FF0000000000000

/-- The bit above all others, set in negative numbers. -/
def signBit : Nat := 0x8000000000000000

/-- The bit above the fraction.  In a significand it leads, and the pattern leaves it out. -/
def leadingBit : Nat := 0x10000000000000

/-- The exponent that turns units into ones: a unit is `2 ^ (-1074)`. -/
def unitExponent : Nat := 1074

def negative (x : Double) : Bool := decide (signBit ≤ x.bits.toNat)

/-- The bits below the sign. -/
def magnitude (x : Double) : Nat := x.bits.toNat % signBit

def exponentField (x : Double) : Nat := x.magnitude / leadingBit

def fraction (x : Double) : Nat := x.magnitude % leadingBit

def isNaN (x : Double) : Bool := decide (infinityBits < x.magnitude)

def isFinite (x : Double) : Bool := decide (x.magnitude < infinityBits)

def isZero (x : Double) : Bool := decide (x.magnitude = 0)

/-- The significand of a finite number, with the leading bit that the pattern leaves out. -/
def significand (x : Double) : Nat :=
  if x.exponentField = 0 then x.fraction else leadingBit + x.fraction

/-- The place of the significand's last bit, counted in doublings of a unit. -/
def place (x : Double) : Nat := x.exponentField - 1

/-- The distance of a finite number from zero, in units. -/
def units (x : Double) : Nat := x.significand <<< x.place

/-- The whole part of a finite number's distance from zero. -/
def whole (x : Double) : Nat := x.units >>> unitExponent

/-- Equality of numbers: zeros of both signs are equal, and a NaN equals nothing. -/
def eqv (x y : Double) : Bool :=
  !x.isNaN && !y.isNaN && (x.bits == y.bits || (x.isZero && y.isZero))

/-- The pattern with the given sign and magnitude bits. -/
def ofSignMagnitude (negative : Bool) (magnitude : Nat) : Double :=
  ⟨UInt64.ofNat ((if negative then signBit else 0) + magnitude)⟩

/-- The number nearest to the fraction `num / den`; from the halfway point past the largest finite
number on, infinity. -/
def ofRatio (negative : Bool) (num den : Nat) : Double :=
  ofSignMagnitude negative (min infinityBits (Rounding.encode 53 (num <<< unitExponent) den))

/-- A natural number below `2 ^ 53`, exactly; a larger one to nearest. -/
def ofNat (n : Nat) : Double := ofRatio false n 1

/-- The whole part as a 32-bit word: defined from just above minus one to just below `2 ^ 32`. -/
def toUInt32? (x : Double) : Option UInt32 :=
  if x.isFinite = true ∧ x.whole < UInt32.size ∧ (x.negative = true → x.whole = 0) then
    some (UInt32.ofNat x.whole)
  else none

theorem eqv_comm (x y : Double) : x.eqv y = y.eqv x := by
  simp only [eqv, Bool.beq_comm (a := x.bits)]
  grind

theorem eqv_self (x : Double) : x.eqv x = !x.isNaN := by
  simp [eqv]

end Double

end ScriptedRays
