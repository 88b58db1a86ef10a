import ScriptedRays.Number.Double

/-!
# Single — binary32 numbers as bit patterns

Vertex positions and matrices are made of 32-bit patterns; nothing here computes with them, they are
only read, compared bit for bit, and converted from and to script numbers.
-/

namespace ScriptedRays

/-- A binary32 number by its bits. -/
structure Single where
  bits : UInt32
  deriving DecidableEq, Inhabited

namespace Single

def zero : Single := ⟨0⟩

def one : Single := ⟨0x3F800000⟩

/-- The pattern of positive infinity. -/
def infinityBits : Nat := 0x7F800000

/-- The bit above all others, set in negative numbers. -/
def signBit : Nat := 0x80000000

/-- The bit above the fraction.  In a significand it leads, and the pattern leaves it out. -/
def leadingBit : Nat := 0x800000

/-- The bit of the fraction that makes a NaN quiet. -/
def quietBit : Nat := 0x400000

/-- How many more fraction bits binary64 has. -/
def extraBits : Nat := 29

/-- A unit of binary32 holds `2 ^ unitRatio` units of binary64. -/
def unitRatio : Nat := 925

def negative (x : Single) : Bool := decide (signBit ≤ x.bits.toNat)

/-- The bits below the sign. -/
def magnitude (x : Single) : Nat := x.bits.toNat % signBit

def exponentField (x : Single) : Nat := x.magnitude / leadingBit

def fraction (x : Single) : Nat := x.magnitude % leadingBit

def isNaN (x : Single) : Bool := decide (infinityBits < x.magnitude)

def isFinite (x : Single) : Bool := decide (x.magnitude < infinityBits)

/-- The distance of a finite number from zero, in units of binary32. -/
def units (x : Single) : Nat :=
  if x.exponentField = 0 then x.fraction
  else (leadingBit + x.fraction) <<< (x.exponentField - 1)

/-- The pattern with the given sign and magnitude bits. -/
def ofSignMagnitude (negative : Bool) (magnitude : Nat) : Single :=
  ⟨UInt32.ofNat ((if negative then signBit else 0) + magnitude)⟩

/-- The nearest binary32 number.  A NaN keeps its sign and the upper bits of its payload, and is
quiet afterwards. -/
def ofDouble (x : Double) : Single :=
  ofSignMagnitude x.negative <|
    if x.isNaN then infinityBits + (quietBit ||| x.fraction >>> extraBits)
    else if x.isFinite then
      min infinityBits (Rounding.encode 24 x.units (1 <<< unitRatio))
    else infinityBits

/-- The same number in binary64.  A NaN keeps its sign and payload, and is quiet afterwards. -/
def toDouble (x : Single) : Double :=
  Double.ofSignMagnitude x.negative <|
    if x.isNaN then Double.infinityBits + (quietBit ||| x.fraction) <<< extraBits
    else if x.isFinite then Rounding.encode 53 (x.units <<< unitRatio) 1
    else Double.infinityBits

end Single

end ScriptedRays
