/-!
# Rounding — the nearest binary floating-point number of a fraction

A finite number of a binary format is a whole number of *units*, a unit being the least positive
number of the format.  `encode` takes a fraction of units and gives the magnitude bits (exponent
field above fraction field) of the nearest number with a significand of `precision` bits; of two
numbers equally near, the one with the even significand.
-/

namespace ScriptedRays.Rounding

/-- The whole number nearest to `num / den`, an exact half going to the even neighbour. -/
def nearest (num den : Nat) : Nat :=
  let whole := num / den
  let twice := 2 * (num % den)
  if den < twice ∨ (twice = den ∧ whole % 2 = 1) then whole + 1 else whole

/-- How many low bits of a significand of `whole` units lie below `precision` bits. -/
def excess (precision whole : Nat) : Nat :=
  if whole < 1 <<< precision then 0 else Nat.log2 whole + 1 - precision

/-- The magnitude bits of the number nearest to `num / den` units.  A significand that rounds up to
`2 ^ precision` carries into the exponent field, which is then the right one. -/
def encode (precision num den : Nat) : Nat :=
  let shift := excess precision (num / den)
  shift <<< (precision - 1) + nearest num (den <<< shift)

end ScriptedRays.Rounding
