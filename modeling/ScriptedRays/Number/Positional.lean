import ScriptedRays.Number.Shortest
import ScriptedRays.Text.Numeral

/-!
# Positional — the text of a double

Numbers are written with the fewest digits that read back and never with an exponent: zeros fill the
places up to the point, and a whole number has no point.
-/

namespace ScriptedRays.Double

/-- The digits of a decimal around its point. -/
def Decimal.positional (d : Decimal) : String :=
  let digits := Nat.toDigits 10 d.digits
  if 0 ≤ d.place then String.ofList (digits ++ List.replicate d.place.toNat '0')
  else
    let fractional := (-d.place).toNat
    let padded := List.replicate (fractional + 1 - digits.length) '0' ++ digits
    let wholeLength := padded.length - fractional
    String.ofList (padded.take wholeLength ++ '.' :: padded.drop wholeLength)

/-- The text of a number.  A negative zero keeps its sign, a NaN has none. -/
def text (x : Double) : String :=
  if x.isNaN then "NaN"
  else
    (if x.negative then "-" else "") ++
      (if !x.isFinite then "inf" else if x.isZero then "0" else x.shortest.positional)

end ScriptedRays.Double
