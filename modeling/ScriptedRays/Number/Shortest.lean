import ScriptedRays.Number.Double

/-!
# Shortest — the fewest decimal digits that read back

A double stands for the interval of reals that round to it.  `shortest` looks for the coarsest grid
`10 ^ place` with a point in that interval, and takes the grid point nearest to the double; a double
exactly between two of them takes the larger.  Distances are counted in halves of a unit, so that the
interval's ends are whole numbers.
-/

namespace ScriptedRays.Double

/-- A decimal `digits · 10 ^ place`. -/
structure Decimal where
  digits : Nat
  place : Int
  deriving DecidableEq, Inhabited

/-- The interval of reals that round to a double, in half units. -/
structure Interval where
  low : Nat
  value : Nat
  high : Nat
  closed : Bool

/-- The interval of a positive finite double.  Its ends belong to it when the significand is even;
at a power of two the gap below is half the gap above. -/
def interval (x : Double) : Interval where
  value := 2 * x.units
  high := 2 * x.units + 1 <<< x.place
  low :=
    if x.significand = leadingBit ∧ 1 < x.exponentField then 2 * x.units - 1 <<< (x.place - 1)
    else 2 * x.units - 1 <<< x.place
  closed := x.significand % 2 == 0

/-- Whether the real `num / den` half units lies in the interval. -/
def Interval.holds (i : Interval) (num den : Nat) : Bool :=
  if i.closed then decide (i.low * den ≤ num ∧ num ≤ i.high * den)
  else decide (i.low * den < num ∧ num < i.high * den)

/-- The point of the grid `10 ^ place` nearest to the interval's value, if one of the two next to it
lies in the interval.  Zero is no such point. -/
def Interval.onGrid (i : Interval) (place : Int) : Option Decimal :=
  let step := Nat.pow 10 place.toNat <<< (unitExponent + 1)
  let den := Nat.pow 10 (-place).toNat
  let below := i.value * den / step
  let fits (n : Nat) : Bool := n != 0 && i.holds (n * step) den
  match fits below, fits (below + 1) with
  | true, true =>
    if (2 * below + 1) * step ≤ 2 * (i.value * den) then some ⟨below + 1, place⟩
    else some ⟨below, place⟩
  | true, false => some ⟨below, place⟩
  | false, true => some ⟨below + 1, place⟩
  | false, false => none

/-- The places that can hold the last digit of a shortest decimal, coarsest first. -/
def places : List Int := (List.range 660).map fun (i : Nat) => 309 - (i : Int)

/-- The shortest decimal of a positive finite double. -/
def shortest (x : Double) : Decimal :=
  (places.findSome? x.interval.onGrid).getD ⟨0, 0⟩

end ScriptedRays.Double
