import ScriptedRays.Number.Double
import ScriptedRays.Text.Integer
import ScriptedRays.Toml.Quotation

/-!
# Scalar — numbers, truth values and dates in a document

No setting takes any of these, so reading one only tells that it is well formed: digits grouped by
single underscores, integers of 64 bits, floating-point numbers that stay finite towards positive
infinity, dates of the calendar.
-/

namespace ScriptedRays.Toml.Reader

/-- Digits of a class, with single underscores between some of them. -/
def grouped (p : Char → Bool) : Reader (List Char) := do
  let first ← oneOf p
  let more ← many (oneOf p <|> exactly ['_'] *> oneOf p)
  return first :: more

/-- A sign, if any: whether it is a minus. -/
def sign : Reader Bool := do
  match ← optional (oneOf fun c => c == '+' || c == '-') with
  | some c => return c == '-'
  | none => return false

/-- An integer part: a zero alone, or digits that start with another one. -/
def wholePart : Reader (List Char) :=
  (do return [← oneOf (· == '0')]) <|> grouped Char.isDigit

/-- An exponent: its sign and its digits. -/
def exponent : Reader Int := do
  discard (oneOf fun c => c == 'e' || c == 'E')
  let negative ← sign
  let n := numeral 10 (← grouped Char.isDigit)
  return if negative then -(n : Int) else n

/-- Whether digits times a power of ten go beyond the largest finite number. -/
def isHuge (digits : List Char) (power : Int) : Bool :=
  let n := numeral 10 digits
  if n = 0 ∨ power + digits.length < 300 then false
  else if 400 < power then true
  else
    let num := n * Nat.pow 10 power.toNat
    let den := Nat.pow 10 (-power).toNat
    !(Double.ofRatio false num den).isFinite

/-- A number in decimal digits. -/
def decimalNumber : Reader Unit := do
  let negative ← sign
  let whole ← wholePart
  let fraction ← optional (exactly ['.'] *> grouped Char.isDigit)
  let power ← optional exponent
  match fraction, power with
  | none, none =>
    guard (numeral 10 whole ≤ Text.largestInteger + (if negative then 1 else 0))
  | _, _ =>
    let places := fraction.getD []
    guard (negative || !isHuge (whole ++ places) (power.getD 0 - places.length))

/-- An integer in another base, after its mark. -/
def basedNumber (mark : Char) (base : Nat) (p : Char → Bool) : Reader Unit := do
  exactly ['0', mark]
  guard (numeral base (← grouped p) ≤ Text.largestInteger)

/-- Infinity, or no number, perhaps with a sign. -/
def specialNumber : Reader Unit := do
  discard sign
  exactly ['i', 'n', 'f'] <|> exactly ['n', 'a', 'n']

/-- A number of exactly so many digits within bounds. -/
def bounded (count low high : Nat) : Reader Nat := do
  let n := numeral 10 (← times (oneOf Char.isDigit) count)
  guard (low ≤ n ∧ n ≤ high)
  return n

/-- The days of a month. -/
def daysIn (year month : Nat) : Nat :=
  if month = 2 then
    if year % 4 = 0 ∧ (year % 100 ≠ 0 ∨ year % 400 = 0) then 29 else 28
  else if month = 4 ∨ month = 6 ∨ month = 9 ∨ month = 11 then 30
  else 31

def date : Reader Unit := do
  let year ← bounded 4 0 9999
  exactly ['-']
  let month ← bounded 2 1 12
  exactly ['-']
  discard (bounded 2 1 (daysIn year month))

/-- A time of day; a minute may have a leap second. -/
def time : Reader Unit := do
  discard (bounded 2 0 23)
  exactly [':']
  discard (bounded 2 0 59)
  exactly [':']
  discard (bounded 2 0 60)
  discard (optional (exactly ['.'] *> run1 Char.isDigit))

/-- The distance from universal time. -/
def offset : Reader Unit :=
  discard (oneOf fun c => c == 'Z' || c == 'z') <|> do
    discard (oneOf fun c => c == '+' || c == '-')
    discard (bounded 2 0 23)
    exactly [':']
    discard (bounded 2 0 59)

/-- A date, a time, or both. -/
def moment : Reader Unit :=
  (do
    date
    discard (optional do
      discard (oneOf fun c => c == 'T' || c == 't' || c == ' ')
      time
      discard (optional offset))) <|> time

/-- A value other than a string, an array or a table. -/
def scalar : Reader Unit :=
  moment <|> basedNumber 'x' 16 isHexDigit <|>
    basedNumber 'o' 8 (fun c => decide ('0' ≤ c ∧ c ≤ '7')) <|>
    basedNumber 'b' 2 (fun c => c == '0' || c == '1') <|>
    specialNumber <|> decimalNumber <|>
    exactly ['t', 'r', 'u', 'e'] <|> exactly ['f', 'a', 'l', 's', 'e']

end ScriptedRays.Toml.Reader
