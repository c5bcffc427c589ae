import Scaffold.Number.Binary64

/-!
# Shortest digits

The fewest decimal digits that identify a floating-point number, and the nearest such digits to its
value. The digits are searched for grid by grid in exact arithmetic: on the grid of `n` digits the
two neighbours of the value are tried, for `n = 1, 2, …, 17`.
-/

namespace Scaffold.Binary64

/-! ## The interval of a number -/

/-- Decimal digits `digits` before the exponent `exponent`, standing for `digits * 10 ^ exponent`. -/
structure Digits where
  digits : Nat
  exponent : Int
  deriving DecidableEq, Repr

/-- The values that round to `mantissa * 2 ^ exponent`, in units of `2 ^ (exponent - 2)`: the lower
end and the upper end. The gap below a power of two is half as wide. -/
def roundingEnds (mantissa : Nat) (exponent : Int) : Nat × Nat :=
  let lower := if mantissa == leastMantissa && leastExponent < exponent then 1 else 2
  (4 * mantissa - lower, 4 * mantissa + 2)

/-- Comparison of `a * 2 ^ e` with `b * 10 ^ k` by cross multiplication. -/
def compareScaled (a : Nat) (e : Int) (b : Nat) (k : Int) : Ordering :=
  compare (a * Nat.pow 2 e.toNat * Nat.pow 10 (-k).toNat)
    (b * Nat.pow 10 k.toNat * Nat.pow 2 (-e).toNat)

/-- The decimal `digits * 10 ^ k` rounds to `mantissa * 2 ^ exponent`. The ends of the interval
belong to it exactly when the mantissa is even. -/
def readsBack (mantissa : Nat) (exponent : Int) (digits : Nat) (k : Int) : Bool :=
  let ends := roundingEnds mantissa exponent
  let low := compareScaled ends.1 (exponent - 2) digits k
  let high := compareScaled ends.2 (exponent - 2) digits k
  let closed := mantissa % 2 == 0
  (low == .lt || (closed && low == .eq)) && (high == .gt || (closed && high == .eq))

/-! ## The search -/

/-- The least `k` with `mantissa * 2 ^ exponent < 10 ^ k`, found by at most `fuel` corrections of a
first guess. -/
def decimalScale (mantissa : Nat) (exponent : Int) : Nat → Int → Int
  | 0, k => k
  | fuel + 1, k =>
    if compareScaled mantissa exponent 1 k != .lt then decimalScale mantissa exponent fuel (k + 1)
    else if compareScaled mantissa exponent 1 (k - 1) == .lt then
      decimalScale mantissa exponent fuel (k - 1)
    else k

/-- A first guess of the scale from the binary logarithm: `30103 / 100000` is close to the decimal
logarithm of two. -/
def scaleGuess (mantissa : Nat) (exponent : Int) : Int :=
  ((Nat.log2 mantissa : Int) + exponent) * 30103 / 100000 + 1

/-- The value divided by `10 ^ k`, rounded down. -/
def floorScaled (mantissa : Nat) (exponent k : Int) : Nat :=
  (mantissa * Nat.pow 2 exponent.toNat * Nat.pow 10 (-k).toNat)
    / (Nat.pow 10 k.toNat * Nat.pow 2 (-exponent).toNat)

/-- The neighbour of the value on the grid of `10 ^ k` that reads back, the nearer one if both do. -/
def onGrid? (mantissa : Nat) (exponent : Int) (k : Int) : Option Nat :=
  let below := floorScaled mantissa exponent k
  let lowHit := below != 0 && readsBack mantissa exponent below k
  let highHit := readsBack mantissa exponent (below + 1) k
  match lowHit, highHit with
  | true, true =>
    match compareScaled (2 * mantissa) exponent (2 * below + 1) k with
    | .lt => some below
    | .gt => some (below + 1)
    | .eq => some (if below % 2 == 0 then below else below + 1)
  | true, false => some below
  | false, true => some (below + 1)
  | false, false => none

/-- Searches the grids of `count` and more digits below `10 ^ scale`. -/
def searchGrids (mantissa : Nat) (exponent scale : Int) : Nat → Int → Option Digits
  | 0, _ => none
  | fuel + 1, count =>
    match onGrid? mantissa exponent (scale - count) with
    | some digits => some ⟨digits, scale - count⟩
    | none => searchGrids mantissa exponent scale fuel (count + 1)

/-- The exact decimal value of `mantissa * 2 ^ exponent`. -/
def exactDigits (mantissa : Nat) (exponent : Int) : Digits :=
  if 0 ≤ exponent then ⟨mantissa * Nat.pow 2 exponent.toNat, 0⟩
  else ⟨mantissa * Nat.pow 5 (-exponent).toNat, exponent⟩

/-- Moves trailing zeros of the digits into the exponent. -/
def stripZeros : Nat → Digits → Digits
  | 0, d => d
  | fuel + 1, d =>
    if d.digits != 0 && d.digits % 10 == 0 then stripZeros fuel ⟨d.digits / 10, d.exponent + 1⟩
    else d

/-- The fewest digits that identify the positive number `mantissa * 2 ^ exponent`. -/
def shortest (mantissa : Nat) (exponent : Int) : Digits :=
  let scale := decimalScale mantissa exponent 8 (scaleGuess mantissa exponent)
  let found := (searchGrids mantissa exponent scale 17 1).getD (exactDigits mantissa exponent)
  stripZeros 20 found

end Scaffold.Binary64
