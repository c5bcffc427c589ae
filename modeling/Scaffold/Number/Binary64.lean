/-!
# Binary floating-point numbers

Sixty-four-bit floating-point numbers, held exactly: a sign, a whole mantissa and a power of two.
Every operation is exact arithmetic on whole numbers followed by one rounding to the nearest
number, ties to the even mantissa.
-/

namespace Scaffold

/-! ## The numbers -/

/-- A floating-point number. A finite one stands for `± mantissa * 2 ^ exponent`; the operations
below keep the mantissa below `2 ^ 53`, the exponent at `-1074` or above, and the mantissa at
`2 ^ 52` or above unless the exponent is the least, so that each number has one form. -/
inductive Binary64 where
  | nan
  | infinite (negative : Bool)
  | finite (negative : Bool) (mantissa : Nat) (exponent : Int)
  deriving DecidableEq, Repr

namespace Binary64

/-- The least exponent. -/
def leastExponent : Int := -1074

/-- The greatest exponent. -/
def greatestExponent : Int := 971

/-- The least mantissa of a number whose exponent is not the least, which is `2 ^ 52`. -/
def leastMantissa : Nat := 4503599627370496

/-- Zero with a sign. -/
def zero (negative : Bool) : Binary64 := .finite negative 0 leastExponent

/-! ## Rounding -/

/-- The whole number nearest to `num / den`, ties to the even one. -/
def roundHalfEven (num den : Nat) : Nat :=
  let q := num / den
  let twice := 2 * (num % den)
  if twice > den || (twice == den && q % 2 == 1) then q + 1 else q

/-- Numerator and denominator of `num / den` divided by `2 ^ e`. -/
def shift (num den : Nat) (e : Int) : Nat × Nat :=
  if 0 ≤ e then (num, den * Nat.pow 2 e.toNat) else (num * Nat.pow 2 (-e).toNat, den)

/-- The greatest `e` with `2 ^ e ≤ num / den`, for a positive quotient. -/
def floorLog2 (num den : Nat) : Int :=
  let guess : Int := (Nat.log2 num : Int) - Nat.log2 den
  let s := shift num den guess
  if s.2 ≤ s.1 then guess else guess - 1

/-- The number nearest to `± num / den`. A quotient past the greatest finite number is infinite. -/
def ofRatio (negative : Bool) (num den : Nat) : Binary64 :=
  if num == 0 then zero negative
  else
    let e := max (floorLog2 num den - 52) leastExponent
    let s := shift num den e
    let m := roundHalfEven s.1 s.2
    let (m, e) := if m == 2 * leastMantissa then (leastMantissa, e + 1) else (m, e)
    if greatestExponent < e then .infinite negative else .finite negative m e

/-- The number nearest to a whole number. -/
def ofInt (n : Int) : Binary64 :=
  ofRatio (n < 0) n.natAbs 1

/-- The number nearest to `± digits * 10 ^ exponent`. Exponents far outside the range are decided
without computing the power. -/
def ofDecimal (negative : Bool) (digits : Nat) (exponent : Int) : Binary64 :=
  if digits == 0 then zero negative
  else
    let magnitude : Int := (toString digits).length + exponent
    if 400 < magnitude then .infinite negative
    else if magnitude < -400 then zero negative
    else if 0 ≤ exponent then ofRatio negative (digits * Nat.pow 10 exponent.toNat) 1
    else ofRatio negative digits (Nat.pow 10 (-exponent).toNat)

/-! ## Reading a number apart -/

/-- Numerator and denominator of the magnitude of a finite number. -/
def ratio (mantissa : Nat) (exponent : Int) : Nat × Nat :=
  shift mantissa 1 (-exponent)

/-- A finite number as a sign, a numerator and a denominator. -/
def toRatio? : Binary64 → Option (Bool × Nat × Nat)
  | .finite negative m e => some (negative, ratio m e)
  | _ => none

/-- Not a number. -/
def isNaN : Binary64 → Bool
  | .nan => true
  | _ => false

/-- One of the two zeros. -/
def isZero : Binary64 → Bool
  | .finite _ 0 _ => true
  | _ => false

/-- The whole number that a finite number equals, if there is one. -/
def toInt? (x : Binary64) : Option Int :=
  match x.toRatio? with
  | some (negative, num, den) =>
    if num % den == 0 then some (if negative then -((num / den : Nat) : Int) else (num / den : Nat))
    else none
  | none => none

/-- Equality of values: the zeros are equal, and nothing equals a number that is not one. -/
def sameValue : Binary64 → Binary64 → Bool
  | .nan, _ => false
  | _, .nan => false
  | x, y => (x.isZero && y.isZero) || x == y

/-! ## Arithmetic -/

/-- The sum of two signed quotients, rounded; an exact zero is positive. -/
def addRatio (n₁ : Bool) (a b : Nat) (n₂ : Bool) (c d : Nat) : Binary64 :=
  let left : Int := if n₁ then -((a * d : Nat) : Int) else (a * d : Nat)
  let right : Int := if n₂ then -((c * b : Nat) : Int) else (c * b : Nat)
  ofRatio (left + right < 0) (left + right).natAbs (b * d)

/-- The sum of two numbers, rounded. Infinite numbers of both signs have none. -/
def add : Binary64 → Binary64 → Binary64
  | .finite n₁ m₁ e₁, .finite n₂ m₂ e₂ =>
    let (a, b) := ratio m₁ e₁
    let (c, d) := ratio m₂ e₂
    addRatio n₁ a b n₂ c d
  | .infinite n₁, .infinite n₂ => if n₁ == n₂ then .infinite n₁ else .nan
  | .infinite n, .finite _ _ _ => .infinite n
  | .finite _ _ _, .infinite n => .infinite n
  | .nan, _ => .nan
  | _, .nan => .nan

/-- The product of two numbers, rounded. An infinite number and zero have none. -/
def mul : Binary64 → Binary64 → Binary64
  | .finite n₁ m₁ e₁, .finite n₂ m₂ e₂ =>
    let (a, b) := ratio m₁ e₁
    let (c, d) := ratio m₂ e₂
    ofRatio (n₁ != n₂) (a * c) (b * d)
  | .infinite n₁, .infinite n₂ => .infinite (n₁ != n₂)
  | .infinite n₁, .finite n₂ m _ => if m == 0 then .nan else .infinite (n₁ != n₂)
  | .finite n₁ m _, .infinite n₂ => if m == 0 then .nan else .infinite (n₁ != n₂)
  | .nan, _ => .nan
  | _, .nan => .nan

end Binary64

end Scaffold
