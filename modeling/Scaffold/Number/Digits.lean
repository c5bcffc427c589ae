import Scaffold.Number.Notation

/-!
# Long numerals

Whole numbers are read from decimal digits, and written in them, up to a length that keeps both
fast.
-/

namespace Scaffold

/-- The greatest number of decimal digits that a whole number is read from or written in. -/
def digitLimit : Nat := 4300

/-- A fault of a numeral or a number with too many digits; `detail` says how many. -/
def digitLimitMessage (detail : String) : String :=
  "Exceeds the limit (" ++ toString digitLimit ++ " digits) for integer string conversion" ++ detail
    ++ "; use sys.set_int_max_str_digits() to increase the limit"

/-- A numeral with too many digits. -/
structure TooManyDigits where
  count : Nat
  deriving DecidableEq, Repr

/-- The text of the fault. -/
def TooManyDigits.message (f : TooManyDigits) : String :=
  digitLimitMessage (": value has " ++ toString f.count ++ " digits")

/-- The least whole number with too many digits to be written. -/
def unwritableSize : Nat := Nat.pow 10 digitLimit

end Scaffold
