/-!
# Code points

Numbers of characters, among them those of surrogates. A high surrogate and a low one after it stand
for one character; a surrogate that stands alone stands for none.
-/

namespace Scaffold.Text

/-! ## Surrogates -/

/-- A surrogate that begins a pair. -/
def isHighSurrogate (n : Nat) : Bool := 0xD800 ≤ n && n ≤ 0xDBFF

/-- A surrogate that ends a pair. -/
def isLowSurrogate (n : Nat) : Bool := 0xDC00 ≤ n && n ≤ 0xDFFF

/-- The code point of a pair of surrogates. -/
def pairCodePoint (high low : Nat) : Nat := 0x10000 + (high - 0xD800) * 0x400 + (low - 0xDC00)

/-- Code points with one number for each pair of surrogates. -/
def joinSurrogates : List Nat → List Nat
  | high :: low :: rest =>
    if isHighSurrogate high && isLowSurrogate low then
      pairCodePoint high low :: joinSurrogates rest
    else high :: joinSurrogates (low :: rest)
  | points => points

/-! ## Characters -/

/-- The character of a code point. A surrogate is none. -/
def codePointChar? (n : Nat) : Option Char :=
  if isHighSurrogate n || isLowSurrogate n then none else some (Char.ofNat n)

/-- The characters of code points, among which no surrogate may stand alone. -/
def codePointChars? (points : List Nat) : Option (List Char) :=
  (joinSurrogates points).mapM codePointChar?

/-- The code points of the first `count` characters. -/
def codePointsOf : Nat → List Nat → List Nat
  | 0, _ => []
  | count + 1, high :: low :: rest =>
    if isHighSurrogate high && isLowSurrogate low then high :: low :: codePointsOf count rest
    else high :: codePointsOf count (low :: rest)
  | _ + 1, points => points

end Scaffold.Text
