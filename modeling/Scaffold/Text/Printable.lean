import Scaffold.Text.Blank
import Scaffold.Text.UnprintableTable

/-!
# Printable characters

Which characters a quoted text shows as they are.
-/

namespace Scaffold.Text

/-- A character that a quoted text shows as it is: every character with a visible form, and the
space. -/
def isPrintable (c : Char) : Bool :=
  if c.toNat < 0x7F then 0x20 ≤ c.toNat else !inRanges unprintableRanges c.toNat

end Scaffold.Text
