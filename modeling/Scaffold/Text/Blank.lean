/-!
# Blank characters

What counts as white space in names, tags, list entries and file contents, and how texts are
trimmed by it. Trimming is defined on lists of characters, so that it can be reasoned about, and
lifted to strings.
-/

namespace Scaffold.Text

/-! ## The class -/

/-- The ranges of blank characters: the ASCII layout and separator controls, the space, the
next-line control, and every space, line and paragraph separator of Unicode. -/
def blankRanges : List (Nat × Nat) := [
  (0x09, 0x0D), (0x1C, 0x20), (0x85, 0x85), (0xA0, 0xA0), (0x1680, 0x1680), (0x2000, 0x200A),
  (0x2028, 0x2029), (0x202F, 0x202F), (0x205F, 0x205F), (0x3000, 0x3000)]

/-- Membership of a code point in a list of closed ranges. -/
def inRanges (ranges : List (Nat × Nat)) (n : Nat) : Bool :=
  ranges.any fun r => r.1 ≤ n && n ≤ r.2

/-- A blank character. Zero-width spaces and the byte-order mark are not blank. -/
def isBlank (c : Char) : Bool :=
  inRanges blankRanges c.toNat

/-! ## Trimming -/

/-- A list of characters without its leading blanks. -/
def trimStartChars (cs : List Char) : List Char :=
  cs.dropWhile isBlank

/-- A list of characters without its trailing blanks. -/
def trimEndChars (cs : List Char) : List Char :=
  (cs.reverse.dropWhile isBlank).reverse

/-- A list of characters without the blanks at either end. -/
def trimChars (cs : List Char) : List Char :=
  trimEndChars (trimStartChars cs)

/-- A text without the blanks at either end. -/
def trim (s : String) : String :=
  String.ofList (trimChars s.toList)

/-- A text that holds nothing but blanks. -/
def isBlankText (s : String) : Bool :=
  s.toList.all isBlank

/-- Trimming takes blanks away and nothing else. -/
theorem exists_eq_append_trimChars (cs : List Char) :
    ∃ before after, cs = before ++ trimChars cs ++ after
      ∧ before.all isBlank = true ∧ after.all isBlank = true := by
  refine ⟨cs.takeWhile isBlank, ((trimStartChars cs).reverse.takeWhile isBlank).reverse, ?_, ?_, ?_⟩
  · rw [List.append_assoc, trimChars, trimEndChars, ← List.reverse_append,
      List.takeWhile_append_dropWhile, List.reverse_reverse, trimStartChars,
      List.takeWhile_append_dropWhile]
  · exact List.all_takeWhile
  · rw [List.all_reverse]
    exact List.all_takeWhile

/-- What is left of a text of blanks is nothing. -/
theorem trimChars_eq_nil {cs : List Char} (h : cs.all isBlank = true) : trimChars cs = [] := by
  have start : trimStartChars (cs ++ []) = [] :=
    List.dropWhile_append_of_pos fun c hc => List.all_eq_true.1 h c hc
  rw [List.append_nil] at start
  rw [trimChars, start]
  rfl

end Scaffold.Text
