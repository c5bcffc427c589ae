import Scaffold.Text.Case

/-!
# Words of a name

A free-form name is read as a sequence of words of ASCII letters and digits, and put together again
in the spellings of generated code. Every capital letter opens a word, so a spelling splits back into
the words it was built from, except that a word which begins with a digit is read as part of the word
before it.
-/

namespace Scaffold.Name

open Text

/-! ## Splitting -/

/-- A small ASCII letter or a digit: a character that does not open a word after another one. -/
def isSmall (c : Char) : Bool := isLowerAscii c || isDigitAscii c

/-- Puts a character in front of the first word. -/
def attach (c : Char) : List (List Char) → List (List Char)
  | [] => [[c]]
  | word :: words => (c :: word) :: words

/-- The next character goes on with the word before it. -/
def continuesWord : List Char → Bool
  | [] => false
  | c :: _ => isSmall c

/-- The words of a name as written: a capital letter opens a word, and so does a small letter or a
digit after anything that is neither letter nor digit. -/
def splitWords : List Char → List (List Char)
  | [] => []
  | c :: rest =>
    if !isWordAscii c then splitWords rest
    else if continuesWord rest then attach c (splitWords rest)
    else [c] :: splitWords rest

/-- The words of a name are its letters and digits in their order. -/
theorem flatten_splitWords (cs : List Char) : (splitWords cs).flatten = cs.filter isWordAscii := by
  induction cs with
  | nil => rfl
  | cons c rest ih =>
    rw [splitWords]
    split
    next h =>
      rw [Bool.not_eq_true'] at h
      rw [ih, List.filter_cons_of_neg (Bool.not_eq_true _ ▸ h)]
    next h =>
      rw [Bool.not_eq_true', Bool.not_eq_false] at h
      rw [List.filter_cons_of_pos h, ← ih]
      split
      · cases splitWords rest <;> rfl
      · rfl

/-- No word is empty. -/
theorem ne_nil_of_mem_splitWords {cs word : List Char} (h : word ∈ splitWords cs) : word ≠ [] := by
  induction cs generalizing word with
  | nil => exact absurd h List.not_mem_nil
  | cons c rest ih =>
    rw [splitWords] at h
    split at h
    · exact ih h
    · split at h
      · cases hw : splitWords rest with
        | nil =>
          rw [hw, attach, List.mem_singleton] at h
          rw [h]
          exact List.cons_ne_nil _ _
        | cons first others =>
          rw [hw, attach] at h
          rcases List.mem_cons.1 h with rfl | h
          · exact List.cons_ne_nil _ _
          · exact ih (hw ▸ List.mem_cons_of_mem _ h)
      · rcases List.mem_cons.1 h with rfl | h
        · exact List.cons_ne_nil _ _
        · exact ih h

/-- The words of a name in small letters. -/
def words (name : String) : List (List Char) :=
  (splitWords name.toList).map fun word => word.map lowerAscii

/-! ## Spellings -/

/-- A word with a capital at the start. -/
def capitalize : List Char → List Char
  | [] => []
  | c :: rest => upperAscii c :: rest

/-- Words put together, each with a capital: `product items` is `ProductItems`. -/
def pascal (name : String) : String :=
  String.ofList ((words name).flatMap capitalize)

/-- Words put together, each but the first with a capital: `Product Items` is `productItems`. -/
def camel (name : String) : String :=
  match words name with
  | [] => ""
  | first :: rest => String.ofList (first ++ rest.flatMap capitalize)

/-- Words in capitals with underscores between them: `product items` is `PRODUCT_ITEMS`. -/
def constant (name : String) : String :=
  String.ofList (['_'].intercalate ((words name).map fun word => word.map upperAscii))

/-- The camel spelling of a name, or a given name if it has no words. -/
def camelOr (default name : String) : String :=
  let c := camel name
  if c.isEmpty then default else c

end Scaffold.Name
