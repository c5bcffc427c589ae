import Scaffold.Proofs.Name.Respelling
import Scaffold.Proofs.Text.Parts

/-!
# Words read back from a spelling

A spelling is read as a name again. A capital opens a word there, but a digit has no capital: a word
that begins with a digit is read on from the word before it. So the words come back exactly if no word
but the first begins with a digit.
-/

namespace Scaffold.Name

open Text

/-! ## Words that a digit opens -/

def opensWithDigit : List Char → Bool
  | [] => false
  | c :: _ => isDigitAscii c

/-- Puts a word in front of the first word. -/
def attachWord (word : List Char) : List (List Char) → List (List Char)
  | [] => [word]
  | first :: others => (word ++ first) :: others

/-- The words as a spelling gives them back: one that begins with a digit goes on with the word before
it. -/
def glue : List (List Char) → List (List Char)
  | [] => []
  | [word] => [word]
  | word :: next :: rest =>
    if opensWithDigit next then attachWord word (glue (next :: rest)) else word :: glue (next :: rest)

/-- A spelling gives back the first word and those of the others that no digit opens. -/
theorem length_glue (word : List Char) (rest : List (List Char)) :
    (glue (word :: rest)).length = (rest.filter fun w => !opensWithDigit w).length + 1 := by
  induction rest generalizing word with
  | nil => rfl
  | cons next rest ih =>
    rw [glue]
    cases hd : opensWithDigit next with
    | true =>
      rw [if_pos rfl, List.filter_cons_of_neg (by rw [hd]; exact Bool.false_ne_true), ← ih next]
      cases hg : glue (next :: rest) with
      | nil => exact absurd (hg ▸ ih next) (Nat.succ_ne_zero _).symm
      | cons first others => rfl
    | false =>
      rw [if_neg Bool.false_ne_true, List.filter_cons_of_pos (by rw [hd]; rfl), List.length_cons, ih next,
        List.length_cons]

theorem glue_of_opensWithDigit {word : List Char} {rest : List (List Char)}
    (h : ∀ w ∈ rest, opensWithDigit w = false) : glue (word :: rest) = word :: rest := by
  induction rest generalizing word with
  | nil => rfl
  | cons next rest ih =>
    rw [glue, h next List.mem_cons_self, if_neg Bool.false_ne_true,
      ih fun w hw => h w (List.mem_cons_of_mem next hw)]

/-- The words come back exactly if no word but the first begins with a digit. -/
theorem glue_eq_self_iff {ws : List (List Char)} :
    glue ws = ws ↔ ∀ w ∈ ws.tail, opensWithDigit w = false := by
  cases ws with
  | nil => exact ⟨fun _ w hw => absurd hw List.not_mem_nil, fun _ => rfl⟩
  | cons word rest =>
    rw [List.tail_cons]
    constructor
    · intro h w hw
      have hl := length_glue word rest
      rw [h, List.length_cons, Nat.add_right_cancel_iff, eq_comm, List.length_filter_eq_length_iff] at hl
      rw [← Bool.not_eq_true']
      exact hl w hw
    · exact glue_of_opensWithDigit

/-! ## Spellings read again -/

/-- A letter or a digit and small letters after it are one word, and the first word after them goes on
with it if it begins small. -/
theorem splitWords_append {c : Char} {cs : List Char} (hc : isWordAscii c = true)
    (hcs : ∀ d ∈ cs, isSmall d = true) (rest : List Char) :
    splitWords (c :: (cs ++ rest))
      = if continuesWord rest then attachWord (c :: cs) (splitWords rest)
        else (c :: cs) :: splitWords rest := by
  induction cs generalizing c with
  | nil =>
    rw [List.nil_append, splitWords, hc, Bool.not_true, if_neg Bool.false_ne_true]
    cases splitWords rest <;> rfl
  | cons d ds ih =>
    have hd : isSmall d = true := hcs d List.mem_cons_self
    have hword : isWordAscii d = true := isWordAscii_of_small (Bool.or_eq_true _ _ ▸ hd)
    rw [splitWords, hc, Bool.not_true, if_neg Bool.false_ne_true, List.cons_append, continuesWord, hd,
      if_pos rfl, ih hword fun e he => hcs e (List.mem_cons_of_mem d he)]
    cases continuesWord rest with
    | true => cases splitWords rest <;> rfl
    | false => rfl

/-- With a capital a word goes on with the one before it exactly if it begins with a digit. -/
theorem isSmall_upperAscii (c : Char) : isSmall (upperAscii c) = isDigitAscii c := by
  cases hl : isLowerAscii c with
  | true =>
    have hc := isLowerAscii_iff.1 hl
    rw [Bool.eq_iff_iff, isSmall_iff, isLowerAscii_iff, isDigitAscii_iff, isDigitAscii_iff,
      toNat_upperAscii_of_isLower hl]
    omega
  | false => rw [upperAscii_of_not_isLower hl, isSmall, hl, Bool.false_or]

/-- A word of small letters and digits. -/
def IsSmallWord (w : List Char) : Prop := w ≠ [] ∧ ∀ c ∈ w, isSmall c = true

theorem isSmallWord_of_mem_words {name : String} {w : List Char} (h : w ∈ words name) : IsSmallWord w :=
  ⟨ne_nil_of_mem_words h, fun _ hc => isSmall_iff.2 (small_of_mem_words h hc)⟩

theorem map_lowerAscii_of_isSmall {cs : List Char} (h : ∀ c ∈ cs, isSmall c = true) :
    cs.map lowerAscii = cs := by
  rw [List.map_congr_left fun c hc => lowerAscii_of_isSmall (h c hc), List.map_id']

/-- In small letters the word in front is in small letters. -/
theorem map_attachWord (word : List Char) (ws : List (List Char)) :
    (attachWord word ws).map (List.map lowerAscii)
      = attachWord (word.map lowerAscii) (ws.map (List.map lowerAscii)) := by
  cases ws with
  | nil => rfl
  | cons first others => rw [attachWord, List.map_cons, List.map_append]; rfl

/-- Words that are put together, each but the first with a capital, are read as the words that a
spelling gives back. -/
theorem splitWords_flatMap_capitalize {c : Char} {cs : List Char} {rest : List (List Char)}
    (hc : isWordAscii c = true) (hcs : ∀ d ∈ cs, isSmall d = true) (hrest : ∀ w ∈ rest, IsSmallWord w) :
    (splitWords (c :: (cs ++ rest.flatMap capitalize))).map (List.map lowerAscii)
      = glue ((lowerAscii c :: cs) :: rest) := by
  -- the word is read off, and the rest are words that begin with a capital or a digit
  induction rest generalizing c cs with
  | nil =>
    rw [splitWords_append hc hcs, List.flatMap_nil, continuesWord, if_neg Bool.false_ne_true, splitWords,
      List.map_cons, List.map_cons, map_lowerAscii_of_isSmall hcs]
    rfl
  | cons next rest ih =>
    obtain ⟨hne, hsmall⟩ := hrest next List.mem_cons_self
    cases next with
    | nil => exact absurd rfl hne
    | cons d ds =>
      have hd : isSmall d = true := hsmall d List.mem_cons_self
      have hagain := ih (isWordAscii_upperAscii (isWordAscii_of_isSmall hd))
        (fun e he => hsmall e (List.mem_cons_of_mem d he)) fun w hw => hrest w (List.mem_cons_of_mem _ hw)
      rw [lowerAscii_upperAscii, lowerAscii_of_isSmall hd] at hagain
      rw [splitWords_append hc hcs, List.flatMap_cons, capitalize, List.cons_append, continuesWord,
        isSmall_upperAscii d, glue, opensWithDigit, ← hagain]
      cases isDigitAscii d with
      | true =>
        rw [if_pos rfl, if_pos rfl, map_attachWord, List.map_cons, map_lowerAscii_of_isSmall hcs]
      | false =>
        rw [if_neg Bool.false_ne_true, if_neg Bool.false_ne_true, List.map_cons, List.map_cons,
          map_lowerAscii_of_isSmall hcs]

theorem words_camel (name : String) : words (camel name) = glue (words name) := by
  cases h : words name with
  | nil => rw [camel, h]; rfl
  | cons first rest =>
    have hall : ∀ w ∈ first :: rest, IsSmallWord w := fun w hw => isSmallWord_of_mem_words (h ▸ hw)
    obtain ⟨hne, hsmall⟩ := hall first List.mem_cons_self
    cases first with
    | nil => exact absurd rfl hne
    | cons c cs =>
      have hc : isSmall c = true := hsmall c List.mem_cons_self
      rw [words, toList_camel h, List.cons_append,
        splitWords_flatMap_capitalize (isWordAscii_of_isSmall hc)
          (fun d hd => hsmall d (List.mem_cons_of_mem c hd))
          fun w hw => hall w (List.mem_cons_of_mem _ hw),
        lowerAscii_of_isSmall hc]

/-- A Pascal spelling has the words of the camel spelling. -/
theorem words_pascal (name : String) : words (pascal name) = words (camel name) := by
  rw [words_camel]
  cases h : words name with
  | nil => rw [words, toList_pascal, h]; rfl
  | cons first rest =>
    have hall : ∀ w ∈ first :: rest, IsSmallWord w := fun w hw => isSmallWord_of_mem_words (h ▸ hw)
    obtain ⟨hne, hsmall⟩ := hall first List.mem_cons_self
    cases first with
    | nil => exact absurd rfl hne
    | cons c cs =>
      have hc : isSmall c = true := hsmall c List.mem_cons_self
      rw [words, toList_pascal, h, List.flatMap_cons, capitalize, List.cons_append,
        splitWords_flatMap_capitalize (isWordAscii_upperAscii (isWordAscii_of_isSmall hc))
          (fun d hd => hsmall d (List.mem_cons_of_mem c hd))
          fun w hw => hall w (List.mem_cons_of_mem _ hw),
        lowerAscii_upperAscii, lowerAscii_of_isSmall hc]

/-! ## Constants -/

theorem map_lowerAscii_upperAscii {w : List Char} (h : IsSmallWord w) :
    (w.map upperAscii).map lowerAscii = w := by
  rw [List.map_map, List.map_congr_left fun c hc => ?_, List.map_id']
  rw [Function.comp_apply, lowerAscii_upperAscii, lowerAscii_of_isSmall (h.2 c hc)]

theorem underscore_not_mem {w : List Char} (h : IsSmallWord w) : '_' ∉ w.map upperAscii := by
  intro hm
  obtain ⟨c, hc, he⟩ := List.mem_map.1 hm
  exact ne_of_isWordAscii (isWordAscii_upperAscii (isWordAscii_of_isSmall (h.2 c hc))) (by decide) he

/-- The words of a name are the parts of its constant in small letters. -/
theorem words_eq_partsBetween_constant (name : String) :
    words name = ((partsBetween '_' (constant name).toList).filter fun part => !part.isEmpty).map
      (List.map lowerAscii) := by
  have hsmall : ∀ w ∈ words name, IsSmallWord w := fun _ => isSmallWord_of_mem_words
  rw [constant, String.toList_ofList]
  generalize words name = ws at hsmall
  cases ws with
  | nil => rfl
  | cons first rest =>
    have hne : (first :: rest).map (fun word => word.map upperAscii) ≠ [] := List.cons_ne_nil _ _
    rw [partsBetween_intercalate hne, List.filter_eq_self.2, List.map_map, List.map_congr_left, List.map_id']
    · exact fun w hw => map_lowerAscii_upperAscii (hsmall w hw)
    · intro part hp
      obtain ⟨w, hw, rfl⟩ := List.mem_map.1 hp
      rw [List.isEmpty_map, Bool.not_eq_true', List.isEmpty_eq_false_iff]
      exact (hsmall w hw).1
    · intro part hp
      obtain ⟨w, hw, rfl⟩ := List.mem_map.1 hp
      exact underscore_not_mem (hsmall w hw)

/-- Names have one constant exactly if they have the same words. -/
theorem constant_eq_iff {s t : String} : constant s = constant t ↔ words s = words t := by
  constructor
  · intro h
    rw [words_eq_partsBetween_constant, h, ← words_eq_partsBetween_constant]
  · intro h
    rw [constant, h, constant]

/-! ## Words that come back -/

/-- The words of a name come back from its spellings, and its constant is the constant of its camel
spelling, exactly if no word but the first begins with a digit. -/
theorem words_come_back_iff (name : String) :
    (words (camel name) = words name ↔ ∀ w ∈ (words name).tail, opensWithDigit w = false)
      ∧ (words (pascal name) = words name ↔ ∀ w ∈ (words name).tail, opensWithDigit w = false)
      ∧ (constant (camel name) = constant name ↔ ∀ w ∈ (words name).tail, opensWithDigit w = false) := by
  have hcamel : words (camel name) = words name ↔ ∀ w ∈ (words name).tail, opensWithDigit w = false := by
    rw [words_camel]
    exact glue_eq_self_iff
  refine ⟨hcamel, ?_, constant_eq_iff.trans hcamel⟩
  rw [words_pascal]
  exact hcamel

theorem version_words_lost :
    words (camel "version 2") ≠ words "version 2" ∧ words (pascal "version 2") ≠ words "version 2"
      ∧ constant (camel "version 2") ≠ constant "version 2" := by
  decide +kernel

end Scaffold.Name
