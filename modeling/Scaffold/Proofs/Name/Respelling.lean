import Scaffold.Collection.Intake
import Scaffold.Proofs.Name.Spelling
import Scaffold.Proofs.Text.Trimmed

/-!
# Spellings of spellings

What a camel spelling owes to a name: with everything but the ASCII letters and digits deleted, and in
small letters, both are the same. Trimming a name changes nothing about that.

A spelling is read as a name again. Every capital in it opens a word, so nothing of it changes but its
first letter: the camel and the Pascal spelling of a name have the spellings of the name itself.
-/

namespace Scaffold.Name

open Text

/-! ## Deleted characters -/

/-- The ASCII letters and digits of a name. -/
def letters (name : String) : List Char := name.toList.filter isWordAscii

/-- A blank is neither letter nor digit. -/
theorem isWordAscii_of_isBlank {c : Char} (h : isBlank c = true) : isWordAscii c = false := by
  rw [← Bool.not_eq_true, isWordAscii_iff]
  unfold isBlank inRanges blankRanges at h
  simp only [List.any_cons, List.any_nil, Bool.or_false, Bool.or_eq_true, Bool.and_eq_true,
    decide_eq_true_eq] at h
  omega

theorem filter_isWordAscii_of_blank {cs : List Char} (h : cs.all isBlank = true) :
    cs.filter isWordAscii = [] := by
  refine List.filter_eq_nil_iff.2 fun c hc => ?_
  rw [isWordAscii_of_isBlank (List.all_eq_true.1 h c hc)]
  exact Bool.false_ne_true

/-- Trimming deletes no letters and digits. -/
theorem letters_trim (name : String) : letters (trim name) = letters name := by
  obtain ⟨before, after, hl, hb, ha⟩ := exists_eq_append_trimChars name.toList
  unfold letters trim
  rw [String.toList_ofList, hl, List.filter_append, List.filter_append,
    filter_isWordAscii_of_blank hb, filter_isWordAscii_of_blank ha, List.nil_append,
    List.append_nil, ← hl]

/-! ## Camel spellings -/

/-- In small letters the camel spelling is what is left of the name. -/
theorem map_lowerAscii_camel (name : String) :
    (camel name).toList.map lowerAscii = (letters name).map lowerAscii := by
  have hf : (words name).flatten = (letters name).map lowerAscii := by
    rw [letters, ← flatten_splitWords, List.map_flatten]
    rfl
  have hidem : ((letters name).map lowerAscii).map lowerAscii = (letters name).map lowerAscii := by
    rw [List.map_map]
    exact List.map_congr_left fun c _ => lowerAscii_lowerAscii c
  cases hw : words name with
  | nil =>
    rw [← hf, hw, camel, hw]
    rfl
  | cons first rest =>
    rw [toList_camel hw, List.map_append, map_lowerAscii_flatMap_capitalize, ← List.map_append,
      ← List.flatten_cons, ← hw, hf, hidem]

theorem collisionKey_camel (name : String) :
    Intake.collisionKey (camel name) = String.ofList ((letters name).map lowerAscii) := by
  rw [Intake.collisionKey, map_lowerAscii_camel]

/-- The camel spelling is empty if nothing is left of the name. -/
theorem camel_isEmpty_iff (name : String) : (camel name).isEmpty = true ↔ letters name = [] := by
  rw [camel_eq_empty_iff, words_eq_nil_iff, letters, List.filter_eq_nil_iff]
  simp only [Bool.not_eq_true]

theorem isDigitAscii_lowerAscii (c : Char) : isDigitAscii (lowerAscii c) = isDigitAscii c := by
  cases hu : isUpperAscii c with
  | false => rw [lowerAscii_of_not_isUpper hu]
  | true =>
    have hc := isUpperAscii_iff.1 hu
    rw [Bool.eq_iff_iff, isDigitAscii_iff, isDigitAscii_iff, toNat_lowerAscii_of_isUpper hu]
    omega

/-- A camel spelling begins with a digit exactly if what is left of the name does. -/
theorem head_camel_isDigit (name : String) :
    (camel name).toList.head?.any isDigitAscii = (letters name).head?.any isDigitAscii := by
  have digit (cs : List Char) :
      (cs.map lowerAscii).head?.any isDigitAscii = cs.head?.any isDigitAscii := by
    cases cs with
    | nil => rfl
    | cons c rest => exact isDigitAscii_lowerAscii c
  rw [← digit, map_lowerAscii_camel, digit]

/-! ## Words of a word -/

theorem upperAscii_lowerAscii {c : Char} (h : isUpperAscii c = true) : upperAscii (lowerAscii c) = c := by
  have hc := isUpperAscii_iff.1 h
  have hl : isLowerAscii (lowerAscii c) = true := by
    rw [isLowerAscii_iff, toNat_lowerAscii_of_isUpper h]
    omega
  apply Char.toNat_inj.1
  rw [toNat_upperAscii_of_isLower hl, toNat_lowerAscii_of_isUpper h]
  omega

/-- A small letter or a digit is its own small form. -/
theorem lowerAscii_of_isSmall {c : Char} (h : isSmall c = true) : lowerAscii c = c := by
  refine lowerAscii_of_not_isUpper ?_
  unfold isSmall at h
  rw [Bool.or_eq_true, isLowerAscii_iff, isDigitAscii_iff] at h
  rw [← Bool.not_eq_true, isUpperAscii_iff]
  omega

/-- The words of a spelling: after its first character everything is small, but for the capital that
opens each further word. -/
theorem exists_splitWords {c : Char} {cs : List Char} (h : IsWord (c :: cs)) :
    ∃ first rest, splitWords (c :: cs) = (c :: first) :: rest
      ∧ first.map lowerAscii = first
      ∧ (rest.map fun word => word.map lowerAscii).flatMap capitalize = rest.flatten := by
  have hc : (!isWordAscii c) = false := by rw [h c List.mem_cons_self, Bool.not_true]
  induction cs generalizing c with
  | nil =>
    refine ⟨[], [], ?_, rfl, rfl⟩
    rw [splitWords, hc, if_neg Bool.false_ne_true]
    rfl
  | cons d ds ih =>
    have hd : IsWord (d :: ds) := fun e he => h e (List.mem_cons_of_mem c he)
    obtain ⟨first, rest, hsplit, hfirst, hrest⟩ :=
      ih hd (by rw [hd d List.mem_cons_self, Bool.not_true])
    rw [splitWords, hc, if_neg Bool.false_ne_true, hsplit]
    cases hs : isSmall d with
    | true =>
      rw [continuesWord, hs, if_pos rfl, attach]
      exact ⟨d :: first, rest, rfl, by rw [List.map_cons, lowerAscii_of_isSmall hs, hfirst], hrest⟩
    | false =>
      have hu := isUpperAscii_of_not_isSmall (hd d List.mem_cons_self) hs
      rw [continuesWord, hs, if_neg Bool.false_ne_true]
      refine ⟨[], (d :: first) :: rest, rfl, rfl, ?_⟩
      rw [List.map_cons, List.flatMap_cons, hrest, List.map_cons, capitalize, upperAscii_lowerAscii hu,
        hfirst, List.flatten_cons]

/-- The camel spelling of a word has a small letter at its start, and goes on as the word does. -/
theorem camel_of_isWord {s : String} {c : Char} {cs : List Char} (hs : s.toList = c :: cs)
    (h : IsWord (c :: cs)) : (camel s).toList = lowerAscii c :: cs := by
  obtain ⟨first, rest, hsplit, hfirst, hrest⟩ := exists_splitWords h
  have hwords : words s = (lowerAscii c :: first) :: rest.map fun word => word.map lowerAscii := by
    unfold words
    rw [hs, hsplit, List.map_cons, List.map_cons, hfirst]
  have hflat : first ++ rest.flatten = cs := by
    have hf := flatten_splitWords (c :: cs)
    rw [hsplit, List.filter_eq_self.2 h, List.flatten_cons, List.cons_append] at hf
    exact (List.cons.inj hf).2
  rw [toList_camel hwords, hrest, List.cons_append, hflat]

/-! ## Spellings -/

theorem camel_camel (name : String) : camel (camel name) = camel name := by
  refine String.toList_inj.1 ?_
  cases hl : (camel name).toList with
  | nil => rw [String.toList_eq_nil_iff.1 hl]; rfl
  | cons c cs =>
    have hsmall : isSmall c = true := by
      unfold isSmall
      rw [Bool.or_eq_true]
      exact small_head_camel hl
    rw [camel_of_isWord hl (hl ▸ isWord_camel name), lowerAscii_of_isSmall hsmall]

/-- A name with one to fall back to is in its camel spelling if the latter is. -/
theorem camel_camelOr {default : String} (h : camel default = default) (name : String) :
    camel (camelOr default name) = camelOr default name := by
  unfold camelOr
  dsimp only
  split
  · exact h
  · exact camel_camel name

theorem camelOr_camelOr {default : String} (h : camel default = default) (name : String) :
    camelOr default (camelOr default name) = camelOr default name := by
  by_cases hempty : (camel name).isEmpty = true
  · have hdefault : camelOr default name = default := if_pos hempty
    rw [hdefault, camelOr, h]
    exact ite_self default
  · have hcamel : camelOr default name = camel name := if_neg hempty
    rw [hcamel, camelOr, camel_camel]
    exact if_neg hempty

theorem camel_pascal (name : String) : camel (pascal name) = camel name := by
  have hpascal := toList_pascal_eq_capitalize_camel name
  refine String.toList_inj.1 ?_
  cases hl : (camel name).toList with
  | nil =>
    rw [hl, capitalize] at hpascal
    rw [String.toList_eq_nil_iff.1 hpascal]
    rfl
  | cons c cs =>
    have hagain := congrArg String.toList (camel_camel name)
    rw [camel_of_isWord hl (hl ▸ isWord_camel name), hl] at hagain
    rw [hl, capitalize] at hpascal
    rw [camel_of_isWord hpascal (hpascal ▸ isWord_pascal name), lowerAscii_upperAscii, hagain]

/-- Names of one camel spelling have one Pascal spelling. -/
theorem pascal_eq_of_camel_eq {s t : String} (h : camel s = camel t) : pascal s = pascal t := by
  refine String.toList_inj.1 ?_
  rw [toList_pascal_eq_capitalize_camel, toList_pascal_eq_capitalize_camel, h]

/-- There are no blanks in a word. -/
theorem trim_of_isWord {s : String} (h : IsWord s.toList) : trim s = s := by
  refine trim_of_visible fun c hc => ?_
  have hw := isWordAscii_iff.1 (h c hc)
  omega

end Scaffold.Name
