import Scaffold.Proofs.Name.Recovery

/-!
# Labels of labels

Each word that a label shows is small letters and digits, possibly behind a capital, or capitals only. Such a
word is one word again when it is cut, and cutting starts anew at every space, so that a label has the words it
was put together from.

* `splitLabel_intercalate`: words with spaces between them are cut at the spaces;
* `label_label_and_letters`: a label is its own label, and it shows the letters and digits of the name with
  single spaces between them.
-/

namespace Scaffold.Name

open Text

/-! ## Characters -/

theorem isSmall_eq_false_of_isUpperAscii {c : Char} (h : isUpperAscii c = true) : isSmall c = false := by
  have hc := isUpperAscii_iff.1 h
  rw [← Bool.not_eq_true, isSmall_iff, isLowerAscii_iff, isDigitAscii_iff]
  omega

theorem isUpperAscii_eq_false_of_isSmall {c : Char} (h : isSmall c = true) : isUpperAscii c = false := by
  by_cases hc : isUpperAscii c = true
  · rw [isSmall_eq_false_of_isUpperAscii hc] at h
    cases h
  · simpa using hc

theorem isUpperAscii_upperAscii {c : Char} (h : isLowerAscii c = true) : isUpperAscii (upperAscii c) = true := by
  have hc := isLowerAscii_iff.1 h
  rw [isUpperAscii_iff, toNat_upperAscii_of_isLower h]
  omega

theorem upperAscii_of_isUpperAscii {c : Char} (h : isUpperAscii c = true) : upperAscii c = c := by
  have hsmall := isSmall_eq_false_of_isUpperAscii h
  rw [isSmall, Bool.or_eq_false_iff] at hsmall
  exact upperAscii_of_not_isLower hsmall.1

/-- A capital form is no small letter. -/
theorem isLowerAscii_upperAscii (c : Char) : isLowerAscii (upperAscii c) = false := by
  by_cases h : isLowerAscii c = true
  · have hsmall := isSmall_eq_false_of_isUpperAscii (isUpperAscii_upperAscii h)
    rw [isSmall, Bool.or_eq_false_iff] at hsmall
    exact hsmall.1
  · rw [Bool.not_eq_true] at h
    rw [upperAscii_of_not_isLower h, h]

/-! ## Forms of words -/

/-- The forms of the words of a label: small letters and digits, a capital in front of these, or capitals. -/
inductive IsLabelWord : List Char → Prop where
  | small {w : List Char} (h : IsSmallWord w) : IsLabelWord w
  | capital {c : Char} {w : List Char} (hc : isUpperAscii c = true) (h : IsSmallWord w) : IsLabelWord (c :: w)
  | capitals {w : List Char} (hne : w ≠ []) (h : ∀ c ∈ w, isUpperAscii c = true) : IsLabelWord w

theorem IsLabelWord.ne_nil {w : List Char} (h : IsLabelWord w) : w ≠ [] := by
  cases h with
  | small h => exact h.1
  | capital _ _ => exact List.cons_ne_nil _ _
  | capitals hne _ => exact hne

/-- What two characters that stand in one word are, and what stands behind them. -/
theorem exists_of_joinsLabel {afterCapital : Bool} {c : Char} {rest : List Char} (hc : isWordAscii c = true)
    (h : joinsLabel afterCapital c rest = true) :
    ∃ d tail, rest = d :: tail
      ∧ ((isSmall c = true ∧ isSmall d = true)
        ∨ (isUpperAscii c = true ∧ isSmall d = true ∧ (isLowerAscii d = true ∨ afterCapital = false))
        ∨ (isUpperAscii c = true ∧ isUpperAscii d = true ∧ tail.head?.any isLowerAscii = false)) := by
  cases rest with
  | nil =>
    rw [joinsLabel] at h
    cases h
  | cons d tail =>
    refine ⟨d, tail, rfl, ?_⟩
    rw [joinsLabel] at h
    by_cases hsmall : isSmall c = true
    · rw [if_pos hsmall] at h
      exact .inl ⟨hsmall, h⟩
    · have hupper := isUpperAscii_of_not_isSmall hc (by simpa using hsmall)
      rw [if_neg hsmall] at h
      split at h
      next hl => exact .inr (.inl ⟨hupper, isSmall_iff.2 (.inl hl), .inl hl⟩)
      next =>
        split at h
        next hd => exact .inr (.inl ⟨hupper, isSmall_iff.2 (.inr hd), .inr (by simpa using h)⟩)
        next =>
          split at h
          next hu => exact .inr (.inr ⟨hupper, hu, by simpa using h⟩)
          next => cases h

theorem splitLabel_cons {afterCapital : Bool} {c : Char} (hc : isWordAscii c = true) (rest : List Char) :
    splitLabel afterCapital (c :: rest) =
      if joinsLabel afterCapital c rest then attach c (splitLabel (isUpperAscii c) rest)
      else [c] :: splitLabel (isUpperAscii c) rest := by
  rw [splitLabel, hc, Bool.not_true, if_neg Bool.false_ne_true]

/-- Small letters and digits at the start make up the first word. -/
theorem exists_small_splitLabel (afterCapital : Bool) {c : Char} (hc : isSmall c = true) (rest : List Char) :
    ∃ w words, splitLabel afterCapital (c :: rest) = w :: words ∧ IsSmallWord w := by
  induction rest generalizing afterCapital c with
  | nil =>
    refine ⟨[c], [], ?_, by simp, by simpa using hc⟩
    simp [splitLabel, joinsLabel, isWordAscii_of_isSmall hc]
  | cons d tail ih =>
    rw [splitLabel_cons (isWordAscii_of_isSmall hc), joinsLabel, if_pos hc]
    by_cases hd : isSmall d = true
    · obtain ⟨w, words, hsplit, -, hw⟩ := ih (isUpperAscii c) hd
      rw [if_pos hd, hsplit, attach]
      exact ⟨c :: w, words, rfl, by simp, List.forall_mem_cons.2 ⟨hc, hw⟩⟩
    · rw [if_neg hd]
      exact ⟨[c], _, rfl, by simp, by simpa using hc⟩

/-- Behind a capital, a capital without a small letter after it begins a word of capitals. -/
theorem exists_capitals_splitLabel {c : Char} (hc : isUpperAscii c = true) {rest : List Char}
    (hrest : rest.head?.any isLowerAscii = false) :
    ∃ w words, splitLabel true (c :: rest) = w :: words ∧ w ≠ [] ∧ ∀ d ∈ w, isUpperAscii d = true := by
  induction rest generalizing c with
  | nil =>
    refine ⟨[c], [], ?_, by simp, by simpa using hc⟩
    simp [splitLabel, joinsLabel, isWordAscii_of_isUpperAscii hc]
  | cons d tail ih =>
    rw [splitLabel_cons (isWordAscii_of_isUpperAscii hc)]
    split
    next hjoins =>
      obtain ⟨_, _, heq, hcases⟩ := exists_of_joinsLabel (isWordAscii_of_isUpperAscii hc) hjoins
      cases heq
      -- Neither small letters nor, after two capitals, digits go on with a capital here.
      rcases hcases with ⟨hsmall, -⟩ | ⟨-, -, hl | hf⟩ | ⟨-, hu, htail⟩
      · rw [isSmall_eq_false_of_isUpperAscii hc] at hsmall
        cases hsmall
      · simp [hl] at hrest
      · cases hf
      · obtain ⟨w, words, hsplit, -, hw⟩ := ih hu htail
        rw [hc, hsplit, attach]
        exact ⟨c :: w, words, rfl, by simp, List.forall_mem_cons.2 ⟨hc, hw⟩⟩
    next => exact ⟨[c], _, rfl, by simp, by simpa using hc⟩

/-- Every word of a label has one of the three forms. -/
theorem isLabelWord_of_mem_splitLabel {afterCapital : Bool} {cs w : List Char}
    (h : w ∈ splitLabel afterCapital cs) : IsLabelWord w := by
  induction cs generalizing afterCapital w with
  | nil => cases h
  | cons c rest ih =>
    by_cases hc : isWordAscii c = true
    · rw [splitLabel_cons hc] at h
      split at h
      next hjoins =>
        -- The first word is told by its first two characters, the others by what follows the first one.
        obtain ⟨d, tail, rfl, hcases⟩ := exists_of_joinsLabel hc hjoins
        rcases hcases with ⟨hsmall, hd⟩ | ⟨hupper, hd, -⟩ | ⟨hupper, hd, htail⟩
        · obtain ⟨v, words, hsplit, -, hv⟩ := exists_small_splitLabel (isUpperAscii c) hd tail
          rw [hsplit, attach] at h
          rcases List.mem_cons.1 h with rfl | h
          · exact .small ⟨by simp, List.forall_mem_cons.2 ⟨hsmall, hv⟩⟩
          · exact ih (hsplit ▸ List.mem_cons_of_mem v h)
        · obtain ⟨v, words, hsplit, hv⟩ := exists_small_splitLabel (isUpperAscii c) hd tail
          rw [hsplit, attach] at h
          rcases List.mem_cons.1 h with rfl | h
          · exact .capital hupper hv
          · exact ih (hsplit ▸ List.mem_cons_of_mem v h)
        · obtain ⟨v, words, hsplit, -, hv⟩ := exists_capitals_splitLabel hd htail
          rw [hupper, hsplit, attach] at h
          rcases List.mem_cons.1 h with rfl | h
          · exact .capitals (by simp) (List.forall_mem_cons.2 ⟨hupper, hv⟩)
          · exact ih (hsplit ▸ List.mem_cons_of_mem v h)
      next =>
        rcases List.mem_cons.1 h with rfl | h
        · by_cases hsmall : isSmall c = true
          · exact .small ⟨by simp, by simpa using hsmall⟩
          · exact .capitals (by simp) (by simpa using isUpperAscii_of_not_isSmall hc (by simpa using hsmall))
        · exact ih h
    · rw [splitLabel, if_pos (by simpa using hc)] at h
      exact ih h

/-! ## Words stay whole -/

theorem splitLabel_of_small {w : List Char} (h : IsSmallWord w) (afterCapital : Bool) :
    splitLabel afterCapital w = [w] := by
  induction w generalizing afterCapital with
  | nil => exact absurd rfl h.1
  | cons c rest ih =>
    obtain ⟨hc, hrest⟩ := List.forall_mem_cons.1 h.2
    rw [splitLabel_cons (isWordAscii_of_isSmall hc)]
    cases rest with
    | nil => simp [joinsLabel, splitLabel]
    | cons d tail =>
      rw [joinsLabel, if_pos hc, if_pos (hrest d List.mem_cons_self), ih ⟨by simp, hrest⟩, attach]

theorem splitLabel_of_capitals {w : List Char} (hne : w ≠ []) (h : ∀ c ∈ w, isUpperAscii c = true)
    (afterCapital : Bool) : splitLabel afterCapital w = [w] := by
  induction w generalizing afterCapital with
  | nil => exact absurd rfl hne
  | cons c rest ih =>
    obtain ⟨hc, hrest⟩ := List.forall_mem_cons.1 h
    rw [splitLabel_cons (isWordAscii_of_isUpperAscii hc)]
    cases rest with
    | nil => simp [joinsLabel, splitLabel]
    | cons d tail =>
      have hsmall : ∀ {e}, isUpperAscii e = true → isLowerAscii e = false ∧ isDigitAscii e = false := fun he => by
        simpa [isSmall] using isSmall_eq_false_of_isUpperAscii he
      obtain ⟨hd, htail⟩ := List.forall_mem_cons.1 hrest
      have hnext : tail.head?.any isLowerAscii = false := by
        cases tail with
        | nil => rfl
        | cons e _ => exact (hsmall (htail e List.mem_cons_self)).1
      have hjoins : joinsLabel afterCapital c (d :: tail) = true := by
        simp [joinsLabel, isSmall_eq_false_of_isUpperAscii hc, hsmall hd, hd, hnext]
      rw [if_pos hjoins, ih (by simp) hrest, attach]

/-- A word of a label is one word when it is cut again. -/
theorem IsLabelWord.splitLabel_eq {w : List Char} (h : IsLabelWord w) : splitLabel false w = [w] := by
  cases h with
  | small h => exact splitLabel_of_small h false
  | capitals hne h => exact splitLabel_of_capitals hne h false
  | @capital c v hc h =>
    obtain ⟨d, tail, rfl⟩ := List.exists_cons_of_ne_nil h.1
    have hjoins : joinsLabel false c (d :: tail) = true := by
      rcases isSmall_iff.1 (h.2 d List.mem_cons_self) with hd | hd
      · simp [joinsLabel, isSmall_eq_false_of_isUpperAscii hc, hd]
      · simp [joinsLabel, isSmall_eq_false_of_isUpperAscii hc, hd]
    rw [splitLabel_cons (isWordAscii_of_isUpperAscii hc), if_pos hjoins, splitLabel_of_small h, attach]

/-! ## Spaces -/

theorem joinsLabel_append_space (afterCapital : Bool) (c : Char) (w rest : List Char) :
    joinsLabel afterCapital c (w ++ ' ' :: rest) = joinsLabel afterCapital c w := by
  have hspace : isSmall ' ' = false ∧ isLowerAscii ' ' = false ∧ isDigitAscii ' ' = false
      ∧ isUpperAscii ' ' = false := by decide
  cases w with
  | nil => simp [joinsLabel, hspace]
  | cons d tail =>
    rw [List.cons_append, joinsLabel, joinsLabel]
    cases tail with
    | nil => simp [hspace]
    | cons e tail => simp

/-- Letters and digits make up at least one word. -/
theorem splitLabel_ne_nil (afterCapital : Bool) {cs : List Char} (h : ∃ c ∈ cs, isWordAscii c = true) :
    splitLabel afterCapital cs ≠ [] := by
  intro hnil
  obtain ⟨c, hc, hword⟩ := h
  have hflat := flatten_splitLabel afterCapital cs
  rw [hnil, List.flatten_nil, eq_comm, List.filter_eq_nil_iff] at hflat
  exact hflat c hc hword

/-- The words on the two sides of a space do not depend on each other. -/
theorem splitLabel_append_space (afterCapital : Bool) (w rest : List Char) :
    splitLabel afterCapital (w ++ ' ' :: rest) = splitLabel afterCapital w ++ splitLabel false rest := by
  induction w generalizing afterCapital with
  | nil => rfl
  | cons c cs ih =>
    by_cases hc : isWordAscii c = true
    · rw [List.cons_append, splitLabel_cons hc, splitLabel_cons hc, joinsLabel_append_space, ih]
      split
      next hjoins =>
        -- The character is attached to the first word, so there has to be one on this side.
        obtain ⟨d, tail, rfl, hcases⟩ := exists_of_joinsLabel hc hjoins
        have hd : isWordAscii d = true := by
          rcases hcases with ⟨-, hd⟩ | ⟨-, hd, -⟩ | ⟨-, hd, -⟩
          · exact isWordAscii_of_isSmall hd
          · exact isWordAscii_of_isSmall hd
          · exact isWordAscii_of_isUpperAscii hd
        obtain ⟨first, words, hsplit⟩ :=
          List.exists_cons_of_ne_nil (splitLabel_ne_nil (isUpperAscii c) ⟨d, List.mem_cons_self, hd⟩)
        rw [hsplit]
        rfl
      next => rfl
    · have hn : (!isWordAscii c) = true := by simpa using hc
      rw [List.cons_append, splitLabel, splitLabel, if_pos hn, if_pos hn, ih]

theorem splitLabel_intercalate {words : List (List Char)} (h : ∀ w ∈ words, IsLabelWord w) :
    splitLabel false ([' '].intercalate words) = words := by
  induction words with
  | nil => rfl
  | cons w words ih =>
    obtain ⟨hw, hwords⟩ := List.forall_mem_cons.1 h
    cases words with
    | nil => rw [List.intercalate_singleton, hw.splitLabel_eq]
    | cons next words =>
      rw [List.intercalate_cons_cons, List.append_assoc, List.singleton_append, splitLabel_append_space,
        hw.splitLabel_eq, ih hwords, List.singleton_append]

/-! ## Shown words -/

theorem map_lowerAscii_labelWord (w : List Char) : (labelWord w).map lowerAscii = w.map lowerAscii := by
  unfold labelWord
  split
  · rfl
  · rw [List.map_map]
    exact List.map_congr_left fun c _ => lowerAscii_lowerAscii c

theorem isAcronym_of_small {w : List Char} (h : IsSmallWord w) : isAcronym w = false := by
  have hany : w.any isUpperAscii = false := by
    rw [List.any_eq_false]
    intro c hc
    rw [isUpperAscii_eq_false_of_isSmall (h.2 c hc)]
    exact Bool.false_ne_true
  rw [isAcronym, hany, Bool.and_false, Bool.false_and]

theorem IsLabelWord.isWord {w : List Char} (h : IsLabelWord w) : IsWord w := by
  cases h with
  | small h => exact fun c hc => isWordAscii_of_isSmall (h.2 c hc)
  | capitals _ h => exact fun c hc => isWordAscii_of_isUpperAscii (h c hc)
  | capital hc h =>
    exact List.forall_mem_cons.2
      ⟨isWordAscii_of_isUpperAscii hc, fun d hd => isWordAscii_of_isSmall (h.2 d hd)⟩

/-- What is no acronym is shown in small letters and digits. -/
theorem IsLabelWord.isSmallWord {w : List Char} (h : IsLabelWord w) (hw : ¬ isAcronym w = true) :
    IsSmallWord (labelWord w) := by
  rw [labelWord, if_neg hw]
  refine ⟨by simpa using h.ne_nil, fun c hc => ?_⟩
  obtain ⟨d, hd, rfl⟩ := List.mem_map.1 hc
  exact isSmall_iff.2 (small_of_lowerAscii (h.isWord d hd))

/-- A shown word is a word of a label again. -/
theorem IsLabelWord.labelWord {w : List Char} (h : IsLabelWord w) : IsLabelWord (labelWord w) := by
  by_cases hw : isAcronym w = true
  · rwa [Name.labelWord, if_pos hw]
  · exact .small (h.isSmallWord hw)

theorem capitalize_of_isUpperAscii {c : Char} (hc : isUpperAscii c = true) (tail : List Char) :
    capitalize (c :: tail) = c :: tail := by
  rw [capitalize, upperAscii_of_isUpperAscii hc]

theorem IsLabelWord.capitalize {w : List Char} (h : IsLabelWord w) : IsLabelWord (capitalize w) := by
  cases h with
  | capital hc h =>
    rw [capitalize_of_isUpperAscii hc]
    exact .capital hc h
  | capitals hne h =>
    obtain ⟨c, tail, rfl⟩ := List.exists_cons_of_ne_nil hne
    rw [capitalize_of_isUpperAscii (h c List.mem_cons_self)]
    exact .capitals hne h
  | small h =>
    obtain ⟨c, tail, rfl⟩ := List.exists_cons_of_ne_nil h.1
    -- A capital in front of nothing is a word of capitals; a digit at the start has no capital.
    by_cases hc : isLowerAscii c = true
    · by_cases htail : tail = []
      · rw [htail]
        exact .capitals (by simp [Name.capitalize]) (by simpa [Name.capitalize] using isUpperAscii_upperAscii hc)
      · exact .capital (isUpperAscii_upperAscii hc) ⟨htail, fun d hd => h.2 d (List.mem_cons_of_mem c hd)⟩
    · rw [Name.capitalize, upperAscii_of_not_isLower (by simpa using hc)]
      exact .small h

/-- A word is shown as it is shown. -/
theorem labelWord_labelWord (w : List Char) : labelWord (labelWord w) = labelWord w := by
  by_cases h : isAcronym w = true
  · have hw : labelWord w = w := if_pos h
    rw [hw, hw]
  · have hw : labelWord w = w.map lowerAscii := if_neg h
    by_cases hl : isAcronym (labelWord w) = true
    · rw [labelWord, if_pos hl]
    · rw [labelWord, if_neg hl, map_lowerAscii_labelWord, hw]

theorem capitalize_capitalize (w : List Char) : capitalize (capitalize w) = capitalize w := by
  cases w with
  | nil => rfl
  | cons c tail => rw [capitalize, capitalize, upperAscii_of_not_isLower (isLowerAscii_upperAscii c)]

theorem IsLabelWord.capitalize_of_isAcronym {w : List Char} (h : IsLabelWord w) (hw : isAcronym w = true) :
    Name.capitalize w = w := by
  cases h with
  | small h =>
    rw [isAcronym_of_small h] at hw
    cases hw
  | capital hc _ => exact capitalize_of_isUpperAscii hc _
  | capitals hne h =>
    obtain ⟨c, tail, rfl⟩ := List.exists_cons_of_ne_nil hne
    exact capitalize_of_isUpperAscii (h c List.mem_cons_self) tail

/-- The first word of a label keeps its capital when it is shown again. -/
theorem capitalize_labelWord_capitalize {w : List Char} (h : IsLabelWord w) :
    capitalize (labelWord (capitalize (labelWord w))) = capitalize (labelWord w) := by
  by_cases hacronym : isAcronym (capitalize (labelWord w)) = true
  · have hshown : labelWord (capitalize (labelWord w)) = capitalize (labelWord w) := if_pos hacronym
    rw [hshown, capitalize_capitalize]
  · -- An acronym begins with a capital and would be one still, so that the word was none.
    have hw : ¬ isAcronym w = true := by
      intro hw
      have hlabel : labelWord w = w := if_pos hw
      rw [hlabel, h.capitalize_of_isAcronym hw] at hacronym
      exact hacronym hw
    have hshown : labelWord (capitalize (labelWord w)) = (labelWord w).map lowerAscii := by
      rw [labelWord, if_neg hacronym, map_lowerAscii_capitalize]
    rw [hshown, map_lowerAscii_of_isSmall (h.isSmallWord hw).2]

/-! ## Labels -/

theorem capitalize_intercalate {w : List Char} (hne : w ≠ []) (words : List (List Char)) :
    capitalize ([' '].intercalate (w :: words)) = [' '].intercalate (capitalize w :: words) := by
  obtain ⟨c, tail, rfl⟩ := List.exists_cons_of_ne_nil hne
  cases words with
  | nil => simp [capitalize]
  | cons next words => simp [List.intercalate_cons_cons, capitalize]

theorem toList_label {name : String} {first : List Char} {rest : List (List Char)}
    (h : splitLabel false name.toList = first :: rest) :
    (label name).toList = capitalize ([' '].intercalate (labelWord first :: rest.map labelWord)) := by
  simp only [label, h]
  rw [String.toList_ofList, List.map_cons]

/-- The words that a label shows. -/
theorem exists_shown_words {name : String} (h : ∃ c ∈ name.toList, isWordAscii c = true) :
    ∃ first rest, splitLabel false name.toList = first :: rest
      ∧ (label name).toList = [' '].intercalate (capitalize (labelWord first) :: rest.map labelWord)
      ∧ ∀ w ∈ first :: rest, IsLabelWord w := by
  obtain ⟨first, rest, hsplit⟩ := List.exists_cons_of_ne_nil (splitLabel_ne_nil false h)
  have hwords : ∀ w ∈ first :: rest, IsLabelWord w := fun w hw => isLabelWord_of_mem_splitLabel (hsplit ▸ hw)
  refine ⟨first, rest, hsplit, ?_, hwords⟩
  have hne := (hwords first List.mem_cons_self).labelWord.ne_nil
  rw [toList_label hsplit, capitalize_intercalate hne]

theorem label_of_no_words {name : String} (h : ¬ ∃ c ∈ name.toList, isWordAscii c = true) :
    label name = name := by
  have hsplit : splitLabel false name.toList = [] := by
    cases hs : splitLabel false name.toList with
    | nil => rfl
    | cons w words =>
      have hw : w ∈ splitLabel false name.toList := hs ▸ List.mem_cons_self
      obtain ⟨c, tail, rfl⟩ := List.exists_cons_of_ne_nil (isLabelWord_of_mem_splitLabel hw).ne_nil
      have hflat : c ∈ name.toList.filter isWordAscii :=
        flatten_splitLabel false name.toList ▸ List.mem_flatten.2 ⟨_, hw, List.mem_cons_self⟩
      exact absurd ⟨c, List.mem_filter.1 hflat⟩ h
  simp only [label, hsplit]

theorem label_label_eq (name : String) : label (label name) = label name := by
  by_cases h : ∃ c ∈ name.toList, isWordAscii c = true
  · obtain ⟨first, rest, -, hlabel, hwords⟩ := exists_shown_words h
    obtain ⟨hfirst, hrest⟩ := List.forall_mem_cons.1 hwords
    have hshown : ∀ w ∈ capitalize (labelWord first) :: rest.map labelWord, IsLabelWord w := by
      refine List.forall_mem_cons.2 ⟨hfirst.labelWord.capitalize, fun w hw => ?_⟩
      obtain ⟨v, hv, rfl⟩ := List.mem_map.1 hw
      exact (hrest v hv).labelWord
    have hsplit := splitLabel_intercalate hshown
    rw [← hlabel] at hsplit
    have hagain : (rest.map labelWord).map labelWord = rest.map labelWord := by
      rw [List.map_map]
      exact List.map_congr_left fun w _ => labelWord_labelWord w
    refine String.toList_inj.1 ?_
    rw [toList_label hsplit, hagain, capitalize_intercalate hfirst.labelWord.capitalize.labelWord.ne_nil,
      capitalize_labelWord_capitalize hfirst, hlabel]
  · rw [label_of_no_words h, label_of_no_words h]

/-! ## Single spaces -/

/-- No space at either end and no two in a row. -/
structure HasInnerSpaces (cs : List Char) : Prop where
  start : cs.head? ≠ some ' '
  stop : cs.getLast? ≠ some ' '
  single : ¬ [' ', ' '] <:+: cs

/-- What is cut at its spaces into parts that all have a character has inner spaces only. -/
theorem hasInnerSpaces_of_partsBetween {cs : List Char} (h : ∀ part ∈ partsBetween ' ' cs, part ≠ []) :
    HasInnerSpaces cs := by
  constructor
  case start =>
    intro hs
    obtain ⟨tail, rfl⟩ := List.head?_eq_some_iff.1 hs
    refine h [] ?_ rfl
    simp [partsBetween]
  case stop =>
    intro hs
    obtain ⟨before, rfl⟩ := List.getLast?_eq_some_iff.1 hs
    refine h [] ?_ rfl
    rw [partsBetween_append_cons]
    simp [partsBetween]
  case single =>
    rintro ⟨before, after, rfl⟩
    refine h [] ?_ rfl
    rw [List.append_assoc, List.cons_append, partsBetween_append_cons]
    simp [partsBetween]

/-- Without the spaces between them the words stand in a row. -/
theorem filter_intercalate_space {words : List (List Char)} (h : ∀ w ∈ words, ' ' ∉ w) :
    ([' '].intercalate words).filter (· != ' ') = words.flatten := by
  induction words with
  | nil => rfl
  | cons w words ih =>
    obtain ⟨hw, hwords⟩ := List.forall_mem_cons.1 h
    have hkeep : w.filter (· != ' ') = w := by
      refine List.filter_eq_self.2 fun c hc => ?_
      rw [bne_iff_ne]
      rintro rfl
      exact hw hc
    cases words with
    | nil => simp [hkeep]
    | cons next words =>
      rw [List.intercalate_cons_cons, List.filter_append, List.filter_append, hkeep, ih hwords]
      simp

/-- A label is its own label. The label of a name with letters or digits is made of letters, digits and single
spaces between them, begins with no small letter, and has the letters and digits of the name in their order,
up to case. -/
theorem label_label_and_letters :
    (∀ name, label (label name) = label name)
      ∧ ∀ name, (∃ c ∈ name.toList, isWordAscii c = true) →
        (∀ c ∈ (label name).toList, isWordAscii c = true ∨ c = ' ')
          ∧ HasInnerSpaces (label name).toList
          ∧ (label name).toList.head?.any isLowerAscii = false
          ∧ ((label name).toList.filter (· != ' ')).map lowerAscii
            = (name.toList.filter isWordAscii).map lowerAscii := by
  refine ⟨label_label_eq, fun name hname => ?_⟩
  obtain ⟨first, rest, hsplit, hlabel, hwords⟩ := exists_shown_words hname
  obtain ⟨hfirst, hrest⟩ := List.forall_mem_cons.1 hwords
  -- the label is its shown words with single spaces between them, and everything is read off the words
  have hshown : ∀ w ∈ capitalize (labelWord first) :: rest.map labelWord, w ≠ [] ∧ IsWord w := by
    refine List.forall_mem_cons.2 ⟨⟨hfirst.labelWord.capitalize.ne_nil, hfirst.labelWord.capitalize.isWord⟩, ?_⟩
    intro w hw
    obtain ⟨v, hv, rfl⟩ := List.mem_map.1 hw
    exact ⟨(hrest v hv).labelWord.ne_nil, (hrest v hv).labelWord.isWord⟩
  have hspace : ∀ w ∈ capitalize (labelWord first) :: rest.map labelWord, ' ' ∉ w :=
    fun w hw => (hshown w hw).2.not_mem (by decide)
  rw [hlabel]
  refine ⟨fun c hc => ?_, hasInnerSpaces_of_partsBetween ?_, ?_, ?_⟩
  · rcases mem_of_mem_intercalate hc with hc | ⟨w, hw, hc⟩
    · exact .inr (List.mem_singleton.1 hc)
    · exact .inl ((hshown w hw).2 c hc)
  · rw [partsBetween_intercalate (by simp) hspace]
    exact fun w hw => (hshown w hw).1
  · rw [← capitalize_intercalate hfirst.labelWord.ne_nil]
    cases [' '].intercalate (labelWord first :: rest.map labelWord) with
    | nil => rfl
    | cons c tail => exact isLowerAscii_upperAscii c
  · have hrestWords : ((rest.map labelWord).flatten).map lowerAscii = rest.flatten.map lowerAscii := by
      rw [List.map_flatten, List.map_flatten, List.map_map]
      exact congrArg List.flatten (List.map_congr_left fun w _ => map_lowerAscii_labelWord w)
    rw [filter_intercalate_space hspace, List.flatten_cons, List.map_append, map_lowerAscii_capitalize,
      map_lowerAscii_labelWord, hrestWords, ← List.map_append, ← List.flatten_cons, ← hsplit,
      flatten_splitLabel]

/-- Acronyms, digits and signs in one name: `-orderID2x: HTTPServer` is `Order ID 2x HTTP server`. -/
theorem label_label_and_letters_of_order :
    (∃ c ∈ "-orderID2x: HTTPServer".toList, isWordAscii c = true)
      ∧ label "-orderID2x: HTTPServer" = "Order ID 2x HTTP server"
      ∧ HasInnerSpaces (label "-orderID2x: HTTPServer").toList
      ∧ (label "-orderID2x: HTTPServer").toList.head?.any isLowerAscii = false := by
  have hname : ∃ c ∈ "-orderID2x: HTTPServer".toList, isWordAscii c = true :=
    List.any_eq_true.1 (by decide)
  have h := label_label_and_letters.2 "-orderID2x: HTTPServer" hname
  exact ⟨hname, by decide, h.2.1, h.2.2.1⟩

end Scaffold.Name
