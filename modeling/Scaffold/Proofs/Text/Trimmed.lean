import Scaffold.Text.Blank

/-!
# Trimmed texts

A text is trimmed if there is no blank at either end. Trimming a text gives a trimmed one, takes away nothing
but blanks, and leaves a trimmed one as it is.
-/

namespace Scaffold.Text

/-- No blank at either end. -/
structure IsTrimmed (cs : List Char) : Prop where
  start : ∀ c ∈ cs.head?, isBlank c = false
  stop : ∀ c ∈ cs.getLast?, isBlank c = false

/-- Without any blank there is none at the ends. -/
theorem isTrimmed_of_forall {cs : List Char} (h : ∀ c ∈ cs, isBlank c = false) : IsTrimmed cs :=
  ⟨fun c hc => h c (List.mem_of_mem_head? hc), fun c hc => h c (List.mem_of_mem_getLast? hc)⟩

theorem head?_trimStartChars {cs : List Char} {c : Char} (h : (trimStartChars cs).head? = some c) :
    isBlank c = false := by
  have hnot := List.head?_dropWhile_not isBlank cs
  rw [trimStartChars] at h
  rw [h] at hnot
  exact hnot

/-- What is left after the end is trimmed begins as before. -/
theorem trimEndChars_prefix (cs : List Char) : trimEndChars cs <+: cs := by
  rw [trimEndChars, ← List.reverse_suffix, List.reverse_reverse]
  exact List.dropWhile_suffix isBlank

theorem isTrimmed_trimChars (cs : List Char) : IsTrimmed (trimChars cs) where
  start c hc := by
    obtain ⟨after, hafter⟩ := trimEndChars_prefix (trimStartChars cs)
    have hstart : (trimStartChars cs).head? = some c := by
      rw [← hafter, List.head?_append]
      exact congrArg (Option.or · after.head?) hc
    exact head?_trimStartChars hstart
  stop c hc := by
    rw [trimChars, trimEndChars, List.getLast?_reverse] at hc
    exact head?_trimStartChars hc

theorem trimStartChars_eq_self {cs : List Char} (h : ∀ c ∈ cs.head?, isBlank c = false) :
    trimStartChars cs = cs := by
  cases cs with
  | nil => rfl
  | cons c rest =>
    rw [trimStartChars, List.dropWhile_cons_of_neg]
    rw [h c rfl]
    exact Bool.false_ne_true

theorem trimChars_eq_self {cs : List Char} (h : IsTrimmed cs) : trimChars cs = cs := by
  have hreverse : trimStartChars cs.reverse = cs.reverse :=
    trimStartChars_eq_self fun c hc => h.stop c (List.head?_reverse ▸ hc)
  rw [trimChars, trimStartChars_eq_self h.start, trimEndChars]
  show (trimStartChars cs.reverse).reverse = cs
  rw [hreverse, List.reverse_reverse]

/-- A trimmed text stays as it is. -/
theorem trim_eq_self {s : String} (h : IsTrimmed s.toList) : trim s = s := by
  rw [trim, trimChars_eq_self h, String.ofList_toList]

theorem trim_trim (s : String) : trim (trim s) = trim s := by
  refine trim_eq_self ?_
  rw [trim, String.toList_ofList]
  exact isTrimmed_trimChars s.toList

/-- A text is another one without the blanks around it. -/
structure IsTrimOf (s t : String) : Prop where
  blanks : ∃ before after, s.toList = before ++ t.toList ++ after
    ∧ before.all isBlank = true ∧ after.all isBlank = true
  isTrimmed : IsTrimmed t.toList

theorem isTrimOf_trim (s : String) : IsTrimOf s (trim s) := by
  have h : (trim s).toList = trimChars s.toList := String.toList_ofList
  constructor
  · rw [h]
    exact exists_eq_append_trimChars s.toList
  · rw [h]
    exact isTrimmed_trimChars s.toList

/-- Trimming a text that goes on after a trimmed part leaves the part as it is. -/
theorem exists_trimChars_append {cs : List Char} (h : IsTrimmed cs) (hne : cs ≠ []) (rest : List Char) :
    ∃ tail, trimChars (cs ++ rest) = cs ++ tail := by
  have hstart : trimStartChars (cs ++ rest) = cs ++ rest := by
    refine trimStartChars_eq_self fun c hc => h.start c ?_
    cases cs with
    | nil => exact absurd rfl hne
    | cons d ds => exact hc
  have hstop : trimStartChars cs.reverse = cs.reverse :=
    trimStartChars_eq_self fun c hc => h.stop c (List.head?_reverse ▸ hc)
  rw [trimStartChars] at hstop
  rw [trimChars, hstart, trimEndChars, List.reverse_append, List.dropWhile_append, hstop]
  split
  · exact ⟨[], by rw [List.reverse_reverse, List.append_nil]⟩
  · exact ⟨_, by rw [List.reverse_append, List.reverse_reverse]⟩

/-! ## Characters that are no blanks -/

theorem isBlankText_eq_false_iff {s : String} : isBlankText s = false ↔ ∃ c ∈ s.toList, isBlank c = false := by
  rw [isBlankText, List.all_eq_false]
  simp only [Bool.not_eq_true]

/-- Trimming keeps every character that is no blank. -/
theorem mem_trimChars {cs : List Char} {c : Char} (hc : c ∈ cs) (h : isBlank c = false) : c ∈ trimChars cs := by
  obtain ⟨before, after, he, hbefore, hafter⟩ := exists_eq_append_trimChars cs
  rw [he, List.mem_append, List.mem_append] at hc
  have hnot : ∀ blanks : List Char, blanks.all isBlank = true → c ∉ blanks := fun blanks hb hm =>
    Bool.false_ne_true (h.symm.trans (List.all_eq_true.1 hb c hm))
  rcases hc with (hc | hc) | hc
  · exact absurd hc (hnot before hbefore)
  · exact hc
  · exact absurd hc (hnot after hafter)

/-- What is left of a text is nothing exactly if the text is blank. -/
theorem isEmpty_trim (s : String) : (trim s).isEmpty = isBlankText s := by
  cases h : isBlankText s with
  | true =>
    rw [trim, trimChars_eq_nil h]
    rfl
  | false =>
    obtain ⟨c, hc, hb⟩ := isBlankText_eq_false_iff.1 h
    rw [← Bool.not_eq_true, String.isEmpty_iff, trim, ← String.toList_eq_nil_iff, String.toList_ofList]
    exact List.ne_nil_of_mem (mem_trimChars hc hb)

/-! ## Visible characters -/

/-- A character of ASCII with a form of its own is no blank. -/
theorem isBlank_of_visible {c : Char} (h : 33 ≤ c.toNat ∧ c.toNat ≤ 126) : isBlank c = false := by
  rw [← Bool.not_eq_true]
  intro hb
  unfold isBlank inRanges blankRanges at hb
  simp only [List.any_cons, List.any_nil, Bool.or_false, Bool.or_eq_true, Bool.and_eq_true,
    decide_eq_true_eq] at hb
  omega

theorem trim_of_visible {s : String} (h : ∀ c ∈ s.toList, 33 ≤ c.toNat ∧ c.toNat ≤ 126) :
    trim s = s :=
  trim_eq_self (isTrimmed_of_forall fun c hc => isBlank_of_visible (h c hc))

end Scaffold.Text
