import Scaffold.Text.Case

/-!
# ASCII letters and digits

How the ASCII classes of characters and the two ASCII case maps go together. The case maps stay
inside the class of letters and digits, small forms forget capitals, and full lower-casing is the
ASCII map wherever a text is ASCII.
-/

namespace Scaffold.Text

/-! ## Code points of the classes -/

theorem isLowerAscii_iff {c : Char} : isLowerAscii c = true ↔ 97 ≤ c.toNat ∧ c.toNat ≤ 122 := by
  unfold isLowerAscii
  rw [Bool.and_eq_true, decide_eq_true_eq, decide_eq_true_eq]
  exact Iff.rfl

theorem isUpperAscii_iff {c : Char} : isUpperAscii c = true ↔ 65 ≤ c.toNat ∧ c.toNat ≤ 90 := by
  unfold isUpperAscii
  rw [Bool.and_eq_true, decide_eq_true_eq, decide_eq_true_eq]
  exact Iff.rfl

theorem isDigitAscii_iff {c : Char} : isDigitAscii c = true ↔ 48 ≤ c.toNat ∧ c.toNat ≤ 57 := by
  unfold isDigitAscii
  rw [Bool.and_eq_true, decide_eq_true_eq, decide_eq_true_eq]
  exact Iff.rfl

theorem isWordAscii_iff {c : Char} :
    isWordAscii c = true ↔
      (97 ≤ c.toNat ∧ c.toNat ≤ 122) ∨ (65 ≤ c.toNat ∧ c.toNat ≤ 90)
        ∨ (48 ≤ c.toNat ∧ c.toNat ≤ 57) := by
  unfold isWordAscii
  rw [Bool.or_eq_true, Bool.or_eq_true, isLowerAscii_iff, isUpperAscii_iff, isDigitAscii_iff,
    or_assoc]

/-- A letter or digit is none of the characters outside the class. -/
theorem ne_of_isWordAscii {c d : Char} (h : isWordAscii c = true) (hd : isWordAscii d = false) :
    c ≠ d := by
  intro e
  rw [e, hd] at h
  exact Bool.false_ne_true h

/-- A letter or digit is an ASCII character. -/
theorem toNat_lt_of_isWordAscii {c : Char} (h : isWordAscii c = true) : c.toNat < 128 := by
  rw [isWordAscii_iff] at h
  omega

/-! ## Case maps -/

/-- A code point below the surrogates is that of its character. -/
theorem toNat_charOfNat {n : Nat} (h : n < 0xD800) : (Char.ofNat n).toNat = n := by
  unfold Char.ofNat
  rw [dif_pos (Or.inl h)]
  rfl

/-- The code point of the small form of a capital. -/
theorem toNat_lowerAscii_of_isUpper {c : Char} (h : isUpperAscii c = true) :
    (lowerAscii c).toNat = c.toNat + 32 := by
  have hc := isUpperAscii_iff.1 h
  unfold lowerAscii
  rw [if_pos h, toNat_charOfNat (by omega)]

/-- What is no capital is its own small form. -/
theorem lowerAscii_of_not_isUpper {c : Char} (h : isUpperAscii c = false) : lowerAscii c = c := by
  unfold lowerAscii
  rw [h]
  rfl

/-- The code point of the capital form of a small letter. -/
theorem toNat_upperAscii_of_isLower {c : Char} (h : isLowerAscii c = true) :
    (upperAscii c).toNat = c.toNat - 32 := by
  have hc := isLowerAscii_iff.1 h
  unfold upperAscii
  rw [if_pos h, toNat_charOfNat (by omega)]

/-- What is no small letter is its own capital form. -/
theorem upperAscii_of_not_isLower {c : Char} (h : isLowerAscii c = false) : upperAscii c = c := by
  unfold upperAscii
  rw [h]
  rfl

/-- The small form of a letter or digit is a small letter or a digit. -/
theorem small_of_lowerAscii {c : Char} (h : isWordAscii c = true) :
    isLowerAscii (lowerAscii c) = true ∨ isDigitAscii (lowerAscii c) = true := by
  rw [isLowerAscii_iff, isDigitAscii_iff]
  rw [isWordAscii_iff] at h
  cases hu : isUpperAscii c with
  | true =>
    have hc := isUpperAscii_iff.1 hu
    rw [toNat_lowerAscii_of_isUpper hu]
    omega
  | false =>
    have hc : ¬ (65 ≤ c.toNat ∧ c.toNat ≤ 90) := by
      rw [← isUpperAscii_iff, hu]
      exact Bool.false_ne_true
    rw [lowerAscii_of_not_isUpper hu]
    omega

/-- The capital form of a letter or digit is a letter or digit. -/
theorem isWordAscii_upperAscii {c : Char} (h : isWordAscii c = true) :
    isWordAscii (upperAscii c) = true := by
  cases hl : isLowerAscii c with
  | true =>
    have hc := isLowerAscii_iff.1 hl
    rw [isWordAscii_iff, toNat_upperAscii_of_isLower hl]
    omega
  | false =>
    rw [upperAscii_of_not_isLower hl]
    exact h

/-- The small form of the capital form is the small form. -/
theorem lowerAscii_upperAscii (c : Char) : lowerAscii (upperAscii c) = lowerAscii c := by
  cases hl : isLowerAscii c with
  | true =>
    have hc := isLowerAscii_iff.1 hl
    have hu : isUpperAscii (upperAscii c) = true := by
      rw [isUpperAscii_iff, toNat_upperAscii_of_isLower hl]
      omega
    have hn : isUpperAscii c = false := by
      rw [← Bool.not_eq_true, isUpperAscii_iff]
      omega
    apply Char.toNat_inj.1
    rw [toNat_lowerAscii_of_isUpper hu, toNat_upperAscii_of_isLower hl,
      lowerAscii_of_not_isUpper hn]
    omega
  | false => rw [upperAscii_of_not_isLower hl]

/-- A small form is its own small form. -/
theorem lowerAscii_lowerAscii (c : Char) : lowerAscii (lowerAscii c) = lowerAscii c := by
  cases hu : isUpperAscii c with
  | true =>
    have hc := isUpperAscii_iff.1 hu
    apply lowerAscii_of_not_isUpper
    rw [← Bool.not_eq_true, isUpperAscii_iff, toNat_lowerAscii_of_isUpper hu]
    omega
  | false => rw [lowerAscii_of_not_isUpper hu, lowerAscii_of_not_isUpper hu]

/-- A character that is no small letter has no other character for its capital form. -/
theorem lowerAscii_eq_iff {c d : Char} (h : isLowerAscii d = false) (hu : isUpperAscii d = false) :
    lowerAscii c = d ↔ c = d := by
  cases hc : isUpperAscii c with
  | false => rw [lowerAscii_of_not_isUpper hc]
  | true =>
    have hn := isUpperAscii_iff.1 hc
    have hd : ¬ (97 ≤ d.toNat ∧ d.toNat ≤ 122) := by
      rw [← isLowerAscii_iff, h]
      exact Bool.false_ne_true
    constructor
    · intro e
      rw [← e, toNat_lowerAscii_of_isUpper hc] at hd
      omega
    · intro e
      rw [← e, hc] at hu
      cases hu

/-- A character whose small form is of ASCII is of ASCII. -/
theorem toNat_lt_of_lowerAscii {c : Char} (h : (lowerAscii c).toNat < 128) : c.toNat < 128 := by
  cases hu : isUpperAscii c with
  | true =>
    have hc := isUpperAscii_iff.1 hu
    omega
  | false => rwa [lowerAscii_of_not_isUpper hu] at h

/-! ## Fixed lists -/

/-- What is computed for a fixed list of characters. -/
theorem forall_mem_of_all {p : Char → Prop} [DecidablePred p] {cs : List Char}
    (h : cs.all (fun c => decide (p c)) = true) : ∀ c ∈ cs, p c :=
  fun c hc => of_decide_eq_true (List.all_eq_true.1 h c hc)

/-! ## Lower-casing of ASCII texts -/

/-- On ASCII characters full lower-casing is the ASCII map, whatever stands before them. -/
theorem lowerFrom_of_ascii {cs : List Char} (before : List Char)
    (h : ∀ c ∈ cs, c.toNat < 128) : lowerFrom before cs = cs.map lowerAscii := by
  induction cs generalizing before with
  | nil => rfl
  | cons c rest ih =>
    have hc : c.toNat < 128 := h c List.mem_cons_self
    have hs : c ≠ 'Σ' := by
      rintro rfl
      exact absurd hc (by decide)
    have hi : c ≠ 'İ' := by
      rintro rfl
      exact absurd hc (by decide)
    rw [lowerFrom, if_neg hs, if_neg hi, lowerChar, if_pos hc,
      ih (c :: before) fun d hd => h d (List.mem_cons_of_mem c hd)]
    rfl

/-- An ASCII text in small letters. -/
theorem toList_lower_of_ascii {s : String} (h : ∀ c ∈ s.toList, c.toNat < 128) :
    (lower s).toList = s.toList.map lowerAscii := by
  rw [lower, String.toList_ofList, lowerFrom_of_ascii [] h]

end Scaffold.Text
