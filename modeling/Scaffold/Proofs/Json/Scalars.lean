import Scaffold.Json.Reader
import Scaffold.Proofs.Json.Writing

/-!
# Texts, numbers and words of JSON

A text is read back from its escapes, a whole number from its digits if there are not too many of them,
and each word as what it stands for.
-/

namespace Scaffold.Json

/-! ## Texts -/

/-- A character is no half of a surrogate pair. -/
theorem codePointChar?_toNat (c : Char) : Text.codePointChar? c.toNat = some c := by
  have hvalid : c.toNat < 0xD800 ∨ 0xDFFF < c.toNat := by
    rcases c.valid with h | ⟨h, -⟩
    · exact .inl h
    · exact .inr h
  have hhigh : Text.isHighSurrogate c.toNat = false := by
    simp [Text.isHighSurrogate]
    omega
  have hlow : Text.isLowSurrogate c.toNat = false := by
    simp [Text.isLowSurrogate]
    omega
  simp [Text.codePointChar?, hhigh, hlow]

section

variable {lone : Option Char}

/-- No pair is looked for after a control character. -/
theorem unicodeEscape_of_control {c : Char} (h : c.toNat < 0x20) (cs : List Char) :
    unicodeEscape lone c.toNat cs = .ok (c, cs) := by
  have hhigh : Text.isHighSurrogate c.toNat = false := by
    simp [Text.isHighSurrogate]
    omega
  have hlone : loneUnit lone c.toNat cs = .ok (c, cs) := by
    rw [loneUnit, codePointChar?_toNat]
    rfl
  unfold unicodeEscape
  rw [hhigh]
  split <;> exact hlone

theorem fourHex?_append {digits : List Char} {n : Nat} (hl : digits.length = 4)
    (hd : ofDigits? 16 digits = some n) (rest : List Char) :
    fourHex? (digits ++ rest) = some (n, rest) := by
  rw [fourHex?, List.take_left' hl, List.drop_left' hl, hl, hd]
  rfl

/-- A character is read from its escape, in front of the rest of the text with its closing quote. -/
theorem textFrom_escapeChar (c : Char) (opened reversed : List Char) {rest : List Char} (hne : rest ≠ [])
    (fuel : Nat) : textFrom lone opened (fuel + 1) reversed (escapeChar c ++ rest)
      = textFrom lone opened fuel (c :: reversed) rest := by
  have hc := escaped_escapeChar c
  generalize escapeChar c = e at hc
  cases hc with
  | short hl =>
    simp only [shortEscapes, List.mem_cons, Prod.mk.injEq, List.not_mem_nil, or_false] at hl
    rcases hl with ⟨rfl, rfl⟩ | ⟨rfl, rfl⟩ | ⟨rfl, rfl⟩ | ⟨rfl, rfl⟩ | ⟨rfl, rfl⟩ | ⟨rfl, rfl⟩ | ⟨rfl, rfl⟩
    all_goals rfl
  | code hn =>
    have hlong : (((Quoted.hex 4 c.toNat).toList ++ rest).drop 4).isEmpty = false := by
      rw [List.drop_left' (Quoted.length_hex hn)]
      simpa using hne
    rw [List.cons_append, List.cons_append, textFrom, hlong, if_neg Bool.false_ne_true,
      fourHex?_append (Quoted.length_hex hn) (Quoted.ofDigits?_hex hn)]
    dsimp only
    rw [unicodeEscape_of_control hn]
  | plain hquote hslash hn =>
    have hvisible : ¬ c.toNat < 0x20 := by omega
    rw [List.singleton_append, textFrom]
    · rw [if_neg hvisible]
    all_goals simp [hquote, hslash]

/-- A text is read up to its closing quote. -/
theorem textFrom_escapeChars (opened : List Char) {cs : List Char} (rest : List Char) {fuel : Nat}
    (h : cs.length < fuel) (reversed : List Char) :
    textFrom lone opened fuel reversed (escapeChars cs ++ '"' :: rest)
      = .ok (String.ofList (reversed.reverse ++ cs), rest) := by
  induction cs generalizing fuel reversed with
  | nil =>
    cases fuel with
    | zero => exact absurd h (by simp)
    | succ fuel =>
      rw [List.append_nil]
      rfl
  | cons c cs ih =>
    cases fuel with
    | zero => exact absurd h (by simp)
    | succ fuel =>
      rw [escapeChars_cons, List.append_assoc, textFrom_escapeChar c opened reversed (by simp),
        ih (by simpa using h), List.reverse_cons, List.append_assoc, List.singleton_append]

theorem length_le_escapeChars (cs : List Char) : cs.length ≤ (escapeChars cs).length := by
  induction cs with
  | nil => exact Nat.le_refl 0
  | cons c cs ih =>
    have hc : 0 < (escapeChar c).length := by
      have he := escaped_escapeChar c
      generalize escapeChar c = e at he
      cases he <;> simp
    rw [escapeChars_cons, List.length_append, List.length_cons]
    omega

theorem toList_quote (s : String) : (quote s).toList = '"' :: (escapeChars s.toList ++ ['"']) := by
  simp [quote, String.toList_append]

/-- A text that was put in double quotes is read as itself, whatever it holds and whatever follows it. -/
theorem text_quote (s : String) (rest : List Char) {fuel : Nat}
    (h : (escapeChars s.toList).length < fuel) :
    text lone fuel (escapeChars s.toList ++ '"' :: rest) = .ok (s, rest) := by
  have hlength := length_le_escapeChars s.toList
  rw [text, textFrom_escapeChars _ rest (by omega) [], List.reverse_nil, List.nil_append,
    String.ofList_toList]

end

/-! ## Digits -/

theorem isDecimalDigit_of_mem_toDigits {m : Nat} {c : Char} (h : c ∈ Nat.toDigits 10 m) :
    isDecimalDigit c = true := by
  have hc := Nat.isDigit_of_mem_toDigits (by decide) (by decide) h
  simpa [isDecimalDigit, Char.isDigit, Char.le_def] using hc

theorem digitsFrom?_of_digits {cs : List Char} (h : ∀ c ∈ cs, isDecimalDigit c = true) (value : Nat) :
    digitsFrom? 10 value cs = some (Nat.ofDigitChars 10 cs value) := by
  induction cs generalizing value with
  | nil => rfl
  | cons c cs ih =>
    obtain ⟨hc, hcs⟩ := List.forall_mem_cons.1 h
    have hrange : '0' ≤ c ∧ c ≤ '9' := by
      simpa [isDecimalDigit] using hc
    have hsmall : c.toNat - 48 < 10 := by
      have hnine : c.toNat ≤ 57 := hrange.2
      omega
    have hvalue : digitValue? 10 c = some (c.toNat - '0'.toNat) := by
      simp [digitValue?, hrange, hsmall]
    rw [digitsFrom?_cons, hvalue, Option.bind_some, ih hcs, Nat.mul_comm]
    rfl

theorem digitsFrom?_toDigits (m : Nat) : digitsFrom? 10 0 (Nat.toDigits 10 m) = some m := by
  rw [digitsFrom?_of_digits fun c hc => isDecimalDigit_of_mem_toDigits hc,
    Nat.ofDigitChars_toDigits (by decide) (by decide)]

/-- Only zero begins with the digit zero. -/
theorem eq_zero_of_toDigits_eq {m : Nat} {rest : List Char} (h : Nat.toDigits 10 m = '0' :: rest) :
    m = 0 := by
  induction m using Nat.strongRecOn generalizing rest with
  | ind m ih =>
    by_cases hm : m < 10
    · rw [Nat.toDigits_of_lt_base hm, List.cons.injEq] at h
      exact Nat.digitChar_eq_zero.1 h.1
    · -- The leading digits are those of the tenth part, which is not zero.
      rw [Nat.toDigits_of_base_le (by decide) (by omega)] at h
      cases hd : Nat.toDigits 10 (m / 10) with
      | nil => exact absurd hd Nat.toDigits_ne_nil
      | cons c cs =>
        rw [hd, List.cons_append, List.cons.injEq] at h
        have htenth := ih (m / 10) (by omega) (hd.trans (congrArg (· :: cs) h.1))
        omega

/-! ## Numbers -/

/-- Characters that do not go on with a number in front of them. -/
def EndsNumber (rest : List Char) : Prop :=
  ∀ c ∈ rest.head?, isDecimalDigit c = false ∧ c ≠ '.' ∧ c ≠ 'e' ∧ c ≠ 'E'

theorem EndsNumber.takeWhile_append {rest ds : List Char} (h : EndsNumber rest)
    (hd : ∀ c ∈ ds, isDecimalDigit c = true) :
    (ds ++ rest).takeWhile isDecimalDigit = ds ∧ (ds ++ rest).dropWhile isDecimalDigit = rest := by
  rw [List.takeWhile_append_of_pos hd, List.dropWhile_append_of_pos hd]
  cases rest with
  | nil => simp
  | cons c cs => simp [(h c rfl).1]

theorem EndsNumber.fractionPart {rest : List Char} (h : EndsNumber rest) :
    fractionPart rest = ([], rest) := by
  cases rest with
  | nil => rfl
  | cons c cs =>
    rw [Json.fractionPart]
    rintro tail hc
    exact absurd (List.cons.inj hc).1 (h c rfl).2.1

theorem EndsNumber.exponentPart {rest : List Char} (h : EndsNumber rest) :
    exponentPart rest = ([], rest) := by
  cases rest with
  | nil => rfl
  | cons c cs =>
    obtain ⟨-, -, hsmall, hlarge⟩ := h c rfl
    simp [Json.exponentPart, hsmall, hlarge]

/-- The digits of a number are its whole part. -/
theorem wholePart?_toDigits (m : Nat) {rest : List Char} (h : EndsNumber rest) :
    wholePart? (Nat.toDigits 10 m ++ rest) = some (Nat.toDigits 10 m, rest) := by
  have hdigits : ∀ c ∈ Nat.toDigits 10 m, isDecimalDigit c = true :=
    fun c hc => isDecimalDigit_of_mem_toDigits hc
  obtain ⟨htake, hdrop⟩ := h.takeWhile_append hdigits
  cases hd : Nat.toDigits 10 m with
  | nil => exact absurd hd Nat.toDigits_ne_nil
  | cons c cs =>
    by_cases hc : c = '0'
    · subst hc
      obtain rfl := eq_zero_of_toDigits_eq hd
      cases hd
      rfl
    · rw [hd] at htake hdrop
      have hdigit : isDecimalDigit c = true := hdigits c (hd ▸ List.mem_cons_self)
      rw [List.cons_append, wholePart?]
      · rw [← List.cons_append, htake, hdrop, if_pos hdigit]
      · exact hc

/-- The sign of a numeral. -/
def signOf (negative : Bool) : List Char := if negative then ['-'] else []

/-- A number is read from its sign and its digits, which must not be too many. -/
theorem number_toDigits (negative : Bool) {m : Nat} (hm : (Nat.toDigits 10 m).length ≤ digitLimit)
    {rest : List Char} (h : EndsNumber rest) :
    number (signOf negative ++ (Nat.toDigits 10 m ++ rest))
      = .ok (.int (if negative then -(m : Int) else m), rest) := by
  have hwhole := wholePart?_toDigits m h
  have hvalue := digitsFrom?_toDigits m
  cases hd : Nat.toDigits 10 m with
  | nil => exact absurd hd Nat.toDigits_ne_nil
  | cons c cs =>
    have hc : c ≠ '-' := by
      rintro rfl
      exact absurd (isDecimalDigit_of_mem_toDigits (hd ▸ List.mem_cons_self)) (by decide)
    rw [hd] at hwhole hvalue hm
    rw [List.cons_append] at hwhole
    have hfew : ¬ digitLimit < (c :: cs).length := Nat.not_lt.2 hm
    cases negative <;>
      simp [number, signOf, hc, hwhole, hvalue, h.fractionPart, h.exponentPart, hfew, -List.length_cons]

theorem toList_toString (n : Int) :
    (toString n).toList = signOf (decide (n < 0)) ++ Nat.toDigits 10 n.natAbs := by
  cases n with
  | ofNat m =>
    show (Nat.repr m).toList = _
    rw [Nat.toList_repr]
    rfl
  | negSucc m =>
    show ("-" ++ Nat.repr (m + 1)).toList = _
    simp [String.toList_append, Nat.toList_repr, signOf, Int.negSucc_lt_zero]

theorem length_toDigits_natAbs_iff (n : Int) :
    (Nat.toDigits 10 n.natAbs).length ≤ digitLimit ↔ (Value.int n).isShown = true := by
  rw [Nat.length_toDigits_le_iff (by decide) (by decide), Value.isShown, decide_eq_true_eq]
  unfold unwritableSize
  -- The power is not to be computed.
  generalize digitLimit = k
  exact Iff.rfl

/-- A whole number that can be shown is read as itself. -/
theorem number_toString {n : Int} (hn : (Value.int n).isShown = true) {rest : List Char}
    (h : EndsNumber rest) : number ((toString n).toList ++ rest) = .ok (.int n, rest) := by
  have hvalue : (if decide (n < 0) then -(n.natAbs : Int) else n.natAbs) = n := by
    by_cases hneg : n < 0
    · rw [if_pos (decide_eq_true hneg)]
      omega
    · rw [if_neg (by simpa using hneg)]
      omega
  rw [toList_toString, List.append_assoc, number_toDigits _ ((length_toDigits_natAbs_iff n).2 hn) h, hvalue]

/-! ## Words -/

/-- A word is not read from characters that begin otherwise. -/
theorem afterWord?_eq_none {word cs : List Char} (i : Nat) (hi : i < word.length) (h : word[i]? ≠ cs[i]?) :
    afterWord? word cs = none := by
  have hne : (cs.take word.length == word) = false := by
    rw [beq_eq_false_iff_ne]
    intro e
    apply h
    rw [← e, List.getElem?_take_of_lt hi]
  rw [afterWord?, hne, if_neg Bool.false_ne_true]

/-- What begins with a digit, or with a minus sign and a digit, is no word. -/
theorem scalar_eq_number {negative : Bool} {d : Char} (hd : isDecimalDigit d = true) (rest : List Char) :
    scalar (signOf negative ++ d :: rest) = number (signOf negative ++ d :: rest) := by
  have hnone : words.findSome? (fun w => (afterWord? w.1.toList (signOf negative ++ d :: rest)).map
      fun rest => (w.2, rest)) = none := by
    rw [List.findSome?_eq_none_iff]
    intro w hw
    rw [Option.map_eq_none_iff]
    have hne : ∀ c, isDecimalDigit c = false → c ≠ d := fun c hc => (ne_of_isDecimalDigit hd hc).symm
    simp only [words, List.mem_cons, List.not_mem_nil, or_false] at hw
    rcases hw with rfl | rfl | rfl | rfl | rfl | rfl
    case inr.inr.inr.inr.inr =>
      -- Only this word begins with a minus sign, and no digit follows it there.
      cases negative with
      | true => exact afterWord?_eq_none 1 (by decide) (by simpa [signOf] using hne 'I' (by decide))
      | false => exact afterWord?_eq_none 0 (by decide) (by simpa [signOf] using hne '-' (by decide))
    all_goals
      cases negative with
      | true => exact afterWord?_eq_none 0 (by decide) (by simp [signOf])
      | false => exact afterWord?_eq_none 0 (by decide) (by simpa [signOf] using hne _ (by decide))
  rw [scalar, hnone]

theorem scalar_null (rest : List Char) : scalar ("null".toList ++ rest) = .ok (.null, rest) := rfl

theorem scalar_bool (b : Bool) (rest : List Char) :
    scalar ((if b then "true" else "false").toList ++ rest) = .ok (.bool b, rest) := by
  cases b <;> rfl

end Scaffold.Json
