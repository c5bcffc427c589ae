import Mathlib.Data.List.Forall2
import Scaffold.Json.Printer

/-!
# What is written

There are three ways in which a character stands inside a JSON text: behind a backslash with a letter of its
own, by its code point in four digits, or as it is. A list or a mapping is written if its parts can be, as
their texts between brackets. Its characters in any layout.
-/

namespace Scaffold

/-! ## Digits -/

theorem digitsFrom?_cons (base value : Nat) (c : Char) (rest : List Char) :
    digitsFrom? base value (c :: rest)
      = (digitValue? base c).bind fun d => digitsFrom? base (value * base + d) rest := by
  rw [digitsFrom?]
  cases digitValue? base c <;> rfl

/-- Each character of a number is a digit. -/
theorem exists_digitValue?_of_mem {base value n : Nat} {cs : List Char}
    (h : digitsFrom? base value cs = some n) {c : Char} (hc : c ∈ cs) :
    ∃ d, digitValue? base c = some d := by
  induction cs generalizing value with
  | nil => exact absurd hc List.not_mem_nil
  | cons e es ih =>
    obtain ⟨d, hd, h⟩ := Option.bind_eq_some_iff.1 (digitsFrom?_cons base value e es ▸ h)
    rcases List.mem_cons.1 hc with rfl | hc
    · exact ⟨d, hd⟩
    · exact ih h hc

/-- No digit is a control character. -/
theorem visible_of_digitValue? {c : Char} {d : Nat} (h : digitValue? 16 c = some d) :
    0x20 ≤ c.toNat := by
  have hnone : ∀ n < 0x20, digitValue? 16 (Char.ofNat n) = none := by
    decide
  apply Nat.le_of_not_lt
  intro hn
  have hc := hnone c.toNat hn
  rw [Char.ofNat_toNat, h] at hc
  cases hc

/-! ## Code points in four digits -/

/-- The digits of the code point of a control character. -/
theorem Quoted.toList_hex {n : Nat} (h : n < 32) :
    (Quoted.hex 4 n).toList = ['0', '0', Nat.digitChar (n / 16), Nat.digitChar (n % 16)] := by
  have hdigits : ∀ m < 32, List.replicate (4 - (Nat.toDigits 16 m).length) '0' ++ Nat.toDigits 16 m
      = ['0', '0', Nat.digitChar (m / 16), Nat.digitChar (m % 16)] := by
    decide
  unfold Quoted.hex
  rw [String.toList_append, String.toList_ofList, String.toList_ofList, String.length_ofList]
  exact hdigits n h

theorem Quoted.ofDigits?_hex {n : Nat} (h : n < 32) :
    ofDigits? 16 (Quoted.hex 4 n).toList = some n := by
  have hdigits : ∀ m < 32, ofDigits? 16 ['0', '0', Nat.digitChar (m / 16), Nat.digitChar (m % 16)]
      = some m := by
    decide
  rw [Quoted.toList_hex h]
  exact hdigits n h

theorem Quoted.length_hex {n : Nat} (h : n < 32) : (Quoted.hex 4 n).toList.length = 4 := by
  rw [Quoted.toList_hex h]
  rfl

namespace Json

/-! ## Characters -/

/-- The letters that stand for characters behind a backslash. -/
def shortEscapes : List (Char × Char) := [
  ('"', '"'), ('\\', '\\'), ('n', '\n'), ('r', '\r'), ('t', '\t'), ('f', '\x0c'), ('b', '\x08')]

/-- A way in which a character stands inside a text. -/
inductive Escaped (c : Char) : List Char → Prop where
  | short {letter : Char} (h : (letter, c) ∈ shortEscapes) : Escaped c ['\\', letter]
  | code (h : c.toNat < 0x20) : Escaped c ('\\' :: 'u' :: (Quoted.hex 4 c.toNat).toList)
  | plain (hquote : c ≠ '"') (hslash : c ≠ '\\') (h : 0x20 ≤ c.toNat) : Escaped c [c]

theorem escaped_escapeChar (c : Char) : Escaped c (escapeChar c) := by
  by_cases hshort : ∃ letter, (letter, c) ∈ shortEscapes
  · obtain ⟨letter, h⟩ := hshort
    simp only [shortEscapes, List.mem_cons, Prod.mk.injEq, List.not_mem_nil, or_false] at h
    rcases h with ⟨-, rfl⟩ | ⟨-, rfl⟩ | ⟨-, rfl⟩ | ⟨-, rfl⟩ | ⟨-, rfl⟩ | ⟨-, rfl⟩ | ⟨-, rfl⟩
    all_goals exact .short (by decide)
  · have hne : ∀ p ∈ shortEscapes, (c == p.2) = false :=
      fun p hp => beq_eq_false_iff_ne.2 fun e => hshort ⟨p.1, e ▸ hp⟩
    simp only [shortEscapes, List.forall_mem_cons] at hne
    obtain ⟨hquote, hslash, hfeed, hreturn, htab, hform, hback, -⟩ := hne
    simp only [escapeChar, hquote, hslash, hfeed, hreturn, htab, hform, hback, Bool.false_eq_true,
      if_false]
    split
    next h => exact .code h
    next h => exact .plain (beq_eq_false_iff_ne.1 hquote) (beq_eq_false_iff_ne.1 hslash) (by omega)

theorem escapeChars_cons (c : Char) (cs : List Char) :
    escapeChars (c :: cs) = escapeChar c ++ escapeChars cs :=
  List.flatMap_cons

/-! ## Brackets -/

theorem toList_enclose_nil (l : Layout) (opening closing : String) :
    (l.enclose opening closing []).toList = opening.toList ++ closing.toList := by
  rw [Layout.enclose, List.isEmpty_nil, if_pos rfl, String.toList_append]

/-- What stands between brackets, with the blanks that a layout puts there. -/
theorem toList_enclose (l : Layout) (opening closing : String) {items : List String} (hne : items ≠ []) :
    (l.enclose opening closing items).toList = opening.toList ++ (l.deeper.lineBreak.toList
      ++ (l.deeper.separator.toList.intercalate (items.map String.toList)
        ++ (l.lineBreak.toList ++ closing.toList))) := by
  rw [Layout.enclose, if_neg (by simpa using hne)]
  simp [String.toList_append, String.toList_intercalate]

/-! ## Records -/

/-- A record whose parts can be written is written as its parts are, each after its key. -/
theorem write_record {α : Type} {l : Layout} {parts : List (String × α)} {f : α → Value}
    {P : α → String → Prop} (h : ∀ e ∈ parts, ∃ s, write l.deeper (f e.2) = .ok s ∧ P e.2 s) :
    ∃ items, write l (Value.record (parts.map fun e => (e.1, f e.2)))
        = .ok (l.enclose "\x7b" "\x7d" items)
      ∧ List.Forall₂ (fun e item => ∃ s, item = quote e.1 ++ ": " ++ s ∧ P e.2 s) parts items := by
  have hentries : ∃ items, writeEntries l.deeper
      ((parts.map fun e => (e.1, f e.2)).map fun e => (Value.text e.1, e.2)) = .ok items
        ∧ List.Forall₂ (fun e item => ∃ s, item = quote e.1 ++ ": " ++ s ∧ P e.2 s) parts items := by
    induction parts with
    | nil => exact ⟨[], by rw [List.map_nil, List.map_nil, writeEntries], .nil⟩
    | cons e rest ih =>
      obtain ⟨s, hw, hp⟩ := h e List.mem_cons_self
      obtain ⟨items, hws, hps⟩ := ih fun e' he => h e' (List.mem_cons_of_mem e he)
      refine ⟨(quote e.1 ++ ": " ++ s) :: items, ?_, .cons ⟨s, rfl, hp⟩ hps⟩
      rw [List.map_cons, List.map_cons, writeEntries, keyText, hw, hws]
  obtain ⟨items, hw, hp⟩ := hentries
  refine ⟨items, ?_, hp⟩
  rw [Value.record, write, hw]

/-- The text of a mapping begins with its brace. -/
theorem exists_toList_eq_of_write_map {l : Layout} {entries : List (Value × Value)} {s : String}
    (h : write l (.map entries) = .ok s) : ∃ rest, s.toList = '\x7b' :: rest := by
  rw [write] at h
  split at h
  next parts _ =>
    cases h
    by_cases hparts : parts = []
    · rw [hparts, toList_enclose_nil]
      exact ⟨_, rfl⟩
    · rw [toList_enclose l _ _ hparts]
      exact ⟨_, rfl⟩
  next => cases h

end Json

end Scaffold
