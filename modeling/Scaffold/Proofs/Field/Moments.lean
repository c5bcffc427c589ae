import Scaffold.Field.Check
import Scaffold.Field.Codec
import Scaffold.Proofs.Calendar.Iso
import Scaffold.Proofs.Json.Scalars
import Scaffold.Proofs.Text.Parts
import Scaffold.Proofs.Text.Trimmed

/-!
# Moments as form texts

A date-time input takes a day and a time to the minute, so that everything after the first sixteen characters
of a moment is cut off. A moment in the extended form is still one then.

* `isMomentText_inputStart`: a text of a moment that is cut off is one;
* `encode_timestamp_iff`: which moments and days have form texts that are accepted and read back.
-/

namespace Scaffold

open Text

/-- A moment is no blank text. -/
theorem isBlankText_of_isMomentText {s : String} (h : isMomentText s = true) : isBlankText s = false := by
  rw [← Bool.not_eq_true]
  intro hblank
  have hnil : momentText s = "" := by
    rw [momentText, trim, trimChars_eq_nil hblank]
    rfl
  have hnone : (Iso.moment? "").isSome = false := by decide
  rw [isMomentText, hnil, hnone] at h
  cases h

section

variable {cs : List Char} (h : IsTrimmed cs) (hz : 'Z' ∉ cs)

include h hz

theorem momentText_eq_self : momentText (String.ofList cs) = String.ofList cs := by
  have htrim : (trim (String.ofList cs)).toList = cs := by
    rw [trim, String.toList_ofList, String.toList_ofList, trimChars_eq_self h]
  rw [momentText, htrim, flatMap_mark_eq_self hz]

/-- A trimmed part stands as it is at the start of what is read. -/
theorem exists_momentText_append (hne : cs ≠ []) (rest : List Char) :
    ∃ tail, momentText (String.ofList (cs ++ rest)) = String.ofList (cs ++ tail) := by
  obtain ⟨tail, ht⟩ := exists_trimChars_append h hne rest
  have htrim : (trim (String.ofList (cs ++ rest))).toList = cs ++ tail := by
    rw [trim, String.toList_ofList, String.toList_ofList, ht]
  refine ⟨tail.flatMap fun c => if c == 'Z' then "+00:00".toList else [c], ?_⟩
  rw [momentText, htrim, List.flatMap_append, flatMap_mark_eq_self hz]

end

theorem isBlank_of_isDecimalDigit {c : Char} (h : isDecimalDigit c = true) : isBlank c = false := by
  apply isBlank_of_visible
  simp only [isDecimalDigit, Bool.and_eq_true, decide_eq_true_eq, Char.le_def, UInt32.le_iff_toNat_le] at h
  have hzero : '0'.val.toNat = 48 := rfl
  have hnine : '9'.val.toNat = 57 := rfl
  show 33 ≤ c.val.toNat ∧ c.val.toNat ≤ 126
  omega

/-- What begins in the extended form has a trimmed start without a letter for universal time, which can go
on with anything. -/
theorem exists_append_of_beginsExtended {cs : List Char} (h : Iso.beginsExtended cs = true) :
    ∃ front rest, cs = front ++ rest ∧ front.length = Iso.extendedLength ∧ IsTrimmed front ∧ 'Z' ∉ front
      ∧ ∀ tail, Iso.beginsExtended (front ++ tail) = true := by
  unfold Iso.beginsExtended at h
  split at h
  next y₁ y₂ y₃ y₄ m₁ m₂ d₁ d₂ t h₁ h₂ n₁ n₂ rest =>
    refine ⟨[y₁, y₂, y₃, y₄, '-', m₁, m₂, '-', d₁, d₂, t, h₁, h₂, ':', n₁, n₂], rest, rfl, rfl, ?_, ?_,
      fun _ => h⟩
    all_goals
      simp only [Bool.and_eq_true, List.all_cons, List.all_nil, and_true, bne_iff_ne] at h
      obtain ⟨⟨hy₁, hy₂, hy₃, hy₄, hm₁, hm₂, hd₁, hd₂, hh₁, hh₂, hn₁, hn₂⟩, ht⟩ := h
    · constructor
      · simp [isBlank_of_isDecimalDigit hy₁]
      · simp [isBlank_of_isDecimalDigit hn₂]
    · have hne : ∀ {c}, isDecimalDigit c = true → 'Z' ≠ c := fun hc =>
        Ne.symm (ne_of_isDecimalDigit hc (by decide))
      simp [hne hy₁, hne hy₂, hne hy₃, hne hy₄, hne hm₁, hne hm₂, hne hd₁, hne hd₂, hne hh₁, hne hh₂,
        hne hn₁, hne hn₂, Ne.symm ht]
  next => cases h

/-- A date-time input takes the start of a text. -/
theorem momentInput_text (s : String) : momentInput (.text s) = .ok (inputStart s) := rfl

/-- A moment that begins in the extended form is one in a date-time input. -/
theorem isMomentText_inputStart {s : String} (hb : Iso.beginsExtended s.toList = true)
    (h : isMomentText s = true) : isMomentText (inputStart s) = true := by
  obtain ⟨front, rest, hs, hlength, htrimmed, hz, hgoes⟩ := exists_append_of_beginsExtended hb
  have hne : front ≠ [] := by
    rintro rfl
    cases hlength
  have htake : ∀ tail, (front ++ tail).take Iso.extendedLength = front := fun tail => by
    rw [← hlength, List.take_left]
  have hinput : inputStart s = String.ofList front := by
    show String.ofList (s.toList.take Iso.extendedLength) = _
    rw [hs, htake]
  obtain ⟨tail, htail⟩ := exists_momentText_append htrimmed hz hne rest
  have hread : (Iso.moment? (String.ofList (front ++ tail))).isSome = true := by
    rw [← htail, ← hs, String.ofList_toList]
    exact h
  have hshort := Iso.isSome_moment?_take (hgoes tail) hread
  rw [htake] at hshort
  rw [hinput, isMomentText, momentText_eq_self htrimmed hz]
  exact hshort

example : Iso.beginsExtended "2024-05-01 09:05:30Z".toList = true := by decide

example : Iso.beginsExtended "20240501T090530Z".toList = false := by decide

/-! ## Moments and days -/

theorem Moment.mem_inputText {m : Moment} {c : Char} (hc : c ∈ m.inputText.toList) :
    isDecimalDigit c = true ∨ c = '-' ∨ c = 'T' ∨ c = ':' := by
  obtain ⟨-, -, hmonth, hday⟩ := m.date.bounds
  obtain ⟨hhour, hminute⟩ := m.time.bounds
  have htwo : ∀ {n : Nat}, n < 100 → c = (n / 10).digitChar ∨ c = (n % 10).digitChar →
      isDecimalDigit c = true := by
    rintro n hn (rfl | rfl)
    · exact isDecimalDigit_digitChar (by omega)
    · exact isDecimalDigit_digitChar (by omega)
  rw [m.toList_inputText] at hc
  simp only [List.mem_append, List.mem_cons, List.not_mem_nil, or_false] at hc
  rcases hc with hc | hc | hc | hc | hc | hc | hc | hc | hc | hc | hc | hc | hc
  · exact .inl (Json.isDecimalDigit_of_mem_toDigits hc)
  · exact .inr (.inl hc)
  · exact .inl (htwo hmonth (.inl hc))
  · exact .inl (htwo hmonth (.inr hc))
  · exact .inr (.inl hc)
  · exact .inl (htwo hday (.inl hc))
  · exact .inl (htwo hday (.inr hc))
  · exact .inr (.inr (.inl hc))
  · exact .inl (htwo (by omega : m.time.hour < 100) (.inl hc))
  · exact .inl (htwo (by omega : m.time.hour < 100) (.inr hc))
  · exact .inr (.inr (.inr hc))
  · exact .inl (htwo (by omega : m.time.minute < 100) (.inl hc))
  · exact .inl (htwo (by omega : m.time.minute < 100) (.inr hc))

/-- There is nothing in the value of a date-time input that is trimmed or replaced before it is read. -/
theorem Moment.momentText_inputText (m : Moment) : momentText m.inputText = m.inputText := by
  have hvisible : ∀ c ∈ m.inputText.toList, Text.isBlank c = false := by
    intro c hc
    rcases mem_inputText hc with hc | rfl | rfl | rfl
    · exact isBlank_of_isDecimalDigit hc
    all_goals decide
  have hz : 'Z' ∉ m.inputText.toList := by
    intro hc
    have hcases := mem_inputText hc
    revert hcases
    decide
  have htext := momentText_eq_self (Text.isTrimmed_of_forall hvisible) hz
  rwa [String.ofList_toList] at htext

theorem accepts_inputText_iff (m : Moment) :
    Kind.timestamp.accepts (.text m.inputText) = true ↔ 1000 ≤ m.date.year := by
  show isMomentText m.inputText = true ↔ _
  rw [isMomentText, m.momentText_inputText]
  by_cases h : 1000 ≤ m.date.year
  · simp [Iso.moment?_inputText h, h]
  · simp [Iso.moment?_inputText_eq_none (by omega : m.date.year < 1000), h]

/-- The form text of a moment is accepted, and is read as the moment to its minute, exactly if the year has four
digits, and the form text of a day is accepted and read as its midnight for the same years. -/
theorem encode_timestamp_iff (m : Moment) (d : Date) :
    (∃ s, Kind.timestamp.encode (.moment m) = .ok (.text s)
      ∧ (Kind.timestamp.accepts (.text s) = true ↔ 1000 ≤ m.date.year)
      ∧ (Iso.moment? s = some m.toMinute ↔ 1000 ≤ m.date.year))
    ∧ ∃ s, Kind.timestamp.encode (.date d) = .ok (.text s)
      ∧ (Kind.timestamp.accepts (.text s) = true ↔ 1000 ≤ d.year)
      ∧ (Iso.moment? s = some d.midnight ↔ 1000 ≤ d.year) := by
  constructor
  · exact ⟨m.inputText, rfl, accepts_inputText_iff m, Iso.moment?_inputText_iff m⟩
  · refine ⟨d.midnight.inputText, ?_, accepts_inputText_iff d.midnight, Iso.moment?_inputText_iff d.midnight⟩
    rw [← d.inputMoment_eq]
    rfl

/-- The last minutes of the year 999 have a form text that is no moment. -/
theorem encode_timestamp_year_999 :
    ∃ m : Moment, m.date.year = 999 ∧ Kind.timestamp.encode (.moment m) = .ok (.text "999-12-31T23:59")
      ∧ Kind.timestamp.accepts (.text "999-12-31T23:59") = false ∧ Iso.moment? "999-12-31T23:59" = none := by
  refine ⟨⟨⟨999, 12, 31, by decide⟩, ⟨23, 59, 0, 0, by decide⟩, none⟩, rfl, ?_, by decide, by decide⟩
  have htext : Moment.inputText ⟨⟨999, 12, 31, by decide⟩, ⟨23, 59, 0, 0, by decide⟩, none⟩ = "999-12-31T23:59" := by
    decide
  exact congrArg (fun s => Except.ok (Value.text s)) htext

end Scaffold
