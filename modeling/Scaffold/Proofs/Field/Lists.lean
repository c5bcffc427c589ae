import Scaffold.Field.Codec
import Scaffold.Proofs.Text.Parts
import Scaffold.Proofs.Text.Trimmed

/-!
# Lists as form texts

A list of texts is shown with a comma and a space between its entries, and a text is read as a list by
cutting it at every comma and trimming the parts. Which lists come back, and why a second pass through
the form changes nothing.
-/

namespace Scaffold

open Text

/-! ## Trimming -/

/-- The space in front of an entry does not count. -/
theorem Text.trimChars_space_cons (cs : List Char) : trimChars (' ' :: cs) = trimChars cs := by
  have hspace : isBlank ' ' = true := by decide
  rw [trimChars, trimStartChars, List.dropWhile_cons_of_pos hspace]
  rfl

/-! ## Lists of texts as text -/

/-- Texts are shown as they are. -/
theorem scriptText_text (s : String) : (Value.text s).scriptText = .ok s := rfl

theorem scriptTexts_texts (xs : List String) : Value.scriptTexts (xs.map .text) = .ok xs := by
  induction xs with
  | nil => rfl
  | cons x rest ih =>
    rw [List.map_cons, Value.scriptTexts, scriptText_text, ih]
    rfl

theorem listText_texts (xs : List String) : listText (xs.map .text) = .ok (commaList xs) := by
  rw [listText, scriptTexts_texts]
  rfl

/-- Only no entries and a single empty one are shown as nothing. -/
theorem commaList_eq_empty_iff {xs : List String} : commaList xs = "" ↔ xs = [] ∨ xs = [""] := by
  rw [← String.toList_eq_nil_iff, toList_commaList]
  rcases xs with _ | ⟨x, _ | ⟨y, rest⟩⟩
  · simp
  · simp
  · simp [List.intercalate_cons_cons]

/-! ## Texts as lists of texts -/

theorem listEntries_empty : listEntries "" = [] := rfl

theorem listEntries_of_ne_empty {s : String} (h : s ≠ "") :
    listEntries s = (partsBetween ',' s.toList).map fun part => String.ofList (trimChars part) := by
  rw [listEntries, if_neg (by simpa using h)]

/-- What is read from a text is trimmed and holds no comma. -/
theorem trim_and_comma_not_mem_of_mem_listEntries {s x : String} (h : x ∈ listEntries s) :
    trim x = x ∧ ',' ∉ x.toList := by
  by_cases hs : s = ""
  · rw [hs, listEntries_empty] at h
    exact absurd h List.not_mem_nil
  · rw [listEntries_of_ne_empty hs] at h
    obtain ⟨part, hpart, rfl⟩ := List.mem_map.1 h
    rw [String.toList_ofList]
    constructor
    · apply trim_eq_self
      rw [String.toList_ofList]
      exact isTrimmed_trimChars part
    · intro hm
      -- A character of the trimmed part is one of the part, and no part holds the comma.
      obtain ⟨before, after, he, -⟩ := exists_eq_append_trimChars part
      apply not_mem_of_mem_partsBetween hpart
      rw [he]
      simp [hm]

/-- Entries without commas are cut where they were put together, each but the first with the space in
front. -/
theorem partsBetween_spaced {p : List Char} {ps : List (List Char)} (hp : ',' ∉ p)
    (hps : ∀ q ∈ ps, ',' ∉ q) :
    partsBetween ',' ([',', ' '].intercalate (p :: ps)) = p :: ps.map (' ' :: ·) := by
  induction ps generalizing p with
  | nil =>
    rw [List.intercalate_singleton]
    exact partsBetween_of_not_mem hp
  | cons q qs ih =>
    -- The space goes to the next entry, so that only the comma is left as a mark.
    have hnext : [',', ' '].intercalate (p :: q :: qs)
        = p ++ ',' :: [',', ' '].intercalate ((' ' :: q) :: qs) := by
      rw [List.intercalate_cons_cons]
      cases qs <;> simp [List.intercalate_cons_cons]
    have hq : ',' ∉ ' ' :: q := by
      simp [hps q List.mem_cons_self]
    rw [hnext, partsBetween_append hp, ih hq fun r hr => hps r (List.mem_cons_of_mem q hr)]
    rfl

/-- Entries without commas that are shown and read come back trimmed. -/
theorem listEntries_commaList {xs : List String} (h : ∀ x ∈ xs, ',' ∉ x.toList) (hne : commaList xs ≠ "") :
    listEntries (commaList xs) = xs.map trim := by
  cases xs with
  | nil => exact absurd rfl hne
  | cons x rest =>
    have hrest : ∀ q ∈ rest.map String.toList, ',' ∉ q := by
      intro q hq
      obtain ⟨y, hy, rfl⟩ := List.mem_map.1 hq
      exact h y (List.mem_cons_of_mem x hy)
    rw [listEntries_of_ne_empty hne, toList_commaList, List.map_cons,
      partsBetween_spaced (h x List.mem_cons_self) hrest]
    simp [trim, trimChars_space_cons]

example : listEntries " a ,b,  c" = ["a", "b", "c"] := by decide

/-- Trimmed entries without commas come back as they are. -/
theorem listEntries_commaList_eq_self {xs : List String} (h : ∀ x ∈ xs, trim x = x ∧ ',' ∉ x.toList)
    (hne : xs ≠ [""]) : listEntries (commaList xs) = xs := by
  by_cases hs : commaList xs = ""
  · rcases commaList_eq_empty_iff.1 hs with rfl | rfl
    · exact listEntries_empty
    · exact absurd rfl hne
  · rw [listEntries_commaList (fun x hx => (h x hx).2) hs]
    conv => rhs; rw [← List.map_id xs]
    exact List.map_congr_left fun x hx => (h x hx).1

theorem texts_inj {xs ys : List String} : Value.texts xs = Value.texts ys ↔ xs = ys := by
  rw [Value.texts, Value.texts, Value.list.injEq]
  exact List.map_inj_right fun _ _ => Value.text.inj

/-! ## Lists that are filled in -/

/-- A list is filled in if its items with commas between them are no blank text. -/
theorem isBlank_list (items : List Value) : (Value.list items).isBlank
    = (Value.scriptTexts items).map fun parts => isBlankText (",".intercalate parts) := by
  rw [Value.isBlank, Value.scriptText]
  cases Value.scriptTexts items <;> rfl

theorem toList_intercalate_comma (xs : List String) :
    (",".intercalate xs).toList = [','].intercalate (xs.map String.toList) := by
  rw [String.toList_intercalate]
  rfl

/-- The space after a comma brings no blank text about. -/
theorem isBlankText_commaList {xs : List String} (h : isBlankText (",".intercalate xs) = false) :
    isBlankText (commaList xs) = false := by
  obtain ⟨c, hc, hblank⟩ := isBlankText_eq_false_iff.1 h
  rw [toList_intercalate_comma, mem_intercalate_iff] at hc
  refine isBlankText_eq_false_iff.2 ⟨c, ?_, hblank⟩
  rw [toList_commaList, mem_intercalate_iff]
  exact hc.imp_left (And.imp_left fun h => List.mem_cons.2 (.inl (List.mem_singleton.1 h)))

/-- What is read from a text that is not blank is filled in: a comma stands between two entries, and
any other character that is no blank stays in its entry. -/
theorem isBlankText_listEntries {s : String} (h : isBlankText s = false) :
    isBlankText (",".intercalate (listEntries s)) = false := by
  have hne : s ≠ "" := by
    rintro rfl
    cases h
  obtain ⟨c, hc, hblank⟩ := isBlankText_eq_false_iff.1 h
  refine isBlankText_eq_false_iff.2 ⟨c, ?_, hblank⟩
  rw [toList_intercalate_comma, listEntries_of_ne_empty hne, mem_intercalate_iff]
  rcases eq_or_mem_partsBetween ',' hc with rfl | ⟨part, hpart, hm⟩
  · refine .inl ⟨List.mem_singleton_self _, ?_⟩
    rw [List.length_map, List.length_map]
    exact one_lt_length_partsBetween hc
  · refine .inr ⟨trimChars part, ?_, mem_trimChars hm hblank⟩
    rw [List.map_map]
    exact List.mem_map.2 ⟨part, hpart, String.toList_ofList⟩

/-! ## Through the form and back -/

theorem encode_list_texts (xs : List String) :
    Kind.list.encode (Value.texts xs) = .ok (.text (commaList xs)) := by
  show ((listText (xs.map .text)).mapError EncodeFault.text).map Value.text = _
  rw [listText_texts]
  rfl

theorem decodedText_text (s : String) : decodedText (.text s) = .ok s := by
  by_cases h : s = ""
  · subst h
    rfl
  · have htruthy : (Value.text s).truthy = true := by
      simp [Value.truthy, h]
    rw [decodedText, if_pos htruthy]
    rfl

theorem decode_list_text (s : String) :
    Kind.list.decode (.text s) = .ok (Value.texts (listEntries s)) := by
  show (decodedText (.text s)).map _ = _
  rw [decodedText_text]
  rfl

/-- A list of texts that is shown and read comes back exactly if its entries are trimmed and hold no
comma, and if it is not the list of the empty text alone, which is shown as an empty list is. A text that
is read, shown, read and shown again is the same the second time. -/
theorem decode_encode_list :
    (∀ xs : List String, ∃ shown, Kind.list.encode (Value.texts xs) = .ok shown
      ∧ (Kind.list.decode shown = .ok (Value.texts xs)
        ↔ (∀ x ∈ xs, trim x = x ∧ ',' ∉ x.toList) ∧ xs ≠ [""]))
    ∧ ∀ t : String, ∃ v shown v', Kind.list.decode (.text t) = .ok v ∧ Kind.list.encode v = .ok shown
      ∧ Kind.list.decode shown = .ok v' ∧ Kind.list.encode v' = .ok shown := by
  constructor
  · intro xs
    refine ⟨_, encode_list_texts xs, ?_⟩
    rw [decode_list_text, Except.ok.injEq, texts_inj]
    constructor
    · intro h
      refine ⟨fun x hx => ?_, ?_⟩
      · rw [← h] at hx
        exact trim_and_comma_not_mem_of_mem_listEntries hx
      · rintro rfl
        exact absurd h (by decide)
    · rintro ⟨h, hne⟩
      exact listEntries_commaList_eq_self h hne
  · intro t
    refine ⟨_, _, _, decode_list_text t, encode_list_texts _, decode_list_text _, ?_⟩
    by_cases hone : listEntries t = [""]
    · -- A text of blanks only is read as one empty entry, and that is shown as nothing.
      rw [hone]
      rfl
    · rw [listEntries_commaList_eq_self (fun x => trim_and_comma_not_mem_of_mem_listEntries) hone]
      exact encode_list_texts _

end Scaffold
