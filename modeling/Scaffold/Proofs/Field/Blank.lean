import Mathlib.Tactic.Tauto
import Scaffold.Proofs.Field.Lists
import Scaffold.Proofs.Value.Shown

/-!
# Values that are not filled in

A value counts as not filled in by the text that a script sees in it. That text has nothing but blanks only
for null, for texts of blanks, and for lists and tuples of at most one element that is not filled in itself:
the commas between more elements are no blanks.

* `Value.isBlank_iff_isUnfilled`: which values are not filled in, told by their structure;
* `Value.isBlank_text_iff_iff`: on which texts the check agrees with what a script trims.
-/

namespace Scaffold

open Text (isBlankText isBlankText_eq_false_iff)

namespace Value

/-! ## The structure -/

/-- Null, a text of blanks, or a list or a tuple of at most one element, which is such a value itself. A knot
is what its container is. -/
inductive IsUnfilled : Value → Prop where
  | null : IsUnfilled .null
  | text {s : String} (h : ∀ c ∈ s.toList, Text.isBlank c = true) : IsUnfilled (.text s)
  | list {items : List Value} (hone : items.length ≤ 1) (h : ∀ v ∈ items, IsUnfilled v) :
    IsUnfilled (.list items)
  | tuple {items : List Value} (hone : items.length ≤ 1) (h : ∀ v ∈ items, IsUnfilled v) :
    IsUnfilled (.tuple items)
  | knot {label : Nat} {inside : Value} (h : IsUnfilled inside) : IsUnfilled (.knot label inside)

/-! ## Texts of values -/

theorem isBlank_text (s : String) : (Value.text s).isBlank = .ok (isBlankText s) := rfl

/-- The text of null is empty, so that null needs no case of its own. -/
theorem isBlank_eq (v : Value) : v.isBlank = v.scriptText.map isBlankText := by
  unfold isBlank
  cases v with
  | null => rfl
  | _ => exact if_neg Bool.false_ne_true

/-- A tuple is filled in as the list of its elements is. -/
theorem isBlank_tuple (items : List Value) : (Value.tuple items).isBlank = (Value.list items).isBlank := by
  rw [isBlank_eq, isBlank_eq, scriptText, scriptText]

theorem isBlank_singleton (v : Value) : (Value.list [v]).isBlank = v.isBlank := by
  rw [isBlank_list, scriptTexts, isBlank_eq]
  cases v.scriptText with
  | error e => rfl
  | ok s =>
    show Except.ok (isBlankText (",".intercalate [s])) = Except.ok (isBlankText s)
    rw [String.intercalate_singleton]

/-- There is a text for each of the items. -/
theorem length_of_scriptTexts {items : List Value} {parts : List String} (h : scriptTexts items = .ok parts) :
    parts.length = items.length := by
  induction items generalizing parts with
  | nil =>
    cases h
    rfl
  | cons v rest ih =>
    rw [scriptTexts] at h
    split at h
    · cases hrest : scriptTexts rest with
      | error e =>
        rw [hrest] at h
        cases h
      | ok others =>
        rw [hrest] at h
        cases h
        rw [List.length_cons, List.length_cons, ih hrest]
    · cases h

/-- A comma between two elements is no blank. -/
theorem isBlank_cons_cons_ne (v w : Value) (rest : List Value) :
    (Value.list (v :: w :: rest)).isBlank ≠ .ok true := by
  rw [isBlank_list]
  cases h : scriptTexts (v :: w :: rest) with
  | error e => exact nofun
  | ok parts =>
    have hlength : 1 < parts.length := by
      rw [length_of_scriptTexts h]
      exact Nat.le_add_left 2 rest.length
    have hcomma : isBlankText (",".intercalate parts) = false := by
      refine isBlankText_eq_false_iff.2 ⟨',', ?_, by decide⟩
      rw [toList_intercalate_comma, Text.mem_intercalate_iff, List.length_map]
      exact .inl ⟨List.mem_singleton_self _, hlength⟩
    show Except.ok (isBlankText (",".intercalate parts)) ≠ .ok true
    rw [hcomma]
    exact nofun

theorem isBlank_float (x : Binary64) : (Value.float x).isBlank = .ok false := by
  rw [isBlank_eq, scriptText]
  split
  · rfl
  · split
    · exact congrArg Except.ok (isBlankText_toString_int _)
    · exact congrArg Except.ok (Notation.isBlankText_write_shown x)

theorem isBlank_map (entries : List (Value × Value)) : (Value.map entries).isBlank = .ok false := by
  rw [isBlank_eq, scriptText]
  rfl

/-- What is shown as it is, is filled in unless it is a text. -/
theorem map_isBlankText_plainText {v : Value} (htext : ∀ s, v ≠ .text s) :
    v.plainText.map isBlankText = if v.isShown then .ok false else .error .digits := by
  unfold plainText
  split
  · exact congrArg Except.ok (isBlankText_display htext)
  · rfl

theorem isBlank_int (n : Int) :
    (Value.int n).isBlank = if (Value.int n).isShown then .ok false else .error .digits := by
  rw [isBlank_eq, scriptText]
  · exact map_isBlankText_plainText (by simp)
  all_goals simp

/-! ## The structure of values that are not filled in -/

theorem IsUnfilled.isBlank {v : Value} (h : IsUnfilled v) : v.isBlank = .ok true := by
  have hsequence {items : List Value} (hone : items.length ≤ 1) (h : ∀ v ∈ items, v.isBlank = .ok true) :
      (Value.list items).isBlank = .ok true := by
    match items, hone with
    | [], _ => rfl
    | [v], _ => rw [isBlank_singleton, h v List.mem_cons_self]
  induction h with
  | null => rfl
  | text h => rw [isBlank_text, isBlankText, List.all_eq_true.2 h]
  | list hone _ ih => exact hsequence hone ih
  | tuple hone _ ih => rw [isBlank_tuple, hsequence hone ih]
  | knot _ ih =>
    rw [isBlank_eq] at ih
    rw [isBlank_eq, scriptText, ih]

/-- The element of a sequence is looked at in the same way, however deep it stands. -/
theorem isUnfilled_of_isBlank (v : Value) (h : v.isBlank = .ok true) : IsUnfilled v := by
  have helements {items : List Value} (hb : (Value.list items).isBlank = .ok true)
      (hs : sizeOf items < sizeOf v) : items.length ≤ 1 ∧ ∀ w ∈ items, IsUnfilled w := by
    match items, hb, hs with
    | [], _, _ => exact ⟨Nat.zero_le 1, fun _ hw => absurd hw List.not_mem_nil⟩
    | [w], hb, hs =>
      have hsize : sizeOf w < sizeOf v := Nat.lt_trans (List.sizeOf_lt_of_mem List.mem_cons_self) hs
      rw [isBlank_singleton] at hb
      exact ⟨Nat.le_refl 1, List.forall_mem_singleton.2 (isUnfilled_of_isBlank w hb)⟩
    | v :: w :: rest, hb, _ => exact absurd hb (isBlank_cons_cons_ne v w rest)
  -- All that is left is shown as it is, and no literal is blank.
  have hfilled (hp : v.scriptText = v.plainText) (htext : ∀ s, v ≠ .text s) : False := by
    rw [isBlank_eq, hp, map_isBlankText_plainText htext] at h
    split at h <;> cases h
  cases v with
  | null => exact .null
  | text s => exact .text (List.all_eq_true.1 (Except.ok.inj h))
  | list items =>
    obtain ⟨hone, hall⟩ := helements h (by simp)
    exact .list hone hall
  | tuple items =>
    rw [isBlank_tuple] at h
    obtain ⟨hone, hall⟩ := helements h (by simp)
    exact .tuple hone hall
  | knot label inside =>
    rw [isBlank_eq, scriptText, ← isBlank_eq] at h
    exact .knot (isUnfilled_of_isBlank inside h)
  | bool b => cases b <;> cases h
  | float x =>
    rw [isBlank_float] at h
    cases h
  | map entries =>
    rw [isBlank_map] at h
    cases h
  | again label => cases h
  | _ => exact (hfilled rfl (by simp)).elim
termination_by sizeOf v

/-! ## Plain values -/

theorem exists_scriptTexts {items : List Value} (h : ∀ v ∈ items, ∃ s, v.scriptText = .ok s) :
    ∃ parts, scriptTexts items = .ok parts := by
  induction items with
  | nil => exact ⟨[], rfl⟩
  | cons v rest ih =>
    obtain ⟨⟨s, hs⟩, hrest⟩ := List.forall_mem_cons.1 h
    obtain ⟨parts, hparts⟩ := ih hrest
    refine ⟨s :: parts, ?_⟩
    rw [scriptTexts, hs, hparts]
    rfl

/-- A plain value has a text. -/
theorem IsPlain.exists_scriptText {v : Value} (h : v.IsPlain) : ∃ s, v.scriptText = .ok s := by
  have hsequence {items : List Value} (h : ∀ v ∈ items, ∃ s, v.scriptText = .ok s) :
      ∃ s, (scriptTexts items).map (",".intercalate ·) = .ok s := by
    obtain ⟨parts, hparts⟩ := exists_scriptTexts h
    exact ⟨_, by rw [hparts]; rfl⟩
  have hshown := h.isShown
  have hplain {v : Value} (hs : v.isShown = true) : ∃ s, v.plainText = .ok s := ⟨_, if_pos hs⟩
  induction h with
  | list _ ih | tuple _ ih =>
    rw [Value.isShown] at hshown
    rw [scriptText]
    exact hsequence fun v hv => ih v hv (areShown_iff.1 hshown v hv)
  | float x =>
    rw [scriptText]
    split
    · exact ⟨_, rfl⟩
    · split
      · exact ⟨_, rfl⟩
      · exact ⟨_, rfl⟩
  | null | bool | map => exact ⟨_, rfl⟩
  | _ => exact hplain hshown

/-- Of a plain value it can be told whether it is filled in. -/
theorem IsPlain.exists_isBlank {v : Value} (h : v.IsPlain) : ∃ blank, v.isBlank = .ok blank := by
  obtain ⟨s, hs⟩ := h.exists_scriptText
  exact ⟨isBlankText s, by rw [isBlank_eq, hs]; rfl⟩

/-- A value is not filled in exactly if it is null, a text of blanks, or a list or a tuple of at most one
element that is not filled in, and of plain values it can be told. So numbers, truth values, mappings, and
sequences of two and more elements are always filled in. -/
theorem isBlank_iff_isUnfilled :
    (∀ v : Value, v.isBlank = .ok true ↔ IsUnfilled v)
      ∧ (∀ v : Value, v.IsPlain → ∃ blank, v.isBlank = .ok blank)
      ∧ (∀ b, (Value.bool b).isBlank = .ok false)
      ∧ (∀ n, (Value.int n).isBlank = if (Value.int n).isShown then .ok false else .error .digits)
      ∧ (∀ x, (Value.float x).isBlank = .ok false) ∧ (∀ entries, (Value.map entries).isBlank = .ok false)
      ∧ ∀ v w rest, (Value.list (v :: w :: rest)).isBlank ≠ .ok true
        ∧ (Value.tuple (v :: w :: rest)).isBlank ≠ .ok true := by
  refine ⟨fun v => ⟨isUnfilled_of_isBlank v, IsUnfilled.isBlank⟩, fun v => IsPlain.exists_isBlank, fun b => ?_,
    isBlank_int, isBlank_float, isBlank_map, fun v w rest => ⟨isBlank_cons_cons_ne v w rest, ?_⟩⟩
  · cases b <;> rfl
  · rw [isBlank_tuple]
    exact isBlank_cons_cons_ne v w rest

/-- A tuple of a blank text inside a list is not filled in, and two of them are. -/
theorem isBlank_of_nested : (Value.list [.tuple [.text " "]]).isBlank = .ok true
    ∧ (Value.list [.null, .tuple [.text " "]]).isBlank = .ok false := by
  have hblank : ∀ c ∈ " ".toList, Text.isBlank c = true := List.all_eq_true.1 (by decide)
  have htuple : IsUnfilled (.tuple [.text " "]) :=
    .tuple (Nat.le_refl 1) (List.forall_mem_singleton.2 (.text hblank))
  have hplain : (Value.list [.null, .tuple [.text " "]]).IsPlain := by
    refine .list (List.forall_mem_cons.2 ⟨.null, List.forall_mem_singleton.2 ?_⟩)
    exact .tuple (List.forall_mem_singleton.2 (.text " "))
  obtain ⟨hunfilled, htold, -, -, -, -, htwo⟩ := isBlank_iff_isUnfilled
  refine ⟨(hunfilled _).2 (.list (Nat.le_refl 1) (List.forall_mem_singleton.2 htuple)), ?_⟩
  obtain ⟨blank, hb⟩ := htold _ hplain
  cases blank with
  | true => exact absurd hb (htwo _ _ _).1
  | false => exact hb

/-! ## What a script trims -/

/-- The ranges of the characters that a script trims from a text: its white space and its line ends. -/
def scriptBlankRanges : List (Nat × Nat) := [
  (0x09, 0x0D), (0x20, 0x20), (0xA0, 0xA0), (0x1680, 0x1680), (0x2000, 0x200A), (0x2028, 0x2029),
  (0x202F, 0x202F), (0x205F, 0x205F), (0x3000, 0x3000), (0xFEFF, 0xFEFF)]

/-- A character that a script trims from a text. -/
def isScriptBlank (c : Char) : Bool := Text.inRanges scriptBlankRanges c.toNat

/-- The separator controls of ASCII and the next-line control. -/
def isControlBlank (c : Char) : Bool := Text.inRanges [(0x1C, 0x1F), (0x85, 0x85)] c.toNat

/-- The byte-order mark. -/
def isByteOrderMark (c : Char) : Bool := c.toNat == 0xFEFF

/-- A script trims all blanks but some control characters. -/
theorem isBlank_and_not_isScriptBlank_iff (c : Char) :
    (Text.isBlank c = true ∧ isScriptBlank c = false) ↔ isControlBlank c = true := by
  rw [← Bool.not_eq_true (isScriptBlank c)]
  unfold Text.isBlank isScriptBlank isControlBlank Text.inRanges Text.blankRanges scriptBlankRanges
  simp only [List.any_cons, List.any_nil, Bool.or_false, Bool.or_eq_true, Bool.and_eq_true,
    decide_eq_true_eq]
  omega

/-- The only character beyond the blanks that a script trims is the byte-order mark. -/
theorem isScriptBlank_and_not_isBlank_iff (c : Char) :
    (isScriptBlank c = true ∧ Text.isBlank c = false) ↔ isByteOrderMark c = true := by
  rw [← Bool.not_eq_true (Text.isBlank c)]
  unfold Text.isBlank isScriptBlank isByteOrderMark Text.inRanges Text.blankRanges scriptBlankRanges
  simp only [List.any_cons, List.any_nil, Bool.or_false, Bool.or_eq_true, Bool.and_eq_true,
    decide_eq_true_eq, beq_iff_eq]
  omega

/-- All characters have one property and not all have another exactly if all have the first and one of them
has it without the other. -/
theorem all_and_not_all_iff {α : Type} {l : List α} {p q r : α → Bool}
    (h : ∀ x, (p x = true ∧ q x = false) ↔ r x = true) :
    (l.all p = true ∧ ¬ l.all q = true) ↔ l.all p = true ∧ l.any r = true := by
  refine and_congr_right fun hp => ?_
  rw [Bool.not_eq_true, List.all_eq_false, List.any_eq_true]
  refine exists_congr fun x => and_congr_right fun hx => ?_
  rw [← h, Bool.not_eq_true]
  exact (and_iff_right (List.all_eq_true.1 hp x hx)).symm

/-- A text counts as not filled in exactly if a script trims all of it, but for the texts of blanks with a
control character among them that a script leaves, and the texts that a script trims with a byte-order mark
among their characters. -/
theorem isBlank_text_iff_iff (s : String) :
    ((Value.text s).isBlank = .ok true ↔ ∀ c ∈ s.toList, isScriptBlank c = true)
      ↔ ¬ (s.toList.all Text.isBlank = true ∧ s.toList.any isControlBlank = true)
        ∧ ¬ (s.toList.all isScriptBlank = true ∧ s.toList.any isByteOrderMark = true) := by
  rw [isBlank_text, Except.ok.injEq, isBlankText, ← List.all_eq_true,
    ← all_and_not_all_iff isBlank_and_not_isScriptBlank_iff,
    ← all_and_not_all_iff isScriptBlank_and_not_isBlank_iff]
  tauto

/-- A byte-order mark counts as filled in, although a script trims it away, and a file separator does not,
although no script does. -/
theorem isBlank_byteOrderMark :
    ((Value.text "\uFEFF").isBlank = .ok false ∧ ∀ c ∈ "\uFEFF".toList, isScriptBlank c = true)
      ∧ (Value.text "\u001C").isBlank = .ok true ∧ ¬ ∀ c ∈ "\u001C".toList, isScriptBlank c = true := by
  refine ⟨⟨by decide, List.all_eq_true.1 (by decide)⟩, by decide, fun h => ?_⟩
  exact absurd (List.all_eq_true.2 h) (by decide)

end Value

end Scaffold
