import Scaffold.Proofs.Text.Trimmed
import Scaffold.Proofs.Value.Mapping
import Scaffold.Value.Display

/-!
# Values that can be shown

A value that can be shown has parts that can be shown: its items, its entries, and what is found under
a key, also where it is a container inside of itself. Plain values can be shown. Every literal has a
character that is no blank, and so has the text of every value that is no text itself. A container counts
as true exactly if there is something in it to go through, and so does a knot.
-/

namespace Scaffold

/-! ## Texts with a character that is no blank -/

namespace Text

theorem isBlankText_append (s t : String) : isBlankText (s ++ t) = (isBlankText s && isBlankText t) := by
  rw [isBlankText, String.toList_append, List.all_append, isBlankText, isBlankText]

theorem isBlankText_append_left {s t : String} (h : isBlankText s = false) : isBlankText (s ++ t) = false := by
  rw [isBlankText_append, h, Bool.false_and]

theorem isBlankText_append_right {s t : String} (h : isBlankText t = false) :
    isBlankText (s ++ t) = false := by
  rw [isBlankText_append, h, Bool.and_false]

end Text

open Text (isBlankText isBlankText_append_left isBlankText_append_right)

/-! ## Numbers -/

/-- The digits of a number are visible. -/
theorem isBlankText_toString_nat (n : Nat) : isBlankText (toString n) = false := by
  show isBlankText (Nat.repr n) = false
  cases hd : Nat.toDigits 10 n with
  | nil => exact absurd hd Nat.toDigits_ne_nil
  | cons c rest =>
    have hc : c ∈ (Nat.repr n).toList := by
      rw [Nat.toList_repr, hd]
      exact List.mem_cons_self
    obtain ⟨hlow, hhigh⟩ := Char.isDigit_iff_toNat.1
      (Nat.isDigit_of_mem_toDigits (by decide) (by decide) (hd ▸ List.mem_cons_self : c ∈ Nat.toDigits 10 n))
    have hvisible : Text.isBlank c = false :=
      Text.isBlank_of_visible ⟨Nat.le_trans (by decide) hlow, Nat.le_trans hhigh (by decide)⟩
    exact Text.isBlankText_eq_false_iff.2 ⟨c, hc, hvisible⟩

theorem isBlankText_toString_int (n : Int) : isBlankText (toString n) = false := by
  cases n with
  | ofNat m => exact isBlankText_toString_nat m
  | negSucc m => exact isBlankText_append_left (by decide)

namespace Notation

/-- Each layout has a point or an exponent mark. -/
theorem isBlankText_layout (n : Notation) (d : Binary64.Digits) : isBlankText (n.layout d) = false := by
  unfold layout
  dsimp only
  split
  · split
    · exact isBlankText_append_right (by decide)
    · split
      · exact isBlankText_append_left (isBlankText_append_right (by decide))
      · exact isBlankText_append_left (isBlankText_append_left (by decide))
  · exact isBlankText_append_left (isBlankText_append_right (by decide))

theorem isBlankText_write_shown (x : Binary64) : isBlankText (shown.write x) = false := by
  cases x with
  | nan => exact (by decide : isBlankText "nan" = false)
  | infinite negative => exact isBlankText_append_right (by decide : isBlankText "inf" = false)
  | finite negative m e =>
    refine isBlankText_append_right ?_
    split
    · decide
    · exact isBlankText_layout shown _

end Notation

namespace Value

/-! ## Values with a visible text -/

theorem isBlankText_quoteFor (cs : List Char) : isBlankText (Quoted.quoteFor cs).toString = false := by
  unfold Quoted.quoteFor
  split <;> decide

theorem isBlankText_shortForm (v : Value) : isBlankText v.shortForm = false := by
  unfold shortForm
  split <;> decide

/-- A label is shown by the short form of its knot. -/
theorem isBlankText_of_lookup_around {around : Around} (h : ∀ e ∈ around, isBlankText e.2 = false)
    {label : Nat} {short : String} (hl : around.lookup label = some short) : isBlankText short = false := by
  induction around with
  | nil => cases hl
  | cons e rest ih =>
    obtain ⟨l, s⟩ := e
    rw [List.lookup_cons] at hl
    split at hl
    · cases hl
      exact h _ List.mem_cons_self
    · exact ih (fun e he => h e (List.mem_cons_of_mem _ he)) hl

/-- Only knots need an argument: their literal is a short form or that of the container inside. -/
theorem isBlankText_literalIn : ∀ (v : Value) {around : Around}, (∀ e ∈ around, isBlankText e.2 = false) →
    isBlankText (literalIn around v) = false
  | null, _, _ | set [], _, _ => by
    rw [literalIn]
    decide
  | bool b, _, _ => by
    rw [literalIn]
    cases b <;> decide
  | int n, _, _ => by
    rw [literalIn]
    exact isBlankText_toString_int n
  | float x, _, _ => by
    rw [literalIn]
    exact Notation.isBlankText_write_shown x
  | text s, _, _ => by
    rw [literalIn]
    exact isBlankText_append_right (isBlankText_quoteFor s.toList)
  | list _, _, _ | tuple [_], _, _ | map _, _, _ | date _, _, _ | moment _, _, _ => by
    rw [literalIn]
    exact isBlankText_append_right (by decide)
  | tuple [], _, _ | tuple (_ :: _ :: _), _, _ | set (_ :: _), _, _ => by
    rw [literalIn]
    · exact isBlankText_append_right (by decide)
    · exact nofun
  | bytes b, _, _ => by
    rw [literalIn]
    exact isBlankText_append_right (isBlankText_quoteFor _)
  -- the short form of a knot is noted before its inside is shown, so the hypothesis grows by it
  | knot label inside, around, h => by
    rw [literalIn]
    split
    next short hl => exact isBlankText_of_lookup_around h hl
    next =>
      exact isBlankText_literalIn inside (List.forall_mem_cons.2 ⟨inside.isBlankText_shortForm, h⟩)
  | again label, around, h => by
    rw [literalIn]
    cases hl : around.lookup label with
    | none => decide
    | some short => exact isBlankText_of_lookup_around h hl

/-- Only a text can be shown as nothing but blanks. -/
theorem isBlankText_display {v : Value} (h : ∀ s, v ≠ .text s) : isBlankText v.display = false := by
  have hliteral : isBlankText v.literal = false :=
    isBlankText_literalIn v fun e he => absurd he List.not_mem_nil
  have hdate (d : Date) : isBlankText d.iso = false :=
    isBlankText_append_left (isBlankText_append_right (by decide))
  cases v with
  | text s => exact absurd rfl (h s)
  | date d => exact hdate d
  | moment m =>
    exact isBlankText_append_left (isBlankText_append_left (isBlankText_append_left (hdate m.date)))
  | _ => exact hliteral

/-- Only a text can be shown as nothing, and then it counts as false. -/
theorem display_ne_empty {v : Value} (h : v.truthy = true) : v.display ≠ "" := by
  intro he
  by_cases ht : ∃ s, v = .text s
  · obtain ⟨s, rfl⟩ := ht
    rw [display] at he
    rw [he] at h
    exact Bool.false_ne_true h
  · have hvisible := isBlankText_display fun s e => ht ⟨s, e⟩
    rw [he] at hvisible
    cases hvisible

/-! ## Items and entries -/

theorem areShown_cons (v : Value) (rest : List Value) :
    areShown (v :: rest) = (v.isShown && areShown rest) := by
  rw [areShown]

theorem entriesAreShown_cons (k v : Value) (rest : List (Value × Value)) :
    entriesAreShown ((k, v) :: rest) = (k.isShown && v.isShown && entriesAreShown rest) := by
  rw [entriesAreShown]

theorem areShown_iff {items : List Value} :
    areShown items = true ↔ ∀ v ∈ items, v.isShown = true := by
  induction items with
  | nil => exact ⟨fun _ v hv => absurd hv List.not_mem_nil, fun _ => rfl⟩
  | cons v rest ih => rw [areShown, Bool.and_eq_true, ih, List.forall_mem_cons]

theorem entriesAreShown_iff {entries : List (Value × Value)} :
    entriesAreShown entries = true ↔ ∀ e ∈ entries, e.1.isShown = true ∧ e.2.isShown = true := by
  induction entries with
  | nil => exact ⟨fun _ e he => absurd he List.not_mem_nil, fun _ => rfl⟩
  | cons e rest ih =>
    rw [entriesAreShown, Bool.and_eq_true, Bool.and_eq_true, ih, List.forall_mem_cons]

/-! ## Plain values -/

/-- A value without whole numbers of too many digits and without containers inside of themselves. -/
inductive IsPlain : Value → Prop where
  | null : IsPlain .null
  | bool (b : Bool) : IsPlain (.bool b)
  | int {n : Int} (h : (Value.int n).isShown = true) : IsPlain (.int n)
  | float (x : Binary64) : IsPlain (.float x)
  | text (s : String) : IsPlain (.text s)
  | list {items : List Value} (h : ∀ v ∈ items, IsPlain v) : IsPlain (.list items)
  | tuple {items : List Value} (h : ∀ v ∈ items, IsPlain v) : IsPlain (.tuple items)
  | map {entries : List (Value × Value)} (hkeys : ∀ e ∈ entries, IsPlain e.1)
      (hvalues : ∀ e ∈ entries, IsPlain e.2) : IsPlain (.map entries)
  | set {items : List Value} (h : ∀ v ∈ items, IsPlain v) : IsPlain (.set items)
  | date (d : Date) : IsPlain (.date d)
  | moment (m : Moment) : IsPlain (.moment m)
  | bytes (b : ByteArray) : IsPlain (.bytes b)

theorem IsPlain.isShown {v : Value} (h : v.IsPlain) : v.isShown = true := by
  induction h with
  | int h => exact h
  | list _ ih | tuple _ ih | set _ ih =>
    rw [Value.isShown]
    exact areShown_iff.2 ih
  | map _ _ hkeys hvalues =>
    rw [Value.isShown]
    exact entriesAreShown_iff.2 fun e he => ⟨hkeys e he, hvalues e he⟩
  | _ => rfl

/-! ## Knots -/

mutual

/-- Tying puts nothing into a value but the whole. -/
theorem isShown_tie {label : Nat} {whole : Value} (hw : whole.isShown = true) :
    ∀ v : Value, v.isShown = true → (tie label whole v).isShown = true
  | null | bool _ | float _ | text _ | date _ | moment _ | bytes _ => fun _ => rfl
  | int _ => id
  | list items => fun h => by
    rw [isShown] at h
    rw [tie, isShown]
    exact areShown_tieItems hw items h
  | tuple items => fun h => by
    rw [isShown] at h
    rw [tie, isShown]
    exact areShown_tieItems hw items h
  | set items => fun h => by
    rw [isShown] at h
    rw [tie, isShown]
    exact areShown_tieItems hw items h
  | map entries => fun h => by
    rw [isShown] at h
    rw [tie, isShown]
    exact entriesAreShown_tieEntries hw entries h
  -- a knot with the same label hides the value that is tied, and is left as it is
  | knot l inside => fun h => by
    rw [isShown] at h
    rw [tie]
    split
    · rw [isShown]
      exact h
    · rw [isShown]
      exact isShown_tie hw inside h
  | again l => fun _ => by
    rw [tie]
    split
    · exact hw
    · rfl

theorem areShown_tieItems {label : Nat} {whole : Value} (hw : whole.isShown = true) :
    ∀ items : List Value, areShown items = true →
    areShown (tieItems label whole items) = true
  | [] => fun _ => rfl
  | v :: rest => fun h => by
    rw [areShown, Bool.and_eq_true] at h
    rw [tieItems, areShown, Bool.and_eq_true]
    exact ⟨isShown_tie hw v h.1, areShown_tieItems hw rest h.2⟩

theorem entriesAreShown_tieEntries {label : Nat} {whole : Value} (hw : whole.isShown = true) :
    ∀ entries : List (Value × Value),
    entriesAreShown entries = true → entriesAreShown (tieEntries label whole entries) = true
  | [] => fun _ => rfl
  | (k, v) :: rest => fun h => by
    rw [entriesAreShown, Bool.and_eq_true, Bool.and_eq_true] at h
    rw [tieEntries, entriesAreShown, Bool.and_eq_true, Bool.and_eq_true]
    exact ⟨⟨isShown_tie hw k h.1.1, isShown_tie hw v h.1.2⟩, entriesAreShown_tieEntries hw rest h.2⟩

end

/-- A container that can be shown can be shown where it is entered. -/
theorem isShown_opened {v : Value} (h : v.isShown = true) : v.opened.isShown = true := by
  cases v with
  | knot label inside =>
    have hi : inside.isShown = true := by rwa [isShown] at h
    exact isShown_tie h _ hi
  | _ => exact h

/-! ## Parts -/

section

variable {v : Value} (hv : v.isShown = true)

include hv

theorem isShown_of_entries? {entries : List (Value × Value)} (h : v.entries? = some entries) :
    ∀ e ∈ entries, e.1.isShown = true ∧ e.2.isShown = true := by
  have ho := isShown_opened hv
  unfold entries? at h
  split at h
  next he =>
    cases h
    rw [he, isShown] at ho
    exact entriesAreShown_iff.1 ho
  · cases h

theorem isShown_of_items? {items : List Value} (h : v.items? = some items) :
    ∀ i ∈ items, i.isShown = true := by
  have ho := isShown_opened hv
  unfold items? at h
  split at h
  · next he =>
      cases h
      rw [he, isShown] at ho
      exact areShown_iff.1 ho
  · next he =>
      cases h
      rw [he, isShown] at ho
      exact areShown_iff.1 ho
  · cases h

end

/-- What is found under a key is in an entry. -/
theorem exists_mem_of_field? {entries : List (Value × Value)} {key : String} {v : Value}
    (h : field? entries key = some v) : ∃ e ∈ entries, e.2 = v := by
  unfold field? at h
  induction entries with
  | nil => cases h
  | cons e rest ih =>
    rw [lookup] at h
    split at h
    · exact ⟨e, List.mem_cons_self, Option.some.inj h⟩
    · obtain ⟨e', hm, he⟩ := ih h
      exact ⟨e', List.mem_cons_of_mem e hm, he⟩

theorem isShown_of_field? {entries : List (Value × Value)}
    (hs : ∀ e ∈ entries, e.1.isShown = true ∧ e.2.isShown = true) {key : String} {v : Value}
    (h : field? entries key = some v) : v.isShown = true := by
  obtain ⟨e, hm, rfl⟩ := exists_mem_of_field? h
  exact (hs e hm).2

/-! ## Keys -/

/-- A value that can be a key is no mapping. -/
theorem entries?_eq_none_of_isKey {v : Value} (h : v.isKey = true) : v.entries? = none := by
  cases v with
  | map entries => cases h
  | knot label inside => cases h
  | _ => rfl

/-! ## What values are gone through by -/

/-- A container that is no knot counts as true exactly if there is something to go through. -/
theorem truthy_eq_of_not_knot {v : Value} {items : List Value} (hv : ∀ l w, v ≠ .knot l w)
    (h : v.elements? = some items) : v.truthy = !items.isEmpty := by
  have hopened : v.opened = v := by
    cases v with
    | knot l w => exact absurd rfl (hv l w)
    | _ => rfl
  rw [elements?, hopened] at h
  cases v with
  | text s =>
    cases h
    rw [truthy, List.isEmpty_map, Bool.eq_iff_iff, Bool.not_eq_true', Bool.not_eq_true', ← Bool.not_eq_true,
      ← Bool.not_eq_true, String.isEmpty_iff, List.isEmpty_iff, String.toList_eq_nil_iff]
  | map entries =>
    cases h
    rw [truthy, List.isEmpty_map]
  | bytes b =>
    cases h
    show (!(b.data.size == 0)) = _
    rw [List.isEmpty_map, Array.isEmpty_toList]
    rfl
  | _ => cases h <;> rfl

/-- A knot is gone through by as many values as the container that it is. -/
theorem elements?_knot {l : Nat} {inside : Value} {items : List Value}
    (h : (Value.knot l inside).elements? = some items) :
    (∀ l w, inside ≠ .knot l w) ∧ ∃ others, inside.elements? = some others ∧ others.isEmpty = items.isEmpty := by
  unfold elements? opened at h
  cases inside with
  | list xs | tuple xs | set xs =>
    cases h
    exact ⟨(by intro _ _ e; cases e), xs, rfl, (by cases xs <;> rfl)⟩
  | map entries =>
    cases h
    refine ⟨(by intro _ _ e; cases e), _, rfl, ?_⟩
    rw [List.isEmpty_map, List.isEmpty_map]
    cases entries <;> rfl
  | text s | bytes b =>
    cases h
    exact ⟨(by intro _ _ e; cases e), _, rfl, rfl⟩
  | knot l' w =>
    dsimp only [tie] at h
    cases hl : l' == l <;> rw [hl] at h <;> cases h
  | again l' =>
    dsimp only [tie] at h
    cases hl : l' == l <;> rw [hl] at h <;> cases h
  | _ => cases h

/-- What a value is gone through by is nothing exactly if the value counts as false. -/
theorem truthy_eq_of_elements? {v : Value} {items : List Value} (h : v.elements? = some items) :
    v.truthy = !items.isEmpty := by
  cases v with
  | knot l inside =>
    obtain ⟨hne, others, ho, he⟩ := elements?_knot h
    rw [← he]
    show inside.truthy = _
    exact truthy_eq_of_not_knot hne ho
  | _ => exact truthy_eq_of_not_knot (by intro _ _ e; cases e) h

/-- A mapping counts as false exactly if it has no entries. -/
theorem truthy_eq_of_entries? {v : Value} {entries : List (Value × Value)} (h : v.entries? = some entries) :
    v.truthy = !entries.isEmpty := by
  have helements : v.elements? = some (entries.map Prod.fst) := by
    unfold entries? at h
    unfold elements?
    split at h
    next hm =>
      cases h
      rw [hm]
    next => cases h
  rw [truthy_eq_of_elements? helements, List.isEmpty_map]

end Value

end Scaffold
