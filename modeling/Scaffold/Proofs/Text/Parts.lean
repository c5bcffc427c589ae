import Scaffold.Text.Parts
import Scaffold.Value.Display

/-!
# Texts and their characters

Parts that do not hold the mark come back when a text is put together from them and cut again. Lists of
fixed texts stand beside the lists of their characters, on which all questions about them are computed.
-/

namespace Scaffold.Text

theorem toList_commaList (parts : List String) :
    (commaList parts).toList = [',', ' '].intercalate (parts.map String.toList) := by
  rw [commaList, String.toList_intercalate]
  rfl

/-- What follows a part: the separator and another part, or the end. -/
theorem intercalate_cons_append (sep part : List Char) (parts : List (List Char)) (rest : List Char) :
    sep.intercalate (part :: parts) ++ rest
      = part ++ (if parts = [] then rest else sep ++ (sep.intercalate parts ++ rest)) := by
  cases parts with
  | nil => simp
  | cons next parts => simp [List.intercalate_cons_cons]

/-- The characters of parts put together are those of the parts and, if there are two of them, of what
stands between them. -/
theorem mem_intercalate_iff {d : Char} {sep : List Char} {parts : List (List Char)} :
    d ∈ sep.intercalate parts ↔ (d ∈ sep ∧ 1 < parts.length) ∨ ∃ p ∈ parts, d ∈ p := by
  induction parts with
  | nil => simp
  | cons p rest ih =>
    cases rest with
    | nil => simp
    | cons q rest =>
      have hlength : 1 < (p :: q :: rest).length := by
        simp
      have hparts : (∃ r ∈ p :: q :: rest, d ∈ r) ↔ d ∈ p ∨ ∃ r ∈ q :: rest, d ∈ r := by
        simp
      rw [List.intercalate_cons_cons, List.mem_append, List.mem_append, ih, hparts]
      constructor
      · rintro ((h | h) | (h | h))
        · exact .inr (.inl h)
        · exact .inl ⟨h, hlength⟩
        · exact .inl ⟨h.1, hlength⟩
        · exact .inr (.inr h)
      · rintro (h | h | h)
        · exact .inl (.inr h.1)
        · exact .inl (.inl h)
        · exact .inr (.inr h)

theorem mem_of_mem_intercalate {d : Char} {sep : List Char} {parts : List (List Char)}
    (h : d ∈ sep.intercalate parts) : d ∈ sep ∨ ∃ p ∈ parts, d ∈ p :=
  (mem_intercalate_iff.1 h).imp_left And.left

theorem not_mem_intercalate {d : Char} {sep : List Char} {parts : List (List Char)} (hs : d ∉ sep)
    (hp : ∀ p ∈ parts, d ∉ p) : d ∉ sep.intercalate parts := by
  intro hm
  rcases mem_of_mem_intercalate hm with hm | ⟨p, hmem, hm⟩
  · exact hs hm
  · exact hp p hmem hm

/-- Where a mark does not stand, nothing is put in its place. -/
theorem flatMap_mark_eq_self {mark : Char} {cs : List Char} (h : mark ∉ cs) (replacement : List Char) :
    (cs.flatMap fun c => if c == mark then replacement else [c]) = cs := by
  induction cs with
  | nil => rfl
  | cons c cs ih =>
    rw [List.mem_cons, not_or] at h
    have hc : (c == mark) = false := beq_eq_false_iff_ne.2 (Ne.symm h.1)
    rw [List.flatMap_cons, hc, if_neg Bool.false_ne_true, ih h.2]
    rfl

/-- A text without the mark is one part. -/
theorem partsBetween_of_not_mem {mark : Char} {cs : List Char} (h : mark ∉ cs) :
    partsBetween mark cs = [cs] := by
  induction cs with
  | nil => rfl
  | cons c rest ih =>
    have hc : (c == mark) = false := beq_eq_false_iff_ne.2 fun e => h (e ▸ List.mem_cons_self)
    rw [partsBetween, hc, if_neg Bool.false_ne_true, ih fun hm => h (List.mem_cons_of_mem c hm)]

/-- A part is cut off at the first mark after it. -/
theorem partsBetween_append {mark : Char} {part : List Char} (h : mark ∉ part) (rest : List Char) :
    partsBetween mark (part ++ mark :: rest) = part :: partsBetween mark rest := by
  induction part with
  | nil => rw [List.nil_append, partsBetween, beq_self_eq_true, if_pos rfl]
  | cons c cs ih =>
    have hc : (c == mark) = false := beq_eq_false_iff_ne.2 fun e => h (e ▸ List.mem_cons_self)
    rw [List.cons_append, partsBetween, hc, if_neg Bool.false_ne_true,
      ih fun hm => h (List.mem_cons_of_mem c hm)]

/-- Parts with marks between them are cut at these marks again. -/
theorem partsBetween_intercalate {mark : Char} {parts : List (List Char)} (hne : parts ≠ [])
    (h : ∀ part ∈ parts, mark ∉ part) :
    partsBetween mark ([mark].intercalate parts) = parts := by
  induction parts with
  | nil => exact absurd rfl hne
  | cons part others ih =>
    cases others with
    | nil =>
      rw [List.intercalate_singleton]
      exact partsBetween_of_not_mem (h part List.mem_cons_self)
    | cons next others =>
      have hp : mark ∉ part := h part List.mem_cons_self
      have hr : partsBetween mark ([mark].intercalate (next :: others)) = next :: others :=
        ih (List.cons_ne_nil _ _) fun p hm => h p (List.mem_cons_of_mem part hm)
      rw [List.intercalate_cons_cons, List.append_assoc, List.singleton_append,
        partsBetween_append hp, hr]

/-- Texts with a mark between them are cut there. -/
theorem partsBetween_append_cons (mark : Char) (as bs : List Char) :
    partsBetween mark (as ++ mark :: bs) = partsBetween mark as ++ partsBetween mark bs := by
  induction as with
  | nil =>
    show partsBetween mark (mark :: bs) = [] :: partsBetween mark bs
    rw [partsBetween, beq_self_eq_true, if_pos rfl]
  | cons c cs ih =>
    rw [List.cons_append, partsBetween, partsBetween, ih]
    split
    · rfl
    · cases h : partsBetween mark cs with
      | nil => exact absurd h (partsBetween_ne_nil mark cs)
      | cons part parts => rfl

/-- A map of characters that tells the mark apart maps the parts. -/
theorem partsBetween_map {mark : Char} {f : Char → Char} (h : ∀ c, f c = mark ↔ c = mark)
    (cs : List Char) : partsBetween mark (cs.map f) = (partsBetween mark cs).map (List.map f) := by
  induction cs with
  | nil => rfl
  | cons c rest ih =>
    have hb : (f c == mark) = (c == mark) := by
      rw [Bool.eq_iff_iff, beq_iff_eq, beq_iff_eq]
      exact h c
    rw [List.map_cons, partsBetween, partsBetween, hb, ih]
    split
    · rfl
    · cases partsBetween mark rest <;> rfl

/-- A character of a text is the mark or stands in one of the parts. -/
theorem eq_or_mem_partsBetween (mark : Char) {cs : List Char} {c : Char} (h : c ∈ cs) :
    c = mark ∨ ∃ part ∈ partsBetween mark cs, c ∈ part := by
  rw [← intercalate_partsBetween mark cs] at h
  exact (mem_of_mem_intercalate h).imp_left List.mem_singleton.1

/-- A text with the mark has two parts or more. -/
theorem one_lt_length_partsBetween {mark : Char} {cs : List Char} (h : mark ∈ cs) :
    1 < (partsBetween mark cs).length := by
  rw [← intercalate_partsBetween mark cs, mem_intercalate_iff] at h
  rcases h with ⟨-, h⟩ | ⟨part, hpart, hm⟩
  · exact h
  · exact absurd hm (not_mem_of_mem_partsBetween hpart)

/-- The characters of a part are those of the text. -/
theorem mem_of_mem_partsBetween {mark : Char} {cs part : List Char}
    (h : part ∈ partsBetween mark cs) {c : Char} (hc : c ∈ part) : c ∈ cs := by
  induction cs generalizing part with
  | nil =>
    rw [partsBetween, List.mem_singleton] at h
    rw [h] at hc
    exact hc
  | cons d rest ih =>
    rw [partsBetween] at h
    split at h
    next =>
      rcases List.mem_cons.1 h with rfl | h
      · exact absurd hc List.not_mem_nil
      · exact List.mem_cons_of_mem d (ih h hc)
    next =>
      cases hp : partsBetween mark rest with
      | nil => exact absurd hp (partsBetween_ne_nil mark rest)
      | cons first parts =>
        rw [hp] at h ih
        rcases List.mem_cons.1 h with rfl | h
        · rcases List.mem_cons.1 hc with rfl | hc
          · exact List.mem_cons_self
          · exact List.mem_cons_of_mem d (ih List.mem_cons_self hc)
        · exact List.mem_cons_of_mem d (ih (List.mem_cons_of_mem first h) hc)

/-! ## Fixed texts -/

/-- Texts are put together from their characters again. -/
theorem map_ofList_toList (ss : List String) : (ss.map String.toList).map String.ofList = ss := by
  rw [List.map_map, List.map_congr_left fun s _ => Function.comp_apply.trans String.ofList_toList,
    List.map_id']

theorem map_toList_ofList (css : List (List Char)) : (css.map String.ofList).map String.toList = css := by
  rw [List.map_map, List.map_congr_left fun cs _ => Function.comp_apply.trans String.toList_ofList,
    List.map_id']

/-- The characters of texts. -/
inductive Spells : List String → List (List Char) → Prop where
  | nil : Spells [] []
  | cons {cs : List Char} {ls : List String} {css : List (List Char)} (h : Spells ls css) :
    Spells (String.ofList cs :: ls) (cs :: css)

namespace Spells

variable {ls : List String} {css : List (List Char)}

theorem eq_map (h : Spells ls css) : ls = css.map String.ofList := by
  induction h with
  | nil => rfl
  | cons h ih => rw [List.map_cons, ← ih]

theorem map_toList (h : Spells ls css) : ls.map String.toList = css := by
  rw [h.eq_map, map_toList_ofList]

/-- Texts are different if their characters are. -/
theorem nodup (h : Spells ls css) (hn : css.Nodup) : ls.Nodup := by
  rw [h.eq_map]
  unfold List.Nodup at hn ⊢
  rw [List.pairwise_map]
  exact hn.imp fun hne e => hne (String.ofList_inj.1 e)

/-- What holds of the characters holds of the texts. -/
theorem forall_mem (h : Spells ls css) {p : List Char → Prop} (hp : ∀ cs ∈ css, p cs) :
    ∀ s ∈ ls, p s.toList := by
  rw [h.eq_map]
  intro s hs
  obtain ⟨cs, hcs, rfl⟩ := List.mem_map.1 hs
  rw [String.toList_ofList]
  exact hp cs hcs

end Spells

end Scaffold.Text
