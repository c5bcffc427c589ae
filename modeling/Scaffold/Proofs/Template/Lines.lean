import Scaffold.Proofs.Interface.Names
import Scaffold.Proofs.Template.Likeness

/-!
# Line feeds in generated text

How many line feeds a text has, and when two texts of one template have equally many: a text that stays
in its line brings none, whatever else it says, and neither does any text in quotes.
-/

namespace Scaffold

/-! ## Line feeds -/

namespace Text

theorem isEmpty_append_of_left {s : String} (h : s.isEmpty = false) (t : String) :
    (s ++ t).isEmpty = false := by
  rw [← Bool.not_eq_true, String.isEmpty_iff, ← String.toList_eq_nil_iff] at h ⊢
  rw [String.toList_append, List.append_eq_nil_iff, not_and_or]
  exact .inl h

theorem isEmpty_append_of_right (s : String) {t : String} (h : t.isEmpty = false) :
    (s ++ t).isEmpty = false := by
  rw [← Bool.not_eq_true, String.isEmpty_iff, ← String.toList_eq_nil_iff] at h ⊢
  rw [String.toList_append, List.append_eq_nil_iff, not_and_or]
  exact .inr h

theorem isEmpty_commaList_cons {s : String} (h : s.isEmpty = false) (rest : List String) :
    (commaList (s :: rest)).isEmpty = false := by
  unfold commaList
  cases rest with
  | nil =>
    rw [String.intercalate_singleton]
    exact h
  | cons t rest =>
    rw [String.intercalate_cons_cons]
    exact isEmpty_append_of_left (isEmpty_append_of_left h _) _

/-- The number of line feeds of a text. -/
def lineFeeds (s : String) : Nat := s.toList.count '\n'

theorem lineFeeds_append (s t : String) : lineFeeds (s ++ t) = lineFeeds s + lineFeeds t := by
  rw [lineFeeds, String.toList_append, List.count_append, lineFeeds, lineFeeds]

theorem lineFeeds_of_inline {s : String} (h : Inline s) : lineFeeds s = 0 :=
  List.count_eq_zero.2 h

/-- Lines that are put under each other have a line feed between each two of them. -/
theorem lineFeeds_intercalate {l : String} {ls : List String} (h : ∀ k ∈ l :: ls, Inline k) :
    lineFeeds ("\n".intercalate (l :: ls)) = ls.length := by
  induction ls generalizing l with
  | nil =>
    rw [String.intercalate_singleton]
    exact lineFeeds_of_inline (h l List.mem_cons_self)
  | cons k rest ih =>
    have hl : lineFeeds l = 0 := lineFeeds_of_inline (h l List.mem_cons_self)
    have hfeed : lineFeeds "\n" = 1 := by decide
    rw [String.intercalate_cons_cons, lineFeeds_append, lineFeeds_append, hl, hfeed,
      ih fun m hm => h m (List.mem_cons_of_mem l hm), List.length_cons]
    omega

theorem lineFeeds_intercalate_eq {ls ms : List String} (hl : ∀ k ∈ ls, Inline k)
    (hm : ∀ k ∈ ms, Inline k) (h : ls.length = ms.length) :
    lineFeeds ("\n".intercalate ls) = lineFeeds ("\n".intercalate ms) := by
  cases ls with
  | nil => rw [List.eq_nil_of_length_eq_zero h.symm]
  | cons l ls =>
    cases ms with
    | nil => cases h
    | cons m ms =>
      rw [lineFeeds_intercalate hl, lineFeeds_intercalate hm]
      exact Nat.succ.inj h

end Text

/-- Texts with equally many line feeds. -/
def sameLines : TextRelation where
  Rel s t := Text.lineFeeds s = Text.lineFeeds t
  isFixed _ := true
  fixed _ _ := rfl
  empty := rfl
  append hs ht := by rw [Text.lineFeeds_append, Text.lineFeeds_append, hs, ht]
  quote _ := by
    rw [Text.lineFeeds_of_inline (Script.inline_quote _), Text.lineFeeds_of_inline (Script.inline_quote _)]

theorem sameLines_of_inline {s t : String} (hs : Inline s) (ht : Inline t) : sameLines.Rel s t :=
  (Text.lineFeeds_of_inline hs).trans (Text.lineFeeds_of_inline ht).symm

/-! ## Values -/

namespace Likeness

/-- Texts that stay in their lines. -/
theorem holds_inline {s t : String} (hs : Inline s) (ht : Inline t) :
    (text false).Holds sameLines (.text s) (.text t) :=
  holds_text (sameLines_of_inline hs ht)

theorem holds_inlines {α β : Type} {xs : List α} {ys : List β} {f : α → String} {g : β → String}
    (h : List.Forall₂ (fun x y => Inline (f x) ∧ Inline (g y)) xs ys) :
    (list (text false)).Holds sameLines (Value.texts (xs.map f)) (Value.texts (ys.map g)) := by
  unfold Value.texts
  rw [List.map_map, List.map_map]
  exact holds_list (h.imp fun x y hxy => holds_inline hxy.1 hxy.2)

/-- Lists of texts have literals without line feeds. -/
theorem holds_literal_texts {ss ts : List String} (h : ss.isEmpty = ts.isEmpty) :
    literal.Holds sameLines (Value.texts ss) (Value.texts ts) := by
  rw [Holds]
  constructor
  · show (!(ss.map Value.text).isEmpty) = !(ts.map Value.text).isEmpty
    rw [List.isEmpty_map, List.isEmpty_map, h]
  · intro s t hs ht
    obtain ⟨s', hs', hi⟩ := Script.literal_texts ss
    obtain ⟨t', ht', hj⟩ := Script.literal_texts ts
    rw [hs'] at hs
    rw [ht'] at ht
    cases hs
    cases ht
    exact sameLines_of_inline hi hj

/-- How records of names are alike: all their texts stay in their lines. -/
def names (keys : List String) : Likeness := record (keys.map fun n => (n, text false))

theorem holds_names {entries entries' : List (String × String)}
    (hk : entries.map Prod.fst = entries'.map Prod.fst) (hl : ∀ e ∈ entries, Inline e.2)
    (hl' : ∀ e ∈ entries', Inline e.2) (keys : List String) :
    (names keys).Holds sameLines (Value.record (entries.map fun e => (e.1, .text e.2)))
      (Value.record (entries'.map fun e => (e.1, .text e.2))) := by
  have inline_of_lookup {es : List (String × String)} (h : ∀ e ∈ es, Inline e.2) {n : String} {v : Value}
      (hv : (es.map fun e => (e.1, Value.text e.2)).lookup n = some v) :
      ∃ s, v = .text s ∧ Inline s := by
    obtain ⟨before, after, hsplit, -⟩ := List.lookup_eq_some_iff.1 hv
    have hm : (n, v) ∈ es.map fun e => (e.1, Value.text e.2) := by
      rw [hsplit]
      exact List.mem_append_right before List.mem_cons_self
    obtain ⟨e, he, heq⟩ := List.mem_map.1 hm
    cases heq
    exact ⟨e.2, rfl, h e he⟩
  apply holds_record
  · have hlength := congrArg List.isEmpty hk
    rw [List.isEmpty_map, List.isEmpty_map] at hlength ⊢
    exact hlength
  · intro p hp x y hx hy
    obtain ⟨n, -, rfl⟩ := List.mem_map.1 hp
    obtain ⟨s, rfl, hs⟩ := inline_of_lookup hl hx
    obtain ⟨t, rfl, ht⟩ := inline_of_lookup hl' hy
    exact holds_inline hs ht

end Likeness

end Scaffold
