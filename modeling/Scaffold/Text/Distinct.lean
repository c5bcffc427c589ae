/-!
# Distinct texts

Lists of texts in which every text comes up once, and the text that keeps a list from being one.
-/

namespace Scaffold.Text

/-- Texts without repetitions, in the order of first mention. -/
def distinct : List String → List String
  | [] => []
  | s :: rest => s :: (distinct rest).filter (· != s)

/-- No text is lost and none is added. -/
theorem mem_distinct {s : String} {l : List String} : s ∈ distinct l ↔ s ∈ l := by
  induction l with
  | nil => rfl
  | cons t rest ih =>
    rw [distinct, List.mem_cons, List.mem_cons, List.mem_filter, ih]
    constructor
    · rintro (h | ⟨h, -⟩)
      · exact .inl h
      · exact .inr h
    · rintro (h | h)
      · exact .inl h
      · by_cases e : s = t
        · exact .inl e
        · exact .inr ⟨h, bne_iff_ne.2 e⟩

/-- Every text comes up once. -/
theorem nodup_distinct (l : List String) : (distinct l).Nodup := by
  induction l with
  | nil => exact List.nodup_nil
  | cons t rest ih =>
    rw [distinct, List.nodup_cons]
    refine ⟨?_, ih.filter _⟩
    rw [List.mem_filter]
    rintro ⟨-, h⟩
    exact bne_iff_ne.1 h rfl

/-- A list without repetitions is left as it is. -/
theorem distinct_eq_self {l : List String} (h : l.Nodup) : distinct l = l := by
  induction l with
  | nil => rfl
  | cons t rest ih =>
    rw [List.nodup_cons] at h
    rw [distinct, ih h.2, List.filter_eq_self.2]
    intro s hs
    exact bne_iff_ne.2 fun e => h.1 (e ▸ hs)

/-- The first text that comes up again; `seen` holds the texts before. -/
def firstRepeated (seen : List String) : List String → Option String
  | [] => none
  | s :: rest => if seen.contains s then some s else firstRepeated (s :: seen) rest

/-- Nothing comes up again if all texts differ from each other and from those before. -/
theorem firstRepeated_eq_none_iff {seen l : List String} :
    firstRepeated seen l = none ↔ l.Nodup ∧ ∀ s ∈ l, s ∉ seen := by
  induction l generalizing seen with
  | nil => exact ⟨fun _ => ⟨List.nodup_nil, fun _ h => absurd h List.not_mem_nil⟩, fun _ => rfl⟩
  | cons t rest ih =>
    rw [firstRepeated, List.nodup_cons]
    split
    next h =>
      constructor
      · intro e
        cases e
      · rintro ⟨-, hs⟩
        exact absurd (List.contains_iff_mem.1 h) (hs t List.mem_cons_self)
    next h =>
      rw [ih]
      constructor
      · rintro ⟨hn, hs⟩
        refine ⟨⟨fun ht => hs t ht List.mem_cons_self, hn⟩, fun s hm => ?_⟩
        rcases List.mem_cons.1 hm with rfl | hm
        · exact fun hc => h (List.contains_iff_mem.2 hc)
        · exact fun hc => hs s hm (List.mem_cons_of_mem _ hc)
      · rintro ⟨⟨ht, hn⟩, hs⟩
        refine ⟨hn, fun s hm hc => ?_⟩
        rcases List.mem_cons.1 hc with rfl | hc
        · exact ht hm
        · exact hs s (List.mem_cons_of_mem _ hm) hc

end Scaffold.Text
