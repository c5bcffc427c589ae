/-!
# Parts of a text

Splitting a text at a character that stands between its parts. The parts put together again are the
text, and no part holds the character.
-/

namespace Scaffold.Text

/-- The parts of a text between the occurrences of a mark. There is one part more than there are
marks. -/
def partsBetween (mark : Char) : List Char → List (List Char)
  | [] => [[]]
  | c :: rest =>
    if c == mark then [] :: partsBetween mark rest
    else
      match partsBetween mark rest with
      | part :: parts => (c :: part) :: parts
      | [] => [[c]]

/-- There is always a part. -/
theorem partsBetween_ne_nil (mark : Char) (cs : List Char) : partsBetween mark cs ≠ [] := by
  cases cs with
  | nil => exact List.cons_ne_nil _ _
  | cons c rest =>
    rw [partsBetween]
    split
    · exact List.cons_ne_nil _ _
    · split <;> exact List.cons_ne_nil _ _

/-- The parts with the mark between them are the text. -/
theorem intercalate_partsBetween (mark : Char) (cs : List Char) :
    [mark].intercalate (partsBetween mark cs) = cs := by
  induction cs with
  | nil => rfl
  | cons c rest ih =>
    rw [partsBetween]
    cases h : partsBetween mark rest with
    | nil => exact absurd h (partsBetween_ne_nil mark rest)
    | cons part parts =>
      rw [h] at ih
      split
      next hc =>
        rw [eq_of_beq hc, ← ih]
        rfl
      next =>
        rw [← ih]
        cases parts <;> rfl

/-- No part holds the mark. -/
theorem not_mem_of_mem_partsBetween {mark : Char} {cs part : List Char}
    (h : part ∈ partsBetween mark cs) : mark ∉ part := by
  induction cs generalizing part with
  | nil =>
    rw [partsBetween, List.mem_singleton] at h
    rw [h]
    exact List.not_mem_nil
  | cons c rest ih =>
    rw [partsBetween] at h
    split at h
    next =>
      rcases List.mem_cons.1 h with rfl | h
      · exact List.not_mem_nil
      · exact ih h
    next hc =>
      cases hp : partsBetween mark rest with
      | nil => exact absurd hp (partsBetween_ne_nil mark rest)
      | cons first parts =>
        rw [hp] at h ih
        rcases List.mem_cons.1 h with rfl | h
        · intro hm
          rcases List.mem_cons.1 hm with rfl | hm
          · exact hc (beq_self_eq_true _)
          · exact ih (List.mem_cons_self) hm
        · exact ih (List.mem_cons_of_mem _ h)

end Scaffold.Text
