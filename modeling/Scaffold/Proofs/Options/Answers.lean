import Scaffold.Options.Basic
import Scaffold.Proofs.Value.Shown

/-!
# Answers that are no options

Answers are taken apart by their keys, and two of them are gone through item by item. Where that cannot be
done, the answers are refused as a whole, before any single part of them is looked at.
-/

namespace Scaffold.Options

variable {answers : Value} {entries : List (Value × Value)}

/-! ## Single answers -/

/-- The answer to a question. Null stands for none. -/
def answer (entries : List (Value × Value)) (key : String) : Value :=
  (Value.field? entries key).getD .null

/-- A question that is off by default was answered with yes. -/
def isOn (entries : List (Value × Value)) (key : String) : Bool := (answer entries key).truthy

theorem answer_eq (entries : List (Value × Value)) (key : String) :
    (Value.field? entries key).getD .null = answer entries key := rfl

theorem truthy_answer (entries : List (Value × Value)) (key : String) :
    (answer entries key).truthy = isOn entries key := rfl

theorem isOn_eq (entries : List (Value × Value)) (key : String) :
    ((Value.field? entries key).map Value.truthy).getD false = isOn entries key := by
  unfold isOn answer
  cases Value.field? entries key <;> rfl

/-! ## Answers that cannot be gone through -/

/-- Roles are asked for, and the answer has no entries that could be roles. -/
def RolesUnfit (entries : List (Value × Value)) : Prop :=
  isOn entries "enableAuth" = true ∧ isOn entries "enableRoles" = true
    ∧ roleEntries? (answer entries "roles") = none

/-- Names of collections with users are given, and they cannot be put into a set. -/
def IdentitiesUnfit (entries : List (Value × Value)) : Prop :=
  isOn entries "identityCollections" = true
    ∧ setItems? (answer entries "identityCollections") = none

/-- Answers that cannot be taken apart: they are no mapping, or one of the two answers that are gone
through cannot be. -/
inductive Unfit (answers : Value) : Prop
  | shape (h : answers.entries? = none) (ht : answers.truthy = true)
  | roles {entries : List (Value × Value)} (h : answers.entries? = some entries)
      (hr : RolesUnfit entries)
  | identities {entries : List (Value × Value)} (h : answers.entries? = some entries)
      (hi : IdentitiesUnfit entries)

/-- Options that are given by name are no list only if the roles are none. -/
theorem read_eq_notAList_iff {given : List (String × Value)} : read given = .error .notAList ↔
    roleEntries? ((given.lookup "roles").getD (.tuple [])) = none := by
  unfold read
  cases roleEntries? ((given.lookup "roles").getD (.tuple [])) with
  | none => simp
  | some roles =>
    dsimp only
    split <;> simp

/-- Options that are given by name are a mapping. -/
theorem read_ne_notAMapping {given : List (String × Value)} : read given ≠ .error .notAMapping := by
  unfold read
  split
  · simp
  · dsimp only
    split <;> simp

/-- Entries of answers are refused as a whole only for the two answers that are gone through. -/
theorem ofAnswerEntries_eq_notAList_iff :
    ofAnswerEntries entries = .error .notAList ↔ RolesUnfit entries ∨ IdentitiesUnfit entries := by
  have hroles : roleEntries?
      (if isOn entries "enableAuth" && isOn entries "enableRoles" then answer entries "roles"
        else .tuple []) = none ↔ RolesUnfit entries := by
    unfold RolesUnfit
    split
    next hon =>
      rw [Bool.and_eq_true] at hon
      simp [hon]
    next hoff =>
      rw [Bool.and_eq_true] at hoff
      constructor
      · intro h
        cases h
      · rintro ⟨ha, hr, -⟩
        exact absurd ⟨ha, hr⟩ hoff
  unfold ofAnswerEntries
  simp only [isOn_eq, answer_eq, truthy_answer]
  -- identity names come first; only if they can be gone through are the roles looked at
  by_cases hid : isOn entries "identityCollections" = true
  · rw [if_pos hid]
    cases hs : setItems? (answer entries "identityCollections") with
    | none => exact ⟨fun _ => .inr ⟨hid, hs⟩, fun _ => rfl⟩
    | some items =>
      dsimp only
      rw [read_eq_notAList_iff]
      constructor
      · exact fun h => .inl (hroles.1 h)
      · rintro (h | ⟨-, h⟩)
        · exact hroles.2 h
        · rw [hs] at h
          cases h
  · rw [if_neg hid, read_eq_notAList_iff]
    constructor
    · exact fun h => .inl (hroles.1 h)
    · rintro (h | ⟨h, -⟩)
      · exact hroles.2 h
      · exact absurd h hid

/-- Entries of answers are a mapping. -/
theorem ofAnswerEntries_ne_notAMapping : ofAnswerEntries entries ≠ .error .notAMapping := by
  unfold ofAnswerEntries
  dsimp only
  split
  · split
    · exact read_ne_notAMapping
    · simp
  · exact read_ne_notAMapping

/-! ## Answers as a whole -/

/-- No questions were answered. -/
theorem not_rolesUnfit_nil : ¬ RolesUnfit [] := by
  rintro ⟨h, -⟩
  cases h

theorem not_identitiesUnfit_nil : ¬ IdentitiesUnfit [] := by
  rintro ⟨h, -⟩
  cases h

/-- Answers are refused as a whole exactly if they cannot be taken apart. -/
theorem ofAnswers_unfit_iff (answers : Value) :
    (ofAnswers answers = .error .notAMapping ∨ ofAnswers answers = .error .notAList)
      ↔ Unfit answers := by
  unfold ofAnswers
  cases he : answers.entries? with
  | some entries =>
    dsimp only
    rw [ofAnswerEntries_eq_notAList_iff]
    constructor
    · rintro (h | hr | hi)
      · exact absurd h ofAnswerEntries_ne_notAMapping
      · exact .roles he hr
      · exact .identities he hi
    · rintro (⟨h, -⟩ | ⟨h, hr⟩ | ⟨h, hi⟩) <;> rw [he] at h <;> cases h
      · exact .inr (.inl hr)
      · exact .inr (.inr hi)
  | none =>
    dsimp only
    -- an answer that is no mapping is refused unless it counts as false, and then it stands for no answers
    by_cases ht : answers.truthy = true
    · rw [if_pos ht]
      exact ⟨fun _ => .shape he ht, fun _ => .inl rfl⟩
    · rw [if_neg ht, ofAnswerEntries_eq_notAList_iff]
      constructor
      · rintro (h | h | h)
        · exact absurd h ofAnswerEntries_ne_notAMapping
        · exact absurd h not_rolesUnfit_nil
        · exact absurd h not_identitiesUnfit_nil
      · rintro (⟨-, h⟩ | ⟨h, -⟩ | ⟨h, -⟩)
        · exact absurd h ht
        · rw [he] at h
          cases h
        · rw [he] at h
          cases h

/-- Entries with an answer that counts as true are not empty. -/
theorem ne_nil_of_isOn {key : String} (h : isOn entries key = true) : entries ≠ [] := by
  rintro rfl
  cases h

/-- Answers that cannot be taken apart do not count as none. -/
theorem Unfit.truthy (h : Unfit answers) : answers.truthy = true := by
  have htrue {entries : List (Value × Value)} (he : answers.entries? = some entries)
      (hne : entries ≠ []) : answers.truthy = true := by
    rw [Value.truthy_eq_of_entries? he, List.isEmpty_eq_false_iff.2 hne]
    rfl
  cases h with
  | shape _ ht => exact ht
  | roles he hr => exact htrue he (ne_nil_of_isOn hr.1)
  | identities he hi => exact htrue he (ne_nil_of_isOn hi.1)

end Scaffold.Options
