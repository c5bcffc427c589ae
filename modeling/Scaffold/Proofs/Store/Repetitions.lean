import Mathlib.Data.List.Induction
import Mathlib.Data.List.Nodup
import Scaffold.Store.Registry

/-!
# Keys that come up again

A store is refused over keys that come up more than once. Its keys are gone through one time, with those
seen so far and those reported so far at hand: a key is reported where it comes up for the second time,
and never again. So every name that comes up at least twice is reported once, in the order of the second
mentions, and nothing is reported exactly if all names differ.
-/

namespace Scaffold.Registry

variable {before seen reported names : List String} {m n : String} {i : Nat}

/-- One more name counts once, and for no other name. -/
theorem count_concat (names : List String) (m n : String) :
    (names ++ [m]).count n = names.count n + if m = n then 1 else 0 := by
  rw [List.count_append, List.count_singleton]
  simp only [beq_iff_eq]

/-! ## Second mentions -/

/-- The place where a name comes up for the second time. -/
structure IsSecondMention (names : List String) (i : Nat) (n : String) : Prop where
  mention : names[i]? = some n
  once : (names.take i).count n = 1

/-- The second mention of a name comes before that of another one. -/
def ComesAgainBefore (names : List String) (m n : String) : Prop :=
  ∃ i j, IsSecondMention names i m ∧ IsSecondMention names j n ∧ i < j

theorem IsSecondMention.lt_length (h : IsSecondMention names i n) : i < names.length :=
  (List.getElem?_eq_some_iff.1 h.mention).1

/-- More names at the end leave the second mentions where they are. -/
theorem IsSecondMention.append (h : IsSecondMention names i n) (rest : List String) :
    IsSecondMention (names ++ rest) i n where
  mention := by
    rw [List.getElem?_append_left h.lt_length]
    exact h.mention
  once := by
    rw [List.take_append_of_le_length (Nat.le_of_lt h.lt_length)]
    exact h.once

theorem ComesAgainBefore.append (h : ComesAgainBefore names m n) (rest : List String) :
    ComesAgainBefore (names ++ rest) m n := by
  obtain ⟨i, j, hi, hj, hij⟩ := h
  exact ⟨i, j, hi.append rest, hj.append rest, hij⟩

/-- A name that came up once comes up for the second time where it is added. -/
theorem isSecondMention_concat (h : names.count n = 1) :
    IsSecondMention (names ++ [n]) names.length n where
  mention := List.getElem?_concat_length
  once := by rwa [List.take_left]

/-- A name that comes up at least twice has a second mention. -/
theorem exists_isSecondMention (h : 2 ≤ names.count n) : ∃ i, IsSecondMention names i n := by
  induction names using List.reverseRecOn with
  | nil => cases h
  | append_singleton names k ih =>
    by_cases htwo : 2 ≤ names.count n
    · obtain ⟨i, hi⟩ := ih htwo
      exact ⟨i, hi.append [k]⟩
    · rw [count_concat] at h
      split at h
      next hk =>
        subst hk
        exact ⟨names.length, isSecondMention_concat (by omega)⟩
      next => exact absurd h htwo

/-! ## One name after the other -/

/-- What is at hand after some names: those that came up, and those that came up again. -/
structure Remembers (before seen reported : List String) : Prop where
  seen : ∀ n, n ∈ seen ↔ 1 ≤ before.count n
  reported : ∀ n, n ∈ reported ↔ 2 ≤ before.count n

theorem remembers_nil : Remembers [] [] [] := by
  constructor <;> simp

/-- A name is reported exactly if it came up once before. -/
theorem Remembers.isReported_iff (h : Remembers before seen reported) :
    (seen.contains n && !reported.contains n) = true ↔ before.count n = 1 := by
  rw [Bool.and_eq_true, Bool.not_eq_true', List.contains_iff_mem, h.seen, ← Bool.not_eq_true,
    List.contains_iff_mem, h.reported]
  omega

/-- A name that is reported has been seen and reported. -/
theorem Remembers.report (h : Remembers before seen reported) (hn : before.count n = 1) :
    Remembers (before ++ [n]) (n :: seen) (n :: reported) := by
  constructor
  · intro m
    rw [List.mem_cons, count_concat, h.seen]
    grind
  · intro m
    rw [List.mem_cons, count_concat, h.reported]
    grind

/-- A name that is passed over has been seen. -/
theorem Remembers.pass (h : Remembers before seen reported) (hn : before.count n ≠ 1) :
    Remembers (before ++ [n]) (n :: seen) reported := by
  constructor
  · intro m
    rw [List.mem_cons, count_concat, h.seen]
    grind
  · intro m
    rw [count_concat, h.reported]
    grind

/-- One more name at the end is reported exactly if it came up once before it. -/
theorem repeatedAfter_concat (h : Remembers before seen reported) (rest : List String) (n : String) :
    repeatedAfter seen reported (rest ++ [n])
      = repeatedAfter seen reported rest ++ if (before ++ rest).count n = 1 then [n] else [] := by
  -- What is at hand goes with the names before, so it changes with each name that is passed.
  induction rest generalizing before seen reported with
  | nil =>
    rw [List.nil_append, List.append_nil, repeatedAfter, repeatedAfter, repeatedAfter, repeatedAfter]
    simp only [h.isReported_iff, List.nil_append]
  | cons k rest ih =>
    rw [List.cons_append, repeatedAfter, repeatedAfter]
    simp only [h.isReported_iff]
    by_cases hk : before.count k = 1
    · rw [if_pos hk, if_pos hk, ih (h.report hk), List.cons_append, List.append_assoc before [k] rest,
        List.singleton_append]
    · rw [if_neg hk, if_neg hk, ih (h.pass hk), List.append_assoc before [k] rest, List.singleton_append]

theorem duplicates_concat (names : List String) (n : String) :
    duplicates (names ++ [n]) = duplicates names ++ if names.count n = 1 then [n] else [] :=
  repeatedAfter_concat remembers_nil names n

/-! ## All names -/

/-- A name is reported exactly if it comes up at least twice. -/
theorem mem_duplicates_iff : n ∈ duplicates names ↔ 2 ≤ names.count n := by
  induction names using List.reverseRecOn with
  | nil => simp [duplicates, repeatedAfter]
  | append_singleton names k ih =>
    rw [duplicates_concat, List.mem_append, ih, count_concat]
    by_cases hone : names.count k = 1
    · rw [if_pos hone, List.mem_singleton]
      grind
    · rw [if_neg hone, or_iff_left List.not_mem_nil]
      grind

/-- No name is reported twice. -/
theorem nodup_duplicates (names : List String) : (duplicates names).Nodup := by
  induction names using List.reverseRecOn with
  | nil => exact List.nodup_nil
  | append_singleton names k ih =>
    rw [duplicates_concat]
    split
    next hk =>
      refine List.nodup_append.2 ⟨ih, List.nodup_singleton k, ?_⟩
      rintro m hm _ hk' rfl
      rw [List.mem_singleton.1 hk', mem_duplicates_iff] at hm
      omega
    next => rwa [List.append_nil]

/-- Names are reported in the order of their second mentions. -/
theorem pairwise_duplicates (names : List String) :
    (duplicates names).Pairwise (ComesAgainBefore names) := by
  induction names using List.reverseRecOn with
  | nil => exact .nil
  | append_singleton names k ih =>
    have hold := ih.imp fun h => h.append [k]
    rw [duplicates_concat]
    split
    next hk =>
      refine List.pairwise_append.2 ⟨hold, List.pairwise_singleton _ k, fun m hm _ hk' => ?_⟩
      obtain ⟨i, hi⟩ := exists_isSecondMention (mem_duplicates_iff.1 hm)
      rw [List.mem_singleton.1 hk']
      exact ⟨i, names.length, hi.append [k], isSecondMention_concat hk, hi.lt_length⟩
    next => rwa [List.append_nil]

/-- No name is a duplicate exactly if all names are different. -/
theorem duplicates_eq_nil_iff : duplicates names = [] ↔ names.Nodup := by
  rw [List.eq_nil_iff_forall_not_mem, List.nodup_iff_count_le_one]
  refine forall_congr' fun n => ?_
  rw [mem_duplicates_iff]
  omega

/-- The names that are reported are those that come up at least twice, each of them once and in the order of
the second mentions; there are none exactly if all names are different. -/
theorem duplicates_are_repeated (names : List String) :
    (∀ n, n ∈ duplicates names ↔ 2 ≤ names.count n)
      ∧ (duplicates names).Nodup
      ∧ (duplicates names).Pairwise (ComesAgainBefore names)
      ∧ (duplicates names = [] ↔ names.Nodup) :=
  ⟨fun _ => mem_duplicates_iff, nodup_duplicates names, pairwise_duplicates names, duplicates_eq_nil_iff⟩

example : duplicates ["a", "b", "b", "c", "a", "b"] = ["b", "a"] := by decide

end Scaffold.Registry
