import Scaffold.Field.Check

/-!
# Email addresses

What the check of addresses accepts, said without the scan that decides it: a text without blanks that can be
cut into something, an at sign, something, a dot and something. The scan stops at the first at sign after the
first character. Nothing is lost by that, because a cut at a later one can be moved to it. The check lets
one line feed follow an address, which is a blank of its own.
-/

namespace Scaffold

/-! ## The grammar -/

/-- An address: something, an at sign, something, a dot and something, and no blanks. -/
structure IsEmailAddress (s : String) : Prop where
  not_blank : ∀ c ∈ s.toList, Text.isBlank c = false
  parts : ∃ user domain top : String, user ≠ "" ∧ domain ≠ "" ∧ top ≠ ""
    ∧ s = user ++ "@" ++ domain ++ "." ++ top

namespace Email

/-- Something, a dot and something. -/
def HasDot (cs : List Char) : Prop := ∃ domain top, domain ≠ [] ∧ top ≠ [] ∧ cs = domain ++ '.' :: top

/-- Something, an at sign, and what has a dot. -/
def HasParts (cs : List Char) : Prop := ∃ user rest, user ≠ [] ∧ HasDot rest ∧ cs = user ++ '@' :: rest

theorem exists_parts_iff {s : String} :
    (∃ user domain top : String, user ≠ "" ∧ domain ≠ "" ∧ top ≠ ""
      ∧ s = user ++ "@" ++ domain ++ "." ++ top) ↔ HasParts s.toList := by
  have hne {t : String} : t ≠ "" ↔ t.toList ≠ [] := (not_congr String.toList_eq_nil_iff).symm
  constructor
  · rintro ⟨user, domain, top, hu, hd, ht, rfl⟩
    refine ⟨user.toList, _, hne.1 hu, ⟨domain.toList, top.toList, hne.1 hd, hne.1 ht, rfl⟩, ?_⟩
    simp [String.toList_append]
  · rintro ⟨user, _, hu, ⟨domain, top, hd, ht, rfl⟩, hs⟩
    refine ⟨String.ofList user, String.ofList domain, String.ofList top, hne.2 ?_, hne.2 ?_, hne.2 ?_, ?_⟩
    · rwa [String.toList_ofList]
    · rwa [String.toList_ofList]
    · rwa [String.toList_ofList]
    · refine String.toList_inj.1 (hs.trans ?_)
      simp [String.toList_append]

/-! ## The scan -/

/-- A dot with something on both sides is one that is neither the first nor the last character. -/
theorem mem_inside_iff {cs : List Char} : '.' ∈ (cs.drop 1).dropLast ↔ HasDot cs := by
  cases cs with
  | nil =>
    refine ⟨fun h => absurd h List.not_mem_nil, ?_⟩
    rintro ⟨domain, top, -, -, h⟩
    exact absurd h.symm (by simp)
  | cons first rest =>
    rw [List.drop_one, List.tail_cons]
    constructor
    · intro h
      have hne : rest ≠ [] := by
        rintro rfl
        exact absurd h List.not_mem_nil
      obtain ⟨before, after, hsplit⟩ := List.append_of_mem h
      have hlast := List.dropLast_concat_getLast hne
      rw [hsplit, List.append_assoc, List.cons_append] at hlast
      exact ⟨first :: before, after ++ [rest.getLast hne], List.cons_ne_nil _ _, by simp,
        congrArg (first :: ·) hlast.symm⟩
    · rintro ⟨domain, top, hd, ht, hcs⟩
      obtain ⟨d, ds, rfl⟩ := List.exists_cons_of_ne_nil hd
      rw [List.cons_append, List.cons.injEq] at hcs
      rw [hcs.2, List.dropLast_append_of_ne_nil (List.cons_ne_nil _ _), List.mem_append]
      obtain ⟨t, ts, rfl⟩ := List.exists_cons_of_ne_nil ht
      exact .inr List.mem_cons_self

/-- Whichever at sign the parts are cut at, they can be cut at the first one. -/
theorem hasParts_iff {first : Char} {front rest : List Char} (h : '@' ∉ front) :
    HasParts (first :: (front ++ '@' :: rest)) ↔ HasDot rest := by
  constructor
  · rintro ⟨user, others, hu, ⟨domain, top, hd, ht, rfl⟩, hcs⟩
    obtain ⟨u, us, rfl⟩ := List.exists_cons_of_ne_nil hu
    rw [List.cons_append, List.cons.injEq] at hcs
    rcases List.append_eq_append_iff.1 hcs.2 with ⟨more, rfl, hrest⟩ | ⟨more, rfl, hrest⟩
    · -- the cut is at the first at sign or after it
      cases more with
      | nil =>
        cases hrest
        exact ⟨domain, top, hd, ht, rfl⟩
      | cons at' between =>
        rw [List.cons_append, List.cons.injEq] at hrest
        refine ⟨between ++ '@' :: domain, top, by simp, ht, ?_⟩
        rw [hrest.2]
        simp
    · cases more with
      | nil =>
        cases hrest
        exact ⟨domain, top, hd, ht, rfl⟩
      | cons at' between =>
        rw [List.cons_append, List.cons.injEq] at hrest
        rw [← hrest.1] at h
        exact absurd (List.mem_append_right us List.mem_cons_self) h
  · exact fun hd => ⟨first :: front, rest, List.cons_ne_nil _ _, hd, rfl⟩

/-- The scan accepts what has its parts and no blanks. -/
theorem isAddress_iff {cs : List Char} :
    isAddress cs = true ↔ (∀ c ∈ cs, Text.isBlank c = false) ∧ HasParts cs := by
  have hblank : cs.all (!Text.isBlank ·) = true ↔ ∀ c ∈ cs, Text.isBlank c = false := by
    simp [List.all_eq_true]
  unfold isAddress
  rw [Bool.and_eq_true, hblank]
  refine and_congr_right fun _ => ?_
  cases cs with
  | nil =>
    refine ⟨fun h => absurd h Bool.false_ne_true, ?_⟩
    rintro ⟨user, rest, -, -, h⟩
    exact absurd h.symm (by simp)
  | cons first tail =>
    rw [List.drop_one, List.tail_cons]
    -- the text is cut at the first mark after its first character; the user part may begin with a mark
    have hfront : '@' ∉ tail.takeWhile (· != '@') := by
      intro hm
      have hne : ('@' != '@') = true := List.all_eq_true.1 (List.all_takeWhile (p := (· != '@'))) '@' hm
      exact absurd hne (by decide)
    have hsplit := List.takeWhile_append_dropWhile (p := (· != '@')) (l := tail)
    cases hd : tail.dropWhile (· != '@') with
    | nil =>
      refine ⟨fun h => absurd h Bool.false_ne_true, ?_⟩
      rw [hd, List.append_nil] at hsplit
      rw [hsplit] at hfront
      rintro ⟨user, rest, hu, -, hcs⟩
      obtain ⟨u, us, rfl⟩ := List.exists_cons_of_ne_nil hu
      rw [List.cons_append, List.cons.injEq] at hcs
      exact absurd (hcs.2 ▸ List.mem_append_right us List.mem_cons_self) hfront
    | cons mark rest =>
      have hmark : mark = '@' := by
        have := List.head_dropWhile_not (· != '@') (l := tail) (by rw [hd]; exact List.cons_ne_nil _ _)
        simpa [hd] using this
      rw [hd, hmark] at hsplit
      dsimp only
      rw [List.contains_iff_mem, mem_inside_iff, ← hasParts_iff hfront, hsplit]

/-- A line feed at the end is forgiven, once. -/
theorem isAddress_withoutLineEnd_iff {cs : List Char} :
    isAddress (withoutLineEnd cs) = true
      ↔ isAddress cs = true ∨ ∃ address, isAddress address = true ∧ cs = address ++ ['\n'] := by
  unfold withoutLineEnd
  by_cases h : cs.getLast? = some '\n'
  · obtain ⟨address, rfl⟩ := List.getLast?_eq_some_iff.1 h
    rw [if_pos (beq_iff_eq.2 h), List.dropLast_concat]
    constructor
    · exact fun ha => .inr ⟨address, ha, rfl⟩
    · rintro (ha | ⟨other, ha, he⟩)
      · have := (isAddress_iff.1 ha).1 '\n' (List.mem_append_right _ (List.mem_singleton.2 rfl))
        exact absurd this (by decide)
      · rwa [List.append_cancel_right he]
  · rw [if_neg fun e => h (beq_iff_eq.1 e)]
    refine ⟨.inl, ?_⟩
    rintro (ha | ⟨address, -, rfl⟩)
    · exact ha
    · exact absurd List.getLast?_concat h

end Email

/-! ## The check -/

theorem isEmailAddress_iff {s : String} : IsEmailAddress s ↔ isAddress s.toList = true := by
  rw [Email.isAddress_iff, ← Email.exists_parts_iff]
  exact ⟨fun h => ⟨h.not_blank, h.parts⟩, fun h => ⟨h.1, h.2⟩⟩

/-- A line feed is a blank, so that no address ends with one. -/
theorem not_isEmailAddress_append_lineFeed (s : String) : ¬ IsEmailAddress (s ++ "\n") := by
  intro h
  have hm : '\n' ∈ (s ++ "\n").toList := by simp [String.toList_append]
  exact absurd (h.not_blank '\n' hm) (by decide)

namespace Kind

/-- The check of addresses accepts addresses and addresses that one line feed follows. It accepts addresses
and nothing else exactly for the texts that are not of the second kind. -/
theorem accepts_email_iff (s : String) :
    (email.accepts (.text s) = true
      ↔ IsEmailAddress s ∨ ∃ address, IsEmailAddress address ∧ s = address ++ "\n")
    ∧ ((email.accepts (.text s) = true ↔ IsEmailAddress s)
      ↔ ¬ ∃ address, IsEmailAddress address ∧ s = address ++ "\n") := by
  have hlist : (∃ address, isAddress address = true ∧ s.toList = address ++ ['\n'])
      ↔ ∃ address, IsEmailAddress address ∧ s = address ++ "\n" := by
    constructor
    · rintro ⟨address, ha, hs⟩
      refine ⟨String.ofList address, isEmailAddress_iff.2 (by rwa [String.toList_ofList]), ?_⟩
      refine String.toList_inj.1 (hs.trans ?_)
      simp [String.toList_append]
    · rintro ⟨address, ha, rfl⟩
      exact ⟨address.toList, isEmailAddress_iff.1 ha, by simp [String.toList_append]⟩
  have haccepts : email.accepts (.text s) = true
      ↔ IsEmailAddress s ∨ ∃ address, IsEmailAddress address ∧ s = address ++ "\n" := by
    rw [isEmailAddress_iff, ← hlist, ← Email.isAddress_withoutLineEnd_iff]
    rfl
  refine ⟨haccepts, ?_⟩
  rw [haccepts]
  constructor
  · rintro h ⟨address, ha, rfl⟩
    exact not_isEmailAddress_append_lineFeed address (h.1 (.inr ⟨address, ha, rfl⟩))
  · exact fun h => or_iff_left h

/-- An address with a line feed after it is accepted. -/
theorem accepts_email_with_lineFeed :
    email.accepts (.text "ann@mail.org\n") = true ∧ ¬ IsEmailAddress "ann@mail.org\n" :=
  ⟨by decide +kernel, not_isEmailAddress_append_lineFeed "ann@mail.org"⟩

example : email.accepts (.text "a@b@c.d.e") = true := by decide +kernel

example : email.accepts (.text "@b.c") = false := by decide +kernel

end Kind

end Scaffold
