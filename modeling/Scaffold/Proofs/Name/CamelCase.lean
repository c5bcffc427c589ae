import Mathlib.Computability.Language
import Scaffold.Proofs.Name.Respelling

/-!
# Camel case

The spellings settle: spelling a spelling again changes nothing but its first letter, and a name is its
own camel spelling exactly if it is empty or in camel case, a small letter or digit with more of them
and words with capitals after it.
-/

namespace Scaffold.Name

open Text
open scoped Computability

/-! ## The language -/

/-- The small letters and digits: `[a-z0-9]`. -/
def smallLetters : Language Char := {cs | ∃ c, isSmall c = true ∧ cs = [c]}

/-- The capitals: `[A-Z]`. -/
def capitals : Language Char := {cs | ∃ c, isUpperAscii c = true ∧ cs = [c]}

/-- Words that a capital opens: `[A-Z][a-z0-9]*`. -/
def capitalWords : Language Char := capitals * smallLetters∗

/-- Camel case: `[a-z0-9]+([A-Z][a-z0-9]*)*`. -/
def camelCase : Language Char := smallLetters * smallLetters∗ * capitalWords∗

/-! ### Words of the language -/

theorem isWord_singleton {c : Char} (h : isWordAscii c = true) : IsWord [c] := by
  intro d hd
  rwa [List.mem_singleton.1 hd]

/-- Words put together from words of a language are words if those are. -/
theorem isWord_of_mem_kstar {l : Language Char} (h : ∀ cs ∈ l, IsWord cs) {cs : List Char}
    (hc : cs ∈ l∗) : IsWord cs := by
  obtain ⟨parts, rfl, hparts⟩ := Language.mem_kstar.1 hc
  intro c hm
  obtain ⟨part, hp, hm⟩ := List.mem_flatten.1 hm
  exact h part (hparts part hp) c hm

theorem isWord_of_mem_smallLetters {cs : List Char} (h : cs ∈ smallLetters) : IsWord cs := by
  obtain ⟨c, hc, rfl⟩ := h
  exact isWord_singleton (isWordAscii_of_isSmall hc)

theorem isWord_of_mem_capitalWords {cs : List Char} (h : cs ∈ capitalWords) : IsWord cs := by
  obtain ⟨_, ⟨c, hc, rfl⟩, rest, hrest, rfl⟩ := Language.mem_mul.1 h
  exact (isWord_singleton (isWordAscii_of_isUpperAscii hc)).append
    (isWord_of_mem_kstar (fun _ => isWord_of_mem_smallLetters) hrest)

/-- One more word of a language in front. -/
theorem append_mem_kstar {l : Language Char} {cs ds : List Char} (hc : cs ∈ l) (hd : ds ∈ l∗) :
    cs ++ ds ∈ l∗ :=
  Set.mem_of_mem_of_subset (Language.append_mem_mul hc hd) (mul_kstar_le_kstar (a := l))

/-- Every word is a run of small letters and digits, with words after it that a capital opens. -/
theorem mem_of_isWord {cs : List Char} (h : IsWord cs) : cs ∈ smallLetters∗ * capitalWords∗ := by
  induction cs with
  | nil =>
    exact Language.append_mem_mul (Language.nil_mem_kstar smallLetters)
      (Language.nil_mem_kstar capitalWords)
  | cons c rest ih =>
    obtain ⟨run, hrun, words, hwords, rfl⟩ :=
      Language.mem_mul.1 (ih fun d hd => h d (List.mem_cons_of_mem c hd))
    cases hs : isSmall c with
    | true =>
      have hsmall : [c] ∈ smallLetters := ⟨c, hs, rfl⟩
      exact Language.append_mem_mul (append_mem_kstar hsmall hrun) hwords
    | false =>
      -- the capital opens a word that the run goes on with
      have hcapital : [c] ∈ capitals :=
        ⟨c, isUpperAscii_of_not_isSmall (h c List.mem_cons_self) hs, rfl⟩
      have hword : c :: run ∈ capitalWords := Language.append_mem_mul hcapital hrun
      exact Language.append_mem_mul (Language.nil_mem_kstar smallLetters)
        (append_mem_kstar hword hwords)

/-- Camel case are the words that begin with a small letter or a digit. -/
theorem mem_camelCase_iff {cs : List Char} :
    cs ∈ camelCase ↔ ∃ c rest, cs = c :: rest ∧ isSmall c = true ∧ IsWord cs := by
  unfold camelCase
  rw [mul_assoc, Language.mem_mul]
  constructor
  · rintro ⟨_, ⟨c, hc, rfl⟩, rest, hrest, rfl⟩
    obtain ⟨run, hrun, words, hwords, rfl⟩ := Language.mem_mul.1 hrest
    refine ⟨c, run ++ words, rfl, hc, ?_⟩
    exact (isWord_singleton (isWordAscii_of_isSmall hc)).append
      ((isWord_of_mem_kstar (fun _ => isWord_of_mem_smallLetters) hrun).append
        (isWord_of_mem_kstar (fun _ => isWord_of_mem_capitalWords) hwords))
  · rintro ⟨c, rest, rfl, hc, hw⟩
    exact ⟨[c], ⟨c, hc, rfl⟩, rest, mem_of_isWord fun d hd => hw d (List.mem_cons_of_mem c hd), rfl⟩

/-! ## Spellings that stay -/

/-- A name is its own camel spelling exactly if it is empty or in camel case. -/
theorem camel_eq_self_iff (name : String) : camel name = name ↔ name = "" ∨ name.toList ∈ camelCase := by
  constructor
  · intro h
    cases hl : name.toList with
    | nil => exact .inl (String.toList_eq_nil_iff.1 hl)
    | cons c rest =>
      have hsmall : isSmall c = true :=
        isSmall_iff.2 (small_head_camel (h.symm ▸ hl : (camel name).toList = c :: rest))
      have hword : IsWord (c :: rest) := by
        rw [← hl, ← h]
        exact isWord_camel name
      exact .inr (mem_camelCase_iff.2 ⟨c, rest, rfl, hsmall, hword⟩)
  · rintro (rfl | h)
    · rfl
    · obtain ⟨c, rest, hl, hsmall, hword⟩ := mem_camelCase_iff.1 h
      apply String.toList_inj.1
      rw [camel_of_isWord hl (hl ▸ hword), lowerAscii_of_isSmall hsmall, hl]

/-- Both spellings stay when they are spelled again in the same way, each is the spelling of the other,
and the names that are their own camel spelling are the empty one and those in camel case. -/
theorem spellings_settle (name : String) :
    camel (camel name) = camel name ∧ pascal (pascal name) = pascal name
      ∧ pascal (camel name) = pascal name ∧ camel (pascal name) = camel name
      ∧ (camel name = name ↔ name = "" ∨ name.toList ∈ camelCase) :=
  ⟨camel_camel name, pascal_eq_of_camel_eq (camel_pascal name), pascal_eq_of_camel_eq (camel_camel name),
    camel_pascal name, camel_eq_self_iff name⟩

/-- Digits go on with the word before them. -/
example : camel "item 2 go" = "item2Go" ∧ camel "item2Go" = "item2Go" := by decide +kernel

end Scaffold.Name
