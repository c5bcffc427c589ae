import Scaffold.Name.Label
import Scaffold.Name.Layout
import Scaffold.Proofs.Text.Ascii
import Scaffold.Proofs.Text.Parts

/-!
# Spellings of names

The camel and the Pascal spelling of a name are made of ASCII letters and digits only, they differ in
their first character at most, and in small letters both are the words of the name in a row. The label of a
name with words has letters, digits and spaces, and nothing else.
-/

namespace Scaffold.Name

open Text

/-! ## Words -/

/-- A word that is made of letters and digits of ASCII. -/
def IsWord (cs : List Char) : Prop := ∀ c ∈ cs, isWordAscii c = true

theorem IsWord.append {as bs : List Char} (ha : IsWord as) (hb : IsWord bs) :
    IsWord (as ++ bs) := by
  intro c hc
  rcases List.mem_append.1 hc with h | h
  · exact ha c h
  · exact hb c h

/-- A character outside the class does not come up in a word. -/
theorem IsWord.not_mem {cs : List Char} (h : IsWord cs) {d : Char} (hd : isWordAscii d = false) :
    d ∉ cs :=
  fun hm => ne_of_isWordAscii (h d hm) hd rfl

/-- Every word of a name has a character. -/
theorem ne_nil_of_mem_words {name : String} {w : List Char} (h : w ∈ words name) : w ≠ [] := by
  obtain ⟨v, hv, rfl⟩ := List.mem_map.1 h
  intro e
  exact ne_nil_of_mem_splitWords hv (List.map_eq_nil_iff.1 e)

/-- The characters of the words are small letters and digits. -/
theorem small_of_mem_words {name : String} {w : List Char} (h : w ∈ words name) {c : Char}
    (hc : c ∈ w) : isLowerAscii c = true ∨ isDigitAscii c = true := by
  obtain ⟨v, hv, rfl⟩ := List.mem_map.1 h
  obtain ⟨d, hd, rfl⟩ := List.mem_map.1 hc
  have hm : d ∈ name.toList.filter isWordAscii := by
    rw [← flatten_splitWords]
    exact List.mem_flatten_of_mem hv hd
  exact small_of_lowerAscii (List.mem_filter.1 hm).2

theorem isWordAscii_of_small {c : Char} (h : isLowerAscii c = true ∨ isDigitAscii c = true) :
    isWordAscii c = true := by
  unfold isWordAscii
  rcases h with h | h
  · rw [h]
    rfl
  · rw [h, Bool.or_true]

theorem isSmall_iff {c : Char} : isSmall c = true ↔ isLowerAscii c = true ∨ isDigitAscii c = true := by
  rw [isSmall, Bool.or_eq_true]

theorem isWordAscii_of_isSmall {c : Char} (h : isSmall c = true) : isWordAscii c = true :=
  isWordAscii_of_small (isSmall_iff.1 h)

theorem isWordAscii_of_isUpperAscii {c : Char} (h : isUpperAscii c = true) : isWordAscii c = true := by
  unfold isWordAscii
  rw [h, Bool.or_true, Bool.true_or]

/-- A letter or digit that is not small is a capital. -/
theorem isUpperAscii_of_not_isSmall {c : Char} (h : isWordAscii c = true) (hs : isSmall c = false) :
    isUpperAscii c = true := by
  unfold isSmall at hs
  rw [Bool.or_eq_false_iff] at hs
  unfold isWordAscii at h
  rwa [hs.1, hs.2, Bool.false_or, Bool.or_false] at h

/-- A name has no words exactly if it has no letters and digits. -/
theorem words_eq_nil_iff {name : String} :
    words name = [] ↔ ∀ c ∈ name.toList, isWordAscii c = false := by
  have hf := flatten_splitWords name.toList
  unfold words
  rw [List.map_eq_nil_iff]
  constructor
  · intro h c hc
    rw [h, List.flatten_nil, eq_comm, List.filter_eq_nil_iff] at hf
    exact Bool.not_eq_true _ ▸ hf c hc
  · intro h
    rw [List.filter_eq_nil_iff.2 fun c hc => by rw [h c hc]; exact Bool.false_ne_true] at hf
    cases hs : splitWords name.toList with
    | nil => rfl
    | cons w ws =>
      have hw : w ∈ splitWords name.toList := hs ▸ List.mem_cons_self
      exact absurd (List.flatten_eq_nil_iff.1 hf w hw) (ne_nil_of_mem_splitWords hw)

/-! ## Capitals -/

theorem isWord_capitalize {w : List Char} (h : IsWord w) : IsWord (capitalize w) := by
  cases w with
  | nil => exact h
  | cons c rest =>
    intro d hd
    rcases List.mem_cons.1 hd with rfl | hd
    · exact isWordAscii_upperAscii (h c List.mem_cons_self)
    · exact h d (List.mem_cons_of_mem c hd)

theorem isWord_map_lowerAscii {w : List Char} (h : IsWord w) : IsWord (w.map lowerAscii) := by
  intro c hc
  obtain ⟨d, hd, rfl⟩ := List.mem_map.1 hc
  exact isWordAscii_of_small (small_of_lowerAscii (h d hd))

/-- In small letters a capital at the start is gone. -/
theorem map_lowerAscii_capitalize (w : List Char) :
    (capitalize w).map lowerAscii = w.map lowerAscii := by
  cases w with
  | nil => rfl
  | cons c rest => rw [capitalize, List.map_cons, List.map_cons, lowerAscii_upperAscii]

theorem map_lowerAscii_flatMap_capitalize (ws : List (List Char)) :
    (ws.flatMap capitalize).map lowerAscii = ws.flatten.map lowerAscii := by
  induction ws with
  | nil => rfl
  | cons w ws ih =>
    rw [List.flatMap_cons, List.flatten_cons, List.map_append, List.map_append, ih,
      map_lowerAscii_capitalize]

theorem isWord_flatMap_capitalize {ws : List (List Char)} (h : ∀ w ∈ ws, IsWord w) :
    IsWord (ws.flatMap capitalize) := by
  intro c hc
  obtain ⟨w, hw, hc⟩ := List.mem_flatMap.1 hc
  exact isWord_capitalize (h w hw) c hc

theorem isWord_of_mem_words {name : String} {w : List Char} (h : w ∈ words name) : IsWord w :=
  fun _ hc => isWordAscii_of_small (small_of_mem_words h hc)

/-! ## Spellings -/

theorem toList_pascal (name : String) : (pascal name).toList = (words name).flatMap capitalize := by
  rw [pascal, String.toList_ofList]

theorem toList_camel {name : String} {first : List Char} {rest : List (List Char)}
    (h : words name = first :: rest) :
    (camel name).toList = first ++ rest.flatMap capitalize := by
  rw [camel, h, String.toList_ofList]

/-- A camel spelling is empty exactly if there are no words. -/
theorem camel_eq_empty_iff {name : String} : (camel name).isEmpty = true ↔ words name = [] := by
  rw [String.isEmpty_iff]
  cases h : words name with
  | nil => rw [camel, h, eq_self, eq_self]
  | cons first rest =>
    constructor
    · intro e
      have hl := toList_camel h
      rw [e, String.toList_empty, eq_comm, List.append_eq_nil_iff] at hl
      exact absurd hl.1 (ne_nil_of_mem_words (h ▸ List.mem_cons_self))
    · intro e
      exact absurd e (List.cons_ne_nil _ _)

/-- The camel spelling is a word. -/
theorem isWord_camel (name : String) : IsWord (camel name).toList := by
  cases h : words name with
  | nil =>
    rw [camel, h]
    exact fun c hc => absurd hc List.not_mem_nil
  | cons first rest =>
    rw [toList_camel h]
    apply IsWord.append
    · exact isWord_of_mem_words (h ▸ List.mem_cons_self)
    · exact isWord_flatMap_capitalize fun w hw =>
        isWord_of_mem_words (h ▸ List.mem_cons_of_mem first hw)

/-- The Pascal spelling is a word. -/
theorem isWord_pascal (name : String) : IsWord (pascal name).toList := by
  rw [toList_pascal]
  exact isWord_flatMap_capitalize fun w hw => isWord_of_mem_words hw

/-- The Pascal spelling is the camel spelling with a capital. -/
theorem toList_pascal_eq_capitalize_camel (name : String) :
    (pascal name).toList = capitalize (camel name).toList := by
  cases h : words name with
  | nil =>
    rw [toList_pascal, h, camel, h]
    rfl
  | cons first rest =>
    rw [toList_pascal, toList_camel h, h, List.flatMap_cons]
    cases first with
    | nil => exact absurd rfl (ne_nil_of_mem_words (h ▸ List.mem_cons_self : [] ∈ words name))
    | cons c cs => rfl

/-- A camel spelling begins with a small letter or a digit. -/
theorem small_head_camel {name : String} {c : Char} {rest : List Char}
    (h : (camel name).toList = c :: rest) : isLowerAscii c = true ∨ isDigitAscii c = true := by
  cases hw : words name with
  | nil =>
    rw [camel, hw] at h
    exact absurd h (List.cons_ne_nil c rest).symm
  | cons first others =>
    rw [toList_camel hw] at h
    cases first with
    | nil => exact absurd rfl (ne_nil_of_mem_words (hw ▸ List.mem_cons_self : [] ∈ words name))
    | cons d ds =>
      have hd : d = c := (List.cons.inj h).1
      exact small_of_mem_words (hw ▸ List.mem_cons_self : d :: ds ∈ words name)
        (hd ▸ List.mem_cons_self)

/-! ## Names of the store -/

/-- The name of the store is a word and not empty, whatever name is asked for. -/
theorem isWord_storeName (o : Options) : IsWord (StoreNames.ofOptions o).storeName.toList := by
  unfold StoreNames.ofOptions camelOr
  dsimp only
  split
  · intro c hc
    have hd : ∀ d ∈ defaultStoreName.toList, isWordAscii d = true := by
      rw [defaultStoreName, String.toList_ofList]
      exact forall_mem_of_all (by decide)
    exact hd c hc
  · exact isWord_camel o.storeName

theorem storeName_ne_nil (o : Options) : (StoreNames.ofOptions o).storeName.toList ≠ [] := by
  unfold StoreNames.ofOptions camelOr
  dsimp only
  split
  · rw [defaultStoreName, String.toList_ofList]
    exact List.cons_ne_nil _ _
  next h =>
    intro e
    exact h (String.isEmpty_iff.2 (String.toList_eq_nil_iff.1 e))

/-! ## Labels -/

/-- The words of a label are the letters and digits of the name in their order. -/
theorem flatten_splitLabel (afterCapital : Bool) (cs : List Char) :
    (splitLabel afterCapital cs).flatten = cs.filter isWordAscii := by
  induction cs generalizing afterCapital with
  | nil => rfl
  | cons c rest ih =>
    rw [splitLabel]
    split
    next h =>
      rw [Bool.not_eq_true'] at h
      rw [ih, List.filter_cons_of_neg (Bool.not_eq_true _ ▸ h)]
    next h =>
      rw [Bool.not_eq_true', Bool.not_eq_false] at h
      rw [List.filter_cons_of_pos h, ← ih (isUpperAscii c)]
      split
      · cases splitLabel (isUpperAscii c) rest <;> rfl
      · rfl

theorem isWord_of_mem_splitLabel {afterCapital : Bool} {cs w : List Char}
    (h : w ∈ splitLabel afterCapital cs) : IsWord w := by
  intro c hc
  have hm : c ∈ cs.filter isWordAscii :=
    flatten_splitLabel afterCapital cs ▸ List.mem_flatten.2 ⟨w, h, hc⟩
  exact (List.mem_filter.1 hm).2

theorem isWord_labelWord {w : List Char} (h : IsWord w) : IsWord (labelWord w) := by
  unfold labelWord
  split
  · exact h
  · exact isWord_map_lowerAscii h

/-- The characters of a label: those of words, and the spaces between them. A name without words is its
own label. -/
theorem mem_label {name : String} {c : Char} (hc : c ∈ (label name).toList) :
    isWordAscii c = true ∨ c = ' ' ∨ (words name = [] ∧ c ∈ name.toList) := by
  have hall : ∀ d ∈ [' '].intercalate ((splitLabel false name.toList).map labelWord),
      isWordAscii d = true ∨ d = ' ' := by
    intro d hd
    rcases mem_of_mem_intercalate hd with hd | ⟨w, hw, hd⟩
    · exact .inr (List.mem_singleton.1 hd)
    · obtain ⟨v, hv, rfl⟩ := List.mem_map.1 hw
      exact .inl (isWord_labelWord (isWord_of_mem_splitLabel hv) d hd)
  unfold label at hc
  split at hc
  next hn =>
    refine .inr (.inr ⟨words_eq_nil_iff.2 fun d hd => ?_, hc⟩)
    have hf := flatten_splitLabel false name.toList
    rw [hn, List.flatten_nil] at hf
    exact Bool.not_eq_true _ ▸ List.filter_eq_nil_iff.1 hf.symm d hd
  next =>
    rw [String.toList_ofList] at hc
    cases hl : [' '].intercalate ((splitLabel false name.toList).map labelWord) with
    | nil =>
      rw [hl] at hc
      exact absurd hc List.not_mem_nil
    | cons first rest =>
      rw [hl] at hc hall
      rcases List.mem_cons.1 hc with rfl | hc
      · rcases hall first List.mem_cons_self with h | rfl
        · exact .inl (isWordAscii_upperAscii h)
        · exact .inr (.inl rfl)
      · rcases hall c (List.mem_cons_of_mem first hc) with h | h
        · exact .inl h
        · exact .inr (.inl h)

end Scaffold.Name
