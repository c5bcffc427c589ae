import Scaffold.Proofs.Script.Declaration
import Scaffold.Proofs.Text.Ascii
import Scaffold.Proofs.Text.Parts

/-!
# Statements with names put in

The declarations of statements that are put together from fixed text and names, whatever the names are.
-/

namespace Scaffold.Script

open Intake (isIdentifierChar)

/-! ## Names -/

/-- A text that can be a name in a script. -/
def IsName (cs : List Char) : Prop := cs ≠ [] ∧ ∀ c ∈ cs, isIdentifierChar c = true

theorem ne_of_isIdentifierChar {c d : Char} (h : isIdentifierChar c = true)
    (hd : isIdentifierChar d = false) : c ≠ d := by
  intro e
  rw [e, hd] at h
  cases h

/-- A character that no name has. -/
theorem IsName.not_mem {cs : List Char} (h : IsName cs) {d : Char}
    (hd : isIdentifierChar d = false) : d ∉ cs :=
  fun hm => ne_of_isIdentifierChar (h.2 d hm) hd rfl

theorem isSpace_of_isIdentifierChar {c : Char} (h : isIdentifierChar c = true) :
    isSpace c = false := by
  unfold isSpace
  rw [Bool.or_eq_false_iff, Bool.or_eq_false_iff, Bool.or_eq_false_iff]
  refine ⟨⟨⟨?_, ?_⟩, ?_⟩, ?_⟩ <;>
    exact beq_eq_false_iff_ne.2 (ne_of_isIdentifierChar h (by decide))

/-- A name with blanks around it is the first word. -/
theorem firstWord_eq {cs after : List Char} (h : IsName cs)
    (ha : after = [] ∨ ∃ c more, after = c :: more ∧ isSpace c = true) :
    firstWord (' ' :: (cs ++ after)) = cs := by
  obtain ⟨c, rest, rfl⟩ := List.exists_cons_of_ne_nil h.1
  have hc : isSpace c = false := isSpace_of_isIdentifierChar (h.2 c List.mem_cons_self)
  have hall : ∀ d ∈ c :: rest, (!isSpace d) = true := by
    intro d hd
    rw [isSpace_of_isIdentifierChar (h.2 d hd)]
    rfl
  have hdrop : (' ' :: (c :: rest ++ after)).dropWhile isSpace = c :: rest ++ after := by
    rw [List.dropWhile_cons_of_pos rfl, List.cons_append, List.dropWhile_cons_of_neg]
    rw [hc]
    exact Bool.false_ne_true
  rw [firstWord, hdrop, List.takeWhile_append_of_pos hall]
  rcases ha with rfl | ⟨d, more, rfl, hd⟩
  · rw [List.takeWhile_nil, List.append_nil]
  · rw [List.takeWhile_cons_of_neg, List.append_nil]
    rw [hd]
    exact Bool.false_ne_true

/-! ## Imports -/

/-- Names with commas and blanks between them are found again. -/
theorem map_firstWord_eq {names : List (List Char)} (hne : names ≠ [])
    (hn : ∀ n ∈ names, IsName n) :
    (Text.partsBetween ',' (' ' :: ([',', ' '].intercalate names ++ [' ']))).map firstWord
      = names := by
  -- a name and what is before its comma is one part; the last name has no comma after it
  induction names with
  | nil => exact absurd rfl hne
  | cons n rest ih =>
    have hname : IsName n := hn n List.mem_cons_self
    have hcomma : ',' ∉ n := hname.not_mem (by decide)
    cases rest with
    | nil =>
      have hc : ',' ∉ ' ' :: (n ++ [' ']) := by
        simp only [List.mem_cons, List.mem_append, List.not_mem_nil, or_false, not_or]
        exact ⟨by decide, hcomma, by decide⟩
      rw [List.intercalate_singleton, Text.partsBetween_of_not_mem hc]
      show [firstWord (' ' :: (n ++ [' ']))] = [n]
      rw [firstWord_eq hname (.inr ⟨' ', [], rfl, rfl⟩)]
    | cons m rest =>
      have hc : ',' ∉ ' ' :: n := by
        rw [List.mem_cons, not_or]
        exact ⟨by decide, hcomma⟩
      have hr := ih (List.cons_ne_nil _ _) fun k hk => hn k (List.mem_cons_of_mem n hk)
      have ht : ' ' :: ([',', ' '].intercalate (n :: m :: rest) ++ [' '])
          = (' ' :: n) ++ ',' :: (' ' :: ([',', ' '].intercalate (m :: rest) ++ [' '])) := by
        rw [List.intercalate_cons_cons]
        simp only [List.append_assoc, List.cons_append, List.nil_append]
      have hw : firstWord (' ' :: n) = n := by
        have := firstWord_eq hname (.inl rfl)
        rwa [List.append_nil] at this
      rw [ht, Text.partsBetween_append hc, List.map_cons, hw, hr]

/-- The names of an import in braces. -/
theorem importedNames_braces {names : List (List Char)} (hne : names ≠ [])
    (hn : ∀ n ∈ names, IsName n) :
    importedNames (" \x7b ".toList ++ ([',', ' '].intercalate names
      ++ " \x7d from ".toList)) = names.map String.ofList := by
  have hbrace : ∀ c ∈ ' ' :: ([',', ' '].intercalate names ++ [' ']), (c != '\x7d') = true := by
    have hm : '\x7d' ∉ [',', ' '].intercalate names :=
      Text.not_mem_intercalate (by decide) fun n h => (hn n h).not_mem (by decide)
    intro c hc
    rw [bne_iff_ne]
    rintro rfl
    simp only [List.mem_cons, List.mem_append, List.not_mem_nil, or_false] at hc
    rcases hc with hc | hc | hc
    · exact absurd hc (by decide)
    · exact hm hc
    · exact absurd hc (by decide)
  -- up to the closing brace there is the list of names with a blank on both sides
  have hinner : (' ' :: ([',', ' '].intercalate names
      ++ " \x7d from ".toList)).takeWhile (· != '\x7d')
        = ' ' :: ([',', ' '].intercalate names ++ [' ']) := by
    have hs : ' ' :: ([',', ' '].intercalate names
        ++ " \x7d from ".toList)
          = (' ' :: ([',', ' '].intercalate names ++ [' '])) ++ "\x7d from ".toList := by
      simp only [String.reduceToList, List.append_assoc, List.cons_append, List.nil_append]
    rw [hs, List.takeWhile_append_of_pos hbrace]
    exact List.append_nil _
  have hfilter : names.filter (!·.isEmpty) = names := by
    refine List.filter_eq_self.2 fun n h => ?_
    rw [Bool.not_eq_true', List.isEmpty_eq_false_iff]
    exact (hn n h).1
  have hb : bracedNames (" \x7b ".toList ++ ([',', ' '].intercalate names
      ++ " \x7d from ".toList)) = names.map String.ofList := by
    unfold bracedNames
    show (((Text.partsBetween ',' ((' ' :: ([',', ' '].intercalate names
      ++ " \x7d from ".toList)).takeWhile (· != '\x7d'))).map
        firstWord).filter (!·.isEmpty)).map String.ofList = _
    rw [hinner, map_firstWord_eq hne hn, hfilter]
  unfold importedNames
  rw [hb]
  rfl

/-- An import is told by its clause and by the source in quotes after it. -/
theorem importAt_eq {c : Char} {more source : List Char}
    (hc : (isIdentifierChar c || c == '.' || c == '(') = false)
    (hclause : ∀ d ∈ c :: more, (!isQuote d) = true) (hsource : ∀ d ∈ source, (d != '\'') = true)
    (rest : List Char) :
    importAt ("import".toList ++ (c :: more ++ '\'' :: (source ++ '\'' :: rest)))
      = some (.imports (importedNames (c :: more)) (String.ofList source)) := by
  have ha : after? "import".toList
      ("import".toList ++ (c :: more ++ '\'' :: (source ++ '\'' :: rest)))
        = some (c :: (more ++ '\'' :: (source ++ '\'' :: rest))) := rfl
  have hq : (!isQuote '\'') = false := rfl
  have hs : ('\'' != '\'') = false := rfl
  -- the clause goes up to the first quotation mark, and the source up to the next one of its kind
  have htake : (c :: (more ++ '\'' :: (source ++ '\'' :: rest))).takeWhile (!isQuote ·) = c :: more := by
    rw [← List.cons_append, List.takeWhile_append_of_pos hclause, List.takeWhile_cons_of_neg,
      List.append_nil]
    rw [hq]
    exact Bool.false_ne_true
  have hdrop : (c :: (more ++ '\'' :: (source ++ '\'' :: rest))).dropWhile (!isQuote ·)
      = '\'' :: (source ++ '\'' :: rest) := by
    rw [← List.cons_append, List.dropWhile_append_of_pos hclause, List.dropWhile_cons_of_neg]
    rw [hq]
    exact Bool.false_ne_true
  have hmore : (source ++ '\'' :: rest).takeWhile (· != '\'') = source := by
    rw [List.takeWhile_append_of_pos hsource, List.takeWhile_cons_of_neg, List.append_nil]
    rw [hs]
    exact Bool.false_ne_true
  unfold importAt
  rw [ha]
  dsimp only
  rw [hc, if_neg Bool.false_ne_true, hdrop, htake]
  dsimp only
  rw [hmore]

/-- An import of names in braces from a source, whatever follows. -/
theorem declarationAt_import {names : List String} (hne : names ≠ [])
    (hn : ∀ n ∈ names, IsName n.toList) {source : String}
    (hs : ∀ c ∈ source.toList, isQuote c = false) (rest : List Char) :
    declarationAt (("import \x7b " ++ (commaList names ++ (" \x7d from '" ++ (source ++ "';")))).toList
      ++ rest) = some (.imports names source) := by
  have hnames : ∀ n ∈ names.map String.toList, IsName n := by
    intro n h
    obtain ⟨m, hm, rfl⟩ := List.mem_map.1 h
    exact hn m hm
  have hmne : names.map String.toList ≠ [] := fun e => hne (List.map_eq_nil_iff.1 e)
  have hcomma : (commaList names).toList = [',', ' '].intercalate (names.map String.toList) :=
    Text.toList_commaList names
  have hquote : ∀ d, isIdentifierChar d = false → d ∉ [',', ' '] →
      d ∉ [',', ' '].intercalate (names.map String.toList) :=
    fun d hd hm => Text.not_mem_intercalate hm fun n h => (hnames n h).not_mem hd
  have hsource : ∀ d ∈ source.toList, (d != '\'') = true := by
    intro d hd
    rw [bne_iff_ne]
    rintro rfl
    exact absurd (hs _ hd) (by decide)
  have hopen : ∀ d ∈ " \x7b ".toList, (!isQuote d) = true :=
    Text.forall_mem_of_all (by decide)
  have hclose : ∀ d ∈ " \x7d from ".toList, (!isQuote d) = true :=
    Text.forall_mem_of_all (by decide)
  -- nothing before the source is a quotation mark, so the first one opens the source
  have hclause : ∀ d ∈ " \x7b ".toList ++ ([',', ' '].intercalate (names.map String.toList)
      ++ " \x7d from ".toList), (!isQuote d) = true := by
    intro d hd
    rcases List.mem_append.1 hd with hd | hd
    · exact hopen d hd
    rcases List.mem_append.1 hd with hd | hd
    · rw [Bool.not_eq_true', isQuote, Bool.or_eq_false_iff, beq_eq_false_iff_ne,
        beq_eq_false_iff_ne]
      constructor
      · rintro rfl
        exact hquote _ (by decide) (by decide) hd
      · rintro rfl
        exact hquote _ (by decide) (by decide) hd
    · exact hclose d hd
  -- the same text, cut where the reader of imports cuts it: keyword, clause, source, rest
  have ht : ("import \x7b " ++ (commaList names ++ (" \x7d from '" ++ (source ++ "';")))).toList
      ++ rest = "import".toList ++ (" \x7b ".toList
        ++ ([',', ' '].intercalate (names.map String.toList) ++ " \x7d from ".toList)
        ++ '\'' :: (source.toList ++ '\'' :: (';' :: rest))) := by
    simp only [String.toList_append, hcomma, String.reduceToList, List.append_assoc, List.cons_append,
      List.nil_append]
  have hid : String.ofList ∘ String.toList = id := funext fun s => String.ofList_toList
  have hi := importAt_eq (by decide) hclause hsource (';' :: rest)
  rw [ht, declarationAt]
  refine (congrArg (Option.or · _) hi).trans ?_
  show some _ = _
  rw [String.ofList_toList]
  have hb := importedNames_braces hmne hnames
  rw [List.map_map, hid, List.map_id] at hb
  exact congrArg (fun l => some (Declaration.imports l source)) hb

/-! ## Exports -/

/-- An export of a name, by the text in front of the name. -/
theorem declarationAt_export {before name after : String}
    (hb : ∀ rest, declarationAt (before.toList ++ rest)
      = some (.exports (String.ofList (rest.takeWhile isIdentifierChar))))
    (hn : IsName name.toList) {c : Char} {more : List Char} (ha : after.toList = c :: more)
    (hc : isIdentifierChar c = false) (rest : List Char) :
    declarationAt ((before ++ (name ++ after)).toList ++ rest) = some (.exports name) := by
  rw [String.toList_append, String.toList_append, List.append_assoc, hb, ha, List.append_assoc,
    List.takeWhile_append_of_pos hn.2, List.cons_append, List.takeWhile_cons_of_neg, List.append_nil,
    String.ofList_toList]
  rw [hc]
  exact Bool.false_ne_true

end Scaffold.Script
