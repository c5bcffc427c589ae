import Scaffold.Proofs.Script.Declaration

/-!
# Declarations in whole lines

A declaration is told by the lines it stands in, whatever text follows them: the words that it begins
with have no line feeds, names end before a line does, and the source of an import ends inside its
line.
-/

namespace Scaffold.Script

/-- A declaration whose source stays in its line. -/
inductive Declaration.Ends : Declaration → Prop where
  | imports {names : List String} {source : List Char} (h : source.contains '\n' = false) :
    Ends (.imports names (String.ofList source))
  | exports {name : String} : Ends (.exports name)

variable {cs rest : List Char}

/-- Whether a word without line feeds begins a text is told by the first line of the text. -/
theorem isPrefixOf_append {word : List Char} (hw : '\n' ∉ word) (hc : '\n' ∈ cs) :
    word.isPrefixOf (cs ++ rest) = word.isPrefixOf cs := by
  induction word generalizing cs with
  | nil => rw [List.isPrefixOf_nil_left, List.isPrefixOf_nil_left]
  | cons w ws ih =>
    rw [List.mem_cons, not_or] at hw
    cases cs with
    | nil => exact absurd hc List.not_mem_nil
    | cons c cs =>
      rw [List.cons_append, List.isPrefixOf_cons_cons, List.isPrefixOf_cons_cons]
      rcases List.mem_cons.1 hc with rfl | hc
      · rw [beq_eq_false_iff_ne.2 (Ne.symm hw.1), Bool.false_and, Bool.false_and]
      · rw [ih hw.2 hc]

theorem after?_append {word : List Char} (hw : '\n' ∉ word) (hc : '\n' ∈ cs) :
    after? word (cs ++ rest) = (after? word cs).map (· ++ rest) := by
  unfold after?
  rw [isPrefixOf_append hw hc]
  split
  next h =>
    obtain ⟨more, rfl⟩ := List.isPrefixOf_iff_prefix.1 h
    rw [Option.map_some, List.append_assoc, List.drop_left, List.drop_left]
  next => rfl

/-- What follows a word that a text begins with. -/
theorem after?_word_append (word cs : List Char) : after? word (word ++ cs) = some cs := by
  rw [after?, if_pos (List.isPrefixOf_iff_prefix.2 (List.prefix_append word cs)), List.drop_left]

/-- A word that both begin with does not matter. -/
theorem after?_append_append (word more cs : List Char) :
    after? (word ++ more) (word ++ cs) = after? more cs := by
  have hp : (word ++ more).isPrefixOf (word ++ cs) = more.isPrefixOf cs := by
    rw [Bool.eq_iff_iff, List.isPrefixOf_iff_prefix, List.isPrefixOf_iff_prefix,
      List.prefix_append_right_inj]
  rw [after?, hp, List.length_append, ← List.drop_drop, List.drop_left]
  rfl

theorem eq_append_of_after? {word more : List Char} (h : after? word cs = some more) :
    cs = word ++ more := by
  unfold after? at h
  split at h
  next hp =>
    obtain ⟨more', rfl⟩ := List.isPrefixOf_iff_prefix.1 hp
    rw [List.drop_left] at h
    cases h
    rfl
  next => cases h

theorem findSome?_after?_append {words : List (List Char)} (hw : ∀ w ∈ words, '\n' ∉ w)
    (hc : '\n' ∈ cs) :
    (words.findSome? fun w => after? w (cs ++ rest))
      = (words.findSome? fun w => after? w cs).map (· ++ rest) := by
  induction words with
  | nil => rfl
  | cons w ws ih =>
    rw [List.findSome?_cons, List.findSome?_cons, after?_append (hw w List.mem_cons_self) hc]
    cases after? w cs with
    | some more => rfl
    | none => exact ih fun v hv => hw v (List.mem_cons_of_mem w hv)

/-- What follows a word without line feeds has the line feeds of the text. -/
theorem mem_of_after? {word more : List Char} (hw : '\n' ∉ word) (hc : '\n' ∈ cs)
    (h : after? word cs = some more) : '\n' ∈ more := by
  rw [eq_append_of_after? h] at hc
  exact (List.mem_append.1 hc).resolve_left hw

theorem takeWhile_append_of_mem {p : Char → Bool} {c : Char} (hc : c ∈ cs) (hp : p c = false) :
    (cs ++ rest).takeWhile p = cs.takeWhile p := by
  induction cs with
  | nil => exact absurd hc List.not_mem_nil
  | cons d cs ih =>
    rw [List.cons_append, List.takeWhile_cons, List.takeWhile_cons]
    rcases List.mem_cons.1 hc with rfl | hc
    · rw [hp]
      rfl
    · rw [ih hc]

theorem dropWhile_append_of_mem {p : Char → Bool} {c : Char} (hc : c ∈ cs) (hp : p c = false) :
    (cs ++ rest).dropWhile p = cs.dropWhile p ++ rest := by
  induction cs with
  | nil => exact absurd hc List.not_mem_nil
  | cons d cs ih =>
    rw [List.cons_append, List.dropWhile_cons, List.dropWhile_cons]
    rcases List.mem_cons.1 hc with rfl | hc
    · rw [hp]
      rfl
    · rw [ih hc]
      split <;> rfl

/-- The source of an import ends inside a text that ends with its line. -/
theorem quote_mem {quote : Char} {after : List Char} (hq : isQuote quote = true)
    (hl : (quote :: after).getLast? = some '\n') (hs : '\n' ∉ after.takeWhile (· != quote)) :
    quote ∈ after := by
  by_cases hn : quote ∈ after
  · exact hn
  have hall : ∀ c ∈ after, (c != quote) = true := by
    intro c hc
    rw [bne_iff_ne]
    rintro rfl
    exact hn hc
  rw [← List.append_nil after, List.takeWhile_append_of_pos hall, List.takeWhile_nil,
    List.append_nil] at hs
  rcases List.mem_cons.1 (List.mem_of_getLast? hl) with rfl | hm
  · exact absurd hq (by decide)
  · exact absurd hm hs

/-- What the import at the start of a text consists of. -/
theorem importAt_eq_some_iff {d : Declaration} :
    importAt cs = some d ↔ ∃ c more quote after,
      cs = "import".toList ++ c :: more
        ∧ (Intake.isIdentifierChar c || c == '.' || c == '(') = false
        ∧ (c :: more).dropWhile (!isQuote ·) = quote :: after
        ∧ d = .imports (importedNames ((c :: more).takeWhile (!isQuote ·)))
          (String.ofList (after.takeWhile (· != quote))) := by
  unfold importAt
  -- each test of the reader that fails leaves nothing; what is left is the one way to succeed
  constructor
  · intro h
    cases ha : after? "import".toList cs with
    | none =>
      rw [ha] at h
      cases h
    | some tail =>
      rw [ha] at h
      cases tail with
      | nil => cases h
      | cons c more =>
        dsimp only at h
        split at h
        · cases h
        next hc =>
          cases hq : (c :: more).dropWhile (!isQuote ·) with
          | nil =>
            rw [hq] at h
            cases h
          | cons quote after =>
            rw [hq] at h
            cases h
            rw [Bool.not_eq_true] at hc
            exact ⟨c, more, quote, after, eq_append_of_after? ha, hc, hq, rfl⟩
  · rintro ⟨c, more, quote, after, rfl, hc, hq, rfl⟩
    have ha : after? "import".toList ("import".toList ++ c :: more)
        = some (c :: more) := rfl
    rw [ha]
    dsimp only
    rw [hc, if_neg Bool.false_ne_true, hq]

theorem importAt_append {d : Declaration} (hd : d.Ends) (hl : cs.getLast? = some '\n')
    (h : importAt cs = some d) : importAt (cs ++ rest) = some d := by
  obtain ⟨c, more, quote, after, rfl, hc, hq, rfl⟩ := importAt_eq_some_iff.1 h
  have hquote : isQuote quote = true := by
    have hhead := List.head?_dropWhile_not (!isQuote ·) (c :: more)
    rw [hq] at hhead
    simpa using hhead
  have hnq : (!isQuote quote) = false := by
    rw [hquote]
    rfl
  have hmem : quote ∈ c :: more :=
    (List.dropWhile_suffix (!isQuote ·)).subset (hq ▸ List.mem_cons_self)
  -- the source is closed on its own line, or the line break at the end would be a part of it
  have hlast : (quote :: after).getLast? = some '\n' := by
    rw [← List.takeWhile_append_dropWhile (p := (!isQuote ·)) (l := c :: more), hq,
      List.getLast?_append, List.getLast?_append, List.getLast?_cons, Option.some_or,
      Option.some_or] at hl
    rw [List.getLast?_cons, hl]
  have hs : '\n' ∉ after.takeWhile (· != quote) := by
    generalize hsource : String.ofList (after.takeWhile (· != quote)) = source at hd
    cases hd with
    | imports hs =>
      intro hm
      rw [String.ofList_inj.1 hsource, ← List.contains_iff_mem, hs] at hm
      cases hm
  have hend := quote_mem hquote hlast hs
  refine importAt_eq_some_iff.2 ⟨c, more ++ rest, quote, after ++ rest, ?_, hc, ?_, ?_⟩
  · exact List.append_assoc _ (c :: more) rest
  · rw [← List.cons_append, dropWhile_append_of_mem hmem hnq, hq, List.cons_append]
  · rw [← List.cons_append, takeWhile_append_of_mem hmem hnq,
      takeWhile_append_of_mem (p := (· != quote)) hend (bne_self_eq_false quote)]

theorem exportAt_append (hm : '\n' ∈ cs) : exportAt (cs ++ rest) = exportAt cs := by
  unfold exportAt
  rw [after?_append (by decide) hm]
  cases ha : after? "export ".toList cs with
  | none => rfl
  | some tail =>
    have ht : '\n' ∈ tail := mem_of_after? (by decide) hm ha
    dsimp only [Option.map_some]
    rw [isPrefixOf_append (by decide) ht, after?_append (by decide) ht]
    split
    next => rfl
    next =>
      -- What follows the word for functions that wait, if it is there.
      obtain ⟨found, hf, hmem⟩ : ∃ found, (after? "async ".toList tail).getD tail = found
          ∧ '\n' ∈ found := by
        refine ⟨_, rfl, ?_⟩
        cases hs : after? "async ".toList tail with
        | none => exact ht
        | some more => exact mem_of_after? (by decide) ht hs
      have hget : ((after? "async ".toList tail).map (· ++ rest)).getD (tail ++ rest)
          = found ++ rest := by
        rw [← hf]
        cases after? "async ".toList tail <;> rfl
      have hall : ∀ kind ∈ kinds, '\n' ∉ kind := by decide
      rw [hget, hf, findSome?_after?_append hall hmem]
      cases hk : kinds.findSome? fun kind => after? kind found with
      | none => rfl
      | some more =>
        obtain ⟨kind, hkind, hafter⟩ := List.exists_of_findSome?_eq_some hk
        rw [Option.map_some, Option.map_some, Option.map_some,
          takeWhile_append_of_mem (mem_of_after? (hall kind hkind) hmem hafter) (by decide)]

/-- A declaration in lines is told by them, whatever follows. -/
theorem declarationAt_append {d : Declaration} (hd : d.Ends) (hl : cs.getLast? = some '\n')
    (h : declarationAt cs = some d) : declarationAt (cs ++ rest) = some d := by
  unfold declarationAt at h ⊢
  cases hi : importAt cs with
  | some found =>
    rw [hi, Option.some_or] at h
    cases h
    rw [importAt_append hd hl hi, Option.some_or]
  | none =>
    rw [hi, Option.none_or] at h
    have hnone : importAt (cs ++ rest) = none := by
      unfold exportAt at h
      cases ha : after? "export ".toList cs with
      | none =>
        rw [ha] at h
        cases h
      | some tail =>
        rw [eq_append_of_after? ha]
        rfl
    rw [hnone, Option.none_or, exportAt_append (List.mem_of_getLast? hl), h]

/-! ## Imports while a module runs -/

/-- The words that call for an import. -/
def callWord : List Char := "import(".toList

/-- The source of the call at the start of a text. A source ends in its line. -/
def callAt (cs : List Char) : Option String :=
  match after? callWord cs with
  | some (quote :: more) =>
    if isQuote quote then
      some (String.ofList (more.takeWhile fun c => c != quote && c != '\n'))
    else none
  | _ => none

/-- The sources of all calls in a text, in their order. -/
def callsFrom : List Char → List String
  | [] => []
  | c :: rest => (callAt (c :: rest)).toList ++ callsFrom rest

/-- The modules that a module asks for while it runs. -/
def calls (content : String) : List String := callsFrom content.toList

theorem callAt_append (hm : '\n' ∈ cs) (rest : List Char) : callAt (cs ++ rest) = callAt cs := by
  unfold callAt
  rw [after?_append (by decide) hm]
  cases ha : after? callWord cs with
  | none => rfl
  | some tail =>
    have ht : '\n' ∈ tail := mem_of_after? (by decide) hm ha
    rw [Option.map_some]
    cases tail with
    | nil => exact absurd ht List.not_mem_nil
    | cons quote more =>
      rw [List.cons_append]
      dsimp only
      split
      next hq =>
        have hmore : '\n' ∈ more := by
          rcases List.mem_cons.1 ht with rfl | h
          · exact absurd hq (by decide)
          · exact h
        rw [takeWhile_append_of_mem hmore (Bool.and_eq_false_imp.2 fun _ => rfl)]
      next => rfl

/-- A text that ends with a line asks for its own modules, whatever follows. -/
theorem callsFrom_append (h : cs = [] ∨ cs.getLast? = some '\n') (rest : List Char) :
    callsFrom (cs ++ rest) = callsFrom cs ++ callsFrom rest := by
  induction cs with
  | nil => rfl
  | cons c cs ih =>
    have hl : (c :: cs).getLast? = some '\n' := h.resolve_left (List.cons_ne_nil c cs)
    have htail : cs = [] ∨ cs.getLast? = some '\n' := by
      cases cs with
      | nil => exact .inl rfl
      | cons d cs => exact .inr (List.getLast?_cons_cons ▸ hl)
    have hat := callAt_append (List.mem_of_getLast? hl) rest
    rw [List.cons_append] at hat ⊢
    rw [callsFrom, callsFrom, hat, ih htail, List.append_assoc]

/-- Without an opening bracket there is no call. -/
theorem callsFrom_of_not_mem (h : '(' ∉ cs) : callsFrom cs = [] := by
  induction cs with
  | nil => rfl
  | cons c cs ih =>
    have hat : callAt (c :: cs) = none := by
      unfold callAt
      cases ha : after? callWord (c :: cs) with
      | none => rfl
      | some tail =>
        rw [eq_append_of_after? ha] at h
        exact absurd (List.mem_append_left _ (by decide)) h
    rw [callsFrom, hat, ih fun hm => h (List.mem_cons_of_mem c hm)]
    rfl

end Scaffold.Script
