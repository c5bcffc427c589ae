import Scaffold.Proofs.Store.Scopes

/-!
# Keys of a single collection

The keys that a collection brings to the store begin or end with its name: a state ends with a word of its
own, and an action begins with a verb. A state and an action are one key where the name with a word behind it
is the name with a verb in front of it, and a name for which that happens is made of copies of the word. So
of all collections only `search`, `searchSearch` and so on have a store without others refused.
-/

namespace Scaffold

/-! ## Words in front of a name and behind it -/

namespace Name

/-- A number of copies of a word. -/
def copies (k : Nat) (word : List Char) : List Char := (List.replicate k word).flatten

theorem copies_succ (k : Nat) (word : List Char) : copies (k + 1) word = word ++ copies k word := by
  rw [copies, List.replicate_succ, List.flatten_cons, copies]

/-- Copies of a word with one more behind them are copies with one more in front. -/
theorem copies_append (k : Nat) (word : List Char) : copies k word ++ word = word ++ copies k word := by
  induction k with
  | zero => exact (List.append_nil word).symm
  | succ k ih => rw [copies_succ, List.append_assoc, ih]

/-- A word that begins with a capital and has no other. -/
def IsCapitalWord (word : List Char) : Prop :=
  word.head?.any Text.isUpperAscii = true ∧ ∀ c ∈ word.tail, Text.isUpperAscii c = false

instance (word : List Char) : Decidable (IsCapitalWord word) :=
  @instDecidableAnd _ _ _ (List.decidableBAll _ _)

theorem IsCapitalWord.exists_cons {word : List Char} (h : IsCapitalWord word) :
    ∃ c rest, word = c :: rest ∧ Text.isUpperAscii c = true ∧ ∀ d ∈ rest, Text.isUpperAscii d = false := by
  cases word with
  | nil => exact absurd h.1 Bool.false_ne_true
  | cons c rest => exact ⟨c, rest, rfl, h.1, h.2⟩

/-- A capital that follows something does not stand at the start of such a word. -/
theorem IsCapitalWord.not_mem_behind {first : Char} {before after : List Char} {c : Char}
    (h : IsCapitalWord (first :: (before ++ c :: after))) : Text.isUpperAscii c = false :=
  h.2 c (List.mem_append_right before List.mem_cons_self)

/-- If what a word stands behind is what another word stands in front of, both words are one, and they stand
around copies of it. -/
theorem exists_copies_of_append_eq {word before : List Char} (hw : IsCapitalWord word)
    (hb : IsCapitalWord before) {rest : List Char} (h : rest ++ word = before ++ rest) :
    word = before ∧ ∃ k, rest = copies k before := by
  obtain ⟨first, others, rfl, hfirst, -⟩ := hb.exists_cons
  induction hn : rest.length using Nat.strongRecOn generalizing rest with
  | ind n ih =>
    rcases List.append_eq_append_iff.1 h with ⟨more, hbefore, hword⟩ | ⟨more, hrest, hagain⟩
    · -- the word in front ends with or beyond the rest
      cases rest with
      | nil => exact ⟨hword.trans ((List.append_nil more).trans hbefore.symm), 0, rfl⟩
      | cons c cs =>
        cases more with
        | nil =>
          rw [List.append_nil] at hbefore
          exact ⟨hword.trans hbefore.symm, 1, hbefore.symm.trans (List.append_nil _).symm⟩
        | cons d ds =>
          rw [List.cons_append, List.cons.injEq] at hbefore
          rw [hword, ← hbefore.1] at hw
          exact absurd hfirst (Bool.not_eq_true _ ▸ IsCapitalWord.not_mem_behind hw)
    · have hshorter : more.length < n := by
        rw [← hn, hrest, List.length_append, List.length_cons]
        omega
      have hmore : more ++ word = first :: others ++ more := by rw [← hagain, hrest]
      obtain ⟨he, k, hk⟩ := ih more.length hshorter hmore rfl
      exact ⟨he, k + 1, by rw [hrest, hk, copies_succ]⟩

/-- A name with a word behind it is its Pascal spelling with a verb in front of it exactly if the word is the
verb with a capital, and the name is the verb and copies of the word. -/
theorem append_eq_append_capitalize_iff {n verb word : List Char} (hw : IsCapitalWord word)
    (hv : ∀ c ∈ verb, Text.isUpperAscii c = false) (hc : IsCapitalWord (capitalize verb)) :
    n ++ word = verb ++ capitalize n ↔ word = capitalize verb ∧ ∃ k, n = verb ++ copies k word := by
  have happend (rest : List Char) : capitalize (verb ++ rest) = capitalize verb ++ rest := by
    cases verb with
    | nil => exact absurd hc.1 Bool.false_ne_true
    | cons v vs => rfl
  constructor
  · intro h
    rcases List.append_eq_append_iff.1 h with ⟨more, hverb, hword⟩ | ⟨rest, hn, hpascal⟩
    · -- the verb goes beyond the name, so the word begins with a part of the verb
      cases more with
      | nil =>
        rw [List.append_nil] at hverb
        exact ⟨hword.trans (congrArg capitalize hverb.symm), 0, by rw [← hverb]; exact (List.append_nil _).symm⟩
      | cons c cs =>
        have hsmall := hv c (hverb ▸ List.mem_append_right n List.mem_cons_self)
        obtain ⟨capital, others, rfl, hcapital, -⟩ := hw.exists_cons
        rw [List.cons_append, List.cons.injEq] at hword
        rw [← hword.1, hcapital] at hsmall
        cases hsmall
    · rw [hn, happend] at hpascal
      obtain ⟨rfl, k, hk⟩ := exists_copies_of_append_eq hw hc hpascal.symm
      exact ⟨rfl, k, by rw [hn, hk]⟩
  · rintro ⟨rfl, k, rfl⟩
    rw [List.append_assoc, copies_append, happend]

end Name

/-! ## The keys of a collection -/

namespace Binding

/-- What stands in front of the Pascal spelling and behind it in the names of the actions. -/
def actionFrames : List (List Char × List Char) := [
  ("fetch".toList, []), ("fetchMore".toList, []), ("get".toList, []), ("add".toList, []),
  ("update".toList, []), ("delete".toList, []), ("search".toList, []),
  ("apply".toList, "Filters".toList), ("change".toList, "Sorting".toList), ("clear".toList, "Search".toList),
  ("count".toList, [])]

/-- The name of an action. -/
def actionName (pascal : List Char) (frame : List Char × List Char) : List Char :=
  frame.1 ++ (pascal ++ frame.2)

/-- The keys that a collection brings to a store without roles. -/
def keys (camel pascal : List Char) : List (List Char) :=
  endings.map (camel ++ ·) ++ actionFrames.map (actionName pascal)

theorem map_exported {b : Binding} (h : b.isRoleGated = false) :
    b.exported.map String.toList = keys b.names.camel.toList b.names.pascal.toList := by
  unfold exported
  dsimp only
  rw [h, if_neg Bool.false_ne_true, List.append_nil]
  unfold CollectionNames.pageState CollectionNames.searchState CollectionNames.loadingState
    CollectionNames.errorState CollectionNames.fetchAction CollectionNames.fetchMoreAction
    CollectionNames.getAction CollectionNames.addAction CollectionNames.updateAction
    CollectionNames.deleteAction CollectionNames.searchAction CollectionNames.applyFiltersAction
    CollectionNames.changeSortingAction CollectionNames.clearSearchAction CollectionNames.countAction
  simp only [List.map_cons, List.map_nil, String.toList_append, List.append_assoc]
  simp only [keys, endings, actionFrames, actionName, List.map_cons, List.map_nil, List.append_nil,
    List.cons_append, List.nil_append]

/-- Actions differ in their first two letters or in the lengths of what stands around the name. -/
theorem nodup_actionNames (pascal : List Char) : (actionFrames.map (actionName pascal)).Nodup := by
  have hlong : ∀ f ∈ actionFrames, 2 ≤ f.1.length := by decide
  have hapart : actionFrames.Pairwise fun f g =>
      f.1.take 2 ≠ g.1.take 2 ∨ f.1.length + f.2.length ≠ g.1.length + g.2.length := by decide
  unfold List.Nodup
  rw [List.pairwise_map]
  refine hapart.imp_of_mem fun {f g} hf hg h he => ?_
  rcases h with h | h
  · have htake := congrArg (List.take 2) he
    rw [actionName, actionName, List.take_append_of_le_length (hlong f hf),
      List.take_append_of_le_length (hlong g hg)] at htake
    exact h htake
  · have hlength := congrArg List.length he
    simp only [actionName, List.length_append] at hlength
    omega

/-- The keys that every store has are none of those that a collection brings. -/
theorem sessionKeys_not_mem (camel pascal : List Char) :
    ∀ w ∈ Registry.sessionKeys.map String.toList, w ∉ keys camel pascal := by
  have hlong : ∀ f ∈ actionFrames, 2 ≤ f.1.length := by decide
  have hfirst : ∀ w ∈ Registry.sessionKeys.map String.toList,
      (∀ f ∈ actionFrames, w.take 2 ≠ f.1.take 2) ∧ ∀ e ∈ endings, ¬ e <:+ w := by decide
  intro w hw hm
  obtain ⟨hactions, hstates⟩ := hfirst w hw
  rcases List.mem_append.1 hm with hm | hm
  · obtain ⟨e, he, rfl⟩ := List.mem_map.1 hm
    exact hstates e he (List.suffix_append camel e)
  · obtain ⟨f, hf, rfl⟩ := List.mem_map.1 hm
    refine hactions f hf ?_
    rw [actionName, List.take_append_of_le_length (hlong f hf)]

/-- A state and an action of a collection are one key exactly if the state is that of the search, the action
searches, and the name is the verb with copies of the word behind it. -/
theorem state_eq_action_iff {camel e : List Char} (he : e ∈ endings) {f : List Char × List Char}
    (hf : f ∈ actionFrames) :
    camel ++ e = actionName (Name.capitalize camel) f
      ↔ (e = "Search".toList ∧ f = ("search".toList, []))
        ∧ ∃ k, camel = "search".toList ++ Name.copies k "Search".toList := by
  have hlength : (Name.capitalize camel).length = camel.length := by cases camel <;> rfl
  by_cases hl : e.length = f.1.length + f.2.length
  · -- only verbs without a word behind the name are as long as an ending
    have hverbs : ∀ e ∈ endings, ∀ f ∈ actionFrames, e.length = f.1.length + f.2.length →
        f.2 = [] ∧ f.1.any Text.isUpperAscii = false ∧ Name.IsCapitalWord e
          ∧ Name.IsCapitalWord (Name.capitalize f.1)
          ∧ (e = Name.capitalize f.1
            ↔ e = "Search".toList ∧ f = ("search".toList, [])) := by decide
    obtain ⟨hnil, hany, hword, hcapital, hsame⟩ := hverbs e he f hf hl
    have hsmall : ∀ c ∈ f.1, Text.isUpperAscii c = false := fun c hc =>
      Bool.eq_false_iff.2 (List.any_eq_false.1 hany c hc)
    rw [actionName, hnil, List.append_nil, Name.append_eq_append_capitalize_iff hword hsmall hcapital, hsame]
    refine and_congr_right ?_
    rintro ⟨rfl, rfl⟩
    rfl
  · constructor
    · intro h
      have hlengths := congrArg List.length h
      simp only [actionName, List.length_append, hlength] at hlengths
      omega
    · rintro ⟨⟨rfl, rfl⟩, -⟩
      exact absurd rfl hl

/-- The keys of a store with one collection are different exactly if the collection is not called `search`,
`searchSearch` and so on. -/
theorem nodup_keys_iff (camel : List Char) :
    (Registry.sessionKeys.map String.toList ++ keys camel (Name.capitalize camel)).Nodup
      ↔ ∀ k, camel ≠ "search".toList ++ Name.copies k "Search".toList := by
  have hsession : (Registry.sessionKeys.map String.toList).Nodup := by decide
  have hstates : (endings.map (camel ++ ·)).Nodup :=
    List.Nodup.map (fun _ _ => List.append_cancel_left) (by decide)
  have hactions := nodup_actionNames (Name.capitalize camel)
  constructor
  · intro h k hk
    have hsearch : "Search".toList ∈ endings := .tail _ (.head _)
    have haction : ("search".toList, []) ∈ actionFrames := by decide
    refine (List.nodup_append.1 h.of_append_right).2.2 _ (List.mem_map_of_mem hsearch) _
      (List.mem_map_of_mem haction) ?_
    exact (state_eq_action_iff hsearch haction).2 ⟨⟨rfl, rfl⟩, k, hk⟩
  · intro h
    have hkeys : (keys camel (Name.capitalize camel)).Nodup := by
      refine List.nodup_append.2 ⟨hstates, hactions, fun a ha b hb he => ?_⟩
      obtain ⟨e, hm, rfl⟩ := List.mem_map.1 ha
      obtain ⟨f, hf, rfl⟩ := List.mem_map.1 hb
      obtain ⟨-, k, hk⟩ := (state_eq_action_iff hm hf).1 he
      exact h k hk
    refine List.nodup_append.2 ⟨hsession, hkeys, fun a ha b hb he => ?_⟩
    exact sessionKeys_not_mem camel (Name.capitalize camel) a ha (he ▸ hb)

end Binding

/-! ## Runs on a single collection -/

namespace Assembly

/-- The keys of the store of a single collection under the usual options. -/
theorem map_exportedNames_single (c : Collection) :
    (Registry.build [c] {}).exportedNames.map String.toList
      = Registry.sessionKeys.map String.toList ++ Binding.keys c.camelName.toList c.pascalName.toList := by
  have hnames : (Registry.build [c] {}).exportedNames
      = Registry.sessionKeys ++ (Binding.ofCollection c {}).exported := by
    show Registry.sessionKeys ++ [] ++ [] ++ [] ++ ((Binding.ofCollection c {}).exported ++ []) = _
    simp only [List.append_nil]
  rw [hnames, List.map_append, Binding.map_exported rfl]
  rfl

theorem eq_copies_iff {s : String} (k : Nat) :
    s = "search" ++ String.join (List.replicate k "Search")
      ↔ s.toList = "search".toList ++ Name.copies k "Search".toList := by
  rw [← String.toList_inj, String.toList_append, String.toList_join, List.flatMap_def, List.map_replicate]
  rfl

/-- A run on a single collection under the usual options succeeds exactly if the collection is not called
`search` with any number of copies of `Search` behind it. -/
theorem single_succeeds_iff {identity : List String} {raw : Value} {notes : List Note} {c : Collection}
    (h : Intake.read identity raw = (notes, .ok [c])) :
    (∃ files, assemble stages [c] {} = .ok files)
      ↔ ∀ k, c.camelName ≠ "search" ++ String.join (List.replicate k "Search") := by
  have hnormal := Intake.areNormal_of_read h
  have hkeys : (Registry.build [c] {}).exportedNames.Nodup
      ↔ ∀ k, c.camelName ≠ "search" ++ String.join (List.replicate k "Search") := by
    have hpascal := (hnormal.each c (List.mem_singleton.2 rfl)).pascalName_eq_capitalize
    simp only [ne_eq, eq_copies_iff]
    rw [← List.nodup_map_iff fun _ _ => String.toList_inj.1, map_exportedNames_single, hpascal,
      Binding.nodup_keys_iff]
  rw [← hkeys]
  refine ⟨?_, assemble_of_nodup hnormal⟩
  rintro ⟨files, hf⟩
  by_contra hn
  rw [assemble_of_not_nodup hnormal hn] at hf
  cases hf

/-- A store for books, and none for searches of searches. -/
theorem single_succeeds_for_books :
    ∃ notes others books searches,
      Intake.read [] (.list [Intake.declaration "?" [], Intake.declaration "Book" [("title", "string")]])
        = (notes, .ok [books])
      ∧ (∃ files, assemble stages [books] {} = .ok files)
      ∧ Intake.read [] (.list [Intake.declaration "search search" []]) = (others, .ok [searches])
      ∧ ¬ ∃ files, assemble stages [searches] {} = .ok files := by
  let books : Collection := {
    name := "Book", camelName := "book", pascalName := "Book", fields := [⟨"title", .text, "string"⟩] }
  let searches : Collection := {
    name := "search search", camelName := "searchSearch", pascalName := "SearchSearch" }
  have hbooks : Intake.read [] (.list [Intake.declaration "?" [],
      Intake.declaration "Book" [("title", "string")]]) = (_, .ok [books]) :=
    Intake.read_eq_of_toOption (by with_unfolding_all decide)
  have hsearches : Intake.read [] (.list [Intake.declaration "search search" []]) = (_, .ok [searches]) :=
    Intake.read_eq_of_toOption (by with_unfolding_all decide)
  refine ⟨_, _, books, searches, hbooks, (single_succeeds_iff hbooks).2 ?_, hsearches, fun hs => ?_⟩
  · intro k hk
    have hfirst := congrArg List.head? ((eq_copies_iff k).1 hk)
    rw [String.toList_ofList] at hfirst
    cases hfirst
  · exact (single_succeeds_iff hsearches).1 hs 1 (by decide)

end Assembly

end Scaffold
