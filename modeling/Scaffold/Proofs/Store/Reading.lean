import Scaffold.Proofs.Script.Scope
import Scaffold.Proofs.Script.Token
import Scaffold.Proofs.Store.Segments
import Scaffold.Proofs.Template.Tokens

/-!
# Reading the store module

What the parts of a store module are read as: the functions that they define, the entries of the store
that they add, and the factories of actions that they call and import. Names of collections are known by
characters that stand for them, so that all of it is computed on fixed characters.
-/

namespace Scaffold

open Script Template

/-! ## Names in which no keyword hides -/

namespace Script

/-- A part of a name that is in no keyword. -/
def IsFreePart (cs : List Char) : Prop :=
  (!cs.isEmpty && cs.all Text.isWordAscii) = true ∧ ∀ k ∈ keywords, ¬ cs <:+: k

instance (cs : List Char) : Decidable (IsFreePart cs) := inferInstanceAs (Decidable (_ ∧ _))

theorem isFreeName_before {cs : List Char} (h : IsFreePart cs) {w : String} (hw : Name.IsWord w.toList) :
    IsFreeName (String.ofList cs ++ w).toList := by
  refine isFreeName_of_isInfix h.2 ?_ (isName_append (isName_ofList h.1) hw)
  rw [String.toList_append, String.toList_ofList]
  exact (List.prefix_append _ _).isInfix

theorem isFreeName_around {cs ds : List Char} (h : IsFreePart cs) (hd : ds.all Text.isWordAscii = true)
    {w : String} (hw : Name.IsWord w.toList) :
    IsFreeName (String.ofList cs ++ w ++ String.ofList ds).toList := by
  refine isFreeName_of_isInfix h.2 ?_
    (isName_append (isName_append (isName_ofList h.1) hw) (isWord_ofList hd))
  rw [String.toList_append, String.toList_append, String.toList_ofList, List.append_assoc]
  exact (List.prefix_append _ _).isInfix

theorem isFreeName_after {ds : List Char} (h : IsFreePart ds) {w : String} (hw : Name.IsWord w.toList) :
    IsFreeName (w ++ String.ofList ds).toList := by
  rw [String.toList_append, String.toList_ofList]
  refine isFreeName_of_isInfix h.2 (List.suffix_append _ _).isInfix ⟨?_, fun c hc => ?_⟩
  · intro e
    have hne := h.1
    rw [(List.append_eq_nil_iff.1 e).2] at hne
    cases hne
  · have hds : Name.IsWord ds := by
      have hall := h.1
      rw [Bool.and_eq_true, List.all_eq_true] at hall
      exact hall.2
    exact isIdentifierChar_of_isWordAscii (hw.append hds c hc)

/-- A name with a fixed part, which stands in front of a word, around it, or behind it. No keyword and no word
that declares something holds the part. -/
inductive HasFixedPart (camel pascal : String) : List Char → Prop
  | before {cs : List Char} (h : IsFreePart cs) (hd : ∀ k ∈ declarators, ¬ cs <:+: k) :
    HasFixedPart camel pascal (String.ofList cs ++ pascal).toList
  | around {cs ds : List Char} (h : IsFreePart cs) (hd : ∀ k ∈ declarators, ¬ cs <:+: k)
    (hds : ds.all Text.isWordAscii = true) :
    HasFixedPart camel pascal (String.ofList cs ++ pascal ++ String.ofList ds).toList
  | after {ds : List Char} (h : IsFreePart ds) (hd : ∀ k ∈ declarators, ¬ ds <:+: k) :
    HasFixedPart camel pascal (camel ++ String.ofList ds).toList

namespace HasFixedPart

variable {camel pascal : String} {cs : List Char}

theorem isFreeName (h : HasFixedPart camel pascal cs) (hc : Name.IsWord camel.toList)
    (hp : Name.IsWord pascal.toList) : IsFreeName cs := by
  cases h with
  | before h _ => exact isFreeName_before h hp
  | around h _ hds => exact isFreeName_around h hds hp
  | after h _ => exact isFreeName_after h hc

theorem not_isInfix (h : HasFixedPart camel pascal cs) : ∀ k ∈ declarators, ¬ cs <:+: k := by
  cases h with
  | before _ hd =>
    rw [String.toList_append, String.toList_ofList]
    exact not_isInfix_of_part hd (List.prefix_append _ _).isInfix
  | around _ hd _ =>
    rw [String.append_assoc, String.toList_append, String.toList_ofList]
    exact not_isInfix_of_part hd (List.prefix_append _ _).isInfix
  | after _ hd =>
    rw [String.toList_append, String.toList_ofList]
    exact not_isInfix_of_part hd (List.suffix_append _ _).isInfix

end HasFixedPart

end Script

/-! ## A binding -/

namespace Binding

/-- The characters that stand for the names of a collection. -/
def letters : List (String × Char) := [
  ("binding_function", '\uE000'),
  ("actions_factory", '\uE001'),
  ("page_state", '\uE002'),
  ("search_state", '\uE003'),
  ("loading_state", '\uE004'),
  ("error_state", '\uE005'),
  ("fetch_action", '\uE006'),
  ("fetch_more_action", '\uE007'),
  ("get_action", '\uE008'),
  ("add_action", '\uE009'),
  ("update_action", '\uE00A'),
  ("delete_action", '\uE00B'),
  ("search_action", '\uE00C'),
  ("apply_filters_action", '\uE00D'),
  ("change_sorting_action", '\uE00E'),
  ("clear_search_action", '\uE00F'),
  ("count_action", '\uE010'),
  ("assign_roles_action", '\uE011'),
  ("revoke_roles_action", '\uE012')]

/-- What is known where a collection is bound. -/
def known (gated : Bool) : Known where
  names := letters.map fun e => (["n", e.1], e.2)
  flags := [(["binding", "role_gated"], gated)]

/-- The characters that stand for keys of the store, in their order. -/
def keyLetters (gated : Bool) : List Char :=
  ((letters.map Prod.snd).drop 2).take (if gated then 17 else 15)

variable (b : Binding)

/-- The names that characters stand for where a collection is bound. -/
def table : List (Char × List Char) := [
  ('\uE000', b.names.bindingFunction.toList),
  ('\uE001', b.names.actionsFactory.toList),
  ('\uE002', b.names.pageState.toList),
  ('\uE003', b.names.searchState.toList),
  ('\uE004', b.names.loadingState.toList),
  ('\uE005', b.names.errorState.toList),
  ('\uE006', b.names.fetchAction.toList),
  ('\uE007', b.names.fetchMoreAction.toList),
  ('\uE008', b.names.getAction.toList),
  ('\uE009', b.names.addAction.toList),
  ('\uE00A', b.names.updateAction.toList),
  ('\uE00B', b.names.deleteAction.toList),
  ('\uE00C', b.names.searchAction.toList),
  ('\uE00D', b.names.applyFiltersAction.toList),
  ('\uE00E', b.names.changeSortingAction.toList),
  ('\uE00F', b.names.clearSearchAction.toList),
  ('\uE010', b.names.countAction.toList),
  ('\uE011', b.names.assignRolesAction.toList),
  ('\uE012', b.names.revokeRolesAction.toList)]

theorem holds_known : (known b.isRoleGated).Holds (spelling b.table) b.scope where
  names := by
    simp only [known, letters, List.map_cons, List.map_nil, List.forall_mem_cons]
    repeat' first
      | exact ⟨_, Expr.Gives.of_record (e := .name "n") rfl rfl, rfl⟩
      | exact fun e he => absurd he List.not_mem_nil
      | constructor
  flags := by
    refine List.forall_mem_cons.2 ⟨?_, fun e he => absurd he List.not_mem_nil⟩
    exact ⟨_, Expr.Gives.of_record (e := .name "binding") rfl rfl, rfl⟩
  literals := fun e he => absurd he List.not_mem_nil

variable {b}

/-- The characters are ones that stand for names, and each name has a fixed part. -/
theorem hasFixedPart_table :
    ∀ e ∈ b.table, standInBase ≤ e.1.toNat ∧ HasFixedPart b.names.camel b.names.pascal e.2 := by
  simp only [table, List.forall_mem_cons]
  refine ⟨⟨?_, .before ?_ ?_⟩, ⟨?_, .around ?_ ?_ ?_⟩, ⟨?_, .after ?_ ?_⟩, ⟨?_, .after ?_ ?_⟩,
    ⟨?_, .after ?_ ?_⟩, ⟨?_, .after ?_ ?_⟩, ⟨?_, .before ?_ ?_⟩, ⟨?_, .before ?_ ?_⟩, ⟨?_, .before ?_ ?_⟩,
    ⟨?_, .before ?_ ?_⟩, ⟨?_, .before ?_ ?_⟩, ⟨?_, .before ?_ ?_⟩, ⟨?_, .before ?_ ?_⟩,
    ⟨?_, .around ?_ ?_ ?_⟩, ⟨?_, .around ?_ ?_ ?_⟩, ⟨?_, .around ?_ ?_ ?_⟩, ⟨?_, .before ?_ ?_⟩,
    ⟨?_, .around ?_ ?_ ?_⟩, ⟨?_, .around ?_ ?_ ?_⟩, fun e he => absurd he List.not_mem_nil⟩
  all_goals decide

theorem standsFor_table (hc : Name.IsWord b.names.camel.toList) (hp : Name.IsWord b.names.pascal.toList) :
    StandsFor (spelling b.table) :=
  standsFor_spelling fun e he => (hasFixedPart_table e he).imp_right fun h => h.isFreeName hc hp

/-- No word that declares something holds a name of a collection. -/
theorem avoidsDeclarators_table : AvoidsDeclarators (spelling b.table) :=
  avoidsDeclarators_spelling fun e he => (hasFixedPart_table e he).2.not_isInfix

/-- The scope of the function that binds a collection, with characters for its names. -/
def scopeLetters : FunctionScope where
  declared := [
    "actions".toList, ['\uE002'], ['\uE003'], ['\uE004'], ['\uE005'], "track".toList, "fetchPage".toList]
  called := [
    ['\uE001'], "ref".toList, "emptyPage".toList, "ref".toList, "emptySearch".toList, "ref".toList, "ref".toList,
    "tracker".toList]

/-- The function that binds a collection returns its keys. It calls the factory of its actions; the
other names here are those of functions that it defines. -/
theorem exists_reads (gated : Bool) :
    ∃ cs, Reads (known gated) .between StoreModule.binding cs ∧ IsClosed cs
      ∧ functionsOf cs = [(['\uE000'], some ((keyLetters gated).map fun c => [c]))]
      ∧ scopes 0 (tokensOf cs) = [(['\uE000'], scopeLetters)]
      ∧ Mentions cs (['\uE000', '\uE001', '\uE007', '\uE00B', '\uE00C', '\uE00F'].map fun c => [c]) [] := by
  apply Yields.exists_reads
  · unfold StoreModule.binding
    repeat' first | decide +kernel +revert | constructor
  · intro cs hs ht
    -- all of this is asked of the tokens, which are computed once for both values of the flag
    simp only [Script.IsClosed, functionsOf, Mentions, hs, ht, true_and]
    clear ht
    decide +kernel +revert

end Binding

/-! ## The parts around -/

namespace Registry

/-- The function that binds authentication. -/
def authFunction : List Char := "bindAuth".toList

/-- What the known messages of authentication are read as. -/
def messagesOutline : List Char :=
  recordOutline (AuthMessages.known.map fun e => recordOutline (e.2.map fun _ => quotes))

/-- What is known in the parts that no collection has a say in. -/
def knownParts (auth profile roles activity : Bool) : Known where
  names := (["store", "hook"], '\uE000')
    :: if profile then [(["profile", "actions_factory"], '\uE001')] else []
  flags := [
    (["auth_enabled"], auth),
    (["profile"], profile),
    (["roles"], roles),
    (["activity_logging"], activity)]
  literals := [
    (["store", "store_name"], quotes),
    (["auth_messages"], messagesOutline),
    (["generic_auth_message"], quotes)]

/-- The imports of every store. -/
theorem exists_reads_opening (auth profile roles activity : Bool) :
    ∃ cs, Reads (knownParts auth profile roles activity) .between StoreModule.opening cs ∧ IsClosed cs
      ∧ functionsOf cs = [] ∧ Mentions cs [] [] := by
  apply Yields.exists_reads
  · show Yields _ (both _ (both _ (both _ (both _ nothing)))) _
    repeat' first | decide +kernel +revert | constructor
  · intro cs hs ht
    simp only [Script.IsClosed, functionsOf, Mentions, hs, ht, true_and]
    clear ht
    decide +kernel +revert

/-- The function that binds authentication returns the keys of authentication. No other function here
has a name as those have that bind something. -/
theorem exists_reads_definitions (auth profile roles activity : Bool) :
    ∃ css, Text.Spells authKeys css
      ∧ ∃ cs, Reads (knownParts auth profile roles activity) .between StoreModule.definitions cs ∧ IsClosed cs
      ∧ (∀ g ∈ functionsOf cs, g.IsPlain)
      ∧ (auth = true → (functionsOf cs).lookup authFunction = some (some css))
      ∧ (∀ g ∈ functionsOf cs,
        "bind".toList.isPrefixOf g.1 = true → auth = true ∧ g.1 = authFunction)
      ∧ Mentions cs [] [] := by
  apply Exists.intro
  apply And.intro
  · repeat' constructor
  apply Yields.exists_reads
  · unfold StoreModule.definitions
    repeat' first | decide +kernel +revert | constructor
  · intro cs hs ht
    simp only [Script.IsClosed, functionsOf, Mentions, hs, ht, true_and]
    clear ht
    decide +kernel +revert

/-- The entries of the store that no collection brings, from the names of keys. -/
def entriesOf (session role activity : List (List Char)) (auth roles activityLogging : Bool) : List Entry :=
  session.map Entry.key ++ (if auth then [.spread authFunction] else [])
    ++ (if roles then role.map Entry.key else [])
    ++ if activityLogging then activity.map Entry.key else []

/-- The session begins the store with the keys that no collection brings. -/
theorem exists_reads_ownKeys (auth profile roles activity : Bool) :
    ∃ css dss ess, Text.Spells sessionKeys css ∧ Text.Spells roleKeys dss
      ∧ Text.Spells activityKeys ess
      ∧ ∃ cs, Reads (knownParts auth profile roles activity) .between StoreModule.ownKeys cs
      ∧ Lexing.between.stop cs = .between
      ∧ (scan 0 (tokensOf cs)).map Prod.snd = some 3 ∧ functionsOf cs = []
      ∧ storeOpened? (tokensOf cs) = some (entriesOf css dss ess auth roles activity)
      ∧ (∀ e ∈ entriesOf css dss ess auth roles activity, IsPlain e.name)
      ∧ Mentions cs (if auth && profile then [['\uE001']] else []) [] := by
  -- the name of the factory is known only if there is one; without it the line that calls it is left out
  cases profile
  all_goals
    iterate 3 apply Exists.intro
    iterate 3
      apply And.intro
      · repeat' constructor
    apply Yields.exists_reads
    · show Yields _ (both StoreModule.session (both _ (both _ (both _ (both _ nothing))))) _
      repeat' first | exact .off rfl | decide +kernel +revert | constructor
    · intro cs hs ht
      simp only [functionsOf, Mentions, hs, ht, true_and]
      clear ht
      decide +kernel +revert

end Registry

end Scaffold
