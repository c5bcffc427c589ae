import Scaffold.Proofs.Store.Reading
import Scaffold.Proofs.Value.Shown

/-!
# Tokens of the store module

The tokens of a store module, part by part: what is defined and called for all collections together and
for each of them, and what the parts add to the store.
-/

namespace Scaffold

open Script Template

/-! ## What is known in a registry -/

namespace Registry

variable {r : Registry} {roles : List Value}

/-- The names that characters stand for in the parts that no collection has a say in. -/
def table (r : Registry) : List (Char × List Char) :=
  ('\uE000', r.store.hook.toList) :: (r.profile.map fun n => ('\uE001', n.actionsFactory.toList)).toList

/-- What is known in the parts that no collection has a say in. -/
def known (r : Registry) : Known :=
  knownParts r.auth r.profile.isSome r.roles.truthy r.activityLogging

theorem holds_known (h : Expr.elements r.roles = .ok roles) :
    r.known.Holds (spelling r.table) (r.scope roles) where
  names := by
    refine List.forall_mem_cons.2 ⟨⟨_, Expr.Gives.of_record (e := .name "store") rfl rfl, rfl⟩, ?_⟩
    unfold table
    cases hp : r.profile with
    | none => exact fun e he => absurd he List.not_mem_nil
    | some n =>
      have hg : (Expr.name "profile").Gives (r.scope roles) n.toValue := by
        show Except.ok (Slot.value ((r.profile.map CollectionNames.toValue).getD .null)) = _
        rw [hp]
        rfl
      exact List.forall_mem_cons.2 ⟨⟨_, Expr.Gives.of_record hg rfl, rfl⟩,
        fun e he => absurd he List.not_mem_nil⟩
  flags := by
    have hroles : (Value.list roles).truthy = r.roles.truthy := by
      unfold Expr.elements at h
      split at h
      next items hv =>
        cases h
        exact (Value.truthy_eq_of_elements? hv).symm
      next => cases h
    have hprofile : ((r.profile.map CollectionNames.toValue).getD .null).truthy = r.profile.isSome := by
      cases r.profile <;> rfl
    exact List.forall_mem_cons.2 ⟨⟨_, rfl, rfl⟩, List.forall_mem_cons.2 ⟨⟨_, rfl, hprofile⟩,
      List.forall_mem_cons.2 ⟨⟨_, rfl, hroles⟩, List.forall_mem_cons.2 ⟨⟨_, rfl, rfl⟩,
        fun e he => absurd he List.not_mem_nil⟩⟩⟩⟩
  literals := by
    -- a message is written as a quoted text whatever it says, so the outline of all of them is fixed
    have hmessages : ∃ s, Json.write .line messagesValue = .ok s ∧ IsOutlined s messagesOutline := by
      refine isOutlined_record
        (f := fun messages : List (String × String) => Value.record (messages.map fun e => (e.1, .text e.2)))
        (o := fun messages => recordOutline (messages.map fun _ => quotes)) fun e _ => ?_
      refine isOutlined_record (f := .text) (o := fun _ => quotes) fun m _ => ?_
      exact ⟨Json.quote m.2, by rw [Json.write], isOutlined_json_quote m.2⟩
    obtain ⟨s, hw, hs⟩ := hmessages
    have hgeneric := isOutlined_quote AuthMessages.generic
    have hname := isOutlined_quote r.store.storeName
    exact List.forall_mem_cons.2
      ⟨⟨_, _, Expr.Gives.of_record (e := .name "store") rfl rfl, rfl, (by decide), hname.1⟩,
        List.forall_mem_cons.2 ⟨⟨messagesValue, s, rfl, hw, (by decide +kernel), hs.1⟩,
          List.forall_mem_cons.2 ⟨⟨_, _, rfl, rfl, (by decide), hgeneric.1⟩,
            fun e he => absurd he List.not_mem_nil⟩⟩⟩

end Registry

/-! ## Normal names -/

/-- These are the names of a normal collection. -/
def CollectionNames.IsNormal (n : CollectionNames) : Prop :=
  ∃ c o, Collection.IsNormal c ∧ n = CollectionNames.ofCollection c o

namespace CollectionNames.IsNormal

variable {n : CollectionNames}

theorem isWord_camel (h : n.IsNormal) : Name.IsWord n.camel.toList := by
  obtain ⟨c, o, hc, rfl⟩ := h
  exact hc.isWord_camelName

theorem isWord_pascal (h : n.IsNormal) : Name.IsWord n.pascal.toList := by
  obtain ⟨c, o, hc, rfl⟩ := h
  exact hc.isWord_pascalName

end CollectionNames.IsNormal

/-- These are the names of a collection that some input gives. -/
def CollectionNames.IsRead (n : CollectionNames) : Prop :=
  ∃ identity raw notes all c o, Intake.read identity raw = (notes, .ok all) ∧ c ∈ all
    ∧ n = CollectionNames.ofCollection c o

theorem CollectionNames.IsRead.isNormal {n : CollectionNames} (h : n.IsRead) : n.IsNormal := by
  obtain ⟨identity, raw, notes, all, c, o, hr, hc, rfl⟩ := h
  exact ⟨c, o, (Intake.areNormal_of_read hr).each c hc, rfl⟩

/-- All names in a registry are those of normal collections. -/
structure Registry.IsNormal (r : Registry) : Prop where
  bindings : ∀ b ∈ r.bindings, b.names.IsNormal
  profile : ∀ n, r.profile = some n → n.IsNormal

theorem Registry.IsNormal.standsFor_table {r : Registry} (h : r.IsNormal) :
    StandsFor (spelling r.table) := by
  have hhook : standInBase ≤ '\uE000'.toNat := by decide
  have hprofile : standInBase ≤ '\uE001'.toNat := by decide
  have hname : IsFreeName r.store.hook.toList :=
    isFreeName_before (by decide) (Name.isWord_pascal r.store.storeName)
  apply standsFor_spelling
  unfold table
  cases hp : r.profile with
  | none =>
    simp only [Option.map_none, Option.toList_none, List.forall_mem_cons]
    exact ⟨⟨hhook, hname⟩, fun e he => absurd he List.not_mem_nil⟩
  | some n =>
    have hfactory : IsFreeName n.actionsFactory.toList :=
      isFreeName_around (by decide) (by decide) (h.profile n hp).isWord_pascal
    simp only [Option.map_some, Option.toList_some, List.forall_mem_cons]
    exact ⟨⟨hhook, hname⟩, ⟨hprofile, hfactory⟩, fun e he => absurd he List.not_mem_nil⟩

/-! ## Tokens of segments -/

namespace Binding

variable (b : Binding)

/-- The tokens of the import of the actions of a collection. -/
def importTokens : List Token := [
  .word importWord, .mark '\x7b', .word b.names.actionsFactory.toList, .mark '\x7d',
  .word "from".toList, .quoted, .mark ';']

/-- The tokens of the line that takes over what is bound for a collection. -/
def spreadTokens : List Token := [
  .mark '.', .mark '.', .mark '.', .word b.names.bindingFunction.toList, .mark '(',
  .word "session".toList, .mark ')', .mark ',']

variable {b}

/-- What single characters stand for. -/
theorem map_flatMap_letters {f : Char → List Char} (cs : List Char) :
    (cs.map fun c => [c]).map (List.flatMap f) = cs.map f := by
  rw [List.map_map]
  exact List.map_congr_left fun c _ => List.flatMap_singleton f c

theorem isName_around {w : String} (hw : Name.IsWord w.toList) {cs ds : List Char}
    (hc : (!cs.isEmpty && cs.all Text.isWordAscii) = true) (hd : ds.all Text.isWordAscii = true) :
    IsName (String.ofList cs ++ w ++ String.ofList ds).toList :=
  isName_append (isName_append (isName_ofList hc) hw) (isWord_ofList hd)

theorem hasTokens_importLine (h : b.names.IsNormal) : HasTokens b.importLine b.importTokens := by
  have hname : IsName b.names.actionsFactory.toList := isName_around h.isWord_pascal rfl rfl
  -- nothing in the path ends the text in quotes or begins an escape
  have hsource : ∀ c ∈ b.names.actionsImport.toList, c ≠ quoteMark false ∧ c ≠ '\\' := by
    have hfixed {cs : List Char} (hcs : (cs.all fun c => c ≠ quoteMark false ∧ c ≠ '\\') = true) :
        ∀ c ∈ (String.ofList cs).toList, c ≠ quoteMark false ∧ c ≠ '\\' := by
      rw [String.toList_ofList]
      exact fun c hc => of_decide_eq_true (List.all_eq_true.1 hcs c hc)
    intro c hc
    unfold CollectionNames.actionsImport at hc
    rw [String.toList_append, String.toList_append, List.mem_append, List.mem_append] at hc
    rcases hc with (hc | hc) | hc
    · exact hfixed (by decide) c hc
    · exact ne_quoteMark (isLetter_of_isIdentifierChar
        (isIdentifierChar_of_isWordAscii (h.isWord_camel c hc))) false
    · exact hfixed (by decide) c hc
  have hopen : Lexing.between.run "import \x7b ".toList = ([.word importWord, .mark '\x7b'], .between) := by
    rw [String.toList_ofList]
    rfl
  have hfrom : (Lexing.word b.names.actionsFactory.toList).run " \x7d from '".toList
      = ([.word b.names.actionsFactory.toList, .mark '\x7d', .word "from".toList],
        .quoted false) := by
    rw [String.toList_ofList]
    rfl
  have hend : (Lexing.quoted false).run "';\n".toList = ([.quoted, .mark ';'], .between) := by
    rw [String.toList_ofList]
    rfl
  unfold HasTokens importLine importTokens
  simp only [String.toList_append]
  exact Lexing.run_append_of_eq (Lexing.run_append_of_eq (Lexing.run_append_of_eq
    (Lexing.run_append_of_eq hopen (run_name_between hname)) hfrom) (Lexing.run_quoted hsource)) hend

theorem hasTokens_spreadLine (h : b.names.IsNormal) : HasTokens b.spreadLine b.spreadTokens := by
  have hname : IsName b.names.bindingFunction.toList :=
    isName_append (isName_ofList rfl) h.isWord_pascal
  have hopen : Lexing.between.run "    ...".toList = ([.mark '.', .mark '.', .mark '.'], .between) := by
    rw [String.toList_ofList]
    rfl
  have hend : (Lexing.word b.names.bindingFunction.toList).run "(session),\n".toList
      = ([.word b.names.bindingFunction.toList, .mark '(',
        .word "session".toList, .mark ')', .mark ','], .between) := by
    rw [String.toList_ofList]
    rfl
  unfold HasTokens spreadLine spreadTokens
  simp only [String.toList_append]
  exact Lexing.run_append_of_eq (Lexing.run_append_of_eq hopen (run_name_between hname)) hend

/-! ### What segments are for a module -/

theorem isFactory_actionsFactory : isFactory b.names.actionsFactory.toList = true := by
  unfold CollectionNames.actionsFactory isFactory
  rw [String.toList_append, String.toList_append, String.toList_ofList, String.toList_ofList,
    Bool.and_eq_true, List.isPrefixOf_iff_prefix, List.isSuffixOf_iff_suffix, List.append_assoc]
  exact ⟨List.prefix_append _ _, (List.suffix_append _ _).trans (List.suffix_append _ _)⟩

/-- A name that begins in another way is no name for a factory. -/
theorem isFactory_eq_false {cs : List Char} {w : String} (hl : 2 ≤ cs.length) (h : cs.take 2 ≠ ['c', 'r']) :
    isFactory (String.ofList cs ++ w).toList = false := by
  have hcs : (String.ofList cs).toList = cs := String.toList_ofList
  rw [isFactory, String.toList_append, hcs, Bool.and_eq_false_iff, ← Bool.not_eq_true, List.isPrefixOf_iff_prefix]
  refine .inl fun hp => h ?_
  obtain ⟨more, hp⟩ := hp
  have htake := congrArg (List.take 2) hp
  rw [List.take_append_of_le_length hl] at htake
  exact htake.symm

theorem offers_importTokens : Offers b.importTokens [] := offers_of_scan rfl rfl

theorem uses_importTokens : Uses b.importTokens [] [b.names.actionsFactory.toList] where
  called_eq := rfl
  called_end := rfl
  imported_eq := by
    show [b.names.actionsFactory.toList].filter isFactory = _
    rw [List.filter_cons, isFactory_actionsFactory]
    rfl
  imported_end := rfl

theorem lists_spreadTokens : Lists b.spreadTokens [.spread b.names.bindingFunction.toList] :=
  lists_of_entriesOf? rfl

theorem uses_spreadTokens : Uses b.spreadTokens [] [] := by
  have hbind : isFactory b.names.bindingFunction.toList = false := isFactory_eq_false (by decide) (by decide)
  have himported : Reader.imported.run .outside b.spreadTokens = ([], .outside) := by
    -- Whatever the name is, the bracket after it ends what it may have begun.
    show Reader.imported.run (if Token.word b.names.bindingFunction.toList = .word importWord
      then .asked else .outside) [.mark '(', .word "session".toList, .mark ')',
        .mark ','] = ([], .outside)
    split <;> rfl
  refine ⟨?_, rfl, ?_, ?_⟩
  · show [b.names.bindingFunction.toList].filter isFactory = []
    rw [List.filter_cons, hbind]
    rfl
  · rw [himported]
    rfl
  · rw [himported]

/-- What the function that binds a collection declares in its own scope: the actions, what is kept of the
collection, what tracks the loading, and the function that fetches a page. Values come from the factory of
the actions, the references, the empty page and search, and the tracker. -/
def functionScope (b : Binding) : FunctionScope where
  declared := ["actions", b.names.pageState, b.names.searchState, b.names.loadingState,
    b.names.errorState, "track", "fetchPage"].map String.toList
  called := [b.names.actionsFactory, "ref", "emptyPage", "ref", "emptySearch", "ref", "ref",
    "tracker"].map String.toList

theorem scopeLetters_spell : scopeLetters.spell (spelling b.table) = b.functionScope := by
  unfold functionScope
  simp only [FunctionScope.spell, scopeLetters, List.map_cons, List.map_nil, List.flatMap_singleton]
  iterate 7 rw [String.toList_ofList]
  rfl

/-- Of all that a function calls which binds a collection, only the factory of its actions is one. -/
theorem calledFactories_eq (b : Binding) :
    (['\uE000', '\uE001', '\uE007', '\uE00B', '\uE00C', '\uE00F'].map (spelling b.table)).filter isFactory
      = [b.names.actionsFactory.toList] := by
  have hbind : isFactory b.names.bindingFunction.toList = false := isFactory_eq_false (by decide) (by decide)
  have hfetch : isFactory b.names.fetchMoreAction.toList = false := isFactory_eq_false (by decide) (by decide)
  have hdelete : isFactory b.names.deleteAction.toList = false := isFactory_eq_false (by decide) (by decide)
  have hsearch : isFactory b.names.searchAction.toList = false := isFactory_eq_false (by decide) (by decide)
  have hclear : isFactory b.names.clearSearchAction.toList = false := by
    rw [CollectionNames.clearSearchAction, String.append_assoc]
    exact isFactory_eq_false (by decide) (by decide)
  show [b.names.bindingFunction.toList, b.names.actionsFactory.toList,
    b.names.fetchMoreAction.toList, b.names.deleteAction.toList, b.names.searchAction.toList,
    b.names.clearSearchAction.toList].filter isFactory = _
  simp only [List.filter_cons, List.filter_nil, isFactory_actionsFactory, hbind, hfetch, hdelete,
    hsearch, hclear, if_true, Bool.false_eq_true, if_false]

/-- What the tokens are of a function that binds a collection: those of each text of it. It returns the keys
that the collection adds to the store, and calls one factory. -/
structure IsReadAs (b : Binding) (ts : List Token) : Prop where
  hasTokens : ∀ s, b.IsBlock s → HasTokens s ts
  offers : Offers ts [(b.names.bindingFunction.toList, some (b.exported.map String.toList))]
  encloses : Encloses ts [(b.names.bindingFunction.toList, b.functionScope)]
  uses : Uses ts [b.names.actionsFactory.toList] []

/-- The function that binds a collection has tokens that do not depend on how it is rendered. -/
theorem exists_isReadAs (h : b.names.IsNormal) : ∃ ts, b.IsReadAs ts := by
  have hf := standsFor_table h.isWord_camel h.isWord_pascal
  obtain ⟨cs, hr, hc, hfunctions, hscope, hm⟩ := exists_reads b.isRoleGated
  have hoffers := hc.offers hf
  have hkeys : (keyLetters b.isRoleGated).map (spelling b.table) = b.exported.map String.toList := by
    rw [exported]
    cases b.isRoleGated <;> rfl
  have hfound : (functionsOf cs).map (Returning.spell (spelling b.table))
      = [(b.names.bindingFunction.toList, some (b.exported.map String.toList))] := by
    rw [hfunctions, List.map_singleton, Returning.spell, Option.map_some, map_flatMap_letters, hkeys,
      List.flatMap_singleton]
    rfl
  rw [hfound] at hoffers
  obtain ⟨ss, -, hencloses, hss⟩ := hc.encloses hf
  rw [hss avoidsDeclarators_table, hscope, List.map_singleton, scopeLetters_spell,
    List.flatMap_singleton] at hencloses
  have huses := hm.uses hf
  rw [map_flatMap_letters, calledFactories_eq] at huses
  exact ⟨_, fun s hs => hr.hasTokens hf b.holds_known hc.run_eq hs, hoffers, hencloses, huses⟩

/-- Such tokens can be chosen for all collections at once. -/
theorem exists_forall_isReadAs :
    ∃ block : Binding → List Token, ∀ b : Binding, b.names.IsNormal → b.IsReadAs (block b) := by
  have hblock (b : Binding) : ∃ ts, b.names.IsNormal → b.IsReadAs ts := by
    by_cases hn : b.names.IsNormal
    · obtain ⟨ts, hts⟩ := exists_isReadAs hn
      exact ⟨ts, fun _ => hts⟩
    · exact ⟨[], fun h => absurd h hn⟩
  choose block hblock using hblock
  exact ⟨block, hblock⟩

end Binding

/-! ## A reading of the module -/

namespace Registry

/-- The keys that no collection brings. -/
def ownEntries (r : Registry) : List Entry :=
  entriesOf (sessionKeys.map String.toList) (roleKeys.map String.toList) (activityKeys.map String.toList)
    r.auth r.roles.truthy r.activityLogging

/-- The factory that authentication is given, if it is given one. -/
def profileFactory (r : Registry) : List (List Char) :=
  if r.auth then (r.profile.map fun n => n.actionsFactory.toList).toList else []

/-- The tokens of the parts of a store module, with what the parts are for the module. -/
structure Reading (r : Registry) where
  opening : List Token
  definitions : List Token
  block : Binding → List Token
  own : List Token
  /-- What is defined for all collections together. -/
  functions : List Returning
  offers_opening : Offers opening []
  encloses_opening : Encloses opening []
  uses_opening : Uses opening [] []
  offers_definitions : Offers definitions functions
  lookup_authFunction : r.auth = true →
    functions.lookup authFunction = some (some (authKeys.map String.toList))
  eq_authFunction : ∀ g ∈ functions,
    "bind".toList.isPrefixOf g.1 = true → r.auth = true ∧ g.1 = authFunction
  /-- The scopes of these functions. -/
  scopes : List (List Char × FunctionScope)
  encloses_definitions : Encloses definitions scopes
  map_fst_scopes : scopes.map Prod.fst = functions.map Prod.fst
  uses_definitions : Uses definitions [] []
  offers_block : ∀ b ∈ r.bindings,
    Offers (block b) [(b.names.bindingFunction.toList, some (b.exported.map String.toList))]
  encloses_block : ∀ b ∈ r.bindings,
    Encloses (block b) [(b.names.bindingFunction.toList, b.functionScope)]
  uses_block : ∀ b ∈ r.bindings, Uses (block b) [b.names.actionsFactory.toList] []
  opens_own : Opens own r.ownEntries
  uses_own : Uses own r.profileFactory []

/-- The tokens of the module. -/
def Reading.tokens {r : Registry} (t : Reading r) : List Token :=
  t.opening ++ (r.bindings.flatMap Binding.importTokens ++ (t.definitions
    ++ (r.bindings.flatMap t.block ++ (t.own ++ (r.bindings.flatMap Binding.spreadTokens ++ storeEnd)))))

variable {r : Registry}

/-- The session calls the factory that authentication is given, and no other one. -/
theorem calledFactories_eq (r : Registry) :
    ((if (r.auth && r.profile.isSome) = true then [['\uE001']] else []).map
      (List.flatMap (spelling r.table))).filter isFactory = r.profileFactory := by
  unfold profileFactory table
  cases r.auth with
  | false => rfl
  | true =>
    cases r.profile with
    | none => rfl
    | some n =>
      have hn : isFactory n.actionsFactory.toList = true := Binding.isFactory_actionsFactory (b := ⟨n, false⟩)
      show [n.actionsFactory.toList ++ []].filter isFactory = [n.actionsFactory.toList]
      rw [List.append_nil, List.filter_cons, hn]
      rfl

/-- A store module on normal collections can be read. -/
theorem exists_reading (hr : r.IsNormal) {a : Artifact} (h : r.render = .ok a) :
    ∃ t : Reading r, Script.tokens a.content = t.tokens := by
  obtain ⟨-, roles, f, blocks, hroles, hf, hb, rfl⟩ := render_eq_ok_iff.1 h
  have hs := hr.standsFor_table
  have hk := r.holds_known hroles
  obtain ⟨os, hro, hco, hfo, hmo⟩ :=
    exists_reads_opening r.auth r.profile.isSome r.roles.truthy r.activityLogging
  obtain ⟨css, hcss, ds, hrd, hcd, hpd, hauth, hbind, hmd⟩ :=
    exists_reads_definitions r.auth r.profile.isSome r.roles.truthy r.activityLogging
  obtain ⟨ss, rs, as, hss, hrs, has, ws, hrw, hcw, hlevel, hno, how, hpw, hmw⟩ :=
    exists_reads_ownKeys r.auth r.profile.isSome r.roles.truthy r.activityLogging
  have hopening : Offers ((tokensOf os).map (Token.spell (spelling r.table))) [] := by
    have hoffers := hco.offers hs
    rwa [hfo] at hoffers
  have hopens : Opens ((tokensOf ws).map (Token.spell (spelling r.table))) r.ownEntries := by
    refine ⟨?_, fun more => ?_⟩
    · rw [storeOpened?_spell hs, how, Option.map_some, map_spell_entries hs hpw, ownEntries,
        hss.map_toList, hrs.map_toList, has.map_toList]
    · have hopen := scan_spell_tokensOf hs hlevel
      rw [hno, List.map_nil] at hopen
      exact functions_append hopen more
  have hown := hmw.uses hs
  rw [calledFactories_eq] at hown
  obtain ⟨block, hblock⟩ := Binding.exists_forall_isReadAs
  obtain ⟨none, hnone, hco', -⟩ := hco.encloses hs
  rw [hfo, List.map_nil, List.map_eq_nil_iff] at hnone
  obtain ⟨scopes, hscopes, hcd', -⟩ := hcd.encloses hs
  refine ⟨{
    opening := (tokensOf os).map (Token.spell (spelling r.table))
    definitions := (tokensOf ds).map (Token.spell (spelling r.table))
    block := block
    own := (tokensOf ws).map (Token.spell (spelling r.table))
    functions := functionsOf ds
    offers_opening := hopening
    encloses_opening := hnone ▸ hco'
    uses_opening := hmo.uses hs
    offers_definitions := map_spell_of_isPlain hs hpd ▸ hcd.offers hs
    lookup_authFunction := hcss.map_toList ▸ hauth
    eq_authFunction := hbind
    scopes := scopes
    encloses_definitions := hcd'
    map_fst_scopes := by
      rw [hscopes]
      exact List.map_congr_left fun g hg => (hpd g hg).1.flatMap_eq hs
    uses_definitions := hmd.uses hs
    offers_block := fun b hb => (hblock b (hr.bindings b hb)).offers
    encloses_block := fun b hb => (hblock b (hr.bindings b hb)).encloses
    uses_block := fun b hb => (hblock b (hr.bindings b hb)).uses
    opens_own := hopens
    uses_own := hown }, ?_⟩
  have himports : HasTokens (String.join (r.bindings.map Binding.importLine))
      (r.bindings.flatMap Binding.importTokens) :=
    hasTokens_join_map fun b hb => Binding.hasTokens_importLine (hr.bindings b hb)
  have hspreads : HasTokens (String.join (r.bindings.map Binding.spreadLine))
      (r.bindings.flatMap Binding.spreadTokens) :=
    hasTokens_join_map fun b hb => Binding.hasTokens_spreadLine (hr.bindings b hb)
  have hblocks : HasTokens (String.join blocks) (r.bindings.flatMap block) := by
    have hnormal := (List.forall₂_and_left _ _).2 ⟨hr.bindings, hb⟩
    exact hasTokens_join (hnormal.imp fun b s hs => (hblock b hs.1).hasTokens s hs.2)
  have hend : HasTokens StoreModule.ending storeEnd := by
    rw [HasTokens, StoreModule.ending, String.toList_ofList]
    rfl
  have hwhole := ((((((hro.hasTokens hs hk hco.run_eq hf.head).append himports).append
    (hrd.hasTokens hs hk hcd.run_eq hf.middle)).append hblocks).append
      (hrw.hasTokens hs hk (Lexing.stop_eq _ _ ▸ hcw) hf.tail)).append hspreads).append hend
  rw [Reading.tokens]
  simp only [List.append_assoc] at hwhole
  exact hwhole.tokens_eq

end Registry

end Scaffold
