import Scaffold.Proofs.Store.Factories
import Scaffold.Proofs.Store.Keys

/-!
# Scopes of the store module

What the function that binds a collection declares in its own scope, as the text of the store module has
it. Names that the collection gives stand next to names that all such functions have, so two of them are
one for a collection that is called `fetch`, and one of them hides a function of the module that the
scope itself calls for a collection that is called `empty`.
-/

namespace Scaffold

open Script

/-! ## Names in one scope -/

namespace Binding

/-- The names that the scope declares, from the name of the collection. -/
def declaredNames (n : List Char) : List (List Char) := [
  "actions".toList, n ++ "Page".toList, n ++ "Search".toList, n ++ "Loading".toList, n ++ "Error".toList,
  "track".toList, "fetchPage".toList]

/-- The names that the scope calls at the start, from the name of the factory. -/
def calledNames (factory : List Char) : List (List Char) := [
  factory, "ref".toList, "emptyPage".toList, "ref".toList, "emptySearch".toList, "ref".toList, "ref".toList,
  "tracker".toList]

/-- The endings of the names that the collection gives. -/
def endings : List (List Char) := ["Page".toList, "Search".toList, "Loading".toList, "Error".toList]

/-- The names that do not depend on the collection. -/
def fixedNames : List (List Char) := ["actions".toList, "track".toList, "fetchPage".toList]

/-- A name with an ending is no word without it. -/
theorem ne_append_of_not_isSuffix {n ending w : List Char} (h : ¬ ending <:+ w) : w ≠ n ++ ending :=
  fun e => h (e ▸ List.suffix_append n ending)

theorem not_mem_declaredNames {n w : List Char} (hf : w ∉ fixedNames)
    (h : ∀ ending ∈ endings, ending <:+ w → w ≠ n ++ ending) : w ∉ declaredNames n := by
  have hne : ∀ ending ∈ endings, w ≠ n ++ ending := fun ending hm e =>
    h ending hm (e ▸ List.suffix_append n ending) e
  simp only [fixedNames, List.mem_cons, List.not_mem_nil, or_false, not_or] at hf
  simp only [endings, List.forall_mem_cons] at hne
  simp only [declaredNames, List.mem_cons, List.not_mem_nil, or_false, not_or]
  exact ⟨hf.1, hne.1, hne.2.1, hne.2.2.1, hne.2.2.2.1, hf.2.1, hf.2.2⟩

/-- The names are apart from each other, but for the page and the function that fetches one. -/
theorem nodup_declaredNames_iff (n : List Char) :
    (declaredNames n).Nodup ↔ n ≠ "fetch".toList := by
  constructor
  · rintro h rfl
    exact absurd h (by decide)
  · intro hn
    -- all names before the last one have last letters of their own
    have hfront : (declaredNames n).dropLast.Nodup := by
      apply List.Nodup.of_map List.getLast?
      simp only [declaredNames, List.dropLast_cons_cons, List.dropLast_singleton, List.map_cons,
        List.map_nil, List.getLast?_append]
      show [some 's', some 'e', some 'h', some 'g', some 'r', some 'k'].Nodup
      decide
    have hpage : "fetch".toList ++ "Page".toList ≠ n ++ "Page".toList :=
      fun e => hn (List.append_cancel_right e).symm
    have hlast : "fetchPage".toList ∉ (declaredNames n).dropLast := by
      simp only [declaredNames, List.dropLast_cons_cons, List.dropLast_singleton, List.mem_cons,
        List.not_mem_nil, or_false, not_or]
      exact ⟨by decide, hpage, ne_append_of_not_isSuffix (by decide), ne_append_of_not_isSuffix (by decide),
        ne_append_of_not_isSuffix (by decide), by decide⟩
    refine List.nodup_append.2 ⟨hfront, List.nodup_singleton _, fun a ha b hb e => ?_⟩
    rw [e, List.mem_singleton.1 hb] at ha
    exact hlast ha

/-- The names are apart from those that are called at the start, but for the empty page and search. -/
theorem disjoint_calledNames_iff {n factory : List Char} (hl : factory.getLast? = some 's')
    (hh : factory.head? = some 'c') :
    (declaredNames n).Disjoint (calledNames factory) ↔ n ≠ "empty".toList := by
  constructor
  · rintro h rfl
    exact h (.tail _ (.head _)) (.tail _ (.tail _ (.head _)))
  · intro hn
    have hfactory : factory ∉ declaredNames n := by
      refine not_mem_declaredNames (fun hm => ?_) fun ending hm hs => ?_
      · have hfixed : ∀ w ∈ fixedNames, w.head? ≠ some 'c' := by decide
        exact hfixed factory hm hh
      · have hending : ∀ w ∈ endings, w ≠ [] ∧ w.getLast? ≠ some 's' := by decide
        obtain ⟨hne, hlast⟩ := hending ending hm
        obtain ⟨front, rfl⟩ := hs
        rw [List.getLast?_append_of_ne_nil front hne] at hl
        exact absurd hl hlast
    have hother {w : List Char} (hf : w ∉ fixedNames) (h : ∀ ending ∈ endings, ¬ ending <:+ w) :
        w ∉ declaredNames n :=
      not_mem_declaredNames hf fun ending hm hs => absurd hs (h ending hm)
    have hempty {w ending : List Char} (hf : w ∉ fixedNames) (h : ∀ e ∈ endings, e <:+ w → e = ending)
        (hw : w = "empty".toList ++ ending) : w ∉ declaredNames n := by
      refine not_mem_declaredNames hf fun e hm hs he => hn ?_
      rw [h e hm hs] at he
      exact List.append_cancel_right (he.symm.trans hw)
    -- of the called names only the empty page and the empty search end as declared names do
    have hcalled : ∀ w ∈ calledNames factory, w ∉ declaredNames n := by
      simp only [calledNames, List.forall_mem_cons]
      exact ⟨hfactory, hother (by decide) (by decide), hempty (by decide) (by decide) rfl,
        hother (by decide) (by decide), hempty (by decide) (by decide) rfl, hother (by decide) (by decide),
        hother (by decide) (by decide), hother (by decide) (by decide),
        fun w hw => absurd hw List.not_mem_nil⟩
    exact fun w hd hc => hcalled w hc hd

theorem functionScope_eq (b : Binding) :
    b.functionScope
      = ⟨declaredNames b.names.camel.toList, calledNames b.names.actionsFactory.toList⟩ := by
  unfold functionScope CollectionNames.pageState CollectionNames.searchState CollectionNames.loadingState
    CollectionNames.errorState
  simp only [List.map_cons, List.map_nil, String.toList_append]
  rfl

theorem nodup_functionScope_iff (b : Binding) :
    b.functionScope.declared.Nodup ↔ b.names.camel ≠ "fetch" := by
  rw [functionScope_eq, nodup_declaredNames_iff, ne_eq, ne_eq, ← String.toList_inj]

theorem disjoint_functionScope_iff (b : Binding) :
    b.functionScope.declared.Disjoint b.functionScope.called ↔ b.names.camel ≠ "empty" := by
  have hlast : b.names.actionsFactory.toList.getLast? = some 's' := by
    rw [CollectionNames.actionsFactory, String.toList_append, String.toList_ofList, List.getLast?_append]
    rfl
  have hhead : b.names.actionsFactory.toList.head? = some 'c' := by
    rw [CollectionNames.actionsFactory, String.append_assoc, String.toList_append, String.toList_ofList]
    rfl
  rw [functionScope_eq, disjoint_calledNames_iff hlast hhead, ne_eq, ne_eq, ← String.toList_inj]

end Binding

/-! ## Scopes in the text of the module -/

namespace Registry

variable {r : Registry}

theorem encloses_imports (r : Registry) : Encloses (r.bindings.flatMap Binding.importTokens) [] := by
  have himport (b : Binding) : scan 0 b.importTokens = some ([], 0) := rfl
  have himports : Encloses (r.bindings.flatMap Binding.importTokens) (r.bindings.flatMap fun _ => []) :=
    encloses_flatMap fun b _ => encloses_of_scan (himport b)
  have hempty : (r.bindings.flatMap fun _ => ([] : List (List Char × FunctionScope))) = [] :=
    List.flatMap_eq_nil_iff.2 fun _ _ => rfl
  rwa [hempty] at himports

/-- The functions of a store module with their scopes: those for all collections together, and one for each
collection. -/
def allScopes {r : Registry} (t : Reading r) : List (List Char × FunctionScope) :=
  t.scopes ++ r.bindings.flatMap fun b => [(b.names.bindingFunction.toList, b.functionScope)]

theorem lookup_allScopes (hr : r.IsNormal) (hn : r.exportedNames.Nodup) (t : Reading r) {b : Binding}
    (hb : b ∈ r.bindings) :
    (allScopes t).lookup b.names.bindingFunction.toList = some b.functionScope := by
  apply lookup_eq_some_of_forall
  · exact List.mem_append_right _ (List.mem_flatMap_of_mem hb (List.mem_singleton.2 rfl))
  intro s hs he
  rcases List.mem_append.1 hs with hs | hs
  · have hname : s.1 ∈ t.functions.map Prod.fst := t.map_fst_scopes ▸ List.mem_map_of_mem hs
    obtain ⟨g, hg, hgs⟩ := List.mem_map.1 hname
    exact absurd (hgs.trans he) (ne_bindingFunction hr hn t hb hg)
  · obtain ⟨b', hb', hs⟩ := List.mem_flatMap.1 hs
    rw [List.mem_singleton.1 hs] at he ⊢
    rw [eq_of_bindingFunction_eq hn hb hb' he]

/-- The scope of the function for a collection is found by its name. -/
theorem scope?_bindingFunction (hr : r.IsNormal) {a : Artifact} (h : r.render = .ok a) {b : Binding}
    (hm : b ∈ r.bindings) : scope? a.content b.names.bindingFunction = some b.functionScope := by
  obtain ⟨hn, -⟩ := render_eq_ok_iff.1 h
  obtain ⟨t, ht⟩ := exists_reading hr h
  have hscopes := t.encloses_opening.append ((encloses_imports r).append
    (t.encloses_definitions.append (encloses_flatMap t.encloses_block)))
  have htokens : tokens a.content = (t.opening ++ (r.bindings.flatMap Binding.importTokens
      ++ (t.definitions ++ r.bindings.flatMap t.block)))
        ++ (t.own ++ (r.bindings.flatMap Binding.spreadTokens ++ storeEnd)) := by
    rw [ht, Reading.tokens]
    simp only [List.append_assoc]
  rw [scope?, htokens, hscopes, List.lookup_append, List.nil_append, List.nil_append, ← allScopes,
    lookup_allScopes hr hn t hm]
  rfl

/-- The scope of each function that binds a collection stands in the text of the module. It declares each
of its names once exactly if the collection is not called `fetch`, and hides none of the functions that it
calls at the start exactly if the collection is not called `empty`. -/
theorem scopes_are_apart_iff (hr : Reachable r) {a : Artifact} (h : r.render = .ok a) :
    ∀ b ∈ r.bindings, ∃ s, scope? a.content b.names.bindingFunction = some s
      ∧ s.declared.map String.ofList = ["actions", b.names.pageState, b.names.searchState,
        b.names.loadingState, b.names.errorState, "track", "fetchPage"]
      ∧ s.called.map String.ofList = [b.names.actionsFactory, "ref", "emptyPage", "ref", "emptySearch",
        "ref", "ref", "tracker"]
      ∧ (s.declared.Nodup ↔ b.names.camel ≠ "fetch")
      ∧ (s.declared.Disjoint s.called ↔ b.names.camel ≠ "empty") :=
  fun b hm => ⟨b.functionScope, scope?_bindingFunction hr.isNormal h hm, Text.map_ofList_toList _,
    Text.map_ofList_toList _, b.nodup_functionScope_iff, b.disjoint_functionScope_iff⟩

/-- For users and books nothing is declared twice and nothing is hidden. -/
theorem scopes_of_users_and_books :
    let users : Collection := { name := "user", camelName := "user", pascalName := "User" }
    let books : Collection := {
      name := "book", camelName := "book", pascalName := "Book",
      fields := [⟨"title", .text, "string"⟩] }
    let r := build [users, books] { auth := true, roles := ["editor"] }
    Reachable r ∧ ∃ a, r.render = .ok a
      ∧ ∀ b ∈ r.bindings, ∃ s, scope? a.content b.names.bindingFunction = some s ∧ s.declared.Nodup
        ∧ s.declared.Disjoint s.called := by
  intro users books r
  have hread : Intake.read [] (.list [Intake.declaration "user" [],
      Intake.declaration "book" [("title", "string")]]) = (_, .ok [users, books]) :=
    Intake.read_eq_of_toOption (by with_unfolding_all decide)
  have hr : Reachable r := .build _ hread
  obtain ⟨a, ha⟩ := exists_render_build (o := { auth := true, roles := ["editor"] })
    (Intake.areNormal_of_read hread).each (by decide)
  have hnames : ∀ b ∈ r.bindings, b.names.camel ≠ "fetch" ∧ b.names.camel ≠ "empty" := by decide
  refine ⟨hr, a, ha, fun b hb => ?_⟩
  obtain ⟨s, hs, -, -, hn, hd⟩ := scopes_are_apart_iff hr ha b hb
  exact ⟨s, hs, hn.2 (hnames b hb).1, hd.2 (hnames b hb).2⟩

/-- The page of `fetch` has the name of the function that fetches a page, and the page of `empty` that of
the function which makes it. -/
theorem scopes_of_fetch_and_empty :
    let fetch : Collection := { name := "fetch", camelName := "fetch", pascalName := "Fetch" }
    let empty : Collection := { name := "empty", camelName := "empty", pascalName := "Empty" }
    let r := build [fetch, empty] {}
    Reachable r ∧ ∃ a, r.render = .ok a
      ∧ (∃ s, scope? a.content "bindFetch" = some s ∧ ¬ s.declared.Nodup)
      ∧ ∃ s, scope? a.content "bindEmpty" = some s ∧ ¬ s.declared.Disjoint s.called := by
  intro fetch empty r
  have hread : Intake.read [] (.list [Intake.declaration "fetch" [], Intake.declaration "empty" []])
      = (_, .ok [fetch, empty]) :=
    Intake.read_eq_of_toOption (by with_unfolding_all decide)
  have hr : Reachable r := .build _ hread
  obtain ⟨a, ha⟩ := exists_render_build (o := {}) (Intake.areNormal_of_read hread).each (by decide)
  refine ⟨hr, a, ha, ⟨_, scope?_bindingFunction hr.isNormal ha (.head _), ?_⟩,
    ⟨_, scope?_bindingFunction hr.isNormal ha (.tail _ (.head _)), ?_⟩⟩
  · rw [Binding.nodup_functionScope_iff]
    exact fun h => h rfl
  · rw [Binding.disjoint_functionScope_iff]
    exact fun h => h rfl

end Registry

end Scaffold
