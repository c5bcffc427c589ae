import Mathlib.Data.List.Pairwise
import Scaffold.Proofs.Store.Tokens

/-!
# Keys of the store

The keys of the object that the store is made of, as the text of the store module has them: with the keys
of what is bound for authentication and for collections in the places where they are taken over. They are
the keys that are checked for repetitions before the module is written.
-/

namespace Scaffold

open Script

/-! ## Functions by their names -/

/-- A collection whose function has the name of the one for authentication has a key of authentication. -/
theorem CollectionNames.IsNormal.loadingState_eq {n : CollectionNames} (h : n.IsNormal)
    (he : n.bindingFunction.toList = Registry.authFunction) : n.loadingState = "authLoading" := by
  obtain ⟨c, o, hc, rfl⟩ := h
  have hpascal : c.pascalName.toList = 'A' :: "uth".toList := by
    have hauth : Registry.authFunction = "bind".toList ++ 'A' :: "uth".toList := by decide
    have hb : ("bind" ++ c.pascalName).toList = "bind".toList ++ 'A' :: "uth".toList := he.trans hauth
    rw [String.toList_append] at hb
    exact List.append_cancel_left hb
  obtain ⟨first, rest, hcamel, hlower⟩ := hc.exists_head
  rw [hc.pascalName_eq_capitalize, hcamel, Name.capitalize, List.cons.injEq] at hpascal
  have hfirst : first = 'a' := by
    have hl : Text.lowerAscii first = first := by
      apply Text.lowerAscii_of_not_isUpper
      rw [Text.isLowerAscii_iff] at hlower
      rw [← Bool.not_eq_true, Text.isUpperAscii_iff]
      omega
    rw [← hl, ← Text.lowerAscii_upperAscii, hpascal.1]
    decide
  have hname : c.camelName = "auth" := by
    apply String.toList_inj.1
    rw [hcamel, hfirst, hpascal.2]
    decide
  show c.camelName ++ "Loading" = "authLoading"
  rw [hname]
  decide

namespace Registry

/-- What is found under a key is what all entries with the key have. -/
theorem lookup_eq_some_of_forall {α β : Type} [BEq α] [LawfulBEq α] {table : List (α × β)} {key : α}
    {found : β} (hm : (key, found) ∈ table) (h : ∀ e ∈ table, e.1 = key → e.2 = found) :
    table.lookup key = some found := by
  cases hl : table.lookup key with
  | none =>
    rw [List.lookup_eq_none_iff] at hl
    exact absurd (hl _ hm) (by rw [bne_self_eq_false]; exact Bool.false_ne_true)
  | some other => exact congrArg some (h _ (mem_of_lookup hl) rfl)

variable {r : Registry}

/-- Collections with one key in common are one and the same. -/
theorem eq_of_mem_exported (hn : r.exportedNames.Nodup) {b b' : Binding} (hb : b ∈ r.bindings)
    (hb' : b' ∈ r.bindings) {key : String} (hk : key ∈ b.exported) (hk' : key ∈ b'.exported) : b = b' := by
  by_contra hne
  have hdisjoint := (List.nodup_flatMap.1 hn.of_append_right).2
  have : Std.Symm (Function.onFun List.Disjoint Binding.exported) := ⟨fun _ _ h _ hk hk' => h hk' hk⟩
  have hpair : List.Disjoint b.exported b'.exported := hdisjoint.forall hb hb' hne
  exact hpair hk hk'

/-- No key of authentication is one of a collection. -/
theorem not_mem_exported_of_mem_authKeys (hn : r.exportedNames.Nodup) (ha : r.auth = true) {b : Binding}
    (hb : b ∈ r.bindings) {key : String} (hk : key ∈ authKeys) : key ∉ b.exported := by
  intro hm
  have hfront : key ∈ sessionKeys ++ (if r.auth then authKeys else [])
      ++ (if r.roles.truthy then roleKeys else []) ++ (if r.activityLogging then activityKeys else []) := by
    rw [ha, if_pos rfl]
    exact List.mem_append_left _ (List.mem_append_left _ (List.mem_append_right _ hk))
  exact List.disjoint_of_nodup_append hn hfront (List.mem_flatMap_of_mem hb hm)

/-! ## What functions return -/

/-- The functions of a store module: those for all collections together, and one for each collection. -/
def allFunctions {r : Registry} (t : Reading r) : List Returning :=
  t.functions
    ++ r.bindings.flatMap fun b => [(b.names.bindingFunction.toList, some (b.exported.map String.toList))]

/-- No function for all collections together has the name of the one for a collection. -/
theorem ne_bindingFunction (hr : r.IsNormal) (hn : r.exportedNames.Nodup) (t : Reading r) {b : Binding}
    (hb : b ∈ r.bindings) {g : Returning} (hg : g ∈ t.functions) :
    g.1 ≠ b.names.bindingFunction.toList := by
  intro he
  -- It would be the one for authentication, whose keys the store has already.
  have hprefix : "bind".toList.isPrefixOf g.1 = true := by
    rw [he, CollectionNames.bindingFunction, String.toList_append, List.isPrefixOf_iff_prefix]
    exact List.prefix_append _ _
  obtain ⟨ha, hname⟩ := t.eq_authFunction g hg hprefix
  have hkey := (hr.bindings b hb).loadingState_eq (he ▸ hname)
  have hm : "authLoading" ∈ b.exported := by
    rw [← hkey]
    exact List.mem_append_left _ (.tail _ (.tail _ (.head _)))
  exact absurd hm (not_mem_exported_of_mem_authKeys hn ha hb (.head _))

/-- Collections whose functions have one name are one and the same. -/
theorem eq_of_bindingFunction_eq (hn : r.exportedNames.Nodup) {b b' : Binding} (hb : b ∈ r.bindings)
    (hb' : b' ∈ r.bindings) (he : b'.names.bindingFunction.toList = b.names.bindingFunction.toList) :
    b' = b := by
  have hpascal : b'.names.pascal = b.names.pascal := by
    have hj : "bind" ++ b'.names.pascal = "bind" ++ b.names.pascal := String.toList_inj.1 he
    exact (String.append_right_inj _).1 hj
  have hfetch (x : Binding) : "fetch" ++ x.names.pascal ∈ x.exported :=
    List.mem_append_left _ (.tail _ (.tail _ (.tail _ (.tail _ (.head _)))))
  exact eq_of_mem_exported hn hb' hb (hfetch b') (hpascal ▸ hfetch b)

/-- The function for a collection is the only one with its name. -/
theorem lookup_bindingFunction (hr : r.IsNormal) (hn : r.exportedNames.Nodup) (t : Reading r)
    {b : Binding} (hb : b ∈ r.bindings) :
    (allFunctions t).lookup b.names.bindingFunction.toList = some (some (b.exported.map String.toList)) := by
  apply lookup_eq_some_of_forall
  · exact List.mem_append_right _ (List.mem_flatMap_of_mem hb (List.mem_singleton.2 rfl))
  intro g hg he
  rcases List.mem_append.1 hg with hg | hg
  · exact absurd he (ne_bindingFunction hr hn t hb hg)
  · obtain ⟨b', hb', hg⟩ := List.mem_flatMap.1 hg
    rw [List.mem_singleton.1 hg] at he ⊢
    rw [eq_of_bindingFunction_eq hn hb hb' he]

/-- The function for authentication is found before all others. -/
theorem lookup_authFunction (t : Reading r) (ha : r.auth = true) :
    (allFunctions t).lookup authFunction = some (some (authKeys.map String.toList)) := by
  rw [allFunctions, List.lookup_append, t.lookup_authFunction ha]
  rfl

/-! ## Entries of the store -/

/-- The keys that no collection brings, with those of authentication put in. -/
theorem expand?_ownEntries (t : Reading r) :
    expand? (allFunctions t) r.ownEntries = some ((sessionKeys ++ (if r.auth then authKeys else [])
      ++ (if r.roles.truthy then roleKeys else [])
      ++ if r.activityLogging then activityKeys else []).map String.toList) := by
  have hwhen (c : Bool) (keys : List String) :
      expand? (allFunctions t) (if c then (keys.map String.toList).map Entry.key else [])
        = some ((if c then keys else []).map String.toList) := by
    cases c with
    | true => exact expand?_keys _
    | false => rfl
  have hauth : expand? (allFunctions t) (if r.auth then [.spread authFunction] else [])
      = some ((if r.auth then authKeys else []).map String.toList) := by
    cases ha : r.auth with
    | true => exact expand?_spread (lookup_authFunction t ha)
    | false => rfl
  rw [List.map_append, List.map_append, List.map_append]
  exact expand?_append (expand?_append (expand?_append (expand?_keys _) hauth)
    (hwhen r.roles.truthy roleKeys)) (hwhen r.activityLogging activityKeys)

/-- The keys of the store in the text of its module are those that are checked for repetitions: every key
that the store defines, and no other. -/
theorem storeKeys?_eq_exportedNames (hb : ∀ b ∈ r.bindings, b.names.IsRead)
    (hp : ∀ n, r.profile = some n → n.IsRead) {a : Artifact} (h : r.render = .ok a) :
    storeKeys? a.content = some r.exportedNames := by
  have hr : r.IsNormal := ⟨fun b hm => (hb b hm).isNormal, fun n hn => (hp n hn).isNormal⟩
  obtain ⟨hn, -⟩ := render_eq_ok_iff.1 h
  obtain ⟨t, ht⟩ := exists_reading hr h
  have hbefore : Offers (t.opening ++ (r.bindings.flatMap Binding.importTokens ++ (t.definitions
      ++ r.bindings.flatMap t.block))) (allFunctions t) := by
    have himports : Offers (r.bindings.flatMap Binding.importTokens) (r.bindings.flatMap fun _ => []) :=
      offers_flatMap fun b _ => Binding.offers_importTokens
    have hempty : (r.bindings.flatMap fun _ => ([] : List Returning)) = [] :=
      List.flatMap_eq_nil_iff.2 fun _ _ => rfl
    rw [hempty] at himports
    exact t.offers_opening.append (himports.append (t.offers_definitions.append
      (offers_flatMap t.offers_block)))
  have hrest : Lists (r.bindings.flatMap Binding.spreadTokens)
      (r.bindings.flatMap fun b => [.spread b.names.bindingFunction.toList]) :=
    lists_flatMap fun b _ => Binding.lists_spreadTokens
  -- the tokens are cut at the session: functions before it, entries of the store after it
  have htokens : tokens a.content = (t.opening ++ (r.bindings.flatMap Binding.importTokens
      ++ (t.definitions ++ r.bindings.flatMap t.block)))
        ++ (t.own ++ (r.bindings.flatMap Binding.spreadTokens ++ storeEnd)) := by
    rw [ht, Reading.tokens]
    simp only [List.append_assoc]
  have hspreads : expand? (allFunctions t)
      (r.bindings.flatMap fun b => [.spread b.names.bindingFunction.toList])
        = some (r.bindings.flatMap fun b => b.exported.map String.toList) :=
    expand?_flatMap fun b hm => expand?_spread (lookup_bindingFunction hr hn t hm)
  have hkeys := expand?_append (expand?_ownEntries t) hspreads
  rw [storeKeys?, htokens, storeEntries?_eq hbefore t.opens_own hrest, functions_eq hbefore t.opens_own hrest,
    Option.bind_some, hkeys, Option.map_some, ← List.map_flatMap, ← List.map_append, Text.map_ofList_toList]
  rfl

/-- A store with authentication, roles and recorded activity, for users and books. -/
theorem storeKeys?_of_users_and_books :
    let users : Collection := { name := "user", camelName := "user", pascalName := "User" }
    let books : Collection := {
      name := "book", camelName := "book", pascalName := "Book",
      fields := [⟨"title", .text, "string"⟩] }
    let r := build [users, books] { auth := true, roles := ["editor"], activityLogging := true }
    (∀ b ∈ r.bindings, b.names.IsRead) ∧ (∀ n, r.profile = some n → n.IsRead)
      ∧ ∃ a, r.render = .ok a ∧ storeKeys? a.content = some r.exportedNames
        ∧ r.exportedNames.length = 51 := by
  intro users books r
  have hread : Intake.read [] (.list [Intake.declaration "user" [],
      Intake.declaration "book" [("title", "string")]]) = (_, .ok [users, books]) :=
    Intake.read_eq_of_toOption (by with_unfolding_all decide)
  have hb : ∀ b ∈ r.bindings, b.names.IsRead := by
    intro b hb
    obtain ⟨c, hc, rfl⟩ := List.mem_map.1 hb
    exact ⟨_, _, _, _, c, _, hread, hc, rfl⟩
  have hp : ∀ n, r.profile = some n → n.IsRead := by
    intro n hn
    have hprofile : r.profile = some (CollectionNames.ofCollection users
        { auth := true, roles := ["editor"], activityLogging := true }) := by decide
    cases hprofile.symm.trans hn
    exact ⟨_, _, _, _, users, _, hread, .head _, rfl⟩
  obtain ⟨a, ha⟩ := exists_render_build
    (o := { auth := true, roles := ["editor"], activityLogging := true })
    (Intake.areNormal_of_read hread).each (by decide)
  exact ⟨hb, hp, a, ha, storeKeys?_eq_exportedNames hb hp ha, by decide⟩

end Registry

end Scaffold
