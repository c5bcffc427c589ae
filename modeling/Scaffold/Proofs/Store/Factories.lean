import Scaffold.Proofs.Store.Tokens

/-!
# Factories in the store module

Which factories of actions a store module calls, and which of them it imports. The function for each
collection calls the factory that the import for the collection brings; authentication is given a factory
that no import of its own brings.
-/

namespace Scaffold.Registry

open Script

/-! ## Registries that are reached -/

/-- A registry that is built from collections of an input, and that collections are added to and bindings
are taken from afterwards. -/
inductive Reachable : Registry → Prop where
  | build {identity : List String} {raw : Value} {notes : List Note} {all : List Collection} (o : Options)
    (h : Intake.read identity raw = (notes, .ok all)) : Reachable (build all o)
  | register {r : Registry} {identity : List String} {raw : Value} {notes : List Note}
    {all : List Collection} {c : Collection} (o : Options) (hr : Reachable r)
    (h : Intake.read identity raw = (notes, .ok all)) (hc : c ∈ all) : Reachable (r.register c o)
  | drop {r : Registry} (i : Nat) (hr : Reachable r) : Reachable (r.drop i)

variable {r : Registry}

/-- All names in a registry that is reached are those of normal collections. -/
theorem Reachable.isNormal (h : Reachable r) : r.IsNormal := by
  induction h with
  | @build identity raw notes all o h =>
    refine ⟨fun b hb => ?_, fun n hn => ?_⟩
    · obtain ⟨c, hc, rfl⟩ := List.mem_map.1 hb
      exact CollectionNames.IsRead.isNormal ⟨identity, raw, notes, all, c, o, h, hc, rfl⟩
    · unfold Registry.build profileOf at hn
      dsimp only at hn
      split at hn
      · obtain ⟨c, hc, rfl⟩ := Option.map_eq_some_iff.1 hn
        exact CollectionNames.IsRead.isNormal
          ⟨identity, raw, notes, all, c, o, h, List.mem_of_find?_eq_some hc, rfl⟩
      · cases hn
  | @register r identity raw notes all c o hr h hc ih =>
    refine ⟨fun b hb => ?_, ih.profile⟩
    rcases List.mem_append.1 hb with hb | hb
    · exact ih.bindings b hb
    · rw [List.mem_singleton.1 hb]
      exact CollectionNames.IsRead.isNormal ⟨identity, raw, notes, all, c, o, h, hc, rfl⟩
  | drop i hr ih => exact ⟨fun b hb => ih.bindings b (List.mem_of_mem_eraseIdx hb), ih.profile⟩

/-! ## Calls and imports -/

/-- The tokens of a store module with the factories in them. -/
theorem Reading.uses (t : Reading r) :
    Uses t.tokens (r.bindings.map (fun b => b.names.actionsFactory.toList) ++ r.profileFactory)
      (r.bindings.map fun b => b.names.actionsFactory.toList) := by
  have hnone : (r.bindings.flatMap fun _ => ([] : List (List Char))) = [] :=
    List.flatMap_eq_nil_iff.2 fun _ _ => rfl
  have himports := uses_flatMap fun b (_ : b ∈ r.bindings) => Binding.uses_importTokens (b := b)
  have hblocks := uses_flatMap t.uses_block
  have hspreads := uses_flatMap fun b (_ : b ∈ r.bindings) => Binding.uses_spreadTokens (b := b)
  have hend : Uses storeEnd [] [] := ⟨rfl, rfl, rfl, rfl⟩
  have hwhole := t.uses_opening.append (himports.append (t.uses_definitions.append
    (hblocks.append (t.uses_own.append (hspreads.append hend)))))
  rw [hnone, ← List.map_eq_flatMap] at hwhole
  simp only [List.nil_append, List.append_nil] at hwhole
  exact hwhole

/-- A store module calls the factory of each collection, and the one that authentication is given. It
imports the former. -/
theorem factories_of_render (hr : r.IsNormal) {a : Artifact} (h : r.render = .ok a) :
    calledFactories a.content = r.bindings.map (fun b => b.names.actionsFactory)
        ++ (if r.auth then (r.profile.map CollectionNames.actionsFactory).toList else [])
      ∧ importedFactories a.content = r.bindings.map fun b => b.names.actionsFactory := by
  obtain ⟨t, ht⟩ := exists_reading hr h
  have hofList : (r.bindings.map fun b => b.names.actionsFactory.toList).map String.ofList
      = r.bindings.map fun b => b.names.actionsFactory := by
    rw [List.map_map]
    exact List.map_congr_left fun b _ => String.ofList_toList
  have hprofile : r.profileFactory.map String.ofList
      = if r.auth then (r.profile.map CollectionNames.actionsFactory).toList else [] := by
    unfold profileFactory
    cases r.auth with
    | false => rfl
    | true =>
      cases r.profile with
      | none => rfl
      | some n =>
        show [String.ofList n.actionsFactory.toList] = [n.actionsFactory]
        rw [String.ofList_toList]
  unfold calledFactories importedFactories
  rw [ht, t.uses.called_eq, t.uses.imported_eq, List.map_append, hofList, hprofile]
  exact ⟨rfl, rfl⟩

/-- All factories that the store module calls are imported exactly if the collection that holds the user
who is signed in is still among the collections. -/
theorem factories_are_imported_iff (hr : Reachable r) {a : Artifact} (h : r.render = .ok a) :
    (∀ f ∈ calledFactories a.content, f ∈ importedFactories a.content) ↔
      (r.auth = true → ∀ n, r.profile = some n →
        ∃ b ∈ r.bindings, b.names.actionsFactory = n.actionsFactory) := by
  obtain ⟨hcalled, himported⟩ := factories_of_render hr.isNormal h
  rw [hcalled, himported]
  simp only [List.mem_append, List.mem_map]
  constructor
  · intro hall ha n hn
    refine hall n.actionsFactory (.inr ?_)
    rw [ha, hn]
    exact List.mem_singleton.2 rfl
  · rintro hprofile f (⟨b, hb, rfl⟩ | hf)
    · exact ⟨b, hb, rfl⟩
    · cases ha : r.auth with
      | false =>
        rw [ha] at hf
        exact absurd hf List.not_mem_nil
      | true =>
        rw [ha, if_pos rfl, Option.mem_toList, Option.map_eq_some_iff] at hf
        obtain ⟨n, hn, rfl⟩ := hf
        exact hprofile ha n hn

/-- Users and books, with authentication. -/
theorem factories_of_users_and_books :
    let users : Collection := { name := "user", camelName := "user", pascalName := "User" }
    let books : Collection := {
      name := "book", camelName := "book", pascalName := "Book",
      fields := [⟨"title", .text, "string"⟩] }
    let r := build [users, books] { auth := true }
    Reachable r ∧ ∃ a, r.render = .ok a
      ∧ ∀ f ∈ calledFactories a.content, f ∈ importedFactories a.content := by
  intro users books r
  have hread : Intake.read [] (.list [Intake.declaration "user" [],
      Intake.declaration "book" [("title", "string")]]) = (_, .ok [users, books]) :=
    Intake.read_eq_of_toOption (by with_unfolding_all decide)
  have hr : Reachable r := .build _ hread
  obtain ⟨a, ha⟩ := exists_render_build (o := { auth := true })
    (Intake.areNormal_of_read hread).each (by decide)
  exact ⟨hr, a, ha, (factories_are_imported_iff hr ha).2 (by decide)⟩

/-- Without the users the factory of their actions is still called, and no longer imported. -/
theorem factory_of_dropped_users :
    let users : Collection := { name := "user", camelName := "user", pascalName := "User" }
    let books : Collection := {
      name := "book", camelName := "book", pascalName := "Book",
      fields := [⟨"title", .text, "string"⟩] }
    let r := (build [users, books] { auth := true }).drop 0
    Reachable r ∧ ∃ a, r.render = .ok a ∧ "createUserActions" ∈ calledFactories a.content
      ∧ "createUserActions" ∉ importedFactories a.content := by
  intro users books r
  have hread : Intake.read [] (.list [Intake.declaration "user" [],
      Intake.declaration "book" [("title", "string")]]) = (_, .ok [users, books]) :=
    Intake.read_eq_of_toOption (by with_unfolding_all decide)
  have hr : Reachable r := .drop 0 (.build _ hread)
  obtain ⟨a, ha⟩ := exists_render_build (o := { auth := true })
    (Intake.areNormal_of_read hread).each (by decide)
  obtain ⟨hn, roles, f, blocks, hroles, hf, hb, -⟩ := render_eq_ok_iff.1 ha
  obtain ⟨hcalled, himported⟩ := factories_of_render hr.isNormal (render_drop hn hroles hf hb 0)
  exact ⟨hr, _, render_drop hn hroles hf hb 0, by rw [hcalled]; decide,
    by rw [himported]; decide⟩

end Scaffold.Registry
