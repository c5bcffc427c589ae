import Scaffold.Proofs.Assembly.Interface
import Scaffold.Proofs.Assembly.Places
import Scaffold.Proofs.Routing.Distinct
import Scaffold.Proofs.Store.Repetitions

/-!
# When a run fails

A run on normal collections fails only over the keys of its store: every template has a text for them,
their routes differ and so do the paths of their files. If a key of the store repeats, the stage of the
store refuses it, and that is the failure of the run.

The files of a run that does not fail can be written next to each other, also where capitals make no
difference: no path is the same as another one or leads through it, and none leads out of the project.
-/

namespace Scaffold

/-! ## Repeated keys -/

namespace Registry

/-- A registry with a key that repeats has no module. -/
theorem render_of_not_nodup {r : Registry} (h : ¬ r.exportedNames.Nodup) :
    r.render = .error (.repeatedKeys (duplicates r.exportedNames)) := by
  rw [render]
  cases hd : duplicates r.exportedNames with
  | nil => exact absurd (duplicates_eq_nil_iff.1 hd) h
  | cons k ks => rfl

end Registry

namespace Assembly

variable {all : List Collection} {o : Options}

/-! ## Stages one by one -/

/-- What a run says when keys of its store repeat. -/
def keyFault (all : List Collection) (o : Options) : GenerationFault :=
  ⟨"store", none,
    (StageFault.repeatedKeys (Registry.duplicates (Registry.build all o).exportedNames)).message⟩

/-- The stages besides that of the store go well for normal collections. -/
theorem runStage_eq_ok (h : Collection.AreNormal all) {s : Stage} (hs : s ∈ stages)
    (hn : s.name ≠ Store.stage.name) : ∃ files, concatenate (runStage all o s) = .ok files := by
  obtain ⟨files, hc⟩ := exists_catalogue_eq h.each o
  rw [catalogue] at hc
  obtain ⟨rest, r, -, h4, hr⟩ := List.map_eq_append_iff.1 hc.symm
  obtain ⟨rest, f, -, h3, hf⟩ := List.map_eq_append_iff.1 h4
  obtain ⟨rest, v, -, h2, hv⟩ := List.map_eq_append_iff.1 h3
  obtain ⟨a, _, -, ha, -⟩ := List.map_eq_append_iff.1 h2
  have nothing : all.flatMap (fun _ => ([] : List (Except RenderFault Artifact))) = [] :=
    List.flatMap_eq_nil_iff.2 fun _ _ => rfl
  simp only [stages, List.mem_cons, List.not_mem_nil, or_false] at hs
  rcases hs with rfl | rfl | rfl | rfl | rfl
  · exact ⟨a, (Access.makes all o).runStage_eq_ok_iff.2 ha.symm⟩
  · exact absurd rfl hn
  · exact ⟨v, (Validation.makes all o).runStage_eq_ok_iff.2 hv.symm⟩
  · exact ⟨f, (Form.makes all o).runStage_eq_ok_iff.2 hf.symm⟩
  · refine ⟨r, (Routing.makes (RouteTable.ofCollections_eq_ok h o)).runStage_eq_ok_iff.2 ?_⟩
    rw [nothing, List.append_nil, hr]

/-- The stage of the store refuses keys that repeat before it makes anything. -/
theorem shared_store_of_not_nodup (h : ¬ (Registry.build all o).exportedNames.Nodup) :
    shared Store.stage all o = .error (keyFault all o) := by
  have hs : Store.stage.shared all o = (Registry.build all o).render.map fun file => [file] := rfl
  rw [shared, hs, Registry.render_of_not_nodup h]
  rfl

/-! ## The run -/

/-- Paths of the files that stages make for normal collections never come up again. -/
theorem distinctPaths_eq_ok (h : Collection.AreNormal all) {files : List Artifact}
    (hf : catalogue all o = files.map Except.ok) : distinctPaths files = .ok files := by
  refine distinctPaths_eq_ok_iff.2 ⟨rfl, ?_⟩
  have hn := nodup_foldedParts h hf
  unfold List.Nodup at hn ⊢
  rw [List.pairwise_map] at hn ⊢
  exact hn.imp fun hne e => hne (congrArg Layout.foldedParts e)

/-- Different keys: the run succeeds. -/
theorem assemble_of_nodup (h : Collection.AreNormal all)
    (hk : (Registry.build all o).exportedNames.Nodup) :
    ∃ files, assemble stages all o = .ok files := by
  obtain ⟨files, hc⟩ := exists_catalogue_eq h.each o
  exact ⟨files, assemble_eq_ok_iff.2 ⟨hc, Registry.duplicates_eq_nil_iff.2 hk,
    RouteTable.ofCollections_eq_ok h o, (distinctPaths_eq_ok_iff.1 (distinctPaths_eq_ok h hc)).2⟩⟩

/-- A key that repeats: the stage before the store goes well, and that of the store ends the run. -/
theorem concatenate_of_not_nodup (h : Collection.AreNormal all)
    (hk : ¬ (Registry.build all o).exportedNames.Nodup) :
    concatenate (stages.flatMap (runStage all o)) = .error (keyFault all o) := by
  obtain ⟨first, ha⟩ := runStage_eq_ok (o := o) h (List.mem_cons_self (a := Access.stage))
    (by decide)
  have hr : stages.flatMap (runStage all o) = runStage all o Access.stage
      ++ .error (keyFault all o) :: (all.map (forCollection Store.stage all o)
        ++ [Validation.stage, Form.stage, Routing.stage].flatMap (runStage all o)) := by
    rw [← shared_store_of_not_nodup hk]
    rfl
  rw [hr, concatenate_append_error ha]

theorem assemble_of_not_nodup (h : Collection.AreNormal all)
    (hk : ¬ (Registry.build all o).exportedNames.Nodup) :
    assemble stages all o = .error (keyFault all o) := by
  rw [assemble, concatenate_of_not_nodup h hk]

/-- A run on collections that were read fails exactly if a key of its store repeats. Then the failure
is that of the store, for no collection of its own. The other stages, the routes and the comparison of
the paths never fail. -/
theorem fails_iff_key_repeats {identity : List String} {raw : Value} {notes : List Note}
    (hr : Intake.read identity raw = (notes, .ok all)) (o : Options) :
    ((∃ e, assemble stages all o = .error e) ↔ ¬ (Registry.build all o).exportedNames.Nodup)
      ∧ (∀ e, assemble stages all o = .error e → e = keyFault all o)
      ∧ (∀ s ∈ stages, s.name ≠ Store.stage.name →
        ∃ files, concatenate (runStage all o s) = .ok files)
      ∧ (∃ t, RouteTable.ofCollections all o = .ok t)
      ∧ ∀ files, concatenate (stages.flatMap (runStage all o)) = .ok files →
        distinctPaths files = .ok files := by
  -- for normal collections a run is decided by the keys alone: it succeeds without a repetition and fails with one
  have h := Intake.areNormal_of_read hr
  refine ⟨⟨?_, fun hk => ⟨_, assemble_of_not_nodup h hk⟩⟩, ?_,
    fun s hs hn => runStage_eq_ok h hs hn, ⟨_, RouteTable.ofCollections_eq_ok h o⟩, ?_⟩
  · rintro ⟨e, he⟩ hk
    obtain ⟨files, hf⟩ := assemble_of_nodup h hk
    rw [hf] at he
    cases he
  · intro e he
    by_cases hk : (Registry.build all o).exportedNames.Nodup
    · obtain ⟨files, hf⟩ := assemble_of_nodup h hk
      rw [hf] at he
      cases he
    · rw [assemble_of_not_nodup h hk] at he
      cases he
      rfl
  · intro files hf
    by_cases hk : (Registry.build all o).exportedNames.Nodup
    · obtain ⟨made, hm⟩ := assemble_of_nodup h hk
      rw [assemble, hf] at hm
      obtain ⟨rfl, hp⟩ := distinctPaths_eq_ok_iff.1 hm
      exact distinctPaths_eq_ok_iff.2 ⟨rfl, hp⟩
    · rw [concatenate_of_not_nodup h hk] at hf
      cases hf

/-- A collection with the name that the keys of authentication begin with. -/
theorem fails_of_collection_named_auth :
    ∃ notes all, Intake.read [] (.list [Intake.declaration "Auth" [("mail", "email")]])
        = (notes, .ok all)
      ∧ ¬ (Registry.build all { auth := true }).exportedNames.Nodup
      ∧ assemble stages all { auth := true } = .error
        ⟨"store", none, "Store keys defined more than once: authLoading, authError"⟩ := by
  let c : Collection :=
    { name := "Auth", camelName := "auth", pascalName := "Auth", fields := [⟨"mail", .email, "email"⟩] }
  have hr : (Intake.read [] (.list [Intake.declaration "Auth" [("mail", "email")]])).2.toOption
      = some [c] := by decide +kernel
  have hr := Intake.read_eq_of_toOption hr
  obtain ⟨⟨-, hfails⟩, hfault, -⟩ := fails_iff_key_repeats hr { auth := true }
  have hk : ¬ (Registry.build [c] { auth := true }).exportedNames.Nodup := by decide +kernel
  obtain ⟨e, he⟩ := hfails hk
  refine ⟨_, _, hr, hk, ?_⟩
  rw [he, hfault e he]
  decide +kernel

/-! ## Files of a run side by side -/

section

open Layout Text

variable {files : List Artifact}

/-- The files of a run are never in each other's way, on no file system: their paths are different
whatever their capitals, none goes on from another one as from a folder, and all of them stay below
the root of the project. -/
theorem files_apart {identity : List String} {raw : Value} {notes : List Note}
    (hr : Intake.read identity raw = (notes, .ok all)) (hf : assemble stages all o = .ok files) :
    (files.map fun f => Text.lower f.path).Nodup
      ∧ (∀ f ∈ files, ∀ g ∈ files, ¬ IsAbove f.path g.path
        ∧ ¬ IsAbove (Text.lower f.path) (Text.lower g.path))
      ∧ (∀ f ∈ files, ∀ c ∈ f.path.toList, c.toNat < 128)
      ∧ ∀ f ∈ files, (Path.ofText f.path).isAbsolute = false
        ∧ Writer.parentStep ∉ (Path.ofText f.path).components
        ∧ ∀ root, Writer.resolve root f = .ok (root.join (Path.ofText f.path)) := by
  have h := Intake.areNormal_of_read hr
  have hc := (assemble_eq_ok_iff.1 hf).1
  have hl : ∀ f ∈ files, LeadsToFile (foldedParts f.path) := fun f hm => leadsToFile_of_mem h hc hm
  refine ⟨?_, fun f hm g hg => ⟨not_isAbove (hl f hm) (hl g hg), ?_⟩,
    fun f hm c hc => toNat_lt_of_mem (hl f hm) hc,
    fun f hm => ⟨isAbsolute_ofText (hl f hm), parentStep_not_mem (hl f hm), resolve_eq_ok (hl f hm)⟩⟩
  · have hn := nodup_foldedParts h hc
    unfold List.Nodup at hn ⊢
    rw [List.pairwise_map] at hn ⊢
    refine List.Pairwise.imp_of_mem (fun {f g} hm hg hne e => hne ?_) hn
    rw [lower_eq_fold (hl f hm), lower_eq_fold (hl g hg)] at e
    rw [← foldedParts_fold, e, foldedParts_fold]
  · rw [lower_eq_fold (hl f hm), lower_eq_fold (hl g hg)]
    apply not_isAbove
    · rw [foldedParts_fold]
      exact hl f hm
    · rw [foldedParts_fold]
      exact hl g hg

/-- Users with roles and books, with every view there is. -/
theorem files_apart_of_users_and_books :
    let raw : Value := .list [Intake.declaration "user_accounts" [("roles", "array")],
      Intake.declaration " Books! " [("due", "Date")]]
    let o : Options := { auth := true, authViews := true, admin := true, roles := ["editor"] }
    ∃ notes all files, Intake.read [] raw = (notes, .ok all) ∧ assemble stages all o = .ok files
      ∧ (files.map fun f => Text.lower f.path).Nodup := by
  intro raw o
  let users : Collection := {
    name := "user_accounts", camelName := "userAccounts", pascalName := "UserAccounts",
    fields := [⟨"roles", .list, "array"⟩] }
  let books : Collection := {
    name := "Books!", camelName := "books", pascalName := "Books",
    fields := [⟨"due", .text, "date"⟩] }
  have hr : (Intake.read [] raw).2.toOption = some [users, books] := by decide +kernel
  have hr := Intake.read_eq_of_toOption hr
  have hk : (Registry.build [users, books] o).exportedNames.Nodup := by decide +kernel
  obtain ⟨files, hf⟩ := assemble_of_nodup (Intake.areNormal_of_read hr) hk
  exact ⟨_, _, files, hr, hf, (files_apart hr hf).1⟩

end

end Assembly

end Scaffold
