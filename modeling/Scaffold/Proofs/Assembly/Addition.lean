import Mathlib.Data.List.Flatten
import Scaffold.Proofs.Assembly.Outcome

/-!
# One more collection

What a run makes for a collection depends on no other one. With one more collection, wherever it is
declared, all files but the store module and the router stay as they are and where they are in the order
of the run; what is new are the files of the collection, and the module of form texts if it is the first
to need it.
-/

namespace Scaffold.Assembly

/-! ## Files that depend on single collections -/

/-- The catalogue of a run without the two files that bring all collections together. -/
def separate (all : List Collection) (o : Options) : List (Except RenderFault Artifact) :=
  (([Access.databaseFile o, Access.supportFile o]
      ++ if o.activityLogging then [Access.activityFile o] else [])
      ++ all.flatMap fun c => [Access.actionsFile c o])
    ++ (all.flatMap fun c => [Validation.validatorFile c o])
    ++ ((if Form.needsCodecs all then [Form.codecsFile] else [])
      ++ all.flatMap fun c => [Form.createFile c o, Form.editFile c o])
    ++ (Routing.tableFiles (RouteTable.assemble all o) o).tail

/-- A file that does not bring all collections together. -/
def isSeparate (o : Options) (f : Artifact) : Bool :=
  f.path != (StoreNames.ofOptions o).indexPath && f.path != Layout.routerModule

variable {all : List Collection} {o : Options} {files : List Artifact}

theorem separate_sublist_catalogue (all : List Collection) (o : Options) :
    (separate all o).Sublist (catalogue all o) :=
  (((List.sublist_append_left _ _).append (List.Sublist.refl _)).append (List.Sublist.refl _)).append
    (List.tail_sublist _)

/-- Entries that are made, at another path than those of the store module and the router. -/
def isSeparateEntry (o : Options) : Except RenderFault Artifact → Bool
  | .ok f => isSeparate o f
  | .error _ => false

theorem filter_singleton_of_atPath {r : Except RenderFault Artifact} {i : Interface} (h : AtPath r i)
    (hi : i.1 = (StoreNames.ofOptions o).indexPath ∨ i.1 = Layout.routerModule) :
    [r].filter (isSeparateEntry o) = [] := by
  cases r with
  | error e => rfl
  | ok f =>
    have hs : isSeparate o f = false := by
      unfold isSeparate
      rw [h f rfl]
      rcases hi with hi | hi
      · rw [hi, bne_self_eq_false, Bool.false_and]
      · rw [hi, bne_self_eq_false, Bool.and_false]
    rw [List.filter_cons_of_neg (by rw [isSeparateEntry, hs]; exact Bool.false_ne_true)]
    rfl

/-- The files besides the store module and the router are among the separate ones, in their order. -/
theorem filter_sublist_separate (h : catalogue all o = files.map Except.ok) :
    ((files.filter (isSeparate o)).map Except.ok).Sublist (separate all o) := by
  have hf : (files.filter (isSeparate o)).map Except.ok
      = (catalogue all o).filter (isSeparateEntry o) := by
    rw [h, List.filter_map]
    rfl
  have hr : Routing.tableFiles (RouteTable.assemble all o) o
      = [Routing.routerFile (RouteTable.assemble all o) o]
        ++ (Routing.tableFiles (RouteTable.assemble all o) o).tail := rfl
  have index : AtPath (Store.indexFile all o) (_, []) := atPath_ofTemplate _ _ _ _
  rw [hf, catalogue, hr]
  simp only [List.filter_append]
  rw [filter_singleton_of_atPath index (.inl rfl),
    filter_singleton_of_atPath (atPath_routerFile _ o) (.inr rfl), List.append_nil, List.nil_append,
    separate]
  simp only [← List.filter_append]
  exact List.filter_sublist

/-! ## A list with one more collection -/

theorem needsCodecs_insert (before after : List Collection) (c : Collection) :
    Form.needsCodecs (before ++ c :: after)
      = (Form.needsCodecs (before ++ after) || Form.needsCodecs [c]) := by
  unfold Form.needsCodecs
  simp only [List.any_append, List.any_cons, List.any_nil, Bool.or_false]
  rw [Bool.or_left_comm, Bool.or_comm]

theorem if_sublist_if {α : Type} {a b : Bool} (x : α) (h : a = true → b = true) :
    (if a then [x] else []).Sublist (if b then [x] else []) := by
  cases a with
  | false => exact List.nil_sublist _
  | true => rw [h rfl]

/-- With one more collection the separate files stay in their order. -/
theorem separate_sublist_insert (before after : List Collection) (c : Collection) (o : Options) :
    (separate (before ++ after) o).Sublist (separate (before ++ c :: after) o) := by
  have hl : (before ++ after).Sublist (before ++ c :: after) :=
    (List.Sublist.refl before).append (List.sublist_cons_self c after)
  have hneeds : Form.needsCodecs (before ++ after) = true →
      Form.needsCodecs (before ++ c :: after) = true := by
    intro h
    rw [needsCodecs_insert, h, Bool.true_or]
  exact (((((List.Sublist.refl _).append (hl.flatMap _)).append (hl.flatMap _)).append
    ((if_sublist_if _ hneeds).append (hl.flatMap _)))).append (List.Sublist.refl _)

/-! ## Paths -/

/-- The paths of the files that a collection has for itself. -/
def ownPaths (c : Collection) (o : Options) : List String :=
  let n := CollectionNames.ofCollection c o
  [n.actionsPath, n.validatorPath, n.createViewPath, n.editViewPath]

/-- A path of a run is one that every run has, one of a collection, or that of the module of form
texts. -/
theorem mem_paths_iff (all : List Collection) (o : Options) (path : String) :
    path ∈ (interfaces all o).map Prod.fst ↔
      path ∈ (interfaces [] o).map Prod.fst ∨ (∃ c ∈ all, path ∈ ownPaths c o)
        ∨ (path = Layout.codecsModule ∧ Form.needsCodecs all = true) := by
  have hr : Routing.interfaces (RouteTable.assemble all o) o
      = Routing.interfaces (RouteTable.assemble [] o) o := rfl
  have hcodecs : path ∈ (if Form.needsCodecs all then
        [(Layout.codecsModule, Form.codecsDeclarations)] else []).map Prod.fst
      ↔ path = Layout.codecsModule ∧ Form.needsCodecs all = true := by
    cases Form.needsCodecs all <;> simp
  have hown : (∃ c ∈ all, path ∈ ownPaths c o) ↔
      (∃ c ∈ all, path = (CollectionNames.ofCollection c o).actionsPath)
        ∨ (∃ c ∈ all, path = (CollectionNames.ofCollection c o).validatorPath)
        ∨ ∃ c ∈ all, path = (CollectionNames.ofCollection c o).createViewPath
          ∨ path = (CollectionNames.ofCollection c o).editViewPath := by
    simp only [ownPaths, List.mem_cons, List.not_mem_nil, or_false, and_or_left, exists_or]
  have hnone : Form.needsCodecs [] = false := rfl
  unfold interfaces
  rw [hr, hnone, hown]
  simp only [List.map_append, List.mem_append, hcodecs, List.map_flatMap, List.map_cons, List.map_nil,
    List.mem_flatMap, List.mem_cons, List.not_mem_nil, or_false, List.flatMap_nil,
    Bool.false_eq_true, if_false]
  exact iff_of_eq (by ac_rfl)

/-! ## Two runs -/

/-- With one more collection in any place, a run makes the files of the run without it: as they were
and in their order, all but the store module and the router. New are the files of the collection and,
if it needs it, the module of form texts. -/
theorem insertion_keeps_files {before after : List Collection} {c : Collection} {o : Options}
    {files more : List Artifact} (hf : assemble stages (before ++ after) o = .ok files)
    (hm : assemble stages (before ++ c :: after) o = .ok more) :
    (files.filter fun f =>
        f.path != (StoreNames.ofOptions o).indexPath && f.path != Layout.routerModule).Sublist more
      ∧ ∀ path, path ∈ more.map Artifact.path ↔ path ∈ files.map Artifact.path
        ∨ path ∈ ownPaths c o ∨ (path = Layout.codecsModule ∧ Form.needsCodecs [c] = true) := by
  have hf := (assemble_eq_ok_iff.1 hf).1
  have hm := (assemble_eq_ok_iff.1 hm).1
  constructor
  · have hs := (filter_sublist_separate hf).trans ((separate_sublist_insert before after c o).trans
      (separate_sublist_catalogue _ o))
    rw [hm] at hs
    have hback (l : List Artifact) : (l.map Except.ok).filterMap
        (Except.toOption (ε := RenderFault)) = l := by
      rw [List.filterMap_map]
      exact List.filterMap_some
    have := hs.filterMap Except.toOption
    rw [hback, hback] at this
    exact this
  · intro path
    rw [map_path_eq hm, map_path_eq hf, mem_paths_iff, mem_paths_iff (before ++ after),
      needsCodecs_insert, Bool.or_eq_true, and_or_left]
    simp only [List.mem_append, List.mem_cons, or_and_right, exists_or, exists_eq_left]
    exact iff_of_eq (by ac_rfl)

/-- Notes with a list between users and books, which have none. -/
theorem insertion_of_notes :
    let users : Collection := { name := "user", camelName := "user", pascalName := "User" }
    let notes : Collection := {
      name := "field notes", camelName := "fieldNotes", pascalName := "FieldNotes",
      fields := [⟨"tags", .list, "array"⟩] }
    let books : Collection := {
      name := "book", camelName := "book", pascalName := "Book",
      fields := [⟨"title", .text, "string"⟩] }
    let o : Options := { auth := true, roles := ["editor"] }
    ∃ files more, assemble stages ([users] ++ [books]) o = .ok files
      ∧ assemble stages ([users] ++ notes :: [books]) o = .ok more
      ∧ (files.filter fun f =>
        f.path != "src/stores/appStore/index.js" && f.path != "src/router/index.js").Sublist more
      ∧ "src/utils/formCodecs.js" ∈ more.map Artifact.path := by
  intro users notes books o
  have hu : Intake.read [] (.list [Intake.declaration "user" [],
      Intake.declaration "book" [("title", "string")]]) = (_, .ok [users, books]) :=
    Intake.read_eq_of_toOption (by decide +kernel)
  have hn : Intake.read [] (.list [Intake.declaration "user" [],
      Intake.declaration "field notes" [("tags", "array")],
      Intake.declaration "book" [("title", "string")]]) = (_, .ok [users, notes, books]) :=
    Intake.read_eq_of_toOption (by decide +kernel)
  obtain ⟨files, hf⟩ := assemble_of_nodup (o := o) (Intake.areNormal_of_read hu) (by decide +kernel)
  obtain ⟨more, hm⟩ := assemble_of_nodup (o := o) (Intake.areNormal_of_read hn) (by decide +kernel)
  -- the lists as the general theorem has them, with the new collection between two parts
  change assemble stages ([users] ++ [books]) o = .ok files at hf
  change assemble stages ([users] ++ notes :: [books]) o = .ok more at hm
  obtain ⟨hkept, hpaths⟩ := insertion_keeps_files hf hm
  have hindex : (StoreNames.ofOptions o).indexPath = "src/stores/appStore/index.js" := by decide +kernel
  rw [hindex] at hkept
  exact ⟨files, more, hf, hm, hkept, (hpaths _).2 (.inr (.inr ⟨rfl, by decide +kernel⟩))⟩

end Scaffold.Assembly
