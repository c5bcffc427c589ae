import Mathlib.Data.List.Forall2
import Scaffold.Assembly

/-!
# The catalogue of a run

All files that a run tries to make, as one list in the order of the stages. A run succeeds exactly if
every entry of the catalogue has a text, the keys of the store are different, the routes are different
and the paths are different; then its files are those of the catalogue.
-/

namespace Scaffold

/-! ## Lists of results -/

/-- Files from templates are there exactly if each of them is. -/
theorem Stage.files_eq_ok_iff {rs : List (Except RenderFault Artifact)} {files : List Artifact} :
    Stage.files rs = .ok files ↔ rs = files.map Except.ok := by
  -- the first file that cannot be rendered ends the list, and no list of files has a fault in it
  induction rs generalizing files with
  | nil =>
    cases files with
    | nil => exact ⟨fun _ => rfl, fun _ => rfl⟩
    | cons a others =>
      constructor <;>
      · intro h
        cases h
  | cons r rest ih =>
    cases r with
    | error e =>
      constructor
      · intro h
        cases h
      · intro h
        cases files <;> cases h
    | ok a =>
      constructor
      · intro h
        rw [Stage.files] at h
        cases hr : Stage.files rest with
        | error e =>
          rw [hr] at h
          cases h
        | ok others =>
          rw [hr] at h
          cases h
          rw [List.map_cons, ← ih.1 hr]
      · intro h
        cases files with
        | nil => cases h
        | cons b others =>
          rw [List.map_cons, List.cons.injEq, Except.ok.injEq] at h
          rw [Stage.files, ih.2 h.2, h.1]
          rfl

theorem mapError_eq_ok_iff {ε ε' α : Type} {r : Except ε α} {f : ε → ε'} {a : α} :
    r.mapError f = .ok a ↔ r = .ok a := by
  cases r with
  | error e =>
    constructor <;>
    · intro h
      cases h
  | ok b =>
    show Except.ok b = Except.ok a ↔ _
    rw [Except.ok.injEq, Except.ok.injEq]

/-! ## Files from templates -/

/-- A file from a template is at the path that was asked for. -/
theorem Artifact.path_of_ofTemplate {path : String} {t : Template} {values : List (String × Value)}
    {a : Artifact} (h : Artifact.ofTemplate path t values = .ok a) : a.path = path := by
  unfold Artifact.ofTemplate at h
  cases hr : t.render (Scope.ofValues values) with
  | error e =>
    rw [hr] at h
    cases h
  | ok content =>
    rw [hr] at h
    cases h
    rfl

/-- Lists that go along with each other item by item, put together for each collection. -/
theorem forall₂_flatMap {α β γ : Type} {R : α → β → Prop} {l : List γ} {f : γ → List α}
    {g : γ → List β} (h : ∀ c ∈ l, List.Forall₂ R (f c) (g c)) :
    List.Forall₂ R (l.flatMap f) (l.flatMap g) := by
  induction l with
  | nil => exact .nil
  | cons c rest ih =>
    rw [List.flatMap_cons, List.flatMap_cons]
    exact List.rel_append (h c List.mem_cons_self)
      (ih fun d hd => h d (List.mem_cons_of_mem c hd))

/-- Items that are there under one condition. -/
theorem forall₂_if {α β : Type} {R : α → β → Prop} {b : Bool} {x : α} {y : β} (h : R x y) :
    List.Forall₂ R (if b then [x] else []) (if b then [y] else []) := by
  cases b with
  | false => exact .nil
  | true => exact .cons h .nil

namespace Assembly

theorem concatenate_cons_eq_ok_iff {r : Except GenerationFault (List Artifact)}
    {rest : List (Except GenerationFault (List Artifact))} {files : List Artifact} :
    concatenate (r :: rest) = .ok files ↔
      ∃ own others, r = .ok own ∧ concatenate rest = .ok others ∧ files = own ++ others := by
  cases r with
  | error e =>
    constructor
    · intro h
      cases h
    · rintro ⟨own, others, h, -⟩
      cases h
  | ok own =>
    rw [concatenate]
    cases concatenate rest with
    | error e =>
      constructor
      · intro h
        cases h
      · rintro ⟨own, others, -, h, -⟩
        cases h
    | ok others =>
      constructor
      · intro h
        cases h
        exact ⟨own, others, rfl, rfl, rfl⟩
      · rintro ⟨own, others, ho, hr, rfl⟩
        cases ho
        cases hr
        rfl

theorem concatenate_append_eq_ok_iff {as bs : List (Except GenerationFault (List Artifact))}
    {files : List Artifact} :
    concatenate (as ++ bs) = .ok files ↔
      ∃ first second, concatenate as = .ok first ∧ concatenate bs = .ok second
        ∧ files = first ++ second := by
  induction as generalizing files with
  | nil =>
    constructor
    · intro h
      exact ⟨[], files, rfl, h, rfl⟩
    · rintro ⟨first, second, hf, hs, rfl⟩
      cases hf
      exact hs
  | cons a rest ih =>
    rw [List.cons_append, concatenate_cons_eq_ok_iff]
    constructor
    · rintro ⟨own, others, ha, hr, rfl⟩
      obtain ⟨first, second, hf, hs, rfl⟩ := ih.1 hr
      exact ⟨own ++ first, second, concatenate_cons_eq_ok_iff.2 ⟨own, first, ha, hf, rfl⟩, hs,
        (List.append_assoc _ _ _).symm⟩
    · rintro ⟨first, second, hf, hs, rfl⟩
      obtain ⟨own, more, ha, hr, rfl⟩ := concatenate_cons_eq_ok_iff.1 hf
      exact ⟨own, more ++ second, ha, ih.2 ⟨more, second, hr, hs, rfl⟩, List.append_assoc _ _ _⟩

/-- A failure ends a run if everything before it went well. -/
theorem concatenate_append_error {as rest : List (Except GenerationFault (List Artifact))}
    {files : List Artifact} {e : GenerationFault} (h : concatenate as = .ok files) :
    concatenate (as ++ .error e :: rest) = .error e := by
  induction as generalizing files with
  | nil => rfl
  | cons a others ih =>
    obtain ⟨own, more, rfl, hr, -⟩ := concatenate_cons_eq_ok_iff.1 h
    rw [List.cons_append, concatenate, ih hr]
    rfl

end Assembly

/-! ## What a stage makes -/

/-- A stage makes nothing but files from templates: some for all collections together, and some for
each one. -/
structure Stage.Makes (s : Stage) (all : List Collection) (o : Options)
    (together : List (Except RenderFault Artifact))
    (each : Collection → List (Except RenderFault Artifact)) : Prop where
  shared_eq : s.shared all o = Stage.files together
  forCollection_eq : ∀ c, s.forCollection c all o = Stage.files (each c)

section

variable {s : Stage} {all : List Collection} {o : Options}
  {together : List (Except RenderFault Artifact)}
  {each : Collection → List (Except RenderFault Artifact)}

theorem Stage.Makes.concatenate_map_eq_ok_iff (h : s.Makes all o together each)
    {some : List Collection} {files : List Artifact} :
    Assembly.concatenate (some.map (Assembly.forCollection s all o)) = .ok files ↔
      some.flatMap each = files.map Except.ok := by
  induction some generalizing files with
  | nil =>
    rw [List.flatMap_nil, eq_comm (a := []), List.map_eq_nil_iff]
    show Except.ok [] = Except.ok files ↔ _
    rw [Except.ok.injEq, eq_comm]
  | cons c rest ih =>
    rw [List.map_cons, Assembly.concatenate_cons_eq_ok_iff, List.flatMap_cons, eq_comm (b := List.map _ _),
      List.map_eq_append_iff]
    constructor
    · rintro ⟨own, others, hc, hr, rfl⟩
      rw [Assembly.forCollection, mapError_eq_ok_iff, h.forCollection_eq,
        Stage.files_eq_ok_iff] at hc
      exact ⟨own, others, rfl, hc.symm, (ih.1 hr).symm⟩
    · rintro ⟨own, others, rfl, hc, hr⟩
      refine ⟨own, others, ?_, ih.2 hr.symm, rfl⟩
      rw [Assembly.forCollection, mapError_eq_ok_iff, h.forCollection_eq,
        Stage.files_eq_ok_iff, hc]

/-- The files of a stage are those that it tries to make, if it can make all of them. -/
theorem Stage.Makes.runStage_eq_ok_iff (h : s.Makes all o together each) {files : List Artifact} :
    Assembly.concatenate (Assembly.runStage all o s) = .ok files ↔
      together ++ all.flatMap each = files.map Except.ok := by
  rw [Assembly.runStage, Assembly.concatenate_cons_eq_ok_iff, eq_comm (b := List.map _ _),
    List.map_eq_append_iff]
  constructor
  · rintro ⟨own, others, hc, hr, rfl⟩
    rw [Assembly.shared, mapError_eq_ok_iff, h.shared_eq, Stage.files_eq_ok_iff] at hc
    exact ⟨own, others, rfl, hc.symm, (h.concatenate_map_eq_ok_iff.1 hr).symm⟩
  · rintro ⟨own, others, rfl, hc, hr⟩
    refine ⟨own, others, ?_, h.concatenate_map_eq_ok_iff.2 hr.symm, rfl⟩
    rw [Assembly.shared, mapError_eq_ok_iff, h.shared_eq, Stage.files_eq_ok_iff, hc]

end

/-! ## The stages of a run -/

theorem Access.makes (all : List Collection) (o : Options) :
    Access.stage.Makes all o
      ([databaseFile o, supportFile o] ++ if o.activityLogging then [activityFile o] else [])
      (fun c => [actionsFile c o]) :=
  ⟨rfl, fun _ => rfl⟩

/-- The store module, when all keys of the store are different. -/
def Store.indexFile (all : List Collection) (o : Options) : Except RenderFault Artifact :=
  let r := Registry.build all o
  Artifact.ofTemplate r.store.indexPath StoreModule.template (r.values (o.roles.map .text))

theorem Store.makes {all : List Collection} {o : Options}
    (h : Registry.duplicates (Registry.build all o).exportedNames = []) :
    Store.stage.Makes all o [indexFile all o] (fun _ => []) := by
  refine ⟨?_, fun _ => rfl⟩
  have hr : (Registry.build all o).render = (indexFile all o).mapError StageFault.render := by
    rw [Registry.render, h]
    rfl
  show (Registry.build all o).render.map (fun file => [file]) = _
  rw [hr]
  cases indexFile all o <;> rfl

theorem Validation.makes (all : List Collection) (o : Options) :
    Validation.stage.Makes all o [] (fun c => [validatorFile c o]) :=
  ⟨rfl, fun _ => rfl⟩

theorem Form.makes (all : List Collection) (o : Options) :
    Form.stage.Makes all o (if needsCodecs all then [codecsFile] else [])
      (fun c => [createFile c o, editFile c o]) :=
  ⟨rfl, fun _ => rfl⟩

/-- What the stage of routing makes from a table. -/
def Routing.tableFiles (t : RouteTable) (o : Options) : List (Except RenderFault Artifact) :=
  [routerFile t o] ++ (if o.auth then [authGuardFile t o] else [])
    ++ (if o.hasRoles then [roleGuardFile t o] else [])
    ++ t.placeholders.map placeholderFile

theorem Routing.makes {all : List Collection} {o : Options} {t : RouteTable}
    (h : RouteTable.ofCollections all o = .ok t) :
    Routing.stage.Makes all o (tableFiles t o) (fun _ => []) := by
  refine ⟨?_, fun _ => rfl⟩
  unfold Routing.stage
  dsimp only
  rw [h]
  rfl

/-- Routes that are all different give the table as it was put together. -/
theorem RouteTable.eq_of_ofCollections {all : List Collection} {o : Options} {t : RouteTable}
    (h : RouteTable.ofCollections all o = .ok t) : t = RouteTable.assemble all o := by
  unfold RouteTable.ofCollections at h
  dsimp only at h
  split at h
  · cases h
  · cases h
  · cases h
    rfl

/-! ## The catalogue -/

namespace Assembly

/-- Every file that a run tries to make, in the order of the stages. -/
def catalogue (all : List Collection) (o : Options) : List (Except RenderFault Artifact) :=
  (([Access.databaseFile o, Access.supportFile o]
      ++ if o.activityLogging then [Access.activityFile o] else [])
      ++ all.flatMap fun c => [Access.actionsFile c o])
    ++ [Store.indexFile all o]
    ++ (all.flatMap fun c => [Validation.validatorFile c o])
    ++ ((if Form.needsCodecs all then [Form.codecsFile] else [])
      ++ all.flatMap fun c => [Form.createFile c o, Form.editFile c o])
    ++ Routing.tableFiles (RouteTable.assemble all o) o

/-- The stages one after the other. -/
theorem concatenate_stages_eq_ok_iff {all : List Collection} {o : Options} {files : List Artifact} :
    concatenate (stages.flatMap (runStage all o)) = .ok files ↔
      ∃ a s v f r, concatenate (runStage all o Access.stage) = .ok a
        ∧ concatenate (runStage all o Store.stage) = .ok s
        ∧ concatenate (runStage all o Validation.stage) = .ok v
        ∧ concatenate (runStage all o Form.stage) = .ok f
        ∧ concatenate (runStage all o Routing.stage) = .ok r
        ∧ files = a ++ s ++ v ++ f ++ r := by
  have hs : stages.flatMap (runStage all o) = runStage all o Access.stage
      ++ (runStage all o Store.stage ++ (runStage all o Validation.stage
        ++ (runStage all o Form.stage ++ runStage all o Routing.stage))) := by
    simp only [stages, List.flatMap_cons, List.flatMap_nil, List.append_nil]
  rw [hs]
  constructor
  · intro h
    obtain ⟨a, rest, ha, h2, rfl⟩ := concatenate_append_eq_ok_iff.1 h
    obtain ⟨s, rest, hs, h3, rfl⟩ := concatenate_append_eq_ok_iff.1 h2
    obtain ⟨v, rest, hv, h4, rfl⟩ := concatenate_append_eq_ok_iff.1 h3
    obtain ⟨f, r, hf, hr, rfl⟩ := concatenate_append_eq_ok_iff.1 h4
    exact ⟨a, s, v, f, r, ha, hs, hv, hf, hr, by simp only [List.append_assoc]⟩
  · rintro ⟨a, s, v, f, r, ha, hs, hv, hf, hr, rfl⟩
    have h4 := concatenate_append_eq_ok_iff.2 ⟨f, r, hf, hr, rfl⟩
    have h3 := concatenate_append_eq_ok_iff.2 ⟨v, f ++ r, hv, h4, rfl⟩
    have h2 := concatenate_append_eq_ok_iff.2 ⟨s, v ++ (f ++ r), hs, h3, rfl⟩
    rw [concatenate_append_eq_ok_iff.2 ⟨a, s ++ (v ++ (f ++ r)), ha, h2, rfl⟩]
    simp only [List.append_assoc]

/-- The stage of the store goes well only if all keys are different. -/
theorem duplicates_eq_nil_of_runStage {all : List Collection} {o : Options} {files : List Artifact}
    (h : concatenate (runStage all o Store.stage) = .ok files) :
    Registry.duplicates (Registry.build all o).exportedNames = [] := by
  obtain ⟨own, others, hs, -, -⟩ := concatenate_cons_eq_ok_iff.1 h
  rw [shared, mapError_eq_ok_iff] at hs
  cases hd : Registry.duplicates (Registry.build all o).exportedNames with
  | nil => rfl
  | cons k ks =>
    change (Registry.build all o).render.map (fun file => [file]) = _ at hs
    rw [Registry.render, hd] at hs
    cases hs

/-- The stage of routing goes well only if all routes are different. -/
theorem ofCollections_eq_ok_of_runStage {all : List Collection} {o : Options}
    {files : List Artifact} (h : concatenate (runStage all o Routing.stage) = .ok files) :
    RouteTable.ofCollections all o = .ok (RouteTable.assemble all o) := by
  obtain ⟨own, others, hs, -, -⟩ := concatenate_cons_eq_ok_iff.1 h
  rw [shared, mapError_eq_ok_iff] at hs
  cases ht : RouteTable.ofCollections all o with
  | ok t => rw [RouteTable.eq_of_ofCollections ht]
  | error e =>
    unfold Routing.stage at hs
    dsimp only at hs
    rw [ht] at hs
    cases hs

theorem repeatedPath?_eq_none_iff {files : List Artifact} :
    repeatedPath? files = none ↔ (files.map Artifact.path).Nodup := by
  rw [repeatedPath?, Text.firstRepeated_eq_none_iff]
  exact and_iff_left fun _ _ => List.not_mem_nil

/-- Files with different paths are all kept. -/
theorem distinctPaths_eq_ok_iff {files kept : List Artifact} :
    distinctPaths files = .ok kept ↔ files = kept ∧ (files.map Artifact.path).Nodup := by
  rw [← repeatedPath?_eq_none_iff, distinctPaths]
  cases repeatedPath? files with
  | some path =>
    constructor
    · intro h
      cases h
    · rintro ⟨-, h⟩
      cases h
  | none =>
    rw [Except.ok.injEq]
    exact (and_iff_left rfl).symm

/-- A run succeeds exactly if all its files have a text and all keys, routes and paths differ. -/
theorem assemble_eq_ok_iff {all : List Collection} {o : Options} {files : List Artifact} :
    assemble stages all o = .ok files ↔
      catalogue all o = files.map Except.ok
        ∧ Registry.duplicates (Registry.build all o).exportedNames = []
        ∧ RouteTable.ofCollections all o = .ok (RouteTable.assemble all o)
        ∧ (files.map Artifact.path).Nodup := by
  have nothing : all.flatMap (fun _ => ([] : List (Except RenderFault Artifact))) = [] :=
    List.flatMap_eq_nil_iff.2 fun _ _ => rfl
  constructor
  · intro h
    rw [assemble] at h
    cases hc : concatenate (stages.flatMap (runStage all o)) with
    | error e =>
      rw [hc] at h
      cases h
    | ok made =>
      rw [hc] at h
      obtain ⟨rfl, hn⟩ := distinctPaths_eq_ok_iff.1 h
      -- the run is cut into its stages, and each of them is compared with its part of the catalogue
      obtain ⟨a, s, v, f, r, ha, hs, hv, hf, hr, rfl⟩ := concatenate_stages_eq_ok_iff.1 hc
      have hd := duplicates_eq_nil_of_runStage hs
      have ht := ofCollections_eq_ok_of_runStage hr
      rw [(Access.makes all o).runStage_eq_ok_iff] at ha
      rw [(Store.makes hd).runStage_eq_ok_iff, nothing, List.append_nil] at hs
      rw [(Validation.makes all o).runStage_eq_ok_iff, List.nil_append] at hv
      rw [(Form.makes all o).runStage_eq_ok_iff] at hf
      rw [(Routing.makes ht).runStage_eq_ok_iff, nothing, List.append_nil] at hr
      refine ⟨?_, hd, ht, hn⟩
      rw [catalogue, ha, hs, hv, hf, hr]
      simp only [List.map_append]
  · rintro ⟨hc, hd, ht, hn⟩
    rw [catalogue] at hc
    -- the other way the catalogue is cut, from its end, into the parts of the stages
    obtain ⟨rest, r, rfl, h4, hr⟩ := List.map_eq_append_iff.1 hc.symm
    obtain ⟨rest, f, rfl, h3, hf⟩ := List.map_eq_append_iff.1 h4
    obtain ⟨rest, v, rfl, h2, hv⟩ := List.map_eq_append_iff.1 h3
    obtain ⟨a, s, rfl, ha, hs⟩ := List.map_eq_append_iff.1 h2
    have made : concatenate (stages.flatMap (runStage all o)) = .ok (a ++ s ++ v ++ f ++ r) := by
      refine concatenate_stages_eq_ok_iff.2 ⟨a, s, v, f, r, ?_, ?_, ?_, ?_, ?_, rfl⟩
      · rw [(Access.makes all o).runStage_eq_ok_iff, ha]
      · rw [(Store.makes hd).runStage_eq_ok_iff, nothing, List.append_nil, hs]
      · rw [(Validation.makes all o).runStage_eq_ok_iff, List.nil_append, hv]
      · rw [(Form.makes all o).runStage_eq_ok_iff, hf]
      · rw [(Routing.makes ht).runStage_eq_ok_iff, nothing, List.append_nil, hr]
    rw [assemble, made]
    exact distinctPaths_eq_ok_iff.2 ⟨rfl, hn⟩

end Assembly

end Scaffold
