import Scaffold.Proofs.Assembly.Catalogue
import Scaffold.Proofs.Interface.Access
import Scaffold.Proofs.Interface.Actions
import Scaffold.Proofs.Interface.Form
import Scaffold.Proofs.Interface.Routing
import Scaffold.Proofs.Interface.Store
import Scaffold.Proofs.Interface.Validation

/-!
# What the files of a run declare

Every file that a run tries to make is made, at its path and with its declarations. The interface of a
run lists paths and declarations in the order of the catalogue.
-/

namespace Scaffold

open Script (Declaration)

/-! ## The interface of a run -/

/-- A path with what the file at it imports and exports. -/
abbrev Interface := String × List Declaration

namespace Routing

/-- The interfaces of the router, its guards and the views besides those of collections. -/
def interfaces (t : RouteTable) (o : Options) : List Interface :=
  [(Layout.routerModule, routerDeclarations o)]
    ++ (if o.auth then [(Layout.guardsRoot ++ "/authGuard.js", guardDeclarations o)] else [])
    ++ (if o.hasRoles then [(Layout.guardsRoot ++ "/roleGuard.js", guardDeclarations o)] else [])
    ++ t.placeholders.map fun v => (v.path, [])

end Routing

namespace Assembly

/-- The interfaces of all files of a run, in the order of the catalogue. -/
def interfaces (all : List Collection) (o : Options) : List Interface :=
  (([(Layout.databaseModule, Access.databaseDeclarations o),
        ((StoreNames.ofOptions o).supportPath, Access.supportDeclarations o)]
      ++ if o.activityLogging then
        [((StoreNames.ofOptions o).activityPath, Access.activityDeclarations)] else [])
      ++ all.flatMap fun c =>
        [((CollectionNames.ofCollection c o).actionsPath, Access.actionsDeclarations c o)])
    ++ [((StoreNames.ofOptions o).indexPath, Store.declarations all o)]
    ++ (all.flatMap fun c =>
      [((CollectionNames.ofCollection c o).validatorPath, Validation.declarations c o)])
    ++ ((if Form.needsCodecs all then [(Layout.codecsModule, Form.codecsDeclarations)] else [])
      ++ all.flatMap fun c =>
        [((CollectionNames.ofCollection c o).createViewPath, Form.createDeclarations c o),
          ((CollectionNames.ofCollection c o).editViewPath, Form.editDeclarations c o)])
    ++ Routing.interfaces (RouteTable.assemble all o) o

/-! ## Paths -/

/-- A file, if it is made, is at the path of its interface. -/
def AtPath (r : Except RenderFault Artifact) (i : Interface) : Prop := ∀ f, r = .ok f → f.path = i.1

theorem atPath_ofTemplate (path : String) (t : Template) (values : List (String × Value))
    (ds : List Declaration) : AtPath (Artifact.ofTemplate path t values) (path, ds) :=
  fun _ hf => Artifact.path_of_ofTemplate hf

theorem atPath_routerFile (t : RouteTable) (o : Options) :
    AtPath (Routing.routerFile t o) (Layout.routerModule, Routing.routerDeclarations o) := by
  unfold Routing.routerFile
  split
  · intro f hf
    cases hf
  · exact atPath_ofTemplate _ _ _ _

theorem atPath_tableFiles (t : RouteTable) (o : Options) :
    List.Forall₂ AtPath (Routing.tableFiles t o) (Routing.interfaces t o) := by
  refine List.rel_append (List.rel_append (List.rel_append ?_ ?_) ?_) ?_
  · exact .cons (atPath_routerFile t o) .nil
  · exact forall₂_if (atPath_ofTemplate _ _ _ _)
  · exact forall₂_if (atPath_ofTemplate _ _ _ _)
  · rw [List.forall₂_map_left_iff, List.forall₂_map_right_iff, List.forall₂_same]
    exact fun v _ => atPath_ofTemplate _ _ _ _

/-- All files are at the paths of the interface, also those of collections that are not normal. -/
theorem atPath_catalogue (all : List Collection) (o : Options) :
    List.Forall₂ AtPath (catalogue all o) (interfaces all o) := by
  refine List.rel_append (List.rel_append (List.rel_append (List.rel_append (List.rel_append
    (List.rel_append ?_ ?_) ?_) ?_) ?_) (List.rel_append ?_ ?_)) (atPath_tableFiles _ o)
  · exact .cons (atPath_ofTemplate _ _ _ _) (.cons (atPath_ofTemplate _ _ _ _) .nil)
  · exact forall₂_if (atPath_ofTemplate _ _ _ _)
  · exact forall₂_flatMap fun c _ => .cons (atPath_ofTemplate _ _ _ _) .nil
  · exact .cons (atPath_ofTemplate _ _ _ _) .nil
  · exact forall₂_flatMap fun c _ => .cons (atPath_ofTemplate _ _ _ _) .nil
  · exact forall₂_if (atPath_ofTemplate _ _ _ _)
  · exact forall₂_flatMap fun c _ =>
      .cons (atPath_ofTemplate _ _ _ _) (.cons (atPath_ofTemplate _ _ _ _) .nil)

theorem map_path_eq {all : List Collection} {o : Options} {files : List Artifact}
    (h : catalogue all o = files.map Except.ok) :
    files.map Artifact.path = (interfaces all o).map Prod.fst := by
  have hp := atPath_catalogue all o
  rw [h, List.forall₂_map_left_iff] at hp
  rw [← List.forall₂_eq_eq_eq, List.forall₂_map_left_iff, List.forall₂_map_right_iff]
  exact hp.imp fun f i hi => hi f rfl

/-! ## Files that are made -/

/-- A file was made as its interface says. -/
def Meets (r : Except RenderFault Artifact) (i : Interface) : Prop := Artifact.IsMade r i.1 i.2

variable {all : List Collection}

theorem meets_access (h : ∀ c ∈ all, c.IsNormal) (o : Options) :
    List.Forall₂ Meets
      (([Access.databaseFile o, Access.supportFile o]
        ++ if o.activityLogging then [Access.activityFile o] else [])
        ++ all.flatMap fun c => [Access.actionsFile c o])
      (([(Layout.databaseModule, Access.databaseDeclarations o),
          ((StoreNames.ofOptions o).supportPath, Access.supportDeclarations o)]
        ++ if o.activityLogging then
          [((StoreNames.ofOptions o).activityPath, Access.activityDeclarations)] else [])
        ++ all.flatMap fun c =>
          [((CollectionNames.ofCollection c o).actionsPath, Access.actionsDeclarations c o)]) := by
  refine List.rel_append (List.rel_append ?_ ?_) (forall₂_flatMap fun c hc => ?_)
  · exact .cons (Access.isMade_databaseFile o) (.cons (Access.isMade_supportFile o) .nil)
  · exact forall₂_if (y := (_, _)) (Access.isMade_activityFile o)
  · exact .cons (Access.isMade_actionsFile (h c hc) o) .nil

theorem meets_form (h : ∀ c ∈ all, c.IsNormal) (o : Options) :
    List.Forall₂ Meets
      ((if Form.needsCodecs all then [Form.codecsFile] else [])
        ++ all.flatMap fun c => [Form.createFile c o, Form.editFile c o])
      ((if Form.needsCodecs all then [(Layout.codecsModule, Form.codecsDeclarations)] else [])
        ++ all.flatMap fun c =>
          [((CollectionNames.ofCollection c o).createViewPath, Form.createDeclarations c o),
            ((CollectionNames.ofCollection c o).editViewPath, Form.editDeclarations c o)]) := by
  refine List.rel_append (forall₂_if ?_) (forall₂_flatMap fun c hc => ?_)
  · exact Form.isMade_codecsFile
  · exact .cons (Form.isMade_createFile (h c hc) o) (.cons (Form.isMade_editFile (h c hc) o) .nil)

theorem meets_routing (h : ∀ c ∈ all, c.IsNormal) (o : Options) :
    List.Forall₂ Meets (Routing.tableFiles (RouteTable.assemble all o) o)
      (Routing.interfaces (RouteTable.assemble all o) o) := by
  refine List.rel_append (List.rel_append (List.rel_append ?_ ?_) ?_) ?_
  · exact .cons (Routing.isMade_routerFile (RouteTable.isPlain_assemble h o) o) .nil
  · exact forall₂_if (y := (_, _)) (Routing.isMade_authGuardFile _ o)
  · exact forall₂_if (y := (_, _)) (Routing.isMade_roleGuardFile _ o)
  · rw [List.forall₂_map_left_iff, List.forall₂_map_right_iff, List.forall₂_same]
    intro v hv
    obtain ⟨e, he, rfl⟩ := List.mem_map.1 hv
    obtain ⟨-, ht, hd⟩ := RouteTable.isPlain_viewRoutes o e he
    exact Routing.isMade_placeholderFile ht hd

/-- All files of normal collections are made, and they declare what the interface of the run says. -/
theorem meets_catalogue (h : ∀ c ∈ all, c.IsNormal) (o : Options) :
    List.Forall₂ Meets (catalogue all o) (interfaces all o) := by
  have store : List.Forall₂ Meets [Store.indexFile all o]
      [((StoreNames.ofOptions o).indexPath, Store.declarations all o)] :=
    .cons (Store.isMade_indexFile h o) .nil
  have validation : List.Forall₂ Meets (all.flatMap fun c => [Validation.validatorFile c o])
      (all.flatMap fun c =>
        [((CollectionNames.ofCollection c o).validatorPath, Validation.declarations c o)]) :=
    forall₂_flatMap fun c hc => .cons (Validation.isMade_validatorFile (h c hc) o) .nil
  exact List.rel_append (List.rel_append (List.rel_append (List.rel_append (meets_access h o) store)
    validation) (meets_form h o)) (meets_routing h o)

/-- The catalogue of normal collections is a list of files. -/
theorem exists_catalogue_eq (h : ∀ c ∈ all, c.IsNormal) (o : Options) :
    ∃ files : List Artifact, catalogue all o = files.map Except.ok := by
  have made {rs : List (Except RenderFault Artifact)} {is : List Interface}
      (hm : List.Forall₂ Meets rs is) : ∃ files : List Artifact, rs = files.map Except.ok := by
    induction hm with
    | nil => exact ⟨[], rfl⟩
    | cons hr _ ih =>
      obtain ⟨f, rfl, -⟩ := hr
      obtain ⟨files, rfl⟩ := ih
      exact ⟨f :: files, rfl⟩
  exact made (meets_catalogue h o)

end Assembly

end Scaffold
