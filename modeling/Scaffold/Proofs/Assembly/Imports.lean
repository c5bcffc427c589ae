import Mathlib.Data.List.Nodup
import Scaffold.Proofs.Assembly.Outcome
import Scaffold.Proofs.Script.Resolution

/-!
# Imports between files of a run

Whatever a file of a run imports from another module of the project is a name that a file of the same
run exports. The conditions under which files, imports and exports are there are met by each other for
all options and any number of collections.
-/

namespace Scaffold.Assembly

open Layout
open Script (Declaration isDirect isLocal resolve? target)

/-! ## Paths of the interface -/

/-- The paths of the files of a run. -/
def paths (all : List Collection) (o : Options) : List String := (interfaces all o).map Prod.fst

variable {all : List Collection} {o : Options} {c : Collection} {path importer : String}

theorem exists_place_of_mem_paths (h : Collection.AreNormal all) (hp : path ∈ paths all o) :
    ∃ p : Place, p.IsKnown ∧ p.Has o path := by
  obtain ⟨files, hf⟩ := exists_catalogue_eq h.each o
  rw [paths, ← map_path_eq hf] at hp
  obtain ⟨f, hm, rfl⟩ := List.mem_map.1 hp
  exact exists_place_of_mem h hf hm

theorem leadsToFile_of_mem_paths (h : Collection.AreNormal all) (hp : path ∈ paths all o) :
    LeadsToFile (foldedParts path) := by
  obtain ⟨p, hk, hp⟩ := exists_place_of_mem_paths h hp
  unfold Place.Has at hp
  rw [hp]
  exact Place.leadsToFile_parts (Place.isFolder_folded o) hk

theorem isDirect_of_mem_paths (h : Collection.AreNormal all) (hp : path ∈ paths all o) :
    isDirect path.toList = true :=
  Script.isDirect_of_leadsToFile (leadsToFile_of_mem_paths h hp)

/-- No file of a run is at a path without a dot. -/
theorem not_mem_paths_of_dot (h : Collection.AreNormal all) (hd : '.' ∉ path.toList) :
    path ∉ paths all o :=
  fun hp => hd (dot_mem (leadsToFile_of_mem_paths h hp))

/-- No file of a run lies beside the folder of the store. -/
theorem store_script_not_mem_paths (h : Collection.AreNormal all) :
    (StoreNames.ofOptions o).folder ++ ".js" ∉ paths all o := by
  intro hm
  obtain ⟨p, hk, hp⟩ := exists_place_of_mem_paths h hm
  have hs : foldedParts ((StoreNames.ofOptions o).folder ++ ".js")
      = ["src", "stores", StoreNames.folded o ++ ".js"] := by
    apply foldedParts_eq (List.cons_ne_nil _ _)
    · refine List.forall_mem_cons.2 ⟨by decide, List.forall_mem_cons.2 ⟨by decide,
        List.forall_mem_cons.2 ⟨?_, fun s hs => absurd hs List.not_mem_nil⟩⟩⟩
      rw [String.toList_append, List.mem_append, not_or]
      refine ⟨fun hm => ?_, by decide⟩
      exact absurd (((Place.isFolder_folded o).2 _ hm).1) (by decide)
    · unfold StoreNames.folder Layout.storesRoot
      simp only [String.toList_append, List.map_append, List.append_assoc, List.map_cons,
        List.map_nil, List.intercalate_cons_cons, List.intercalate_singleton, Place.toList_folded]
      repeat rw [String.toList_ofList]
      rfl
  unfold Place.Has at hp
  rw [hs] at hp
  cases p with
  | view file =>
    have hv := (List.cons.inj (List.cons.inj hp).2).1
    exact absurd hv (by decide)
  | _ => simp [Place.parts] at hp

/-! ## Files that are there -/

theorem database_mem (all : List Collection) (o : Options) :
    (Layout.databaseModule, Access.databaseDeclarations o) ∈ interfaces all o := by
  simp [interfaces]

theorem support_mem (all : List Collection) (o : Options) :
    ((StoreNames.ofOptions o).supportPath, Access.supportDeclarations o) ∈ interfaces all o := by
  simp [interfaces]

theorem activity_mem (all : List Collection) (ho : o.activityLogging = true) :
    ((StoreNames.ofOptions o).activityPath, Access.activityDeclarations) ∈ interfaces all o := by
  simp [interfaces, ho]

theorem actions_mem (o : Options) (hc : c ∈ all) :
    ((CollectionNames.ofCollection c o).actionsPath, Access.actionsDeclarations c o)
      ∈ interfaces all o := by
  have hm : ((CollectionNames.ofCollection c o).actionsPath, Access.actionsDeclarations c o)
      ∈ all.flatMap fun c =>
        [((CollectionNames.ofCollection c o).actionsPath, Access.actionsDeclarations c o)] :=
    List.mem_flatMap.2 ⟨c, hc, List.mem_cons_self⟩
  simp only [interfaces, List.mem_append, hm, true_or, or_true]

theorem index_mem (all : List Collection) (o : Options) :
    ((StoreNames.ofOptions o).indexPath, Store.declarations all o) ∈ interfaces all o := by
  simp [interfaces]

theorem validator_mem (o : Options) (hc : c ∈ all) :
    ((CollectionNames.ofCollection c o).validatorPath, Validation.declarations c o)
      ∈ interfaces all o := by
  have hm : ((CollectionNames.ofCollection c o).validatorPath, Validation.declarations c o)
      ∈ all.flatMap fun c =>
        [((CollectionNames.ofCollection c o).validatorPath, Validation.declarations c o)] :=
    List.mem_flatMap.2 ⟨c, hc, List.mem_cons_self⟩
  simp only [interfaces, List.mem_append, hm, true_or, or_true]

theorem codecs_mem (o : Options) (hn : Form.needsCodecs all = true) :
    (Layout.codecsModule, Form.codecsDeclarations) ∈ interfaces all o := by
  simp [interfaces, hn]

theorem router_mem (all : List Collection) (o : Options) :
    (Layout.routerModule, Routing.routerDeclarations o) ∈ interfaces all o := by
  simp [interfaces, Routing.interfaces]

theorem authGuard_mem (all : List Collection) (ho : o.auth = true) :
    (Layout.guardsRoot ++ "/authGuard.js", Routing.guardDeclarations o) ∈ interfaces all o := by
  simp [interfaces, Routing.interfaces, ho]

theorem roleGuard_mem (all : List Collection) (ho : o.hasRoles = true) :
    (Layout.guardsRoot ++ "/roleGuard.js", Routing.guardDeclarations o) ∈ interfaces all o := by
  simp [interfaces, Routing.interfaces, ho]

/-! ## Where sources of a run lead -/

section

variable {source : String} {folder own name rest : List Char}

theorem resolve_alias (h : Collection.AreNormal all) (hs : source.toList = '@' :: '/' :: rest)
    (hp : path.toList = "src".toList ++ '/' :: rest) (hm : path ∈ paths all o) :
    resolve? (paths all o) importer source = some path :=
  Script.resolve?_eq_of_mem (Script.toText_target_of_alias hs hp (isDirect_of_mem_paths h hm)) hm

theorem resolve_beside (h : Collection.AreNormal all) (hi : importer.toList = folder ++ '/' :: name)
    (hs : source.toList = '.' :: '/' :: rest) (hp : path.toList = folder ++ '/' :: rest)
    (hn : '/' ∉ name) (him : importer ∈ paths all o) (hm : path ∈ paths all o) :
    resolve? (paths all o) importer source = some path :=
  Script.resolve?_eq_of_mem (Script.toText_target_beside hi hs hp hn (isDirect_of_mem_paths h him)
    (isDirect_of_mem_paths h hm)) hm

theorem resolve_above (h : Collection.AreNormal all)
    (hi : importer.toList = folder ++ '/' :: (own ++ '/' :: name))
    (hs : source.toList = '.' :: '.' :: '/' :: rest) (hp : path.toList = folder ++ '/' :: rest)
    (ho : '/' ∉ own) (hn : '/' ∉ name) (him : importer ∈ paths all o) (hm : path ∈ paths all o) :
    resolve? (paths all o) importer source = some path :=
  Script.resolve?_eq_of_mem (Script.toText_target_above hi hs hp ho hn
    (isDirect_of_mem_paths h him) (isDirect_of_mem_paths h hm)) hm

end

/-- The database, from anywhere. -/
theorem resolve_database (h : Collection.AreNormal all) (importer : String) :
    resolve? (paths all o) importer "@/firebase" = some Layout.databaseModule := by
  have ht : (target importer "@/firebase").toText = "src/firebase" :=
    Script.toText_target_of_alias String.toList_ofList String.toList_ofList rfl
  exact Script.resolve?_eq_of_script ht rfl (not_mem_paths_of_dot h (by decide))
    (List.mem_map_of_mem (database_mem all o))

/-- The module of form texts, from anywhere. -/
theorem resolve_codecs (h : Collection.AreNormal all) (importer : String)
    (hn : Form.needsCodecs all = true) :
    resolve? (paths all o) importer Form.codecsImport = some Layout.codecsModule := by
  have ht : (target importer "@/utils/formCodecs").toText = "src/utils/formCodecs" :=
    Script.toText_target_of_alias String.toList_ofList String.toList_ofList rfl
  exact Script.resolve?_eq_of_script ht rfl (not_mem_paths_of_dot h (by decide))
    (List.mem_map_of_mem (codecs_mem o hn))

theorem dot_not_mem {as bs : List Char} (ha : '.' ∉ as) (hb : '.' ∉ bs) : '.' ∉ as ++ '/' :: bs := by
  rw [List.mem_append, List.mem_cons, not_or, not_or]
  exact ⟨ha, by decide, hb⟩

/-- The store, from anywhere. -/
theorem resolve_store (h : Collection.AreNormal all) (importer : String) :
    resolve? (paths all o) importer (StoreNames.ofOptions o).importPath
      = some (StoreNames.ofOptions o).indexPath := by
  have hw := Name.isWord_storeName o
  have hfolder : (StoreNames.ofOptions o).folder.toList = "src".toList ++ '/' ::
      ("stores".toList ++ '/' :: (StoreNames.ofOptions o).storeName.toList) := by
    unfold StoreNames.folder Layout.storesRoot
    simp only [String.toList_append]
    repeat rw [String.toList_ofList]
    rfl
  have hsource : (StoreNames.ofOptions o).importPath.toList = '@' :: '/' ::
      ("stores".toList ++ '/' :: (StoreNames.ofOptions o).storeName.toList) := by
    unfold StoreNames.importPath
    rw [String.toList_append, String.toList_ofList]
    rfl
  have hd : isDirect (StoreNames.ofOptions o).folder.toList = true := by
    rw [hfolder, Script.isDirect_append, Script.isDirect_append,
      Script.isDirect_of_isWord hw (Name.storeName_ne_nil o)]
    rfl
  have hdot : '.' ∉ (StoreNames.ofOptions o).folder.toList := by
    rw [hfolder]
    exact dot_not_mem (by decide) (dot_not_mem (by decide) (hw.not_mem (by decide)))
  exact Script.resolve?_eq_of_index (Script.toText_target_of_alias hsource hfolder hd) rfl
    (not_mem_paths_of_dot h hdot) (store_script_not_mem_paths h)
    (List.mem_map_of_mem (index_mem all o))

/-- The validator of a collection, from anywhere. -/
theorem resolve_validator (h : Collection.AreNormal all) (importer : String) (hc : c ∈ all) :
    resolve? (paths all o) importer (CollectionNames.ofCollection c o).validatorImport
      = some (CollectionNames.ofCollection c o).validatorPath := by
  have hw := (h.each c hc).isWord_pascalName
  have hpath : (Layout.validatorsRoot ++ "/"
      ++ (CollectionNames.ofCollection c o).validatorFunction).toList = "src".toList ++ '/' ::
        ("validators".toList ++ '/' ::
          ("validate".toList ++ c.pascalName.toList)) := by
    unfold CollectionNames.validatorFunction Layout.validatorsRoot
    simp only [String.toList_append]
    repeat rw [String.toList_ofList]
    rfl
  have hsource : (CollectionNames.ofCollection c o).validatorImport.toList = '@' :: '/' ::
      ("validators".toList ++ '/' ::
        ("validate".toList ++ c.pascalName.toList)) := by
    unfold CollectionNames.validatorImport CollectionNames.validatorFunction
    simp only [String.toList_append]
    repeat rw [String.toList_ofList]
    rfl
  have hword : Name.IsWord ("validate".toList ++ c.pascalName.toList) :=
    Name.IsWord.append (Text.forall_mem_of_all (by decide)) hw
  -- the path has no empty part and no step upwards, so that resolving leaves it as it is
  have hd : isDirect (Layout.validatorsRoot ++ "/"
      ++ (CollectionNames.ofCollection c o).validatorFunction).toList = true := by
    rw [hpath, Script.isDirect_append, Script.isDirect_append,
      Script.isDirect_of_isWord hword (List.cons_ne_nil _ _)]
    rfl
  have hdot : '.' ∉ (Layout.validatorsRoot ++ "/"
      ++ (CollectionNames.ofCollection c o).validatorFunction).toList := by
    rw [hpath]
    exact dot_not_mem (by decide) (dot_not_mem (by decide) (hword.not_mem (by decide)))
  exact Script.resolve?_eq_of_script (Script.toText_target_of_alias hsource hpath hd) rfl
    (not_mem_paths_of_dot h hdot) (List.mem_map_of_mem (validator_mem o hc))

theorem toList_folder_append (s : StoreNames) (file : List Char) :
    (s.folder ++ String.ofList ('/' :: file)).toList = s.folder.toList ++ '/' :: file := by
  rw [String.toList_append, String.toList_ofList]

/-- The module that all data access shares, from the store module. -/
theorem resolve_support (h : Collection.AreNormal all) :
    resolve? (paths all o) (StoreNames.ofOptions o).indexPath "./collectionSupport.js"
      = some (StoreNames.ofOptions o).supportPath :=
  resolve_beside h (toList_folder_append _ _) String.toList_ofList (toList_folder_append _ _)
    (by decide) (List.mem_map_of_mem (index_mem all o)) (List.mem_map_of_mem (support_mem all o))

/-- The module that records activity, from the store module and from what all data access shares. -/
theorem resolve_activity (h : Collection.AreNormal all) (ho : o.activityLogging = true) :
    resolve? (paths all o) (StoreNames.ofOptions o).indexPath "./activityLogger.js"
        = some (StoreNames.ofOptions o).activityPath
      ∧ resolve? (paths all o) (StoreNames.ofOptions o).supportPath "./activityLogger.js"
        = some (StoreNames.ofOptions o).activityPath := by
  have hm := List.mem_map_of_mem (f := Prod.fst) (activity_mem all ho)
  exact ⟨resolve_beside h (toList_folder_append _ _) String.toList_ofList (toList_folder_append _ _)
      (by decide) (List.mem_map_of_mem (index_mem all o)) hm,
    resolve_beside h (toList_folder_append _ _) String.toList_ofList (toList_folder_append _ _)
      (by decide) (List.mem_map_of_mem (support_mem all o)) hm⟩

theorem toList_actionsPath (c : Collection) (o : Options) :
    (CollectionNames.ofCollection c o).actionsPath.toList
      = (StoreNames.ofOptions o).folder.toList ++ '/' ::
        ("actions".toList ++ '/' :: (c.camelName.toList ++ ".js".toList)) := by
  unfold CollectionNames.actionsPath CollectionNames.ofCollection
  simp only [String.toList_append, List.append_assoc]
  repeat rw [String.toList_ofList]
  rfl

/-- The actions of a collection, from the store module. -/
theorem resolve_actions (h : Collection.AreNormal all) (hc : c ∈ all) :
    resolve? (paths all o) (StoreNames.ofOptions o).indexPath
      (CollectionNames.ofCollection c o).actionsImport
        = some (CollectionNames.ofCollection c o).actionsPath := by
  have hsource : (CollectionNames.ofCollection c o).actionsImport.toList = '.' :: '/' ::
      ("actions".toList ++ '/' :: (c.camelName.toList ++ ".js".toList)) := by
    unfold CollectionNames.actionsImport CollectionNames.ofCollection
    simp only [String.toList_append, List.append_assoc]
    repeat rw [String.toList_ofList]
    rfl
  exact resolve_beside h (toList_folder_append _ _) hsource (toList_actionsPath c o) (by decide)
    (List.mem_map_of_mem (index_mem all o)) (List.mem_map_of_mem (actions_mem o hc))

/-- The module that all data access shares, from the actions of a collection. -/
theorem resolve_support_above (h : Collection.AreNormal all) (hc : c ∈ all) :
    resolve? (paths all o) (CollectionNames.ofCollection c o).actionsPath "../collectionSupport.js"
      = some (StoreNames.ofOptions o).supportPath := by
  have hslash : '/' ∉ c.camelName.toList ++ ".js".toList := by
    rw [List.mem_append, not_or]
    exact ⟨(h.each c hc).isWord_camelName.not_mem (by decide), by decide⟩
  exact resolve_above h (toList_actionsPath c o) String.toList_ofList (toList_folder_append _ _)
    (by decide) hslash (List.mem_map_of_mem (actions_mem o hc)) (List.mem_map_of_mem (support_mem all o))

/-- The guards, from the router. -/
theorem resolve_guards (h : Collection.AreNormal all) :
    (o.auth = true → resolve? (paths all o) Layout.routerModule "./guards/authGuard.js"
        = some (Layout.guardsRoot ++ "/authGuard.js"))
      ∧ (o.hasRoles = true → resolve? (paths all o) Layout.routerModule "./guards/roleGuard.js"
        = some (Layout.guardsRoot ++ "/roleGuard.js")) := by
  have hrouter : Layout.routerModule.toList = "src/router".toList ++ '/' :: "index.js".toList :=
    String.toList_ofList
  have hguard (file : List Char) : (Layout.guardsRoot ++ String.ofList ('/' :: file)).toList
      = "src/router".toList ++ '/' :: ("guards/".toList ++ file) := by
    rw [String.toList_append, Layout.guardsRoot, String.toList_ofList, String.toList_ofList]
    rfl
  have hm := List.mem_map_of_mem (f := Prod.fst) (router_mem all o)
  exact ⟨fun ho => resolve_beside h hrouter String.toList_ofList (hguard _) (by decide) hm
      (List.mem_map_of_mem (authGuard_mem all ho)),
    fun ho => resolve_beside h hrouter String.toList_ofList (hguard _) (by decide) hm
      (List.mem_map_of_mem (roleGuard_mem all ho))⟩

/-! ## Imports that are met -/

/-- A declaration of the module at a path has what it needs in a run: an import from the project leads to
a file of the run, and the file exports every name that is asked for. -/
def IsMet (all : List Collection) (o : Options) (importer : String) : Declaration → Prop
  | .imports names source => isLocal source = true →
    ∃ i ∈ interfaces all o, resolve? (paths all o) importer source = some i.1
      ∧ ∀ n ∈ names, Declaration.exports n ∈ i.2
  | .exports _ => True

theorem isMet_foreign {names : List String} {source : String} (hs : isLocal source = false) :
    IsMet all o importer (.imports names source) := by
  intro hl
  rw [hs] at hl
  cases hl

theorem isMet_import {names : List String} {source : String} {i : Interface}
    (hi : i ∈ interfaces all o) (hr : resolve? (paths all o) importer source = some i.1)
    (hn : ∀ n ∈ names, Declaration.exports n ∈ i.2) :
    IsMet all o importer (.imports names source) :=
  fun _ => ⟨i, hi, hr, hn⟩

/-! ### Data access -/

theorem isMet_database (importer : String) :
    ∀ d ∈ Access.databaseDeclarations o, IsMet all o importer d := by
  intro d hd
  simp only [Access.databaseDeclarations, List.mem_append, List.mem_cons, List.mem_ite_nil_right,
    List.not_mem_nil, or_false] at hd
  rcases hd with (((rfl | rfl) | ⟨-, rfl⟩) | rfl | rfl) | ⟨-, rfl⟩
  all_goals first | exact trivial | exact isMet_foreign rfl

theorem exports_db (o : Options) : ∀ n ∈ ["db"], Declaration.exports n ∈ Access.databaseDeclarations o := by
  simp [Access.databaseDeclarations]

theorem exports_auth (ho : o.auth = true) :
    ∀ n ∈ ["auth"], Declaration.exports n ∈ Access.databaseDeclarations o := by
  simp [Access.databaseDeclarations, ho]

theorem exports_logActivity :
    ∀ n ∈ ["logActivity"], Declaration.exports n ∈ Access.activityDeclarations := by
  decide

theorem exports_listener : ∀ n ∈ ["initRecentActivityListener", "cleanupActivityListener"],
    Declaration.exports n ∈ Access.activityDeclarations := by
  decide

theorem isMet_support (h : Collection.AreNormal all) :
    ∀ d ∈ Access.supportDeclarations o, IsMet all o (StoreNames.ofOptions o).supportPath d := by
  intro d hd
  simp only [Access.supportDeclarations, List.mem_append, List.mem_cons, List.mem_ite_nil_right,
    List.not_mem_nil, or_false] at hd
  rcases hd with ((((rfl | ⟨ho, rfl⟩) | rfl) | ⟨-, rfl⟩) | rfl | rfl | rfl | rfl | rfl | rfl | rfl
    | rfl | rfl) | ⟨-, rfl⟩
  case inl.inl.inl.inl.inr =>
    exact isMet_import (activity_mem all ho) (resolve_activity h ho).2 exports_logActivity
  all_goals first | exact trivial | exact isMet_foreign rfl

theorem isMet_activity (h : Collection.AreNormal all) (importer : String) :
    ∀ d ∈ Access.activityDeclarations, IsMet all o importer d := by
  unfold Access.activityDeclarations
  rw [List.forall_mem_cons, List.forall_mem_cons]
  refine ⟨isMet_foreign rfl,
    isMet_import (database_mem all o) (resolve_database h importer) (exports_db o), ?_⟩
  simp [IsMet]

/-- What the actions of a collection import from what all data access shares. -/
theorem exports_support (c : Collection) (o : Options) :
    ∀ n ∈ ["ok", "fail", "buildFilterConstraints", "buildSortConstraints"]
      ++ (if c.isRoleGated o then ["requireRole"] else [])
      ++ (if o.activityLogging then ["recordActivity"] else []) ++ ["stampCreated", "stampUpdated"],
      Declaration.exports n ∈ Access.supportDeclarations o := by
  intro n hn
  simp only [List.mem_append, List.mem_cons, List.mem_ite_nil_right, List.not_mem_nil,
    or_false] at hn
  rcases hn with (((rfl | rfl | rfl | rfl) | ⟨-, rfl⟩) | ⟨ho, rfl⟩) | rfl | rfl
  case inl.inr => simp [Access.supportDeclarations, ho]
  all_goals simp [Access.supportDeclarations]

theorem isMet_actions (h : Collection.AreNormal all) (hc : c ∈ all) :
    ∀ d ∈ Access.actionsDeclarations c o,
      IsMet all o (CollectionNames.ofCollection c o).actionsPath d := by
  unfold Access.actionsDeclarations
  rw [List.forall_mem_cons, List.forall_mem_cons, List.forall_mem_cons]
  refine ⟨isMet_foreign rfl,
    isMet_import (database_mem all o) (resolve_database h _) (exports_db o),
    isMet_import (support_mem all o) (resolve_support_above h hc) (exports_support c o), ?_⟩
  simp [IsMet]

/-! ### The store -/

/-- What the store module imports from what all data access shares. -/
theorem exports_kinds (o : Options) :
    ∀ n ∈ (if o.auth then ["ok"] else []) ++ ["ErrorKind"] ++ (if o.hasRoles then ["ROLES"] else []),
      Declaration.exports n ∈ Access.supportDeclarations o := by
  intro n hn
  simp only [List.mem_append, List.mem_cons, List.mem_ite_nil_right, List.not_mem_nil,
    or_false] at hn
  rcases hn with (⟨-, rfl⟩ | rfl) | ⟨ho, rfl⟩
  case inr => simp [Access.supportDeclarations, ho]
  all_goals simp [Access.supportDeclarations]

theorem isMet_store (h : Collection.AreNormal all) :
    ∀ d ∈ Store.declarations all o, IsMet all o (StoreNames.ofOptions o).indexPath d := by
  intro d hd
  simp only [Store.declarations, List.mem_append, List.mem_cons, List.mem_ite_nil_right,
    List.not_mem_nil, or_false, List.mem_map] at hd
  rcases hd with (((((rfl | rfl) | ⟨ho, rfl | rfl⟩) | rfl) | ⟨ho, rfl⟩) | ⟨c, hc, rfl⟩) | rfl
  case inl.inl.inl.inl.inr.inr =>
    exact isMet_import (database_mem all o) (resolve_database h _) (exports_auth ho)
  case inl.inl.inl.inr =>
    exact isMet_import (support_mem all o) (resolve_support h) (exports_kinds o)
  case inl.inl.inr =>
    exact isMet_import (activity_mem all ho) (resolve_activity h ho).1 exports_listener
  case inl.inr =>
    refine isMet_import (actions_mem o hc) (resolve_actions h hc) fun n hn => ?_
    rw [List.mem_singleton.1 hn]
    simp [Access.actionsDeclarations]
  all_goals first | exact trivial | exact isMet_foreign rfl

theorem isMet_hook (h : Collection.AreNormal all) (importer : String) :
    IsMet all o importer
      (.imports [(StoreNames.ofOptions o).hook] (StoreNames.ofOptions o).importPath) := by
  refine isMet_import (index_mem all o) (resolve_store h importer) fun n hn => ?_
  rw [List.mem_singleton.1 hn]
  simp [Store.declarations]

/-! ### Validation and views -/

theorem isMet_validator (importer : String) :
    ∀ d ∈ Validation.declarations c o, IsMet all o importer d := by
  intro d hd
  simp only [Validation.declarations, List.mem_append, List.mem_cons, List.mem_ite_nil_left,
    List.not_mem_nil, or_false] at hd
  rcases hd with ⟨-, rfl⟩ | rfl
  · exact isMet_foreign rfl
  · exact trivial

/-- A view needs the module of form texts only if it is made, and what it needs is exported there. -/
theorem isMet_importedModules (h : Collection.AreNormal all) (hc : c ∈ all) (importer : String)
    {codecs : List String} (hs : ∀ s ∈ codecs, s ∈ editImports c.formFields) :
    ∀ d ∈ Form.importedModules c o codecs, IsMet all o importer d := by
  intro d hd
  simp only [Form.importedModules, List.mem_append, List.mem_cons, List.mem_ite_nil_right,
    List.not_mem_nil, or_false] at hd
  rcases hd with rfl | rfl | ⟨hne, rfl⟩
  · exact isMet_hook h importer
  · refine isMet_import (validator_mem o hc) (resolve_validator h importer hc) fun n hn => ?_
    rw [List.mem_singleton.1 hn]
    simp [Validation.declarations]
  · have hneeds : Form.needsCodecs all = true := by
      rw [Bool.not_eq_true', List.isEmpty_eq_false_iff] at hne
      obtain ⟨s, hs'⟩ := List.exists_mem_of_ne_nil _ hne
      refine List.any_eq_true.2 ⟨c, hc, ?_⟩
      rw [Bool.not_eq_true', List.isEmpty_eq_false_iff]
      exact List.ne_nil_of_mem (hs s hs')
    refine isMet_import (codecs_mem o hneeds) (resolve_codecs h importer hneeds) fun n hn => ?_
    have hall : ∀ n ∈ Form.codecNames, Declaration.exports n ∈ Form.codecsDeclarations := by decide
    exact hall n (Form.mem_codecNames_of_editImports (hs n hn))

theorem isMet_views (h : Collection.AreNormal all) (hc : c ∈ all) (importer : String) :
    (∀ d ∈ Form.createDeclarations c o, IsMet all o importer d)
      ∧ ∀ d ∈ Form.editDeclarations c o, IsMet all o importer d := by
  unfold Form.createDeclarations Form.editDeclarations
  simp only [List.forall_mem_append, List.forall_mem_cons]
  exact ⟨⟨⟨isMet_foreign rfl, isMet_foreign rfl, fun d hd => absurd hd List.not_mem_nil⟩,
      isMet_importedModules h hc importer fun s hs => Form.mem_editImports_of_createImports hs⟩,
    ⟨isMet_foreign rfl, isMet_foreign rfl, fun d hd => absurd hd List.not_mem_nil⟩,
    isMet_importedModules h hc importer fun s hs => hs⟩

/-! ### Routing -/

theorem isMet_guard (h : Collection.AreNormal all) (importer : String) :
    ∀ d ∈ Routing.guardDeclarations o, IsMet all o importer d := by
  unfold Routing.guardDeclarations
  rw [List.forall_mem_append, List.forall_mem_singleton, List.append_nil, List.forall_mem_singleton]
  exact ⟨isMet_hook h importer, trivial⟩

theorem exports_guard (o : Options) :
    ∀ n ∈ ["default"], Declaration.exports n ∈ Routing.guardDeclarations o := by
  simp [Routing.guardDeclarations]

theorem isMet_router (h : Collection.AreNormal all) :
    ∀ d ∈ Routing.routerDeclarations o, IsMet all o Layout.routerModule d := by
  intro d hd
  simp only [Routing.routerDeclarations, List.mem_append, List.mem_cons, List.mem_ite_nil_right,
    List.not_mem_nil, or_false] at hd
  rcases hd with rfl | ⟨ho, rfl⟩ | ⟨ho, rfl⟩ | rfl
  · exact isMet_foreign rfl
  · exact isMet_import (authGuard_mem all ho) ((resolve_guards h).1 ho) (exports_guard o)
  · exact isMet_import (roleGuard_mem all ho) ((resolve_guards h).2 ho) (exports_guard o)
  · exact trivial

/-! ### A whole run -/

/-- Every import of every interface of a run is met. -/
theorem isMet_of_mem_interfaces (h : Collection.AreNormal all) {i : Interface}
    (hi : i ∈ interfaces all o) : ∀ d ∈ i.2, IsMet all o i.1 d := by
  simp only [interfaces, Routing.interfaces, List.mem_append, List.mem_cons, List.mem_flatMap,
    List.mem_map, List.mem_ite_nil_right, List.not_mem_nil, or_false] at hi
  rcases hi with ((((((rfl | rfl) | ⟨-, rfl⟩) | ⟨c, hc, rfl⟩) | rfl) | ⟨c, hc, rfl⟩)
    | ⟨-, rfl⟩ | ⟨c, hc, rfl | rfl⟩) | ((rfl | ⟨-, rfl⟩) | ⟨-, rfl⟩) | ⟨v, -, rfl⟩
  · exact isMet_database _
  · exact isMet_support h
  · exact isMet_activity h _
  · exact isMet_actions h hc
  · exact isMet_store h
  · exact isMet_validator _
  · simp [Form.codecsDeclarations, IsMet]
  · exact (isMet_views h hc _).1
  · exact (isMet_views h hc _).2
  · exact isMet_router h
  · exact isMet_guard h _
  · exact isMet_guard h _
  · exact fun d hd => absurd hd List.not_mem_nil

/-! ## Files of a run -/

/-- A file that is a component, also by its ending. -/
def isComponentFile (f : Artifact) : Bool :=
  ".vue".toList.isSuffixOf f.path.toList && Script.isComponent f.content

/-- A file gives a name to the modules that import it: it exports the name, or it is a component and
the name is that of the default. -/
def Gives (f : Artifact) (name : String) : Prop :=
  Declaration.exports name ∈ Script.declarations f.content
    ∨ name = "default" ∧ isComponentFile f = true

/-- A source leads from the path of a module to one of the files, and the file gives all names. -/
def IsProvided (files : List Artifact) (importer source : String) (names : List String) : Prop :=
  ∃ g ∈ files, resolve? (files.map Artifact.path) importer source = some g.path
    ∧ ∀ n ∈ names, Gives g n

variable {files : List Artifact}

/-- The interface of a run is that of its files. -/
theorem interfaces_eq_map (h : ∀ c ∈ all, c.IsNormal) (hc : catalogue all o = files.map Except.ok) :
    interfaces all o = files.map fun f => (f.path, Script.declarations f.content) := by
  have hm := meets_catalogue h o
  rw [hc, List.forall₂_map_left_iff] at hm
  rw [eq_comm, ← List.forall₂_eq_eq_eq, List.forall₂_map_left_iff]
  refine hm.imp fun f i hi => ?_
  obtain ⟨g, hg, hp, hd⟩ := hi
  cases hg
  exact Prod.ext hp hd

theorem exists_file_of_mem (hc : catalogue all o = files.map Except.ok)
    {r : Except RenderFault Artifact} (hr : r ∈ catalogue all o) : ∃ f ∈ files, r = .ok f := by
  rw [hc] at hr
  obtain ⟨f, hf, rfl⟩ := List.mem_map.1 hr
  exact ⟨f, hf, rfl⟩

theorem isProvided_of_declaration (h : Collection.AreNormal all)
    (hc : catalogue all o = files.map Except.ok) {f : Artifact} (hf : f ∈ files) {names : List String}
    {source : String} (hd : Declaration.imports names source ∈ Script.declarations f.content)
    (hl : isLocal source = true) : IsProvided files f.path source names := by
  have hi := interfaces_eq_map h.each hc
  have hm : (f.path, Script.declarations f.content) ∈ interfaces all o := by
    rw [hi]
    exact List.mem_map_of_mem hf
  obtain ⟨i, him, hr, hn⟩ := isMet_of_mem_interfaces h hm _ hd hl
  have hp : paths all o = files.map Artifact.path := by
    rw [paths, ← map_path_eq hc]
  rw [hi] at him
  obtain ⟨g, hg, rfl⟩ := List.mem_map.1 him
  rw [hp] at hr
  exact ⟨g, hg, hr, fun n hm => .inl (hn n hm)⟩

/-! ### The views that the router asks for -/

/-- A view is provided to the router if it is made as a component at the path that its source leads
to. -/
theorem isProvided_view (h : Collection.AreNormal all) (hc : catalogue all o = files.map Except.ok)
    {r : Except RenderFault Artifact} {t : Template}
    {values : List (String × Value)} {source : String} (rest : List Char)
    (hr : r ∈ catalogue all o) (he : r = Artifact.ofTemplate path t values)
    (ht : t.MakesComponent) (hp : path.toList = "src".toList ++ '/' :: rest)
    (hs : source.toList = '@' :: '/' :: rest) (hv : ".vue".toList <:+ rest) :
    IsProvided files Layout.routerModule source ["default"] := by
  obtain ⟨g, hg, hr⟩ := exists_file_of_mem hc hr
  rw [he] at hr
  have hgp := Artifact.path_of_ofTemplate hr
  have hpaths : paths all o = files.map Artifact.path := by
    rw [paths, ← map_path_eq hc]
  have hm : path ∈ paths all o := by
    rw [hpaths, ← hgp]
    exact List.mem_map_of_mem hg
  refine ⟨g, hg, ?_, fun n hn => .inr ⟨List.mem_singleton.1 hn, ?_⟩⟩
  · rw [← hpaths, hgp]
    exact resolve_alias h hs hp hm
  · rw [isComponentFile, hgp, hp, Artifact.isComponent_ofTemplate ht hr, Bool.and_true,
      List.isSuffixOf_iff_suffix]
    exact hv.trans ((List.suffix_cons _ _).trans (List.suffix_append _ _))

/-- A route to a view asks for the view that is put there, and the file of the view is a component. -/
theorem view_of_mem_viewRoutes {e : Route × PlaceholderView} (he : e ∈ RouteTable.viewRoutes o) :
    e.1.view = some e.2.importPath ∧ ".vue".toList <:+ e.2.file.toList := by
  have hauth : ∀ v ∈ RouteTable.authViews, ".vue".toList <:+ v.file.toList := by
    unfold RouteTable.authViews
    decide
  have hadmin : ∀ v ∈ RouteTable.adminViews, ".vue".toList <:+ v.file.toList := by
    unfold RouteTable.adminViews
    decide
  unfold RouteTable.viewRoutes at he
  simp only [List.mem_append, List.mem_cons, List.mem_ite_nil_right, List.mem_map, List.not_mem_nil,
    or_false] at he
  rcases he with (rfl | ⟨-, v, hv, rfl⟩) | ⟨-, v, hv, rfl⟩
  · unfold RouteTable.startRoute
    split
    · exact ⟨rfl, by decide⟩
    · have hv : ".vue".toList <:+ "HomeView.vue".toList := by decide
      exact ⟨rfl, hv⟩
  · exact ⟨rfl, hauth v hv⟩
  · exact ⟨rfl, hadmin v hv⟩

theorem isProvided_placeholder (h : Collection.AreNormal all)
    (hc : catalogue all o = files.map Except.ok) {e : Route × PlaceholderView}
    (he : e ∈ RouteTable.viewRoutes o) :
    IsProvided files Layout.routerModule e.2.importPath ["default"] := by
  have hm : Routing.placeholderFile e.2 ∈ catalogue all o := by
    have hp : Routing.placeholderFile e.2
        ∈ (RouteTable.assemble all o).placeholders.map Routing.placeholderFile :=
      List.mem_map_of_mem (List.mem_map_of_mem he)
    simp only [catalogue, Routing.tableFiles, List.mem_append, hp, or_true]
  refine isProvided_view h hc ("views".toList ++ '/' :: e.2.file.toList) hm rfl
    Routing.makesComponent_placeholder ?_ ?_ ?_
  · rw [PlaceholderView.path, Layout.viewsRoot, String.toList_append, String.toList_append]
    repeat rw [String.toList_ofList]
    rfl
  · rw [PlaceholderView.importPath, String.toList_append, String.toList_ofList]
    rfl
  · exact (view_of_mem_viewRoutes he).2.trans
      ((List.suffix_cons _ _).trans (List.suffix_append _ _))

theorem isProvided_collectionViews (h : Collection.AreNormal all)
    (hc : catalogue all o = files.map Except.ok) (hm : c ∈ all) :
    IsProvided files Layout.routerModule (CollectionNames.ofCollection c o).createViewImport ["default"]
      ∧ IsProvided files Layout.routerModule (CollectionNames.ofCollection c o).editViewImport
        ["default"] := by
  have hforms (r) (hr : r ∈ [Form.createFile c o, Form.editFile c o]) : r ∈ catalogue all o := by
    have hf : r ∈ all.flatMap fun c => [Form.createFile c o, Form.editFile c o] :=
      List.mem_flatMap.2 ⟨c, hm, hr⟩
    simp only [catalogue, List.mem_append, hf, true_or, or_true]
  -- both views are at the same place but for the name of the file
  have view {file : List Char} {t : Template} {values : List (String × Value)}
      (hr : Artifact.ofTemplate ((CollectionNames.ofCollection c o).viewsFolder
        ++ String.ofList ('/' :: file)) t values ∈ catalogue all o) (ht : t.MakesComponent)
      (hv : ".vue".toList <:+ file) :
      IsProvided files Layout.routerModule
        ("@/views/" ++ (CollectionNames.ofCollection c o).camel ++ String.ofList ('/' :: file))
        ["default"] := by
    refine isProvided_view h hc ("views".toList ++ '/' ::
      ((CollectionNames.ofCollection c o).camel.toList ++ '/' :: file)) hr rfl ht ?_ ?_ ?_
    · unfold CollectionNames.viewsFolder Layout.viewsRoot
      simp only [String.toList_append]
      repeat rw [String.toList_ofList]
      simp only [List.cons_append, List.nil_append]
    · simp only [String.toList_append]
      repeat rw [String.toList_ofList]
      simp only [List.cons_append, List.nil_append]
    · exact hv.trans ((List.suffix_cons _ _).trans ((List.suffix_append _ _).trans
        ((List.suffix_cons _ _).trans (List.suffix_append _ _))))
  exact ⟨view (hforms _ List.mem_cons_self) Form.makesComponent_views.1 (by decide),
    view (hforms _ (List.mem_cons_of_mem _ List.mem_cons_self)) Form.makesComponent_views.2
      (by decide)⟩

/-- Every view that the router asks for is provided. -/
theorem isProvided_of_route (h : Collection.AreNormal all)
    (hc : catalogue all o = files.map Except.ok) {r : Route}
    (hr : r ∈ (RouteTable.assemble all o).routes) {source : String} (hs : r.view = some source) :
    IsProvided files Layout.routerModule source ["default"] := by
  unfold RouteTable.assemble at hr
  simp only [List.mem_append, List.mem_map, List.mem_flatMap, List.mem_singleton] at hr
  rcases hr with (⟨e, he, rfl⟩ | ⟨c, hm, hr⟩) | rfl
  · rw [(view_of_mem_viewRoutes he).1] at hs
    cases hs
    exact isProvided_placeholder h hc he
  · rcases List.mem_cons.1 hr with rfl | hr
    · cases hs
      exact (isProvided_collectionViews h hc hm).1
    · rw [List.mem_singleton.1 hr] at hs
      cases hs
      exact (isProvided_collectionViews h hc hm).2
  · cases hs

theorem isProvided_of_call (h : Collection.AreNormal all)
    (hc : catalogue all o = files.map Except.ok) (hn : (files.map Artifact.path).Nodup) {f : Artifact}
    (hf : f ∈ files) (hp : f.path = Layout.routerModule) {source : String}
    (hs : source ∈ Script.calls f.content) : IsProvided files f.path source ["default"] := by
  have hm : Routing.routerFile (RouteTable.assemble all o) o ∈ catalogue all o := by
    simp [catalogue, Routing.tableFiles]
  obtain ⟨g, hg, hr⟩ := exists_file_of_mem hc hm
  have hgp : g.path = Layout.routerModule := atPath_routerFile _ o g hr
  have he : f = g := List.inj_on_of_nodup_map hn hf hg (hp.trans hgp.symm)
  have hall := RouteTable.isPlain_assemble h.each o
  rw [he, Routing.calls_routerFile hall hr, List.mem_flatMap] at hs
  obtain ⟨r, hr, hs⟩ := hs
  rw [hp]
  exact isProvided_of_route h hc hr (Option.mem_toList.1 hs)

/-- In every run that succeeds, whatever a file imports from the project is given by a file of the run:
each import of a module leads to a file that exports all the names, and each view that the router asks
for while it runs is a component. -/
theorem imports_are_provided {identity : List String} {raw : Value} {notes : List Note}
    (hr : Intake.read identity raw = (notes, .ok all)) (hf : assemble stages all o = .ok files) :
    ∀ f ∈ files,
      (∀ names source, Declaration.imports names source ∈ Script.declarations f.content →
        isLocal source = true → IsProvided files f.path source names)
      ∧ (f.path = Layout.routerModule →
        ∀ source ∈ Script.calls f.content, IsProvided files f.path source ["default"]) := by
  have h := Intake.areNormal_of_read hr
  obtain ⟨hc, -, -, hn⟩ := assemble_eq_ok_iff.1 hf
  exact fun f hm => ⟨fun names source hd hl => isProvided_of_declaration h hc hm hd hl,
    fun hp source hs => isProvided_of_call h hc hn hm hp hs⟩

/-- Users with roles and notes with tags: all views that the router asks for are given to it, and so are
the database and the store to whatever imports them. -/
theorem imports_of_users_and_notes :
    let raw : Value := .list [Intake.declaration "user" [("roles", "array")],
      Intake.declaration "field notes" [("tags", "array"), ("due", "date")]]
    let o : Options := { auth := true, activityLogging := true, authViews := true, roles := ["editor"] }
    ∃ notes all files, Intake.read [] raw = (notes, .ok all) ∧ assemble stages all o = .ok files
      ∧ ∀ f ∈ files,
        (Declaration.imports ["db"] "@/firebase" ∈ Script.declarations f.content →
          IsProvided files f.path "@/firebase" ["db"])
        ∧ (f.path = Layout.routerModule →
          ∀ source ∈ Script.calls f.content, IsProvided files f.path source ["default"]) := by
  intro raw o
  let users : Collection := {
    name := "user", camelName := "user", pascalName := "User", fields := [⟨"roles", .list, "array"⟩] }
  let notes : Collection := {
    name := "field notes", camelName := "fieldNotes", pascalName := "FieldNotes",
    fields := [⟨"tags", .list, "array"⟩, ⟨"due", .text, "date"⟩] }
  have hr : Intake.read [] raw = (_, .ok [users, notes]) :=
    Intake.read_eq_of_toOption (by decide +kernel)
  obtain ⟨files, hf⟩ := assemble_of_nodup (o := o) (Intake.areNormal_of_read hr) (by decide +kernel)
  refine ⟨_, _, files, hr, hf, fun f hm => ⟨fun hd => ?_, (imports_are_provided hr hf f hm).2⟩⟩
  exact (imports_are_provided hr hf f hm).1 _ _ hd rfl

end Scaffold.Assembly
