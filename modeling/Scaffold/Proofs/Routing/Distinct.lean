import Mathlib.Data.List.Nodup
import Scaffold.Proofs.Collection.Normal
import Scaffold.Proofs.Text.Parts
import Scaffold.Routing.Table

/-!
# Distinct routes

The paths of the routes of normal collections are all different, under all options, and so are their
names: no fixed route ends as the routes of a collection do, and collections whose routes agree have one
key.
-/

namespace Scaffold.RouteTable

/-! ## Two texts for each collection -/

/-- Fixed texts and two texts for each collection are all different if the texts of a collection tell
its key, are never the same, and are no fixed texts. -/
theorem nodup_append_flatMap {all : List Collection} {key : Collection → String}
    (hk : (all.map key).Nodup) {fixed : List String} (hf : fixed.Nodup) {first second : Collection → String}
    (hfirst : ∀ c, first c ∉ fixed) (hsecond : ∀ c, second c ∉ fixed)
    (hne : ∀ c d, first c ≠ second d)
    (hc : ∀ c ∈ all, ∀ d ∈ all, first c = first d → key c = key d)
    (hd : ∀ c ∈ all, ∀ d ∈ all, second c = second d → key c = key d) :
    (fixed ++ all.flatMap fun c => [first c, second c]).Nodup := by
  rw [List.nodup_append]
  refine ⟨hf, ?_, ?_⟩
  · unfold List.Nodup at hk ⊢
    rw [List.pairwise_map] at hk
    rw [List.pairwise_flatMap]
    refine ⟨fun c _ => ?_, List.Pairwise.imp_of_mem (fun {c d} hm hm' hkey s hs t ht => ?_) hk⟩
    · exact List.pairwise_pair.2 (hne c c)
    · rintro rfl
      simp only [List.mem_cons, List.not_mem_nil, or_false] at hs ht
      rcases hs with rfl | rfl <;> rcases ht with ht | ht
      · exact hkey (hc c hm d hm' ht)
      · exact hne c d ht
      · exact hne d c ht.symm
      · exact hkey (hd c hm d hm' ht)
  · rintro s hs t ht rfl
    obtain ⟨c, -, hm⟩ := List.mem_flatMap.1 ht
    simp only [List.mem_cons, List.not_mem_nil, or_false] at hm
    rcases hm with rfl | rfl
    · exact hfirst c hs
    · exact hsecond c hs

/-- Collections whose Pascal spellings agree have one key. -/
theorem collisionKey_eq_of_pascalName_eq {c d : Collection} (hc : c.IsNormal) (hd : d.IsNormal)
    (h : c.pascalName = d.pascalName) :
    Intake.collisionKey c.camelName = Intake.collisionKey d.camelName := by
  have hm : c.camelName.toList.map Text.lowerAscii = d.camelName.toList.map Text.lowerAscii := by
    rw [← Name.map_lowerAscii_capitalize c.camelName.toList, ← hc.pascalName_eq_capitalize, h,
      hd.pascalName_eq_capitalize, Name.map_lowerAscii_capitalize]
  unfold Intake.collisionKey
  rw [hm]

/-! ## Paths -/

/-- All paths of fixed routes, of which options take some. -/
def fixedPaths : List String :=
  [catchAllPath, startPath] ++ authViews.map RoutedView.path ++ adminViews.map RoutedView.path

theorem viewRoutes_paths (o : Options) :
    ((viewRoutes o).map fun e => e.1.path) =
      [startPath] ++ (if o.authRoutes then authViews.map RoutedView.path else [])
        ++ if o.admin then adminViews.map RoutedView.path else [] := by
  have hstart : (startRoute o).1.path = startPath := by
    unfold startRoute
    split <;> rfl
  unfold viewRoutes
  dsimp only
  rw [List.map_append, List.map_append, List.map_singleton, hstart]
  split <;> split <;> rfl

theorem nodup_fixedPaths : fixedPaths.Nodup := by
  apply Text.Spells.nodup
  · repeat constructor
  · decide

/-- A text with an ending that no fixed text has is not among the fixed texts. -/
theorem not_mem_of_suffix {ending : List Char} {s : String} (hs : ending <:+ s.toList)
    {ls : List String} {css : List (List Char)} (h : Text.Spells ls css)
    (he : ∀ cs ∈ css, ¬ ending <:+ cs) : s ∉ ls :=
  fun hm => h.forall_mem he s hm hs

theorem suffix_createRoutePath (n : CollectionNames) :
    "/create".toList <:+ n.createRoutePath.toList := by
  unfold CollectionNames.createRoutePath
  rw [String.toList_append]
  exact List.suffix_append _ _

theorem suffix_editRoutePath (n : CollectionNames) :
    "/edit/:id".toList <:+ n.editRoutePath.toList := by
  unfold CollectionNames.editRoutePath
  rw [String.toList_append]
  exact List.suffix_append _ _

theorem createRoutePath_not_mem (n : CollectionNames) : n.createRoutePath ∉ fixedPaths := by
  apply not_mem_of_suffix (suffix_createRoutePath n)
  · repeat constructor
  · decide

theorem editRoutePath_not_mem (n : CollectionNames) : n.editRoutePath ∉ fixedPaths := by
  apply not_mem_of_suffix (suffix_editRoutePath n)
  · repeat constructor
  · decide

/-- Texts whose endings end differently are different. -/
theorem ne_of_suffix {ending other : List Char} {s t : String} (hs : ending <:+ s.toList)
    (ht : other <:+ t.toList) (h : ending.getLast? ≠ other.getLast?) (he : ending ≠ [])
    (ho : other ≠ []) : s ≠ t := by
  rintro rfl
  obtain ⟨a, ha⟩ := hs
  obtain ⟨b, hb⟩ := ht
  apply h
  rw [← List.getLast?_append_of_ne_nil a he, ← List.getLast?_append_of_ne_nil b ho, ha, hb]

theorem createRoutePath_ne (n m : CollectionNames) : n.createRoutePath ≠ m.editRoutePath :=
  ne_of_suffix (suffix_createRoutePath n) (suffix_editRoutePath m) (by decide) (by decide)
    (by decide)

/-- Texts with one beginning and one end are the same if they are the same between. -/
theorem eq_of_between {a b s t : String} (h : a ++ s ++ b = a ++ t ++ b) : s = t := by
  have hl := congrArg String.toList h
  simp only [String.toList_append] at hl
  exact String.toList_inj.1 (List.append_cancel_left (List.append_cancel_right hl))

/-- The fixed paths of a table are among all fixed paths. -/
theorem sublist_fixedPaths (o : Options) :
    (catchAllPath :: (viewRoutes o).map fun e => e.1.path).Sublist fixedPaths := by
  have keep (b : Bool) (l : List String) : (if b then l else []).Sublist l := by
    cases b
    · exact List.nil_sublist l
    · exact List.Sublist.refl l
  rw [viewRoutes_paths]
  exact (((List.Sublist.refl [startPath]).append (keep _ _)).append (keep _ _)).cons_cons _

/-- The paths of a table of normal collections are all different. -/
theorem nodup_paths {all : List Collection} (hall : Collection.AreNormal all) (o : Options) :
    (assemble all o).paths.Nodup := by
  have hp : (assemble all o).paths =
      ((viewRoutes o).map fun e => e.1.path) ++ (all.flatMap fun c =>
        let n := CollectionNames.ofCollection c o
        [n.createRoutePath, n.editRoutePath]) ++ [catchAllPath] := by
    unfold paths assemble
    simp only [List.map_append, List.map_map, List.map_flatMap]
    rfl
  rw [hp, (List.perm_append_singleton _ _).nodup_iff, ← List.cons_append]
  apply nodup_append_flatMap hall.keys_nodup ((sublist_fixedPaths o).nodup nodup_fixedPaths)
  · exact fun c hm => createRoutePath_not_mem _ ((sublist_fixedPaths o).mem hm)
  · exact fun c hm => editRoutePath_not_mem _ ((sublist_fixedPaths o).mem hm)
  · exact fun c d => createRoutePath_ne _ _
  · intro c _ d _ h
    exact congrArg Intake.collisionKey (eq_of_between h)
  · intro c _ d _ h
    exact congrArg Intake.collisionKey (eq_of_between h)

/-! ## Names -/

/-- All names of fixed routes, of which options take some. -/
def fixedNames : List String :=
  ["Landing", "Home"] ++ authViews.map RoutedView.name ++ adminViews.map RoutedView.name

theorem nodup_fixedNames : fixedNames.Nodup := by
  apply Text.Spells.nodup
  · repeat constructor
  · decide

theorem sublist_fixedNames (o : Options) :
    ((viewRoutes o).filterMap fun e => e.1.name).Sublist fixedNames := by
  have keep (b : Bool) {l : List (Route × PlaceholderView)} {names : List String}
      (hl : l.filterMap (fun e => e.1.name) = names) :
      ((if b then l else []).filterMap fun e => e.1.name).Sublist names := by
    subst hl
    cases b
    · exact List.nil_sublist _
    · exact List.Sublist.refl _
  have hstart : ([startRoute o].filterMap fun e => e.1.name).Sublist ["Landing", "Home"] := by
    unfold startRoute
    split
    · exact (List.nil_sublist _).cons_cons _
    · exact (List.Sublist.refl _).cons _
  unfold viewRoutes fixedNames
  dsimp only
  rw [List.filterMap_append, List.filterMap_append]
  exact (hstart.append (keep _ rfl)).append (keep _ rfl)

theorem suffix_createRouteName (n : CollectionNames) :
    "Create".toList <:+ n.createRouteName.toList := by
  unfold CollectionNames.createRouteName
  rw [String.toList_append]
  exact List.suffix_append _ _

theorem suffix_editRouteName (n : CollectionNames) :
    "Edit".toList <:+ n.editRouteName.toList := by
  unfold CollectionNames.editRouteName
  rw [String.toList_append]
  exact List.suffix_append _ _

theorem createRouteName_not_mem (n : CollectionNames) : n.createRouteName ∉ fixedNames := by
  apply not_mem_of_suffix (suffix_createRouteName n)
  · repeat constructor
  · decide

theorem editRouteName_not_mem (n : CollectionNames) : n.editRouteName ∉ fixedNames := by
  apply not_mem_of_suffix (suffix_editRouteName n)
  · repeat constructor
  · decide

theorem createRouteName_ne (n m : CollectionNames) : n.createRouteName ≠ m.editRouteName :=
  ne_of_suffix (suffix_createRouteName n) (suffix_editRouteName m) (by decide) (by decide)
    (by decide)

/-- The names of a table of normal collections are all different. -/
theorem nodup_names {all : List Collection} (hall : Collection.AreNormal all) (o : Options) :
    (assemble all o).names.Nodup := by
  have hp : (assemble all o).routes.filterMap Route.name =
      ((viewRoutes o).filterMap fun e => e.1.name) ++ (all.flatMap fun c =>
        let n := CollectionNames.ofCollection c o
        [n.createRouteName, n.editRouteName]) := by
    unfold assemble
    simp only [List.filterMap_append, List.filterMap_map, List.filterMap_flatMap]
    exact List.append_nil _
  unfold names
  rw [← List.filter_filterMap, hp]
  apply List.Nodup.filter
  apply nodup_append_flatMap hall.keys_nodup ((sublist_fixedNames o).nodup nodup_fixedNames)
  · exact fun c hm => createRouteName_not_mem _ ((sublist_fixedNames o).mem hm)
  · exact fun c hm => editRouteName_not_mem _ ((sublist_fixedNames o).mem hm)
  · exact fun c d => createRouteName_ne _ _
  · intro c hc d hd h
    exact collisionKey_eq_of_pascalName_eq (hall.each c hc) (hall.each d hd)
      ((String.append_left_inj _).1 h)
  · intro c hc d hd h
    exact collisionKey_eq_of_pascalName_eq (hall.each c hc) (hall.each d hd)
      ((String.append_left_inj _).1 h)

/-! ## The table -/

/-- Normal collections have a table. -/
theorem ofCollections_eq_ok {all : List Collection} (hall : Collection.AreNormal all)
    (o : Options) : ofCollections all o = .ok (assemble all o) := by
  unfold ofCollections
  dsimp only
  rw [Text.firstRepeated_eq_none_iff.2 ⟨nodup_paths hall o, fun _ _ => List.not_mem_nil⟩,
    Text.firstRepeated_eq_none_iff.2 ⟨nodup_names hall o, fun _ _ => List.not_mem_nil⟩]

end Scaffold.RouteTable
