import Scaffold.Proofs.Assembly.Catalogue
import Scaffold.Proofs.Layout.Place

/-!
# Where the files of a run go

The places of all files of a run in their order. They are all different, so no file of a run can take
the place of another one, stand in its way or lead out of the project, on any file system.
-/

namespace Scaffold

open Layout Text

/-! ## Places of single files -/

/-- The folder of the store in small letters. -/
def StoreNames.folded (o : Options) : String := fold (StoreNames.ofOptions o).storeName

/-- The key that the paths of a collection have in small letters. -/
def Collection.key (c : Collection) : String := fold c.camelName

namespace Place

/-- A path is at a place. -/
def Has (o : Options) (p : Place) (path : String) : Prop :=
  foldedParts path = p.parts (StoreNames.folded o)

variable {o : Options} {c : Collection}

theorem toList_folded (o : Options) : (StoreNames.folded o).toList
    = (StoreNames.ofOptions o).storeName.toList.map lowerAscii :=
  toList_fold _

theorem toList_key (c : Collection) : c.key.toList = c.camelName.toList.map lowerAscii :=
  toList_fold _

/-- Also the Pascal spelling is the key in small letters. -/
theorem map_lowerAscii_pascalName (h : c.IsNormal) :
    c.pascalName.toList.map lowerAscii = c.key.toList := by
  rw [h.pascalName_eq_capitalize, Name.map_lowerAscii_capitalize, toList_key]

theorem isFolder_folded (o : Options) : IsFolder (StoreNames.folded o) := by
  apply isFolder_of_isWord
  · rw [toList_folded]
    exact Name.isWord_map_lowerAscii (Name.isWord_storeName o)
  · rw [toList_folded, Ne, List.map_eq_nil_iff]
    exact Name.storeName_ne_nil o

theorem isKey (h : c.IsNormal) : Name.IsWord c.key.toList ∧ c.key.toList ≠ [] := by
  rw [toList_key]
  refine ⟨Name.isWord_map_lowerAscii h.isWord_camelName, ?_⟩
  obtain ⟨first, rest, hc, -⟩ := h.exists_head
  rw [hc]
  exact List.cons_ne_nil _ _

/-- The place of a path is told by its characters in small letters. -/
theorem has_of_intercalate (p : Place) (hp : p.IsKnown) {path : String}
    (h : path.toList.map lowerAscii
      = ['/'].intercalate ((p.parts (StoreNames.folded o)).map String.toList)) : p.Has o path :=
  have hl := leadsToFile_parts (isFolder_folded o) hp
  foldedParts_eq hl.ne_nil hl.slash_not_mem h

/-! ### Fixed modules -/

theorem has_database : database.Has o Layout.databaseModule := by
  refine has_of_intercalate database trivial ?_
  unfold Layout.databaseModule parts
  simp only [List.map_cons, List.map_nil]
  repeat rw [String.toList_ofList]
  rfl

theorem has_codecs : codecs.Has o Layout.codecsModule := by
  refine has_of_intercalate codecs trivial ?_
  unfold Layout.codecsModule parts
  simp only [List.map_cons, List.map_nil]
  repeat rw [String.toList_ofList]
  rfl

theorem has_router : router.Has o Layout.routerModule := by
  refine has_of_intercalate router trivial ?_
  unfold Layout.routerModule parts
  simp only [List.map_cons, List.map_nil]
  repeat rw [String.toList_ofList]
  rfl

theorem has_authGuard : authGuard.Has o (Layout.guardsRoot ++ "/authGuard.js") := by
  refine has_of_intercalate authGuard trivial ?_
  unfold Layout.guardsRoot parts
  simp only [String.toList_append, List.map_cons, List.map_nil]
  repeat rw [String.toList_ofList]
  rfl

theorem has_roleGuard : roleGuard.Has o (Layout.guardsRoot ++ "/roleGuard.js") := by
  refine has_of_intercalate roleGuard trivial ?_
  unfold Layout.guardsRoot parts
  simp only [String.toList_append, List.map_cons, List.map_nil]
  repeat rw [String.toList_ofList]
  rfl

/-! ### Modules of the store -/

theorem has_support : support.Has o (StoreNames.ofOptions o).supportPath := by
  refine has_of_intercalate support trivial ?_
  unfold StoreNames.supportPath StoreNames.folder Layout.storesRoot parts
  simp only [String.toList_append, List.map_append, List.append_assoc, List.map_cons, List.map_nil,
    toList_folded]
  repeat rw [String.toList_ofList]
  rfl

theorem has_activityLog : activityLog.Has o (StoreNames.ofOptions o).activityPath := by
  refine has_of_intercalate activityLog trivial ?_
  unfold StoreNames.activityPath StoreNames.folder Layout.storesRoot parts
  simp only [String.toList_append, List.map_append, List.append_assoc, List.map_cons, List.map_nil,
    toList_folded]
  repeat rw [String.toList_ofList]
  rfl

theorem has_store : store.Has o (StoreNames.ofOptions o).indexPath := by
  refine has_of_intercalate store trivial ?_
  unfold StoreNames.indexPath StoreNames.folder Layout.storesRoot parts
  simp only [String.toList_append, List.map_append, List.append_assoc, List.map_cons, List.map_nil,
    toList_folded]
  repeat rw [String.toList_ofList]
  rfl

/-! ### Modules of a collection -/

theorem has_actions (h : c.IsNormal) :
    (actions c.key).Has o (CollectionNames.ofCollection c o).actionsPath := by
  refine has_of_intercalate (actions c.key) (isKey h) ?_
  unfold CollectionNames.actionsPath CollectionNames.ofCollection StoreNames.folder
    Layout.storesRoot parts
  simp only [String.toList_append, List.map_append, List.append_assoc, List.map_cons, List.map_nil,
    List.intercalate_cons_cons, List.intercalate_singleton, toList_folded, toList_key]
  repeat rw [String.toList_ofList]
  rfl

theorem has_validator (h : c.IsNormal) :
    (validator c.key).Has o (CollectionNames.ofCollection c o).validatorPath := by
  refine has_of_intercalate (validator c.key) (isKey h) ?_
  unfold CollectionNames.validatorPath CollectionNames.validatorFunction
    CollectionNames.ofCollection Layout.validatorsRoot parts
  simp only [String.toList_append, List.map_append, List.append_assoc, List.map_cons, List.map_nil,
    List.intercalate_cons_cons, List.intercalate_singleton, map_lowerAscii_pascalName h]
  repeat rw [String.toList_ofList]
  rfl

theorem has_createView (h : c.IsNormal) :
    (createView c.key).Has o (CollectionNames.ofCollection c o).createViewPath := by
  refine has_of_intercalate (createView c.key) (isKey h) ?_
  unfold CollectionNames.createViewPath CollectionNames.viewsFolder CollectionNames.ofCollection
    Layout.viewsRoot parts
  simp only [String.toList_append, List.map_append, List.append_assoc, List.map_cons, List.map_nil,
    toList_key]
  repeat rw [String.toList_ofList]
  rfl

theorem has_editView (h : c.IsNormal) :
    (editView c.key).Has o (CollectionNames.ofCollection c o).editViewPath := by
  refine has_of_intercalate (editView c.key) (isKey h) ?_
  unfold CollectionNames.editViewPath CollectionNames.viewsFolder CollectionNames.ofCollection
    Layout.viewsRoot parts
  simp only [String.toList_append, List.map_append, List.append_assoc, List.map_cons, List.map_nil,
    toList_key]
  repeat rw [String.toList_ofList]
  rfl

/-! ### Views that no collection brings -/

theorem foldedParts_ofList (cs : List Char) :
    foldedParts (String.ofList cs) = (partsBetween '/' (cs.map lowerAscii)).map String.ofList := by
  rw [foldedParts, toList_fold, String.toList_ofList]

theorem has_view {v : PlaceholderView} {file : List String} (h : foldedParts v.file = file) :
    (view file).Has o v.path := by
  have hp : (fold v.path).toList
      = "src/views".toList ++ '/' :: (fold v.file).toList := by
    unfold PlaceholderView.path Layout.viewsRoot
    rw [toList_fold, toList_fold, String.toList_append, String.toList_append, String.toList_ofList,
      String.toList_ofList, List.map_append, List.map_append]
    rfl
  unfold Has foldedParts
  rw [hp, partsBetween_append_cons, List.map_append]
  show ["src", "views"] ++ foldedParts v.file = _
  rw [h]
  rfl

/-- The places of these views. -/
def views (o : Options) : List Place :=
  [view (if o.landing then ["landingpage.vue"] else ["homeview.vue"])]
    ++ (if o.authRoutes then [
      view ["auth", "loginview.vue"], view ["auth", "registerview.vue"],
      view ["auth", "forgotpasswordview.vue"], view ["auth", "resetpasswordview.vue"],
      view ["auth", "verifyemailview.vue"], view ["auth", "unauthorizedview.vue"],
      view ["auth", "accountview.vue"], view ["auth", "settingsview.vue"]] else [])
    ++ (if o.admin then [view ["admin", "dashboardview.vue"], view ["admin", "usersview.vue"]]
      else [])

theorem has_views (all : List Collection) (o : Options) :
    List.Forall₂ (fun v p => Has o p v.path) (RouteTable.assemble all o).placeholders (views o) := by
  show List.Forall₂ _ ((RouteTable.viewRoutes o).map Prod.snd) _
  unfold RouteTable.viewRoutes views
  dsimp only
  rw [List.map_append, List.map_append]
  refine List.rel_append (List.rel_append (.cons ?_ .nil) ?_) ?_
  · apply has_view
    cases hl : o.landing
    · unfold RouteTable.startRoute
      rw [hl]
      exact foldedParts_ofList _
    · unfold RouteTable.startRoute
      rw [hl]
      exact foldedParts_ofList _
  · split
    · iterate 8 refine .cons (has_view (foldedParts_ofList _)) ?_
      exact .nil
    · exact .nil
  · split
    · iterate 2 refine .cons (has_view (foldedParts_ofList _)) ?_
      exact .nil
    · exact .nil

/-! ## Places of all files -/

/-- A file that is made is at a place. -/
def Takes (o : Options) (r : Except RenderFault Artifact) (p : Place) : Prop :=
  ∀ a, r = .ok a → p.Has o a.path

theorem takes_ofTemplate {p : Place} {path : String} (h : p.Has o path) (t : Template)
    (values : List (String × Value)) : Takes o (Artifact.ofTemplate path t values) p := by
  intro a ha
  rw [Artifact.path_of_ofTemplate ha]
  exact h

/-- The places of all files of a run, in their order. -/
def ofRun (all : List Collection) (o : Options) : List Place :=
  (([database, support] ++ if o.activityLogging then [activityLog] else [])
      ++ all.flatMap fun c => [actions c.key])
    ++ [store]
    ++ (all.flatMap fun c => [validator c.key])
    ++ ((if Form.needsCodecs all then [codecs] else [])
      ++ all.flatMap fun c => [createView c.key, editView c.key])
    ++ ([router] ++ (if o.auth then [authGuard] else []) ++ (if o.hasRoles then [roleGuard] else [])
      ++ views o)

theorem takes_router (t : RouteTable) : Takes o (Routing.routerFile t o) router := by
  unfold Routing.routerFile
  split
  · intro a ha
    cases ha
  · exact takes_ofTemplate has_router _ _

theorem takes_catalogue {all : List Collection} (o : Options) (h : Collection.AreNormal all) :
    List.Forall₂ (Takes o) (Assembly.catalogue all o) (ofRun all o) := by
  -- stage by stage, in the order of the catalogue
  have access : List.Forall₂ (Takes o)
      (([Access.databaseFile o, Access.supportFile o]
        ++ if o.activityLogging then [Access.activityFile o] else [])
        ++ all.flatMap fun c => [Access.actionsFile c o])
      (([database, support] ++ if o.activityLogging then [activityLog] else [])
        ++ all.flatMap fun c => [actions c.key]) := by
    refine List.rel_append (List.rel_append ?_ ?_) (forall₂_flatMap fun c hc => ?_)
    · exact .cons (takes_ofTemplate has_database _ _) (.cons (takes_ofTemplate has_support _ _) .nil)
    · exact forall₂_if (takes_ofTemplate has_activityLog _ _)
    · exact .cons (takes_ofTemplate (has_actions (h.each c hc)) _ _) .nil
  have store : List.Forall₂ (Takes o) [Store.indexFile all o] [store] :=
    .cons (takes_ofTemplate has_store _ _) .nil
  have validation : List.Forall₂ (Takes o) (all.flatMap fun c => [Validation.validatorFile c o])
      (all.flatMap fun c => [validator c.key]) := by
    refine forall₂_flatMap fun c hc => ?_
    exact .cons (takes_ofTemplate (has_validator (h.each c hc)) _ _) .nil
  have forms : List.Forall₂ (Takes o)
      ((if Form.needsCodecs all then [Form.codecsFile] else [])
        ++ all.flatMap fun c => [Form.createFile c o, Form.editFile c o])
      ((if Form.needsCodecs all then [codecs] else [])
        ++ all.flatMap fun c => [createView c.key, editView c.key]) := by
    refine List.rel_append (forall₂_if (takes_ofTemplate has_codecs _ _)) (forall₂_flatMap fun c hc => ?_)
    exact .cons (takes_ofTemplate (has_createView (h.each c hc)) _ _)
      (.cons (takes_ofTemplate (has_editView (h.each c hc)) _ _) .nil)
  have routing : List.Forall₂ (Takes o) (Routing.tableFiles (RouteTable.assemble all o) o)
      ([router] ++ (if o.auth then [authGuard] else []) ++ (if o.hasRoles then [roleGuard] else [])
        ++ views o) := by
    refine List.rel_append (List.rel_append (List.rel_append ?_ ?_) ?_) ?_
    · exact .cons (takes_router _) .nil
    · exact forall₂_if (takes_ofTemplate has_authGuard _ _)
    · exact forall₂_if (takes_ofTemplate has_roleGuard _ _)
    · rw [List.forall₂_map_left_iff]
      exact (has_views all o).imp fun v p hv => takes_ofTemplate hv _ _
  exact List.rel_append (List.rel_append (List.rel_append (List.rel_append access store) validation)
    forms) routing

/-- The files of a run in small letters are the places of the run in their order. -/
theorem map_foldedParts_eq {all : List Collection} {o : Options} {files : List Artifact}
    (h : Collection.AreNormal all) (hf : Assembly.catalogue all o = files.map Except.ok) :
    (files.map fun f => foldedParts f.path)
      = (ofRun all o).map (parts (StoreNames.folded o)) := by
  have ht := takes_catalogue o h
  rw [hf, List.forall₂_map_left_iff] at ht
  have he : List.Forall₂ (fun a p => foldedParts a.path = parts (StoreNames.folded o) p) files
      (ofRun all o) := ht.imp fun a p hp => hp a rfl
  have := List.forall₂_map_left_iff.2 (List.forall₂_map_right_iff.2 he)
  rw [← List.forall₂_eq_eq_eq]
  exact this

/-! ## All places differ -/

theorem mem_views {o : Options} {p : Place} (h : p ∈ views o) : ∃ file ∈ viewParts, p = view file := by
  have hl : views o ⊆ viewParts.map view := by
    unfold views
    cases o.landing <;> cases o.authRoutes <;> cases o.admin <;> decide
  obtain ⟨file, hf, rfl⟩ := List.mem_map.1 (hl h)
  exact ⟨file, hf, rfl⟩

/-- The number of a kind of places among the files of a run. -/
def rank : Place → Nat
  | database => 0
  | support => 1
  | activityLog => 2
  | actions _ => 3
  | store => 4
  | validator _ => 5
  | codecs => 6
  | createView _ | editView _ => 7
  | router => 8
  | authGuard => 9
  | roleGuard => 10
  | view _ => 11

/-- Places that are all different, with numbers from the first bound to the second one. -/
structure Segment (low high : Nat) (l : List Place) : Prop where
  nodup : l.Nodup
  bounds : ∀ p ∈ l, low ≤ p.rank ∧ p.rank < high

theorem Segment.append {low mid high : Nat} {as bs : List Place} (ha : Segment low mid as)
    (hb : Segment mid high bs) (hl : low ≤ mid) (hh : mid ≤ high) : Segment low high (as ++ bs) := by
  constructor
  · rw [List.nodup_append]
    refine ⟨ha.nodup, hb.nodup, ?_⟩
    rintro p hp q hq rfl
    have := (ha.bounds p hp).2
    have := (hb.bounds p hq).1
    omega
  · intro p hp
    rcases List.mem_append.1 hp with hp | hp
    · have := ha.bounds p hp
      omega
    · have := hb.bounds p hp
      omega

theorem segment_singleton (p : Place) : Segment p.rank (p.rank + 1) [p] := by
  refine ⟨List.nodup_cons.2 ⟨List.not_mem_nil, List.nodup_nil⟩, fun q hq => ?_⟩
  rw [List.mem_singleton.1 hq]
  omega

theorem segment_if (b : Bool) (p : Place) :
    Segment p.rank (p.rank + 1) (if b then [p] else []) := by
  cases b with
  | false => exact ⟨List.nodup_nil, fun q hq => absurd hq List.not_mem_nil⟩
  | true => exact segment_singleton p

/-- The places of collections with different keys. -/
theorem segment_flatMap {all : List Collection} (h : (all.map Collection.key).Nodup) {n : Nat}
    (place : String → List Place) (hp : ∀ k, Segment n (n + 1) (place k))
    (hd : ∀ k l, k ≠ l → ∀ p ∈ place k, ∀ q ∈ place l, p ≠ q) :
    Segment n (n + 1) (all.flatMap fun c => place c.key) := by
  constructor
  · unfold List.Nodup
    rw [List.pairwise_flatMap]
    refine ⟨fun c _ => (hp c.key).nodup, ?_⟩
    exact (List.pairwise_map.1 h).imp fun hn => hd _ _ hn
  · intro p hm
    obtain ⟨c, -, hm⟩ := List.mem_flatMap.1 hm
    exact (hp c.key).bounds p hm

theorem segment_views (o : Options) : Segment 11 12 (views o) := by
  have hn : (views o).Nodup := by
    unfold views
    cases o.landing <;> cases o.authRoutes <;> cases o.admin <;> decide
  refine ⟨hn, fun p hp => ?_⟩
  obtain ⟨file, -, rfl⟩ := mem_views hp
  exact ⟨Nat.le_refl 11, Nat.lt_succ_self 11⟩

theorem segment_ofRun {all : List Collection} (o : Options) (h : (all.map Collection.key).Nodup) :
    Segment 0 12 (ofRun all o) := by
  have hactions : Segment 3 4 (all.flatMap fun c => [actions c.key]) :=
    segment_flatMap h (fun k => [actions k]) (fun k => segment_singleton (actions k)) (by simp)
  have hvalidators : Segment 5 6 (all.flatMap fun c => [validator c.key]) :=
    segment_flatMap h (fun k => [validator k]) (fun k => segment_singleton (validator k)) (by simp)
  have hforms : Segment 7 8 (all.flatMap fun c => [createView c.key, editView c.key]) := by
    refine segment_flatMap h (fun k => [createView k, editView k]) (fun k => ?_) (by simp)
    refine ⟨by simp, fun p hp => ?_⟩
    simp only [List.mem_cons, List.not_mem_nil, or_false] at hp
    rcases hp with rfl | rfl <;> exact ⟨Nat.le_refl 7, Nat.lt_succ_self 7⟩
  have hbase : Segment 0 2 [database, support] :=
    (segment_singleton database).append (segment_singleton support) (by decide) (by decide)
  have haccess := (hbase.append (segment_if o.activityLogging activityLog) (by decide) (by decide)).append
    hactions (by decide) (by decide)
  have hstore := haccess.append (segment_singleton store) (by decide) (by decide)
  have hvalidation := hstore.append hvalidators (by decide) (by decide)
  have hform := (segment_if (Form.needsCodecs all) codecs).append hforms (by decide) (by decide)
  have hguards := ((segment_singleton router).append (segment_if o.auth authGuard) (by decide) (by decide)).append
    (segment_if o.hasRoles roleGuard) (by decide) (by decide)
  have hrouting := hguards.append (segment_views o) (by decide) (by decide)
  exact (hvalidation.append hform (by decide) (by decide)).append hrouting (by decide) (by decide)

/-- All places that come up are known. -/
theorem isKnown_ofRun {all : List Collection} {o : Options} (h : Collection.AreNormal all) :
    ∀ p ∈ ofRun all o, p.IsKnown := by
  intro p hp
  unfold ofRun at hp
  simp only [List.mem_append, List.mem_cons, List.mem_flatMap, List.mem_ite_nil_right,
    List.not_mem_nil, or_false] at hp
  rcases hp with ((((((rfl | rfl) | ⟨-, rfl⟩) | ⟨c, hc, rfl⟩) | rfl) | ⟨c, hc, rfl⟩)
    | ⟨-, rfl⟩ | ⟨c, hc, rfl | rfl⟩) | ((rfl | ⟨-, rfl⟩) | ⟨-, rfl⟩) | hp
  case inr.inr =>
    obtain ⟨file, hf, rfl⟩ := mem_views hp
    exact hf
  all_goals first | exact trivial | exact isKey (h.each c hc)

end Place

/-! ## Files of a run -/

namespace Assembly

variable {all : List Collection} {o : Options} {files : List Artifact}

/-- Every file is at one of the places that come up. -/
theorem exists_place_of_mem (h : Collection.AreNormal all)
    (hf : catalogue all o = files.map Except.ok) {f : Artifact} (hm : f ∈ files) :
    ∃ p : Place, p.IsKnown ∧ p.Has o f.path := by
  have hp : foldedParts f.path ∈ (Place.ofRun all o).map (Place.parts (StoreNames.folded o)) := by
    rw [← Place.map_foldedParts_eq h hf]
    exact List.mem_map_of_mem hm
  obtain ⟨p, hp, he⟩ := List.mem_map.1 hp
  exact ⟨p, Place.isKnown_ofRun h p hp, he.symm⟩

/-- The path of every file leads through folders to a file. -/
theorem leadsToFile_of_mem (h : Collection.AreNormal all)
    (hf : catalogue all o = files.map Except.ok) {f : Artifact} (hm : f ∈ files) :
    LeadsToFile (foldedParts f.path) := by
  obtain ⟨p, hp, he⟩ := exists_place_of_mem h hf hm
  unfold Place.Has at he
  rw [he]
  exact Place.leadsToFile_parts (Place.isFolder_folded o) hp

/-- The files of a run are at different places. -/
theorem nodup_foldedParts (h : Collection.AreNormal all)
    (hf : catalogue all o = files.map Except.ok) : (files.map fun f => foldedParts f.path).Nodup := by
  have hn := (Place.segment_ofRun o h.keys_nodup).nodup
  rw [Place.map_foldedParts_eq h hf]
  unfold List.Nodup at hn ⊢
  rw [List.pairwise_map]
  refine List.Pairwise.imp_of_mem (fun hp hq hne e => hne ?_) hn
  exact Place.eq_of_parts_eq (Place.isKnown_ofRun h _ hp) (Place.isKnown_ofRun h _ hq) e

end Assembly

end Scaffold
