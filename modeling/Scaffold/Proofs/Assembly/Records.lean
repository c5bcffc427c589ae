import Scaffold.Proofs.Assembly.Outcome
import Scaffold.Proofs.Script.Push
import Scaffold.Proofs.Template.Parts

/-!
# Where records are kept

The collections of the database that the modules of a run write to: one for each collection, under its
own name, and one for activity if it is recorded. They are all different unless a collection has the name
under which activity is recorded.

Which collection of the database a module writes to is read from its text: a module that imports a function
that changes records names the collection in a constant. The name is the text in quotes that the first line
with such a constant sets it to.
-/

namespace Scaffold.Script

/-! ## Collections that a module names -/

/-- The library of the database. -/
def databaseLibrary : String := "firebase/firestore"

/-- The functions that change records. -/
def recordWriters : List String := ["addDoc", "setDoc", "updateDoc", "deleteDoc"]

/-- The declaration imports a function that changes records. -/
def Declaration.changesRecords : Declaration → Bool
  | .imports names source => source == databaseLibrary && names.any recordWriters.contains
  | .exports _ => false

/-- The module changes records. -/
def changesRecords (content : String) : Bool := (declarations content).any Declaration.changesRecords

/-- The constants that name a collection of the database. -/
def collectionConstants : List (List Char) := ["COLLECTION".toList, "ACTIVITY_COLLECTION".toList]

/-- The text in quotes that a line sets a constant to, exported or not. -/
def constantIn? (name line : List Char) : Option String :=
  let inner := (after? "export ".toList line).getD line
  ((after? ("const ".toList ++ name ++ " = ".toList) inner).bind unquote).map Prod.fst

/-- The collection of the database that a line names. -/
def collectionIn? (line : List Char) : Option String :=
  collectionConstants.findSome? fun name => constantIn? name line

/-- The collection of the database that a module names. -/
def collection? (content : String) : Option String :=
  (Text.partsBetween '\n' content.toList).findSome? collectionIn?

/-- The first line that names a collection counts, whatever follows it. -/
theorem collection?_of_line {s name : String} {css : List (List Char)} {line rest : List Char}
    (hs : s.toList = joinLines css ++ (line ++ '\n' :: rest))
    (hcss : ∀ cs ∈ css, '\n' ∉ cs ∧ collectionIn? cs = none) (hline : '\n' ∉ line)
    (hname : collectionIn? line = some name) : collection? s = some name := by
  have hnone : css.findSome? collectionIn? = none :=
    List.findSome?_eq_none_iff.2 fun cs hcs => (hcss cs hcs).2
  rw [collection?, hs, partsBetween_joinLines_append fun cs hcs => (hcss cs hcs).1,
    Scaffold.Text.partsBetween_append hline, List.findSome?_append, hnone, Option.none_or,
    List.findSome?_cons, hname]

/-- A line that sets a constant which is not exported, to whatever text. -/
theorem constantIn?_constant (constant : List Char) (name : String) (rest : List Char) :
    constantIn? constant
      ("const ".toList ++ constant ++ " = ".toList ++ ((quote name).toList ++ rest))
        = some name := by
  have hexport : after? "export ".toList
      ("const ".toList ++ constant ++ " = ".toList ++ ((quote name).toList ++ rest))
        = none := after?_of_head?_ne (w := 'e') (by decide) (by simp)
  rw [constantIn?, hexport, Option.getD_none, after?_word_append, Option.bind_some, unquote_quote]
  rfl

/-- A line that sets the constant of a module of actions, whatever the collection is called. -/
theorem collectionIn?_constant (name : String) (rest : List Char) :
    collectionIn? ("const COLLECTION = ".toList ++ ((quote name).toList ++ rest)) = some name := by
  have hline : "const COLLECTION = ".toList = "const ".toList ++ "COLLECTION".toList ++ " = ".toList := rfl
  rw [collectionIn?, collectionConstants, List.findSome?_cons, hline, constantIn?_constant]

end Scaffold.Script

namespace Scaffold

open Template
open Script (Declaration)

/-! ## Templates that name a collection of the database -/

namespace Template

variable {scope : Scope} {t : Template} {ts : List Template} {name : String}

/-- A template has whole lines, none of which names a collection. -/
def NamesNothing (scope : Scope) (t : Template) : Prop :=
  ∃ css, HasLines scope t css ∧ ∀ cs ∈ css, Script.collectionIn? cs = none

theorem namesNothing_nil (scope : Scope) : NamesNothing scope (sequence []) :=
  ⟨[], hasLines_nil scope, fun _ h => absurd h List.not_mem_nil⟩

theorem namesNothing_lines {ls : List String} {css : List (List Char)} (h : Text.Spells ls css)
    (hn : ∀ cs ∈ css, '\n' ∉ cs) (hc : ∀ cs ∈ css, Script.collectionIn? cs = none) :
    NamesNothing scope (lines ls) := ⟨css, hasLines_lines h hn, hc⟩

theorem namesNothing_row {cs : List Char} (h : Row scope ts cs) (hn : '\n' ∉ cs)
    (hc : Script.collectionIn? cs = none) : NamesNothing scope (row ts) :=
  ⟨[cs], h.hasLines hn, List.forall_mem_singleton.2 hc⟩

theorem NamesNothing.cons (h : NamesNothing scope t) (hr : NamesNothing scope (sequence ts)) :
    NamesNothing scope (sequence (t :: ts)) := by
  obtain ⟨css, hl, hc⟩ := h
  obtain ⟨dss, hm, hd⟩ := hr
  exact ⟨css ++ dss, hl.cons hm, fun cs hcs => (List.mem_append.1 hcs).elim (hc cs) (hd cs)⟩

theorem NamesNothing.when {test : Expr} {v : Value} (h : NamesNothing scope (sequence ts))
    (hg : test.Gives scope v) : NamesNothing scope (when test ts) := by
  cases hv : v.truthy with
  | true =>
    obtain ⟨css, hl, hc⟩ := h
    exact ⟨css, hl.when hg hv, hc⟩
  | false => exact ⟨[], hasLines_when_off hg hv ts, fun _ h => absurd h List.not_mem_nil⟩

/-- Whatever text a template has in a scope, the first line that names a collection names this one. -/
def Names (scope : Scope) (t : Template) (name : String) : Prop :=
  ∀ s, t.render scope = .ok s → ∃ css line rest,
    s.toList = Script.joinLines css ++ (line ++ '\n' :: rest)
      ∧ (∀ cs ∈ css, '\n' ∉ cs ∧ Script.collectionIn? cs = none)
      ∧ '\n' ∉ line ∧ Script.collectionIn? line = some name

theorem names_row {cs : List Char} (h : Row scope ts cs) (hn : '\n' ∉ cs)
    (hc : Script.collectionIn? cs = some name) : Names scope (row ts) name := by
  intro s hs
  obtain ⟨r, hr, hl⟩ := h.isLine
  rw [hr] at hs
  cases hs
  exact ⟨[], cs, [], hl, fun _ h => absurd h List.not_mem_nil, hn, hc⟩

/-- What follows the line does not matter. -/
theorem Names.first (h : Names scope t name) (ts : List Template) :
    Names scope (sequence (t :: ts)) name := by
  intro s hs
  obtain ⟨x, y, hx, -, rfl⟩ := (render_cons_eq_ok_iff t ts).1 hs
  obtain ⟨css, line, rest, hl, hcss, hn, hc⟩ := h x hx
  refine ⟨css, line, rest ++ y.toList, ?_, hcss, hn, hc⟩
  rw [String.toList_append, hl, List.append_assoc, List.append_assoc]
  rfl

/-- Lines in front of it that name nothing do not matter either. -/
theorem Names.after (h : Names scope (sequence ts) name) (ht : NamesNothing scope t) :
    Names scope (sequence (t :: ts)) name := by
  intro s hs
  obtain ⟨css, ⟨x, hx, hxl, hn⟩, hc⟩ := ht
  obtain ⟨x', y, hx', hy, rfl⟩ := (render_cons_eq_ok_iff t ts).1 hs
  rw [hx] at hx'
  cases hx'
  obtain ⟨dss, line, rest, hl, hdss, hline, hname⟩ := h y hy
  refine ⟨css ++ dss, line, rest, ?_, fun cs hcs => ?_, hline, hname⟩
  · rw [String.toList_append, hxl, hl, Script.joinLines, Script.joinLines, Script.joinLines,
      List.flatMap_append, List.append_assoc]
  · exact (List.mem_append.1 hcs).elim (fun h => ⟨hn cs h, hc cs h⟩) (hdss cs)

/-- A file from a template names the collection that the template does. -/
theorem Names.collection?_eq {path : String} {values : List (String × Value)} {f : Artifact}
    (h : Names (Scope.ofValues values) t name) (hf : Artifact.ofTemplate path t values = .ok f) :
    Script.collection? f.content = some name := by
  unfold Artifact.ofTemplate at hf
  cases hr : t.render (Scope.ofValues values) with
  | error e =>
    rw [hr] at hf
    cases hf
  | ok s =>
    rw [hr] at hf
    cases hf
    obtain ⟨css, line, rest, hs, hcss, hline, hname⟩ := h s hr
    exact Script.collection?_of_line hs hcss hline hname

end Template

/-! ## Modules of data access -/

namespace Access

/-- The actions of a collection write to the collection of the database with its name. -/
theorem collection?_actionsFile {c : Collection} (h : c.IsNormal) {o : Options} {f : Artifact}
    (hf : actionsFile c o = .ok f) : Script.collection? f.content = some c.camelName := by
  generalize hscope : Scope.ofValues (actionsValues c o) = scope
  have hname : (Expr.path ["names", "canonical"]).Gives scope (.text c.camelName) := by
    subst hscope
    exact Expr.Gives.of_record (e := .name "names") rfl rfl
  have hsummary : (Expr.path ["field_summary"]).Gives scope (.text c.summary) := by
    subst hscope
    rfl
  have hgated : (Expr.path ["role_gated"]).Gives scope (.bool (c.isRoleGated o)) := by
    subst hscope
    rfl
  have hactivity : (Expr.path ["activity_logging"]).Gives scope (.bool o.activityLogging) := by
    subst hscope
    rfl
  have hinline : '\n' ∉ c.camelName.toList := inline_of_isWord h.isWord_camelName
  have hline : '\n' ∉ c.summary.toList := h.inline_summary
  have hquote : '\n' ∉ (Script.quote c.camelName).toList := Script.inline_quote c.camelName
  -- in front of the constant stand a comment with names of the collection and the imports
  have himports : NamesNothing scope ActionsModule.imports := by
    refine .cons (namesNothing_row (.text (.hole hname (.text .nil))) ?_ rfl)
      (.cons (.when (.cons (namesNothing_row (.text (.hole hsummary .nil)) ?_ rfl)
        (namesNothing_nil scope)) hsummary)
      (.cons ?_ (.cons (.when (.cons ?_ (namesNothing_nil scope)) hgated)
        (.cons (.when (.cons ?_ (namesNothing_nil scope)) hactivity)
          (.cons ?_ (namesNothing_nil scope))))))
    · simp [hinline]
    · simp [hline]
    all_goals exact namesNothing_lines (by repeat constructor) (by decide) (by decide)
  have hconstants : Names scope ActionsModule.constants c.camelName := by
    refine .after (.first (names_row (.text (.hole hname.quoted (.text .nil))) ?_
      (Script.collectionIn?_constant c.camelName _)) _) ?_
    · simp [hquote]
    · exact namesNothing_lines (by repeat constructor) (by decide) (by decide)
  subst hscope
  exact ((hconstants.first _).after himports).collection?_eq hf

/-- Activity is recorded in a collection of its own. -/
theorem collection?_activityFile {o : Options} {f : Artifact} (hf : activityFile o = .ok f) :
    Script.collection? f.content = some activityCollection := by
  generalize hscope : Scope.ofValues [("activity_collection", .text activityCollection),
    ("recent_limit", .int recentLimit)] = scope at hf
  have hname : (Expr.path ["activity_collection"]).Gives scope (.text activityCollection) := by
    subst hscope
    rfl
  have hactors : Names scope ActivityModule.actors activityCollection := by
    refine .after (.first (names_row (.text (.hole hname.quoted (.text .nil))) ?_ ?_) _) ?_
    · decide
    · decide
    · exact namesNothing_lines (by repeat constructor) (by decide) (by decide)
  subst hscope
  exact (hactors.first _).collection?_eq hf

end Access

/-! ## Modules that change no records -/

namespace Script

/-- Declarations that import nothing that changes records. -/
def KeepsRecords (ds : List Declaration) : Prop := ds.any Declaration.changesRecords = false

instance (ds : List Declaration) : Decidable (KeepsRecords ds) := inferInstanceAs (Decidable (_ = _))

variable {ds es : List Declaration}

theorem KeepsRecords.append (h : KeepsRecords ds) (h' : KeepsRecords es) : KeepsRecords (ds ++ es) := by
  unfold KeepsRecords at h h' ⊢
  rw [List.any_append, h, h']
  rfl

theorem keepsRecords_of_forall (h : ∀ d ∈ ds, d.changesRecords = false) : KeepsRecords ds :=
  List.any_eq_false.2 fun d hd => ne_true_of_eq_false (h d hd)

/-- What comes from another place than the library of the database changes no records. -/
theorem changesRecords_eq_false {source : String} {names : List String}
    (h : source.toList.head? ≠ some 'f') : (Declaration.imports names source).changesRecords = false := by
  have hne : source ≠ databaseLibrary := by
    rintro rfl
    exact h (by rw [databaseLibrary, String.toList_ofList]; rfl)
  rw [Declaration.changesRecords, beq_eq_false_iff_ne.2 hne, Bool.false_and]

/-- A place in the project is not the library of the database. -/
theorem changesRecords_append {c : Char} {cs : List Char} {s : String} {names : List String}
    (hc : c ≠ 'f') : (Declaration.imports names (String.ofList (c :: cs) ++ s)).changesRecords = false := by
  apply changesRecords_eq_false
  rw [String.toList_append, String.toList_ofList]
  exact fun h => hc (Option.some.inj h)

end Script

section

open Script (KeepsRecords)

variable (o : Options) (c : Collection)

theorem changesRecords_hook (names : List String) :
    (Declaration.imports names (StoreNames.ofOptions o).importPath).changesRecords = false :=
  Script.changesRecords_append (by decide)

theorem keepsRecords_database : KeepsRecords (Access.databaseDeclarations o) := by
  unfold Access.databaseDeclarations
  cases o.auth <;> decide

theorem keepsRecords_support : KeepsRecords (Access.supportDeclarations o) := by
  unfold Access.supportDeclarations
  cases o.activityLogging <;> cases o.hasRoles <;> decide

theorem keepsRecords_store (all : List Collection) : KeepsRecords (Store.declarations all o) := by
  unfold Store.declarations
  refine .append (.append ?fixed (Script.keepsRecords_of_forall fun d hd => ?actions)) rfl
  case fixed => cases o.auth <;> cases o.hasRoles <;> cases o.activityLogging <;> decide
  case actions =>
    obtain ⟨c, -, rfl⟩ := List.mem_map.1 hd
    unfold Store.actionsImport CollectionNames.actionsImport
    rw [String.append_assoc]
    exact Script.changesRecords_append (by decide)

theorem keepsRecords_validation : KeepsRecords (Validation.declarations c o) := by
  unfold Validation.declarations
  refine .append ?_ rfl
  cases (Plan.ofCollection c).emailFields.isEmpty <;> decide

theorem keepsRecords_importedModules (codecs : List String) :
    KeepsRecords (Form.importedModules c o codecs) := by
  have hvalidator : (Declaration.imports [(CollectionNames.ofCollection c o).validatorFunction]
      (CollectionNames.ofCollection c o).validatorImport).changesRecords = false :=
    Script.changesRecords_append (by decide)
  have hcodecs : (Declaration.imports codecs Form.codecsImport).changesRecords = false :=
    Script.changesRecords_eq_false (by decide)
  refine Script.keepsRecords_of_forall (List.forall_mem_cons.2 ⟨changesRecords_hook o _,
    List.forall_mem_cons.2 ⟨hvalidator, ?_⟩⟩)
  split
  · exact List.forall_mem_singleton.2 hcodecs
  · exact fun d hd => absurd hd List.not_mem_nil

theorem keepsRecords_form (all : List Collection) :
    ∀ i ∈ (if Form.needsCodecs all then [(Layout.codecsModule, Form.codecsDeclarations)] else [])
      ++ all.flatMap fun c =>
        [((CollectionNames.ofCollection c o).createViewPath, Form.createDeclarations c o),
          ((CollectionNames.ofCollection c o).editViewPath, Form.editDeclarations c o)],
      KeepsRecords i.2 := by
  intro i hi
  rcases List.mem_append.1 hi with hi | hi
  · split at hi
    · rw [List.mem_singleton.1 hi]
      rfl
    · exact absurd hi List.not_mem_nil
  · obtain ⟨c, -, hi⟩ := List.mem_flatMap.1 hi
    rcases List.mem_cons.1 hi with rfl | hi
    · exact .append (by decide) (keepsRecords_importedModules o c _)
    · rw [List.mem_singleton.1 hi]
      exact .append (by decide) (keepsRecords_importedModules o c _)

theorem keepsRecords_routing (t : RouteTable) :
    ∀ i ∈ Routing.interfaces t o, KeepsRecords i.2 := by
  have hguard : KeepsRecords (Routing.guardDeclarations o) :=
    Script.keepsRecords_of_forall (List.forall_mem_cons.2 ⟨changesRecords_hook o _,
      List.forall_mem_singleton.2 rfl⟩)
  have hrouter : KeepsRecords (Routing.routerDeclarations o) := by
    unfold Routing.routerDeclarations
    cases o.auth <;> cases o.hasRoles <;> decide
  intro i hi
  unfold Routing.interfaces at hi
  rcases List.mem_append.1 hi with hi | hi
  · rcases List.mem_append.1 hi with hi | hi
    · rcases List.mem_append.1 hi with hi | hi
      · rw [List.mem_singleton.1 hi]
        exact hrouter
      · split at hi
        · rw [List.mem_singleton.1 hi]
          exact hguard
        · exact absurd hi List.not_mem_nil
    · split at hi
      · rw [List.mem_singleton.1 hi]
        exact hguard
      · exact absurd hi List.not_mem_nil
  · obtain ⟨v, -, rfl⟩ := List.mem_map.1 hi
    rfl

end

/-! ## The collections of a run -/

namespace Assembly

/-- The collections of the database that files write to, in the order of the files. A file that changes
records and does not say where counts as none. -/
def writtenCollections (files : List Artifact) : List (Option String) :=
  (files.filter fun f => Script.changesRecords f.content).map fun f => Script.collection? f.content

/-- If all of these files are made, they write to these collections. -/
def Writes (rs : List (Except RenderFault Artifact)) (names : List String) : Prop :=
  ∀ files : List Artifact, rs = files.map Except.ok → writtenCollections files = names.map some

variable {rs rs' : List (Except RenderFault Artifact)} {names more : List String}

theorem writes_nil : Writes [] [] := by
  intro files h
  rw [List.map_eq_nil_iff.1 h.symm]
  rfl

theorem Writes.append (h : Writes rs names) (h' : Writes rs' more) : Writes (rs ++ rs') (names ++ more) := by
  intro files hf
  obtain ⟨first, second, rfl, ha, hb⟩ := List.map_eq_append_iff.1 hf.symm
  rw [List.map_append, ← h first ha.symm, ← h' second hb.symm]
  unfold writtenCollections
  rw [List.filter_append, List.map_append]

/-- Files that are made as their interfaces say, and that change no records. -/
theorem writes_of_keepsRecords (is : List Interface) (h : List.Forall₂ Meets rs is)
    (hi : ∀ i ∈ is, Script.KeepsRecords i.2) : Writes rs [] := by
  induction h with
  | nil => exact writes_nil
  | @cons r i rs is hr h ih =>
    obtain ⟨hfirst, hrest⟩ := List.forall_mem_cons.1 hi
    intro files hf
    obtain ⟨f, rfl, -, hd⟩ := hr
    obtain ⟨g, others, rfl, hg, ho⟩ := List.map_eq_cons_iff.1 hf.symm
    cases hg
    -- the declarations of the file are those of its interface, so it is left out
    have hkeeps : Script.changesRecords f.content = false := by
      rw [Script.changesRecords, hd]
      exact hfirst
    have hnone := ih hrest others ho.symm
    unfold writtenCollections at hnone ⊢
    rw [List.filter_cons, hkeeps, if_neg Bool.false_ne_true]
    exact hnone

/-- A file that changes records and says where. -/
theorem writes_singleton {r : Except RenderFault Artifact} {i : Interface} {name : String}
    (h : Meets r i) (hc : i.2.any Declaration.changesRecords = true)
    (hn : ∀ f, r = .ok f → Script.collection? f.content = some name) : Writes [r] [name] := by
  intro files hf
  obtain ⟨f, rfl, -, hd⟩ := h
  obtain ⟨g, others, rfl, hg, ho⟩ := List.map_eq_cons_iff.1 hf.symm
  cases hg
  rw [List.map_eq_nil_iff.1 ho]
  have hchanges : Script.changesRecords f.content = true := by
    rw [Script.changesRecords, hd]
    exact hc
  rw [writtenCollections, List.filter_cons, hchanges, if_pos rfl, List.map_cons, hn f rfl]
  rfl

theorem writes_flatMap {all : List Collection} {rs : Collection → List (Except RenderFault Artifact)}
    {name : Collection → String} (h : ∀ c ∈ all, Writes (rs c) [name c]) :
    Writes (all.flatMap rs) (all.map name) := by
  induction all with
  | nil => exact writes_nil
  | cons c rest ih =>
    rw [List.flatMap_cons, List.map_cons]
    exact (h c List.mem_cons_self).append (ih fun d hd => h d (List.mem_cons_of_mem c hd))

/-- The modules of data access write to a collection of activity, if it is recorded, and to one for each
collection; the other modules write to none. -/
theorem writes_catalogue {all : List Collection} (h : ∀ c ∈ all, c.IsNormal) (o : Options) :
    Writes (catalogue all o)
      ((if o.activityLogging then [Access.activityCollection] else [])
        ++ all.map Collection.camelName) := by
  -- stage by stage: what keeps records names its collection, the other modules name none
  have fixed : Writes [Access.databaseFile o, Access.supportFile o] [] :=
    writes_of_keepsRecords [(_, Access.databaseDeclarations o), (_, Access.supportDeclarations o)]
      (.cons (Access.isMade_databaseFile o) (.cons (Access.isMade_supportFile o) .nil))
      (List.forall_mem_cons.2 ⟨keepsRecords_database o,
        List.forall_mem_singleton.2 (keepsRecords_support o)⟩)
  have activity : Writes (if o.activityLogging then [Access.activityFile o] else [])
      (if o.activityLogging then [Access.activityCollection] else []) := by
    split
    · exact writes_singleton (i := (_, Access.activityDeclarations)) (Access.isMade_activityFile o)
        rfl fun f hf => Access.collection?_activityFile hf
    · exact writes_nil
  have actions : Writes (all.flatMap fun c => [Access.actionsFile c o])
      (all.map Collection.camelName) :=
    writes_flatMap fun c hc => writes_singleton (i := (_, Access.actionsDeclarations c o))
      (Access.isMade_actionsFile (h c hc) o) rfl fun f hf => Access.collection?_actionsFile (h c hc) hf
  have store : Writes [Store.indexFile all o] [] :=
    writes_of_keepsRecords [(_, Store.declarations all o)]
      (.cons (Store.isMade_indexFile h o) .nil) (List.forall_mem_singleton.2 (keepsRecords_store o all))
  have validation : Writes (all.flatMap fun c => [Validation.validatorFile c o]) [] := by
    refine writes_of_keepsRecords (all.flatMap fun c => [(_, Validation.declarations c o)])
      (forall₂_flatMap fun c hc => .cons (Validation.isMade_validatorFile (h c hc) o) .nil) fun i hi => ?_
    obtain ⟨c, -, hi⟩ := List.mem_flatMap.1 hi
    rw [List.mem_singleton.1 hi]
    exact keepsRecords_validation o c
  have form : Writes ((if Form.needsCodecs all then [Form.codecsFile] else [])
      ++ all.flatMap fun c => [Form.createFile c o, Form.editFile c o]) [] :=
    writes_of_keepsRecords _ (meets_form h o) (keepsRecords_form o all)
  have routing : Writes (Routing.tableFiles (RouteTable.assemble all o) o) [] :=
    writes_of_keepsRecords _ (meets_routing h o) (keepsRecords_routing o _)
  have hall := ((((fixed.append activity).append actions).append store).append validation).append form
    |>.append routing
  unfold catalogue
  simpa only [List.nil_append, List.append_nil] using hall

variable {all : List Collection} {o : Options} {files : List Artifact}

/-- A run writes to a collection of activity, if it is recorded, and to the collections by their names. -/
theorem writtenCollections_eq (h : Collection.AreNormal all) (hf : assemble stages all o = .ok files) :
    writtenCollections files = ((if o.activityLogging then [Access.activityCollection] else [])
      ++ all.map Collection.camelName).map some :=
  writes_catalogue h.each o files (assemble_eq_ok_iff.1 hf).1

/-- The collections of the database that a run writes to are different exactly if no collection has the
name under which activity is recorded. -/
theorem writtenCollections_nodup_iff {identity : List String} {raw : Value} {notes : List Note}
    (hr : Intake.read identity raw = (notes, .ok all)) (hf : assemble stages all o = .ok files) :
    writtenCollections files = ((if o.activityLogging then [Access.activityCollection] else [])
        ++ all.map Collection.camelName).map some
      ∧ ((writtenCollections files).Nodup
        ↔ ¬ (o.activityLogging = true ∧ ∃ c ∈ all, c.camelName = Access.activityCollection)) := by
  have hall := Intake.areNormal_of_read hr
  have hw := writtenCollections_eq hall hf
  have hnames : (all.map Collection.camelName).Nodup := by
    have hkeys : ((all.map Collection.camelName).map Intake.collisionKey).Nodup := by
      rw [List.map_map]
      exact hall.keys_nodup
    exact hkeys.of_map _
  refine ⟨hw, ?_⟩
  rw [hw, List.nodup_map_iff fun _ _ => Option.some.inj]
  cases o.activityLogging with
  | false => simp [hnames]
  | true => simp [hnames]

/-- Books and activity are kept apart. -/
theorem writtenCollections_of_books :
    let o : Options := { activityLogging := true }
    ∃ notes all files,
      Intake.read o.identityNames (.list [Intake.declaration "Books" []]) = (notes, .ok all)
        ∧ assemble stages all o = .ok files
        ∧ writtenCollections files = [some "recentActivity", some "books"]
        ∧ (writtenCollections files).Nodup := by
  intro o
  let books : Collection := ⟨"Books", "books", "Books", [], "object"⟩
  have hread : Intake.read o.identityNames (.list [Intake.declaration "Books" []]) = (_, .ok [books]) :=
    Intake.read_eq_of_toOption (by decide +kernel)
  obtain ⟨files, hf⟩ := assemble_of_nodup (o := o) (Intake.areNormal_of_read hread) (by decide +kernel)
  obtain ⟨hw, hn⟩ := writtenCollections_nodup_iff hread hf
  refine ⟨_, _, files, hread, hf, hw, hn.2 ?_⟩
  decide +kernel

/-- A collection of recent activity is kept where activity is recorded. -/
theorem writtenCollections_of_recent_activity :
    let o : Options := { activityLogging := true }
    ∃ notes all files,
      Intake.read o.identityNames (.list [Intake.declaration "recent activity" []]) = (notes, .ok all)
        ∧ assemble stages all o = .ok files ∧ ¬ (writtenCollections files).Nodup := by
  intro o
  let recent : Collection := ⟨"recent activity", "recentActivity", "RecentActivity", [], "object"⟩
  have hread : Intake.read o.identityNames (.list [Intake.declaration "recent activity" []])
      = (_, .ok [recent]) := Intake.read_eq_of_toOption (by decide +kernel)
  have hall := Intake.areNormal_of_read hread
  obtain ⟨files, hf⟩ := assemble_of_nodup (o := o) hall (by decide +kernel)
  refine ⟨_, _, files, hread, hf, ?_⟩
  rw [writtenCollections_eq hall hf]
  decide +kernel

end Assembly

end Scaffold
