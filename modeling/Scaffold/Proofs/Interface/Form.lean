import Scaffold.Proofs.Interface.Fields

/-!
# Views of collections

What the views of a normal collection and the module of form texts declare, under all options.
-/

namespace Scaffold.Form

open Template
open Script (Declaration IsName)

/-! ## The module of form texts -/

/-- The declarations of the module of form texts. -/
def codecsDeclarations : List Declaration := [
  Declaration.exports "toListText", Declaration.exports "parseListText", Declaration.exports "toObjectText",
  Declaration.exports "parseObjectText", Declaration.exports "toDateTimeText"]

theorem isMade_codecsFile : Artifact.IsMade codecsFile Layout.codecsModule codecsDeclarations := by
  apply Artifact.isMade_ofTemplate
  apply declares_lines
  · repeat constructor
  · repeat first
      | exact .nil
      | refine .quiet (by decide) ?_
      | refine .declared rfl (by repeat constructor) (by decide) ?_

/-! ## Conversions that views import -/

/-- The functions that the module of form texts exports. -/
def codecNames : List String := [
  "toListText", "parseListText", "toObjectText", "parseObjectText", "toDateTimeText"]

theorem mem_codecNames_of_encoder {k : Kind} {s : String} (h : k.encoder? = some s) :
    s ∈ codecNames := by
  cases k <;> cases h <;> decide

theorem mem_codecNames_of_decoder {k : Kind} {s : String} (h : k.decoder? = some s) :
    s ∈ codecNames := by
  cases k <;> cases h <;> decide

theorem mem_codecNames_of_editCodecs {f : FormField} {s : String} (h : s ∈ f.editCodecs) :
    s ∈ codecNames := by
  rcases List.mem_append.1 h with h | h
  · exact mem_codecNames_of_encoder (Option.mem_toList.1 h)
  · have hd : f.decoder? = some s := Option.mem_toList.1 h
    unfold FormField.decoder? at hd
    split at hd
    · exact mem_codecNames_of_decoder hd
    · cases hd

theorem mem_editImports_of_createImports {fields : List FormField} {s : String}
    (h : s ∈ createImports fields) : s ∈ editImports fields := by
  rw [createImports, Text.mem_distinct, List.mem_flatMap] at h
  obtain ⟨f, hf, hs⟩ := h
  rw [editImports, Text.mem_distinct, List.mem_flatMap]
  exact ⟨f, hf, List.mem_append_right _ hs⟩

theorem mem_codecNames_of_editImports {fields : List FormField} {s : String}
    (h : s ∈ editImports fields) : s ∈ codecNames := by
  rw [editImports, Text.mem_distinct, List.mem_flatMap] at h
  obtain ⟨f, -, hs⟩ := h
  exact mem_codecNames_of_editCodecs hs

theorem isName_of_mem_codecNames {s : String} (h : s ∈ codecNames) : IsName s.toList := by
  have hall : ∀ t ∈ codecNames, IsName t.toList := by
    unfold codecNames
    repeat' first
      | exact fun t ht => absurd ht List.not_mem_nil
      | refine List.forall_mem_cons.2 ⟨isName_ofList rfl, ?_⟩
  exact hall s h

/-! ## The views -/

/-- The shapes that a view counts on. -/
def context (c : Collection) (o : Options) (codecs : List String) : Context := [
  ("names", .record (Shape.exactParts (CollectionNames.ofCollection c o).entries)),
  ("store", .record (Shape.exactParts (StoreNames.ofOptions o).entries)),
  ("fields", .list c.formFields.length fieldShape),
  ("codecs_import", .exact codecsImport),
  ("title", .line),
  ("codecs", .texts codecs)]

/-- The imports of other generated modules. -/
def importedModules (c : Collection) (o : Options) (codecs : List String) : List Declaration :=
  [Declaration.imports [(StoreNames.ofOptions o).hook] (StoreNames.ofOptions o).importPath]
    ++ ([Declaration.imports [(CollectionNames.ofCollection c o).validatorFunction]
      (CollectionNames.ofCollection c o).validatorImport]
    ++ if !codecs.isEmpty then [.imports codecs codecsImport] else [])

variable {scope : Scope} {c : Collection} {o : Options} {codecs : List String}

theorem declares_generatedImports (h : c.IsNormal) (hc : ∀ s ∈ codecs, IsName s.toList)
    (hs : (context c o codecs).Fits scope) :
    Declares scope FormViews.generatedImports true true (importedModules c o codecs) := by
  have hhook : Expr.Has (context c o codecs) (.path ["store", "hook"])
      (.exact (StoreNames.ofOptions o).hook) := by
    repeat' constructor
  have hstore : Expr.Has (context c o codecs) (.path ["store", "import_path"])
      (.exact (StoreNames.ofOptions o).importPath) := by
    repeat' constructor
  have hfunction : Expr.Has (context c o codecs) (.path ["names", "validator_function"])
      (.exact (CollectionNames.ofCollection c o).validatorFunction) := by
    repeat' constructor
  have himport : Expr.Has (context c o codecs) (.path ["names", "validator_import"])
      (.exact (CollectionNames.ofCollection c o).validatorImport) := by
    repeat' constructor
  have hcodecs : Expr.Has (context c o codecs) (.path ["codecs"]) (.texts codecs) := by
    repeat' constructor
  have hsource : Expr.Has (context c o codecs) (.path ["codecs_import"]) (.exact codecsImport) := by
    repeat' constructor
  -- store, validator, and the conversions if there are any
  refine .cons (StoreNames.declares_import o hs hhook hstore) (.cons (b := true) ?_
    (declares_when hs hcodecs .texts fun hne => ?_))
  · refine declares_row 5 hs (.cons (.text rfl) (.cons (.hole hfunction) (.cons (.text rfl)
      (.cons (.hole himport) (.text rfl))))) (fun rest => ?_) (b := false) .nil
    exact Script.declarationAt_import (List.cons_ne_nil _ [])
      (fun n hn => List.mem_singleton.1 hn ▸ h.isName_validatorFunction o)
      (h.isUnquoted_validatorImport o) rest
  · refine declares_row 5 hs (.cons (.text rfl) (.cons (.hole (.commas hcodecs fun s hm =>
      inline_of_isName (hc s hm))) (.cons (.text rfl) (.cons (.hole hsource) (.text rfl)))))
      (fun rest => ?_) (b := false) .nil
    refine Script.declarationAt_import ?_ hc (isUnquoted_ofList rfl) rest
    rintro rfl
    cases hne

/-- The names of the values that both views count on. -/
def contextNames : List String := ["names", "store", "fields", "codecs_import", "title", "codecs"]

/-- The values of a view, which may have more of its own. -/
theorem fits_context (h : c.IsNormal) (o : Options) (codecs : List String) {Δ : Context}
    {more : List (String × Value)} (hd : Δ.Fits (Scope.ofValues more))
    (hn : ∀ n ∈ contextNames, Δ.Fresh n) :
    Context.Fits (context c o codecs ++ Δ)
      (Scope.ofValues (values c o ++ ([("codecs", Value.texts codecs)] ++ more))) := by
  have hfields : Shape.Fits (.list c.formFields.length fieldShape) (.list (c.formFields.map fieldValue)) := by
    apply Shape.fits_list
    intro f hf
    obtain ⟨g, hg, rfl⟩ := List.mem_map.1 hf
    exact fits_fieldValue (h.inline_field hg) (h.inline_declared hg)
  have himport : Shape.Fits (.exact codecsImport) (.text codecsImport) := by
    rw [Shape.Fits]
    exact ⟨rfl, inline_ofList rfl⟩
  have htitle : Inline (Name.label c.name) := inline_label fun hw => absurd hw h.words_ne_nil
  refine Context.fits_cons (h.fits_names o) ?_
    (Context.fits_cons (StoreNames.fits_toValue o) ?_
    (Context.fits_cons hfields ?_
    (Context.fits_cons himport ?_
    (Context.fits_cons (Shape.fits_line htitle) ?_
    (Context.fits_cons rfl ?_ hd)))))
  all_goals
    repeat first
      | exact hn _ (by decide)
      | refine .cons (by decide) ?_

/-- Both views are components. -/
theorem makesComponent_views :
    FormViews.create.MakesComponent ∧ FormViews.edit.MakesComponent := by
  constructor
  all_goals
    refine .sequence (.sequence (makesComponent_lines (by repeat constructor) ?_) _) _
    decide

/-! ### Creating a record -/

/-- The declarations of the view that creates a record. -/
def createDeclarations (c : Collection) (o : Options) : List Declaration :=
  [Declaration.imports ["ref"] "vue", Declaration.imports ["useRouter"] "vue-router"]
    ++ importedModules c o (createImports c.formFields)

theorem declares_createState (h : c.IsNormal) (hc : ∀ s ∈ codecs, IsName s.toList)
    (hs : (context c o codecs).Fits scope) :
    Declares scope FormViews.createState true true
      ([Declaration.imports ["ref"] "vue", Declaration.imports ["useRouter"] "vue-router"]
        ++ (importedModules c o codecs ++ [])) := by
  refine .cons (b := true) ?_ (.cons (declares_generatedImports h hc hs)
    (Quiet.declares (b := true) ?_ hs))
  · apply declares_lines
    · repeat constructor
    · repeat first
        | exact .nil
        | refine .quiet (by decide) ?_
        | refine .declared rfl (by repeat constructor) (by decide) ?_
  · repeat' constructor

/-- Sending the form and showing it declare nothing. -/
theorem quiet_create : Quiet (context c o codecs)
    (sequence [FormViews.submit "(payload);" "add_action" "(payload);", FormViews.createMarkup])
    true true := by
  repeat' constructor

theorem isMade_createFile (h : c.IsNormal) (o : Options) :
    Artifact.IsMade (createFile c o) (CollectionNames.ofCollection c o).createViewPath
      (createDeclarations c o) := by
  have hnone : Context.Fits [] (Scope.ofValues []) := Context.fits_nil
  have hs := fits_context h o (createImports c.formFields) hnone fun _ _ => .nil
  rw [List.append_nil, List.append_nil] at hs
  have hc : ∀ s ∈ createImports c.formFields, IsName s.toList := fun s hm =>
    isName_of_mem_codecNames (mem_codecNames_of_editImports (mem_editImports_of_createImports hm))
  have hd : Declares _ FormViews.create true true _ :=
    (declares_createState h hc hs).cons (quiet_create.declares hs)
  apply Artifact.isMade_ofTemplate (b := true)
  unfold createDeclarations
  simp only [List.append_nil] at hd
  exact hd

/-! ### Editing a record -/

/-- The declarations of the view that edits a record. -/
def editDeclarations (c : Collection) (o : Options) : List Declaration :=
  [Declaration.imports ["onMounted", "ref"] "vue", Declaration.imports ["useRoute", "useRouter"] "vue-router"]
    ++ importedModules c o (editImports c.formFields)

theorem declares_editState (h : c.IsNormal) (hc : ∀ s ∈ codecs, IsName s.toList)
    (hs : (context c o codecs).Fits scope) :
    Declares scope FormViews.editState true true
      ([Declaration.imports ["onMounted", "ref"] "vue", Declaration.imports ["useRoute", "useRouter"] "vue-router"]
        ++ (importedModules c o codecs ++ [])) := by
  refine .cons (b := true) ?_ (.cons (declares_generatedImports h hc hs)
    (Quiet.declares (b := true) ?_ hs))
  · apply declares_lines
    · repeat constructor
    · repeat first
        | exact .nil
        | refine .quiet (by decide) ?_
        | refine .declared rfl (by repeat constructor) (by decide) ?_
  · repeat' constructor

/-- Opening the view, sending the form and showing it declare nothing. -/
theorem quiet_edit : Quiet (context c o codecs ++ [("redirect_delay", Shape.inline)])
    (sequence [FormViews.editLoad,
      FormViews.submit "(payload, \x7b checkEmailExistence: false \x7d);" "update_action"
        "(recordId, payload);",
      FormViews.editMarkup]) true true := by
  repeat' constructor

theorem isMade_editFile (h : c.IsNormal) (o : Options) :
    Artifact.IsMade (editFile c o) (CollectionNames.ofCollection c o).editViewPath
      (editDeclarations c o) := by
  have hdelay : Context.Fits [("redirect_delay", .inline)]
      (Scope.ofValues [("redirect_delay", .int redirectDelay)]) := by
    refine Context.fits_cons ?_ .nil Context.fits_nil
    rw [Shape.Fits]
    unfold Inline
    decide
  have hs := fits_context h o (editImports c.formFields) hdelay fun n hn => by
    refine .cons ?_ .nil
    revert n
    decide
  have hs' : (context c o (editImports c.formFields)).Fits _ :=
    fun b hb => hs b (List.mem_append_left _ hb)
  have hc : ∀ s ∈ editImports c.formFields, IsName s.toList := fun s hm =>
    isName_of_mem_codecNames (mem_codecNames_of_editImports hm)
  have hd : Declares _ FormViews.edit true true _ :=
    (declares_editState h hc hs').cons (quiet_edit.declares hs)
  apply Artifact.isMade_ofTemplate (b := true)
  unfold editDeclarations
  simp only [List.append_nil] at hd
  exact hd

end Scaffold.Form
