import Scaffold.Proofs.Interface.Form
import Scaffold.Proofs.Template.Names

/-!
# Names of the views

The names that the scripts of the views import and declare outside of all brackets, read from the text
of the views part by part.
-/

namespace Scaffold

open Template
open Script (IsName Passes)

/-! ## Texts of fields -/

namespace FormField

variable {f : FormField}

theorem isName_modelKey (h : IsName f.name.toList) : IsName f.modelKey.toList := by
  refine isName_append h ?_
  unfold shape
  cases f.kind <;> exact isWord_ofList rfl

theorem passes_defaultLiteral (k : Kind) : Passes 0 k.defaultLiteral.toList 0 := by
  cases k
  all_goals
    rw [Kind.defaultLiteral, String.toList_ofList]
    decide

/-- The form text of the value that a kind starts from. -/
theorem formText_default {k : Kind} {s : String} (h : k.encode k.defaultValue = .ok (.text s)) :
    s = "" ∨ s = "\x7b\x7d" := by
  cases k <;> cases h
  all_goals
    first
      | exact .inl rfl
      | exact .inr (by decide)

theorem passes_initial (f : FormField) : Passes 0 f.initial.toList 0 := by
  unfold initial
  split
  next s _ hs =>
    refine Script.passes_quote ?_ 0
    rcases formText_default hs with rfl | rfl
    all_goals
      rw [String.toList_ofList]
      decide
  next => exact passes_defaultLiteral f.kind

theorem passes_loadExpression (h : IsName f.name.toList) : Passes 0 f.loadExpression.toList 0 := by
  have hrecord : Passes 0 ("record." ++ f.name).toList 0 := by
    rw [String.toList_append, String.toList_ofList]
    exact Passes.append (by decide) (Script.passes_name h 0)
  unfold loadExpression
  dsimp only
  split
  next encoder he =>
    have hname : IsName encoder.toList :=
      Form.isName_of_mem_codecNames (Form.mem_codecNames_of_encoder he)
    rw [String.toList_append, String.toList_append, String.toList_append, String.toList_ofList,
      String.toList_ofList]
    exact (((Script.passes_name hname 0).append (by decide : Passes 0 ['('] 1)).append
      (hrecord.inside 1)).append (by decide)
  next =>
    rw [String.toList_append, String.toList_append, String.toList_ofList]
    exact (hrecord.append (by decide)).append (passes_defaultLiteral f.kind)

/-- Text that cannot be read back is read by a function. -/
theorem exists_decoder (h : f.parseError ≠ "") : ∃ s, f.decoder? = some s := by
  unfold parseError Widget.parseError shape at h
  unfold decoder? isTextual shape
  cases hk : f.kind with
  | object => exact ⟨_, rfl⟩
  | _ =>
    rw [hk] at h
    exact absurd rfl h

theorem not_mem_parseError (h : IsName f.name.toList) : '<' ∉ f.parseError.toList := by
  unfold parseError Widget.parseError shape
  split
  next rest hr =>
    cases hk : f.kind <;> rw [hk] at hr <;> cases hr
    rw [String.toList_append, String.toList_ofList, List.mem_append, not_or]
    exact ⟨h.not_mem (by decide), by decide⟩
  next =>
    rw [String.toList_empty]
    exact List.not_mem_nil

theorem mem_codecNames_of_decoder {s : String} (h : f.decoder? = some s) : s ∈ Form.codecNames :=
  Form.mem_codecNames_of_editCodecs (List.mem_append_right _ (Option.mem_toList.2 h))

theorem isName_decoder {s : String} (h : f.decoder? = some s) : IsName s.toList :=
  Form.isName_of_mem_codecNames (mem_codecNames_of_decoder h)

end FormField

namespace Form

variable {c : Collection} {o : Options}

/-! ## Rows for fields -/

section
variable {scope : Scope} {f : FormField} {i : Nat}

/-! ### Values in a row -/

theorem gives_name : (Expr.path ["field", "name"]).Gives (itemScope scope "field" i (fieldValue f))
    (.text f.name) := Expr.Gives.of_record (e := .name "field") rfl rfl

theorem gives_modelKey : (Expr.path ["field", "model_key"]).Gives (itemScope scope "field" i (fieldValue f))
    (.text f.modelKey) := Expr.Gives.of_record (e := .name "field") rfl rfl

theorem gives_initial : (Expr.path ["field", "initial"]).Gives (itemScope scope "field" i (fieldValue f))
    (.text f.initial) := Expr.Gives.of_record (e := .name "field") rfl rfl

theorem gives_loadExpression :
    (Expr.path ["field", "load_expression"]).Gives (itemScope scope "field" i (fieldValue f))
      (.text f.loadExpression) := Expr.Gives.of_record (e := .name "field") rfl rfl

theorem gives_widget : (Expr.path ["field", "widget"]).Gives (itemScope scope "field" i (fieldValue f))
    (.text f.widget) := Expr.Gives.of_record (e := .name "field") rfl rfl

theorem gives_parseError : (Expr.path ["field", "parse_error"]).Gives (itemScope scope "field" i (fieldValue f))
    (.text f.parseError) := Expr.Gives.of_record (e := .name "field") rfl rfl

theorem gives_decoder : (Expr.path ["field", "decode_js"]).Gives (itemScope scope "field" i (fieldValue f))
    (optional f.decoder?) := Expr.Gives.of_record (e := .name "field") rfl rfl

theorem gives_decoder_of_eq {s : String} (h : f.decoder? = some s) :
    (Expr.path ["field", "decode_js"]).Gives (itemScope scope "field" i (fieldValue f)) (.text s) := by
  have hgives := @gives_decoder scope f i
  rwa [h] at hgives

/-! ### The rows of the payload -/

/-- The row that reads a field from text with a function. -/
def decodedRow (before : String) : Template :=
  row [text before, value ["field", "name"], text " = ", value ["field", "decode_js"],
    text "(form.value.", value ["field", "model_key"], text ");"]

/-- The rows for a field whose text may fail to be read. -/
def guardedRows : Template := sequence [
  lines ["  try \x7b"],
  decodedRow "    payload.",
  lines ["  \x7d catch (error) \x7b"],
  row [text "    problems.", value ["field", "name"], text " = ", script ["field", "parse_error"], text ";"],
  lines ["  \x7d"]]

/-- The row for a field whose value the form keeps as it is. -/
def plainRow : Template :=
  row [text "  payload.", value ["field", "name"], text " = form.value.", value ["field", "model_key"], text ";"]

/-- The rows that read a field from the form. -/
def payloadRows : Template := sequence [
  choose (.path ["field", "parse_error"]) guardedRows (sequence [
    choose (.path ["field", "decode_js"]) (sequence [decodedRow "  payload."]) (sequence [plainRow])])]

/-- Whether a field has a function that reads it decides which rows there are. -/
theorem payloadRows_cases {P : Template → Prop}
    (hchoose : ∀ {test : Expr} {v : Value} {yes no : Template},
      test.Gives (itemScope scope "field" i (fieldValue f)) v →
        (v.truthy = true → P yes) → (v.truthy = false → P no) → P (choose test yes no))
    (guarded : ∀ s, f.decoder? = some s → P guardedRows)
    (decoded : ∀ s, f.decoder? = some s → P (decodedRow "  payload."))
    (plain : f.decoder? = none → P plainRow) : P payloadRows := by
  refine hchoose gives_parseError (fun he => ?_) fun _ => hchoose gives_decoder (fun hd => ?_) fun hd => ?_
  · have hne : f.parseError ≠ "" := by
      intro e
      rw [e] at he
      exact absurd he (by decide)
    obtain ⟨s, hs⟩ := FormField.exists_decoder hne
    exact guarded s hs
  · cases hs : f.decoder? with
    | some s => exact decoded s hs
    | none =>
      rw [hs] at hd
      exact absurd hd (by decide)
  · refine plain ?_
    cases hs : f.decoder? with
    | none => rfl
    | some s =>
      -- the name of a function is not empty, so that the test holds
      have htrue : ∀ t ∈ codecNames, (optional (some t)).truthy = true := by decide
      rw [hs, htrue s (FormField.mem_codecNames_of_decoder hs)] at hd
      cases hd

/-! ### Names that rows declare -/

theorem binds_initialRow (h : IsName f.name.toList) :
    Binds (itemScope scope "field" i (fieldValue f)) (sequence [
      row [text "  ", value ["field", "model_key"], text ": ", value ["field", "initial"], text ","]])
      2 2 [] := by
  refine Row.passes (d := 1) (.text (.hole gives_modelKey (.text (.hole gives_initial (.text .nil))))) ?_
  exact .append (by decide) (.append (Script.passes_name (FormField.isName_modelKey h) 1)
    (.append (by decide) (.append ((FormField.passes_initial f).inside 1) (by decide))))

theorem binds_loadRow (h : IsName f.name.toList) :
    Binds (itemScope scope "field" i (fieldValue f)) (sequence [
      row [text "    ", value ["field", "model_key"], text ": ", value ["field", "load_expression"],
        text ","]]) 3 3 [] := by
  refine Row.passes (d := 2) (.text (.hole gives_modelKey (.text (.hole gives_loadExpression (.text .nil))))) ?_
  exact .append (by decide) (.append (Script.passes_name (FormField.isName_modelKey h) 2)
    (.append (by decide) (.append ((FormField.passes_loadExpression h).inside 2) (by decide))))

theorem binds_decodedRow (h : IsName f.name.toList) {s : String} (hs : f.decoder? = some s)
    {before : List Char} {d : Nat} (hb : Passes d before d) :
    Binds (itemScope scope "field" i (fieldValue f)) (decodedRow (String.ofList before)) (d + 1) (d + 1) [] := by
  have hequals : Passes 0 " = ".toList 0 := by decide
  have hopen : Passes 0 "(form.value.".toList 1 := by decide
  have hclose : Passes 1 [')', ';'] 0 := by decide
  have hmodel : Passes 1 f.modelKey.toList 1 := Script.passes_name (FormField.isName_modelKey h) 1
  have hcall : Passes 0 _ 0 := hopen.append (hmodel.append (hclose.append (by decide : Passes 0 [] 0)))
  refine Row.passes
    (.text (.hole gives_name (.text (.hole (gives_decoder_of_eq hs) (.text (.hole gives_modelKey (.text .nil))))))) ?_
  have hlater : Passes d _ d := (hequals.append ((Script.passes_name (FormField.isName_decoder hs) 0).append
    hcall)).inside d
  exact hb.append ((Script.passes_name h d).append hlater)

/-- Reading a field from the form declares nothing outside of the function that does so. -/
theorem binds_payloadRows (h : IsName f.name.toList) :
    Binds (itemScope scope "field" i (fieldValue f)) payloadRows 1 1 [] := by
  refine payloadRows_cases (P := fun t => Binds (itemScope scope "field" i (fieldValue f)) t 1 1 [])
    binds_choose (fun s hs => ?guarded) (fun s hs => binds_decodedRow h hs (by decide)) fun _ => ?plain
  case guarded =>
    refine .after (e := 2) ?attempt (.after (binds_decodedRow h hs (by decide)) (.after (e := 2) ?failure
      (.after (e := 2) ?problem ?closing)))
    case problem =>
      refine Row.passes (.text (.hole gives_name (.text (.hole gives_parseError.quoted (.text .nil))))) ?_
      exact .append (by decide) (.append (Script.passes_name h 1) (.append (by decide)
        (.append (Script.passes_quote (FormField.not_mem_parseError h) 1) (by decide))))
    all_goals exact binds_lines (by repeat constructor) .nil (by decide)
  case plain =>
    refine Row.passes (d := 0) (.text (.hole gives_name (.text (.hole gives_modelKey (.text .nil))))) ?_
    exact .append (by decide) (.append (Script.passes_name h 0) (.append (by decide)
      (.append (Script.passes_name (FormField.isName_modelKey h) 0) (by decide))))

end

/-! ## Parts of both views -/

-- the fixed lines of the views are read letter by letter
set_option maxRecDepth 4000

section
variable {codecs : List String} {more : List (String × Value)}

/-- The variables of a view, which may have more of its own. -/
def viewScope (c : Collection) (o : Options) (codecs : List String) (more : List (String × Value)) :
    Scope := Scope.ofValues (values c o ++ ("codecs", Value.texts codecs) :: more)

/-! ### Values in a view -/

theorem gives_hook : (Expr.path ["store", "hook"]).Gives (viewScope c o codecs more)
    (.text (StoreNames.ofOptions o).hook) := Expr.Gives.of_record (e := .name "store") rfl rfl

theorem gives_storePath : (Expr.path ["store", "import_path"]).Gives (viewScope c o codecs more)
    (.text (StoreNames.ofOptions o).importPath) := Expr.Gives.of_record (e := .name "store") rfl rfl

theorem gives_validatorFunction :
    (Expr.path ["names", "validator_function"]).Gives (viewScope c o codecs more)
      (.text (CollectionNames.ofCollection c o).validatorFunction) :=
  Expr.Gives.of_record (e := .name "names") rfl rfl

theorem gives_validatorImport : (Expr.path ["names", "validator_import"]).Gives (viewScope c o codecs more)
    (.text (CollectionNames.ofCollection c o).validatorImport) := Expr.Gives.of_record (e := .name "names") rfl rfl

theorem gives_camelName : (Expr.path ["names", "canonical"]).Gives (viewScope c o codecs more)
    (.text c.camelName) := Expr.Gives.of_record (e := .name "names") rfl rfl

theorem gives_getAction : (Expr.path ["names", "get_action"]).Gives (viewScope c o codecs more)
    (.text (CollectionNames.ofCollection c o).getAction) := Expr.Gives.of_record (e := .name "names") rfl rfl

theorem gives_addAction : (Expr.path ["names", "add_action"]).Gives (viewScope c o codecs more)
    (.text (CollectionNames.ofCollection c o).addAction) := Expr.Gives.of_record (e := .name "names") rfl rfl

theorem gives_updateAction : (Expr.path ["names", "update_action"]).Gives (viewScope c o codecs more)
    (.text (CollectionNames.ofCollection c o).updateAction) := Expr.Gives.of_record (e := .name "names") rfl rfl

theorem gives_codecs : (Expr.path ["codecs"]).Gives (viewScope c o codecs more) (Value.texts codecs) := rfl

theorem gives_codecsImport :
    (Expr.path ["codecs_import"]).Gives (viewScope c o codecs more) (.text codecsImport) := rfl

theorem gives_fields : (Expr.path ["fields"]).Gives (viewScope c o codecs more)
    (.list (c.formFields.map fieldValue)) := rfl

theorem gives_title : (Expr.path ["title"]).Gives (viewScope c o codecs more) (.text (Name.label c.name)) := rfl

theorem gives_missing : (Expr.append (.path ["title"]) (.text " not found.")).Gives (viewScope c o codecs more)
    (.text (Name.label c.name ++ " not found.")) := rfl

/-- The view for editing waits before it leads away. -/
theorem gives_redirectDelay : (Expr.path ["redirect_delay"]).Gives
    (viewScope c o codecs [("redirect_delay", .int redirectDelay)]) (.int redirectDelay) := rfl

/-! ### Names that parts declare -/

theorem isQuotable_of_isWord {cs : List Char} (h : Name.IsWord cs) : Script.IsQuotable cs := by
  intro ch hc
  have hne (d : Char) (hd : Text.isWordAscii d = false) : (ch != d) = true :=
    bne_iff_ne.2 (Text.ne_of_isWordAscii (h ch hc) hd)
  rw [Script.isQuotableChar, hne _ rfl, hne _ rfl, hne _ rfl]
  rfl

theorem isQuotable_importPath (o : Options) :
    Script.IsQuotable (StoreNames.ofOptions o).importPath.toList := by
  rw [StoreNames.importPath, String.toList_append, String.toList_ofList]
  exact (Script.isQuotable_of_all rfl).append (isQuotable_of_isWord (Name.isWord_storeName o))

theorem isQuotable_validatorImport (h : c.IsNormal) (o : Options) :
    Script.IsQuotable (CollectionNames.ofCollection c o).validatorImport.toList := by
  rw [CollectionNames.validatorImport, CollectionNames.validatorFunction, String.toList_append,
    String.toList_append, String.toList_ofList, String.toList_ofList]
  exact (Script.isQuotable_of_all rfl).append
    ((Script.isQuotable_of_all rfl).append (isQuotable_of_isWord h.isWord_pascalName))

/-- What both views import from other generated modules. -/
def importedNames (c : Collection) (o : Options) (codecs : List String) : List String :=
  (StoreNames.ofOptions o).hook :: (CollectionNames.ofCollection c o).validatorFunction :: codecs

/-- The functions for form texts are imported if a view needs any. -/
theorem binds_codecsImport (hc : ∀ s ∈ codecs, IsName s.toList) :
    Binds (viewScope c o codecs more) (when (.path ["codecs"]) [
      row [text "import \x7b ", hole (.commas (.path ["codecs"])), text " \x7d from '",
        value ["codecs_import"], text "';"]]) 0 0 codecs := by
  have hplain : Script.IsQuotable codecsImport.toList := by
    rw [codecsImport, String.toList_ofList]
    exact Script.isQuotable_of_all rfl
  have hnil (hv : (Value.texts codecs).truthy = false) : codecs = [] := by
    cases codecs with
    | nil => rfl
    | cons s rest => cases hv
  refine binds_when gives_codecs (fun hv => ?_) hnil
  have hne : codecs ≠ [] := by
    rintro rfl
    cases hv
  have hrow : Binds (viewScope c o codecs more) _ 0 0 codecs :=
    binds_importRow gives_codecs.commas_of_texts gives_codecsImport hne hc hplain
  have hall := hrow.cons (binds_nil _ 0)
  rwa [List.append_nil] at hall

theorem binds_generatedImports (h : c.IsNormal) (hc : ∀ s ∈ codecs, IsName s.toList) :
    Binds (viewScope c o codecs more) FormViews.generatedImports 0 0 (importedNames c o codecs) := by
  have hstoreRow : Binds (viewScope c o codecs more) _ 0 0 [(StoreNames.ofOptions o).hook] :=
    binds_importRow gives_hook gives_storePath (List.cons_ne_nil _ _)
      (List.forall_mem_singleton.2 (StoreNames.isName_hook o)) (isQuotable_importPath o)
  have hvalidatorRow : Binds (viewScope c o codecs more) _ 0 0
      [(CollectionNames.ofCollection c o).validatorFunction] :=
    binds_importRow gives_validatorFunction gives_validatorImport (List.cons_ne_nil _ _)
      (List.forall_mem_singleton.2 (h.isName_validatorFunction o)) (isQuotable_validatorImport h o)
  have hall := hstoreRow.cons (hvalidatorRow.cons ((binds_codecsImport hc).cons (binds_nil _ 0)))
  rw [List.append_nil] at hall
  exact hall

/-- What a form keeps. -/
def formNames : List String := ["submitting", "errors", "fieldErrors", "form"]

theorem binds_formState (h : c.IsNormal) :
    Binds (viewScope c o codecs more) FormViews.formState 0 0 formNames := by
  refine .cons (n := formNames) (e := 2) ?opening (.after (binds_forEach gives_fields fun f hf i => ?row)
    (.after (e := 0) ?closing (binds_nil _ 0)))
  case row =>
    obtain ⟨g, hg, rfl⟩ := List.mem_map.1 hf
    exact binds_initialRow (h.isName_field hg)
  case opening => exact binds_lines (by repeat constructor) (by repeat constructor) (by decide)
  case closing => exact binds_lines (by repeat constructor) .nil (by decide)

/-- What both views declare for sending the form. -/
def submitNames : List String := ["buildPayload", "handleSubmit"]

theorem binds_buildPayload (h : c.IsNormal) :
    Binds (Scope.ofValues [("fields", .list (c.formFields.map fieldValue))]) FormViews.buildPayload 0 0
      ["buildPayload"] := by
  have hfields : (Expr.path ["fields"]).Gives
      (Scope.ofValues [("fields", .list (c.formFields.map fieldValue))])
      (.list (c.formFields.map fieldValue)) := rfl
  refine .cons (n := ["buildPayload"]) (e := 1) ?opening (.after (binds_forEach hfields fun f hf i => ?row)
    (.after (e := 0) ?closing (binds_nil _ 0)))
  case row =>
    obtain ⟨g, hg, rfl⟩ := List.mem_map.1 hf
    exact binds_payloadRows (h.isName_field hg)
  case opening => exact binds_lines (by repeat constructor) (by repeat constructor) (by decide)
  case closing => exact binds_lines (by repeat constructor) .nil (by decide)

theorem binds_submit (h : c.IsNormal) {validated sent : List Char} {action name : String}
    (hv : Passes 0 validated 0) (hs : Passes 0 sent 0)
    (ha : (Expr.path ["names", action]).Gives (viewScope c o codecs more) (.text name))
    (hn : IsName name.toList) :
    Binds (viewScope c o codecs more) (FormViews.submit (String.ofList validated) action (String.ofList sent))
      0 0 submitNames := by
  refine .cons (n := ["buildPayload"]) (binds_within rfl (binds_buildPayload h))
    (.cons (n := ["handleSubmit"]) (e := 2) ?opening (.after (e := 2) ?validate (.after (e := 2) ?refuse
      (.after (e := 2) ?send (.after (e := 0) ?closing (binds_nil _ 0))))))
  case validate =>
    refine Row.passes (d := 1) (.text (.hole gives_validatorFunction (.text .nil))) ?_
    exact .append (by decide) (.append (Script.passes_name (h.isName_validatorFunction o) 1)
      ((hv.inside 1).append (by decide)))
  case send =>
    refine Row.passes (d := 1) (.text (.hole ha (.text .nil))) ?_
    exact .append (by decide) (.append (Script.passes_name hn 1) ((hs.inside 1).append (by decide)))
  case opening => exact binds_lines (by repeat constructor) (by repeat constructor) (by decide)
  all_goals exact binds_lines (by repeat constructor) .nil (by decide)

/-- The constant for the store. -/
theorem binds_storeRow :
    Binds (viewScope c o codecs more) (row [text "const store = ", value ["store", "hook"], text "();"])
      0 0 ["store"] := by
  have hfree : (StoreNames.ofOptions o).hook.toList ∉ Script.declarators := by
    have hhead : ∀ w ∈ Script.declarators, w.head? ≠ some 'u' := by decide
    rw [StoreNames.hook, String.toList_append, String.toList_ofList]
    exact fun hm => hhead _ hm rfl
  refine Row.binds (.text (.hole gives_hook (.text .nil))) ?_
  have hstore : IsName "store".toList := ⟨List.cons_ne_nil _ _, List.all_eq_true.1 rfl⟩
  have hcall := Script.binds_call hstore (StoreNames.isName_hook o) hfree
  rw [List.map_singleton, List.append_nil]
  exact hcall

/-! ## Creating a record -/

/-- The names that the view for creating a record imports and declares. -/
def createNames (c : Collection) (o : Options) : List String :=
  ["ref", "useRouter"] ++ importedNames c o (createImports c.formFields) ++ ["router", "store"]
    ++ formNames ++ submitNames

theorem opensScript_createState (h : c.IsNormal) (hc : ∀ s ∈ codecs, IsName s.toList) :
    OpensScript (viewScope c o codecs more) FormViews.createState
      (["ref", "useRouter"] ++ (importedNames c o codecs ++ (["router"] ++ (["store"] ++ ([] ++
        (formNames ++ [])))))) := by
  refine .cons (n := ["ref", "useRouter"]) ?imports (.cons (e := 0) (binds_generatedImports h hc)
    (.cons (n := ["router"]) (e := 0) ?router (.cons binds_storeRow (.cons (e := 0) (n := []) ?gap
      (.cons (binds_formState h) (binds_nil _ 0))))))
  case imports => exact opensScript_lines (by repeat constructor) (by repeat constructor) (by decide)
  case router => exact binds_lines (by repeat constructor) (by repeat constructor) (by decide)
  case gap => exact binds_lines (by repeat constructor) .nil (by decide)

theorem closesScript_createMarkup : ClosesScript FormViews.createMarkup :=
  (closesScript_lines (by repeat constructor)).sequence _

/-! ## Editing a record -/

/-- The names that the view for editing a record imports and declares. -/
def editNames (c : Collection) (o : Options) : List String :=
  ["onMounted", "ref", "useRoute", "useRouter"] ++ importedNames c o (editImports c.formFields)
    ++ ["props", "route", "router", "store", "recordId", "loading"] ++ formNames ++ ["leaveWith"]
    ++ submitNames

theorem opensScript_editState (h : c.IsNormal) (hc : ∀ s ∈ codecs, IsName s.toList) :
    OpensScript (viewScope c o codecs more) FormViews.editState
      (["onMounted", "ref", "useRoute", "useRouter"] ++ (importedNames c o codecs
        ++ (["props", "route", "router"] ++ (["store"] ++ (["recordId", "loading"]
          ++ (formNames ++ [])))))) := by
  refine .cons (n := ["onMounted", "ref", "useRoute", "useRouter"]) ?imports
    (.cons (e := 0) (binds_generatedImports h hc) (.cons (n := ["props", "route", "router"]) (e := 0) ?routes
      (.cons binds_storeRow (.cons (n := ["recordId", "loading"]) (e := 0) ?record
        (.cons (binds_formState h) (binds_nil _ 0))))))
  case imports => exact opensScript_lines (by repeat constructor) (by repeat constructor) (by decide)
  case routes => exact binds_lines (by repeat constructor) (by repeat constructor) (by decide)
  case record => exact binds_lines (by repeat constructor) (by repeat constructor) (by decide)

theorem not_mem_label (h : c.IsNormal) : '<' ∉ (Name.label c.name).toList := by
  intro hm
  rcases Name.mem_label hm with hc | hc | ⟨hw, -⟩
  · exact absurd hc (by decide)
  · exact absurd hc (by decide)
  · exact h.words_ne_nil hw

theorem binds_editLoad (h : c.IsNormal) :
    Binds (viewScope c o codecs [("redirect_delay", .int redirectDelay)]) FormViews.editLoad 0 0
      ["leaveWith"] := by
  refine .cons (n := ["leaveWith"]) (e := 1) ?leaving (.after (e := 1) ?delay (.after (e := 3) ?opening
    (.after (e := 3) ?absent (.after (e := 2) ?returning (.after (e := 2) ?get (.after (e := 3) ?failing
      (.after (e := 3) ?missing (.after (e := 3) ?found (.after (binds_forEach gives_fields fun f hf i => ?row)
        (.after (e := 0) ?closing (binds_nil _ 0)))))))))))
  case delay =>
    refine Row.passes (d := 0) (.text (.shown gives_redirectDelay (.text .nil))) ?_
    exact .append (e := 1) (by decide) (.append (e := 1) (by decide) (by decide))
  case absent =>
    refine Row.passes (d := 2) (.text (.hole gives_camelName (.text .nil))) ?_
    have hquotable : Script.IsQuotable (['N', 'o', ' ']
        ++ (c.camelName.toList ++ " id was given.".toList)) :=
      (Script.isQuotable_of_all rfl).append
        ((isQuotable_of_isWord h.isWord_camelName).append (Script.isQuotable_of_all rfl))
    have hopen : Passes 2 "    leaveWith(".toList 3 := by decide
    have hall : Passes 2 _ 2 := hopen.append ((Script.passes_quoted hquotable 3).append
      (by decide : Passes 3 [')', ';'] 2))
    simpa only [String.reduceToList, List.append_assoc, List.cons_append, List.nil_append, List.append_nil]
      using hall
  case get =>
    refine Row.passes (d := 1) (.text (.hole gives_getAction (.text .nil))) ?_
    have hname : IsName (CollectionNames.ofCollection c o).getAction.toList :=
      isName_append (isName_ofList rfl) h.isWord_pascalName
    exact .append (by decide) (.append (Script.passes_name hname 1) (by decide))
  case missing =>
    refine Row.passes (d := 2) (.text (.hole gives_missing.quoted (.text .nil))) ?_
    have hmessage : '<' ∉ (Name.label c.name ++ " not found.").toList := by
      rw [String.toList_append, String.toList_ofList, List.mem_append, not_or]
      exact ⟨not_mem_label h, by decide⟩
    exact .append (e := 3) (by decide) (.append (Script.passes_quote hmessage 3) (by decide))
  case row =>
    obtain ⟨g, hg, rfl⟩ := List.mem_map.1 hf
    exact binds_loadRow (h.isName_field hg)
  case leaving => exact binds_lines (by repeat constructor) (by repeat constructor) (by decide)
  all_goals exact binds_lines (by repeat constructor) .nil (by decide)

theorem closesScript_editMarkup : ClosesScript FormViews.editMarkup :=
  (closesScript_lines (by repeat constructor)).sequence _

end

/-! ## The views -/

theorem componentNames?_createFile (h : c.IsNormal) (o : Options) :
    ∃ f, createFile c o = .ok f ∧ Script.componentNames? f.content = some (createNames c o) := by
  obtain ⟨f, hf, -⟩ := isMade_createFile h o
  have hc : ∀ s ∈ createImports c.formFields, IsName s.toList := fun s hm =>
    isName_of_mem_codecNames (mem_codecNames_of_editImports (mem_editImports_of_createImports hm))
  have hname : IsName (CollectionNames.ofCollection c o).addAction.toList :=
    isName_append (isName_ofList rfl) h.isWord_pascalName
  have hsubmit : Binds (viewScope c o (createImports c.formFields) [])
      (FormViews.submit "(payload);" "add_action" "(payload);") 0 0 submitNames :=
    binds_submit h (by decide) (by decide) gives_addAction hname
  have hmade : Artifact.ofTemplate (CollectionNames.ofCollection c o).createViewPath
      (sequence (FormViews.createState :: [FormViews.submit "(payload);" "add_action" "(payload);"]
        ++ [FormViews.createMarkup]))
      (values c o ++ [("codecs", Value.texts (createImports c.formFields))]) = .ok f := hf
  refine ⟨f, hf, Artifact.componentNames?_of_ofTemplate hmade (opensScript_createState h hc)
    (hsubmit.cons (binds_nil _ 0)) closesScript_createMarkup ?_⟩
  simp only [createNames, List.append_assoc, List.append_nil, List.nil_append]
  rfl

theorem componentNames?_editFile (h : c.IsNormal) (o : Options) :
    ∃ f, editFile c o = .ok f ∧ Script.componentNames? f.content = some (editNames c o) := by
  obtain ⟨f, hf, -⟩ := isMade_editFile h o
  have hc : ∀ s ∈ editImports c.formFields, IsName s.toList := fun s hm =>
    isName_of_mem_codecNames (mem_codecNames_of_editImports hm)
  have hname : IsName (CollectionNames.ofCollection c o).updateAction.toList :=
    isName_append (isName_ofList rfl) h.isWord_pascalName
  have hsubmit : Binds (viewScope c o (editImports c.formFields) [("redirect_delay", .int redirectDelay)])
      (FormViews.submit "(payload, \x7b checkEmailExistence: false \x7d);" "update_action"
        "(recordId, payload);") 0 0 submitNames :=
    binds_submit h (by decide) (by decide) gives_updateAction hname
  have hmade : Artifact.ofTemplate (CollectionNames.ofCollection c o).editViewPath
      (sequence (FormViews.editState :: [FormViews.editLoad,
        FormViews.submit "(payload, \x7b checkEmailExistence: false \x7d);" "update_action"
          "(recordId, payload);"] ++ [FormViews.editMarkup]))
      (values c o ++ [("codecs", Value.texts (editImports c.formFields)),
        ("redirect_delay", .int redirectDelay)]) = .ok f := hf
  refine ⟨f, hf, Artifact.componentNames?_of_ofTemplate hmade (opensScript_editState h hc)
    ((binds_editLoad h).cons (hsubmit.cons (binds_nil _ 0))) closesScript_editMarkup ?_⟩
  simp only [editNames, List.append_assoc, List.append_nil]
  rfl

end Form

end Scaffold
