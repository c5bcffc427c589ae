import Scaffold.Proofs.Form.Apart
import Scaffold.Proofs.Form.Slots
import Scaffold.Proofs.Script.Callee
import Scaffold.Proofs.Validation.Checks

/-!
# Conversions in the views

The views call conversions of form texts for the fields that need any: both views to read the payload from the
form, and the one for editing also to fill the form from a record. Each view imports exactly those that it
calls, and the module of conversions is made if a view imports from it.

* `Form.callees_createFile` and `Form.callees_editFile` tell the conversions that the text of a view calls;
* `Form.importedFrom_createFile` and `Form.importedFrom_editFile` tell those that it imports;
* `Form.conversions_of_views` compares both for all collections of a run.
-/

namespace Scaffold

open Template
open Script (Declaration IsName IsFree Lexing calleesIn)

namespace Script

/-- The names that a declaration imports from a source. -/
def Declaration.namesFrom (source : String) : Declaration → List String
  | .imports names other => if other = source then names else []
  | .exports _ => []

theorem Declaration.namesFrom_self (names : List String) (source : String) :
    namesFrom source (imports names source) = names := if_pos rfl

theorem Declaration.namesFrom_of_ne {names : List String} {source other : String} (h : other ≠ source) :
    namesFrom source (imports names other) = [] := if_neg h

/-- The names that a module imports from a source, each as often as the module asks for it. -/
def importedFrom (source content : String) : List String :=
  (declarations content).flatMap (Declaration.namesFrom source)

end Script

/-! ## Conversions that lines call -/

namespace Form

/-- The characters of the names of the conversions. -/
def codecWords : List (List Char) := codecNames.map String.toList

theorem mem_codecWords_iff {s : String} : s.toList ∈ codecWords ↔ s ∈ codecNames :=
  List.mem_map_of_injective fun _ _ => String.toList_inj.1

/-- All conversions begin with one of two letters. -/
theorem not_mem_codecWords {cs : List Char} {d : Char} (h : cs.head? = some d) (hd : d ≠ 't' ∧ d ≠ 'p') :
    cs ∉ codecWords := by
  have hfirst : ∀ w ∈ codecWords, w.head? = some 't' ∨ w.head? = some 'p' := by decide
  intro hm
  rcases hfirst cs hm with he | he
  · exact hd.1 (Option.some.inj (h.symm.trans he))
  · exact hd.2 (Option.some.inj (h.symm.trans he))

/-- The conversions that a line calls. -/
def conversionsIn (line : List Char) : List (List Char) := (calleesIn line).filter (codecWords.contains ·)

theorem conversionsIn_eq_nil {line : List Char} {words : List (List Char)} (h : calleesIn line = words)
    (hw : ∀ w ∈ words, w ∉ codecWords) : conversionsIn line = [] := by
  rw [conversionsIn, h]
  exact List.filter_eq_nil_iff.2 fun w hm hc => hw w hm (List.contains_iff_mem.1 hc)

theorem conversionsIn_eq_singleton {line : List Char} {s : String} (h : calleesIn line = [s.toList])
    (hs : s ∈ codecNames) : conversionsIn line = [s].map String.toList := by
  have hmem : codecWords.contains s.toList = true := List.contains_iff_mem.2 (mem_codecWords_iff.2 hs)
  rw [conversionsIn, h, List.filter_cons_of_pos hmem]
  rfl

end Form

/-! ## Templates that call conversions -/

namespace Template

variable {scope : Scope}

/-- The lines of a template call these conversions. -/
def Calls (scope : Scope) (t : Template) (names : List String) : Prop :=
  ∃ css, HasLines scope t css ∧ css.flatMap Form.conversionsIn = names.map String.toList

theorem calls_nil (scope : Scope) : Calls scope (sequence []) [] := ⟨[], hasLines_nil scope, rfl⟩

theorem Calls.cons {t : Template} {ts : List Template} {xs ys : List String} (h : Calls scope t xs)
    (hr : Calls scope (sequence ts) ys) : Calls scope (sequence (t :: ts)) (xs ++ ys) := by
  obtain ⟨css, hl, hx⟩ := h
  obtain ⟨dss, hm, hy⟩ := hr
  exact ⟨css ++ dss, hl.cons hm, by rw [List.flatMap_append, List.map_append, hx, hy]⟩

/-- A part that calls no conversion stands in front. -/
theorem Calls.after {t : Template} {ts : List Template} {xs : List String} (h : Calls scope t [])
    (hr : Calls scope (sequence ts) xs) : Calls scope (sequence (t :: ts)) xs := h.cons hr

/-- A part that calls no conversion stands at the end. -/
theorem Calls.before {t : Template} {ts : List Template} {xs : List String} (h : Calls scope t xs)
    (hr : Calls scope (sequence ts) []) : Calls scope (sequence (t :: ts)) xs :=
  List.append_nil xs ▸ h.cons hr

theorem calls_lines {ls : List String} {css : List (List Char)} (h : Text.Spells ls css)
    (hn : ∀ cs ∈ css, '\n' ∉ cs) (hc : css.flatMap Form.conversionsIn = []) : Calls scope (lines ls) [] :=
  ⟨css, hasLines_lines h hn, hc⟩

theorem Row.calls {ts : List Template} {cs : List Char} {xs : List String} (h : Row scope ts cs)
    (hn : '\n' ∉ cs) (hc : Form.conversionsIn cs = xs.map String.toList) : Calls scope (row ts) xs :=
  ⟨[cs], h.hasLines hn, by rw [List.flatMap_singleton, hc]⟩

/-- A row without a bracket calls nothing. -/
theorem Row.callsNothing {ts : List Template} {cs : List Char} (h : Row scope ts cs)
    (hf : '(' ∉ cs ∧ '\n' ∉ cs) : Calls scope (row ts) [] :=
  h.calls hf.2 (by rw [Form.conversionsIn, Script.calleesIn_of_not_mem hf.1]; rfl)

/-- A row that calls what has a name, which is no conversion, and nothing else. -/
theorem calls_nameRow {e : Expr} {name : String} {before after : List Char} (he : e.Gives scope (.text name))
    (hname : IsName name.toList) (hother : name.toList ∉ Form.codecWords)
    (hn : '\n' ∉ before ∧ '\n' ∉ after)
    (hc : ∀ w, IsName w → calleesIn (before ++ (w ++ after)) = [w]) :
    Calls scope (row [text (String.ofList before), hole e, text (String.ofList after)]) [] := by
  refine Row.calls (.text (.hole he (.text .nil))) ?_ ?_
  · simp [hn.1, hn.2, hname.not_mem (d := '\n') (by decide)]
  · rw [List.append_nil]
    exact Form.conversionsIn_eq_nil (hc _ hname) (List.forall_mem_singleton.2 hother)

/-- One of two parts. -/
theorem calls_choose {test : Expr} {v : Value} {yes no : Template} {xs : List String}
    (hg : test.Gives scope v) (hy : v.truthy = true → Calls scope yes xs)
    (hn : v.truthy = false → Calls scope no xs) : Calls scope (choose test yes no) xs := by
  unfold Calls
  simp only [hasLines_choose_iff hg]
  cases hv : v.truthy with
  | true => exact hy hv
  | false => exact hn hv

/-- A part with variables of its own. -/
theorem calls_within {arguments : List (String × Expr)} {inner : Scope} {body : Template} {xs : List String}
    (ha : argumentScope scope arguments = .ok inner) (h : Calls inner body xs) :
    Calls scope (row [within arguments body]) xs := by
  obtain ⟨css, hl, hx⟩ := h
  have hend : [[]].flatMap Form.conversionsIn = [] := rfl
  exact ⟨css ++ [[]], hl.within ha, by rw [List.flatMap_append, hend, List.append_nil, hx]⟩

/-- Parts for each item of a list, each with its conversions. -/
theorem calls_forEach {α : Type} {item : String} {source : Expr} {parts : List Template} {items : List α}
    {value : α → Value} {found : α → List String} (hs : source.Gives scope (.list (items.map value)))
    (h : ∀ x ∈ items, ∀ i, Calls (itemScope scope item i (value x)) (sequence parts) (found x)) :
    Calls scope (forEach item source parts) (items.flatMap found) := by
  refine hasLines_forEach (P := fun css xs => css.flatMap Form.conversionsIn = xs.map String.toList) rfl ?_ hs h
  intro css dss xs ys hx hy
  rw [List.flatMap_append, List.map_append, hx, hy]

/-- Parts for each item of a list, none of which calls a conversion. -/
theorem calls_forEach_nothing {α : Type} {item : String} {source : Expr} {parts : List Template}
    {items : List α} {value : α → Value} (hs : source.Gives scope (.list (items.map value)))
    (h : ∀ x ∈ items, ∀ i, Calls (itemScope scope item i (value x)) (sequence parts) []) :
    Calls scope (forEach item source parts) [] := by
  have hall : Calls scope (forEach item source parts) (items.flatMap fun _ => []) := calls_forEach hs h
  rwa [List.flatMap_eq_nil_iff.2 fun _ _ => rfl] at hall

/-- The conversions that the text of a file from a template calls. -/
theorem Calls.ofTemplate {path : String} {t : Template} {values : List (String × Value)} {xs : List String}
    (h : Calls (Scope.ofValues values) t xs) :
    ∃ f, Artifact.ofTemplate path t values = .ok f
      ∧ (Script.callees f.content).filter (· ∈ Form.codecNames) = xs := by
  obtain ⟨css, ⟨s, hs, hl, hn⟩, hx⟩ := h
  refine ⟨⟨path, s⟩, ?_, ?_⟩
  · rw [Artifact.ofTemplate, hs]
    rfl
  · have hfound : (css.flatMap calleesIn).filter (Form.codecWords.contains ·) = xs.map String.toList := by
      rw [List.filter_flatMap]
      exact hx
    have htexts : (xs.map String.toList).map String.ofList = xs := by
      rw [List.map_map]
      exact List.map_id'' (fun s => String.ofList_toList) xs
    rw [Script.callees_of_joinLines hl hn, List.filter_map, ← htexts, ← hfound]
    refine congrArg (List.map String.ofList) (List.filter_congr fun w _ => ?_)
    rw [Function.comp_apply, List.contains_eq_mem, decide_eq_decide, ← Form.mem_codecWords_iff,
      String.toList_ofList]

end Template

/-! ## Texts of fields -/

namespace FormField

variable {f : FormField}

theorem isFree_defaultLiteral (k : Kind) : IsFree k.defaultLiteral := by
  cases k <;> exact Script.isFree_ofList rfl

theorem isFree_initial (f : FormField) : IsFree f.initial := by
  unfold initial
  split
  next s _ hs =>
    refine IsFree.quote ?_
    rcases formText_default hs with rfl | rfl <;> exact Script.isFree_ofList rfl
  next => exact isFree_defaultLiteral f.kind

/-- An expression that calls no function has no bracket. -/
theorem isFree_loadExpression (h : IsName f.name.toList) (he : f.encoder? = none) :
    IsFree f.loadExpression := by
  unfold loadExpression
  rw [he]
  exact (((Script.isFree_ofList rfl).append (isFree_of_isName h)).append (Script.isFree_ofList rfl)).append
    (isFree_defaultLiteral f.kind)

theorem loadExpression_of_encoder {s : String} (h : f.encoder? = some s) :
    f.loadExpression.toList
      = s.toList ++ ("(record.".toList ++ (f.name.toList ++ [')'])) := by
  unfold loadExpression
  rw [h]
  simp only [String.toList_append, List.append_assoc]
  rfl

theorem isFree_label (h : IsName f.name.toList) : IsFree f.label := by
  have hother {d : Char} (hd : Intake.isIdentifierChar d = false) (hs : d ≠ ' ') : d ∉ f.label.toList :=
    fun hm => (isPlain_label h d hm).elim (fun hc => Script.ne_of_isIdentifierChar hc hd rfl) hs
  exact ⟨hother (by decide) (by decide), hother (by decide) (by decide)⟩

theorem isKept_isFree : Markup.IsKept IsFree where
  fixed := Script.isFree_ofList
  append := IsFree.append
  escape hs := ⟨Markup.not_mem_escape (by decide) hs.1, Markup.not_mem_escape (by decide) hs.2⟩

end FormField

namespace Form

variable {c : Collection} {o : Options}

/-! ## Rows for fields -/

section

variable {scope : Scope} {f : FormField} {i : Nat}

/-- A row of an object that a form starts from. -/
theorem calls_initialRow (h : IsName f.name.toList) :
    Calls (itemScope scope "field" i (fieldValue f)) (sequence [
      row [text "  ", value ["field", "model_key"], text ": ", value ["field", "initial"], text ","]]) [] := by
  have hfree := isFree_of_isName (FormField.isName_modelKey h)
  have hliteral := FormField.isFree_initial f
  refine Row.callsNothing (.text (.hole gives_modelKey (.text (.hole gives_initial (.text .nil))))) ⟨?_, ?_⟩
  · simp [hfree.1, hliteral.1]
  · simp [hfree.2, hliteral.2]

/-- A row of an object that a form is filled from calls what turns the value into form text. -/
theorem calls_loadRow (h : IsName f.name.toList) :
    Calls (itemScope scope "field" i (fieldValue f)) (sequence [
      row [text "    ", value ["field", "model_key"], text ": ", value ["field", "load_expression"],
        text ","]]) f.encoder?.toList := by
  have hmodel := FormField.isName_modelKey h
  have hfree := isFree_of_isName hmodel
  cases he : f.encoder? with
  | none =>
    have hexpression := FormField.isFree_loadExpression h he
    refine Row.callsNothing (.text (.hole gives_modelKey (.text (.hole gives_loadExpression (.text .nil)))))
      ⟨?_, ?_⟩
    · simp [hfree.1, hexpression.1]
    · simp [hfree.2, hexpression.2]
  | some s =>
    have hcodec := mem_codecNames_of_encoder he
    have hname := isName_of_mem_codecNames hcodec
    refine Row.calls (.text (.hole gives_modelKey (.text (.hole gives_loadExpression (.text .nil))))) ?_
      (conversionsIn_eq_singleton ?_ hcodec)
    · rw [FormField.loadExpression_of_encoder he]
      simp [hfree.2, hname.not_mem (d := '\n') (by decide), h.not_mem (d := '\n') (by decide)]
    · rw [FormField.loadExpression_of_encoder he]
      simp only [List.append_assoc]
      exact Eq.trans (Script.calleesIn_of_run (Lexing.run_append_of_eq rfl
        (Lexing.run_append_of_eq (Script.run_name_between hmodel) (Lexing.run_append_of_eq rfl
          (Lexing.run_append_of_eq (Script.run_name_between hname) (Lexing.run_append_of_eq rfl
            (Lexing.run_append_of_eq (Script.run_name_between h) rfl))))))) rfl

/-- A row that reads a field with a function. -/
theorem calls_decodedRow (h : IsName f.name.toList) {s : String} (hs : f.decoder? = some s)
    {before : List Char} (hn : '\n' ∉ before)
    (hb : Lexing.between.run before = ([.word "payload".toList, .mark '.'], .between)) :
    Calls (itemScope scope "field" i (fieldValue f)) (decodedRow (String.ofList before)) [s] := by
  have hcodec := FormField.mem_codecNames_of_decoder hs
  have hdecoder := isName_of_mem_codecNames hcodec
  have hmodel := FormField.isName_modelKey h
  refine Row.calls (.text (.hole gives_name (.text (.hole (gives_decoder_of_eq hs)
    (.text (.hole gives_modelKey (.text .nil))))))) ?_ (conversionsIn_eq_singleton ?_ hcodec)
  · simp [hn, h.not_mem (d := '\n') (by decide), hdecoder.not_mem (d := '\n') (by decide),
      hmodel.not_mem (d := '\n') (by decide)]
  · exact Eq.trans (Script.calleesIn_of_run (Lexing.run_append_of_eq hb
      (Lexing.run_append_of_eq (Script.run_name_between h) (Lexing.run_append_of_eq rfl
        (Lexing.run_append_of_eq (Script.run_name_between hdecoder) (Lexing.run_append_of_eq rfl
          (Lexing.run_append_of_eq (Script.run_name_between hmodel) rfl))))))) rfl

/-- Each field of the payload is read with its conversion, if it has one. -/
theorem calls_payloadRows (h : IsName f.name.toList) :
    Calls (itemScope scope "field" i (fieldValue f)) payloadRows f.createCodecs := by
  have hfree := isFree_of_isName h
  have hcodecs {s : String} (hs : f.decoder? = some s) : f.createCodecs = [s] := by
    rw [FormField.createCodecs, hs]
    rfl
  refine payloadRows_cases (P := fun t => Calls (itemScope scope "field" i (fieldValue f)) t f.createCodecs)
    calls_choose (fun s hs => ?guarded) (fun s hs => ?decoded) fun hnone => ?plain
  case guarded =>
    rw [hcodecs hs]
    refine .after ?attempt (.before (calls_decodedRow h hs (by decide) rfl)
      (.after ?failure (.after ?problem (.after ?closing (calls_nil _)))))
    case problem =>
      have hquote := Script.inline_quote f.parseError
      unfold Inline at hquote
      refine Row.calls (.text (.hole gives_name (.text (.hole gives_parseError.quoted (.text .nil))))) ?_ ?_
      · simp [hfree.2, hquote]
      · refine conversionsIn_eq_nil ?_ fun w hw => absurd hw List.not_mem_nil
        exact Eq.trans (Script.calleesIn_of_run (Lexing.run_append_of_eq rfl
          (Lexing.run_append_of_eq (Script.run_name_between h) (Lexing.run_append_of_eq rfl
            (Lexing.run_append_of_eq (Script.run_script_quote f.parseError) rfl))))) rfl
    all_goals exact calls_lines (by repeat constructor) (by decide) (by decide)
  case decoded =>
    rw [hcodecs hs]
    exact calls_decodedRow h hs (by decide) rfl
  case plain =>
    rw [FormField.createCodecs, hnone]
    have hmodel := isFree_of_isName (FormField.isName_modelKey h)
    refine Row.callsNothing (.text (.hole gives_name (.text (.hole gives_modelKey (.text .nil))))) ⟨?_, ?_⟩
    · simp [hfree.1, hmodel.1]
    · simp [hfree.2, hmodel.2]

/-- A widget calls nothing. -/
theorem calls_widgetRow (h : IsName f.name.toList) (hd : IsFree f.field.declared) :
    Calls (itemScope scope "field" i (fieldValue f)) (sequence [row [value ["field", "widget"]]]) [] := by
  have hlines := FormField.kept_widgetLines FormField.isKept_isFree (isFree_of_isName h)
    (FormField.isFree_label h) hd
  refine ⟨_, hasLines_widgetRow h hd.2, List.flatMap_eq_nil_iff.2 fun cs hcs => ?_⟩
  obtain ⟨l, hl, rfl⟩ := List.mem_map.1 hcs
  have hfree : IsFree (FormField.margin ++ l) := .append (Script.isFree_ofList rfl) (hlines l hl)
  rw [conversionsIn, Script.calleesIn_of_not_mem hfree.1]
  rfl

end

/-! ## Parts of both views -/

-- the fixed lines of the views are read letter by letter
set_option maxRecDepth 4000

section

variable {codecs : List String} {more : List (String × Value)}

theorem calls_generatedImports (h : c.IsNormal) (hc : ∀ s ∈ codecs, IsName s.toList) :
    Calls (viewScope c o codecs more) FormViews.generatedImports [] := by
  have importRow {list source : Expr} {names path : String}
      (hl : list.Gives (viewScope c o codecs more) (.text names))
      (hs : source.Gives (viewScope c o codecs more) (.text path)) (hn : IsFree names) (hp : IsFree path) :
      Calls (viewScope c o codecs more)
        (row [text "import \x7b ", hole list, text " \x7d from '", hole source, text "';"]) [] := by
    refine Row.callsNothing (.text (.hole hl (.text (.hole hs (.text .nil))))) ⟨?_, ?_⟩
    · simp [hn.1, hp.1]
    · simp [hn.2, hp.2]
  have hvalidator := isFree_of_isName (h.isName_validatorFunction o)
  have hlist : IsFree (commaList codecs) := by
    have hother {d : Char} (hd : Intake.isIdentifierChar d = false) (hs : d ∉ [',', ' ']) :
        d ∉ (commaList codecs).toList := by
      rw [Text.toList_commaList]
      refine Text.not_mem_intercalate hs fun cs hcs => ?_
      obtain ⟨s, hm, rfl⟩ := List.mem_map.1 hcs
      exact (hc s hm).not_mem hd
    exact ⟨hother (by decide) (by decide), hother (by decide) (by decide)⟩
  exact .after (importRow gives_hook gives_storePath (isFree_of_isName (StoreNames.isName_hook o))
      ((Script.isFree_ofList rfl).append (isFree_of_isWord (Name.isWord_storeName o))))
    (.after (importRow gives_validatorFunction gives_validatorImport hvalidator
        ((Script.isFree_ofList rfl).append hvalidator))
      (calls_choose gives_codecs (fun _ => .after (importRow gives_codecs.commas_of_texts gives_codecsImport hlist
        (Script.isFree_ofList rfl)) (calls_nil _)) fun _ => calls_nil _))

theorem calls_formState (h : c.IsNormal) :
    Calls (viewScope c o codecs more) FormViews.formState [] := by
  refine .after ?opening (.after (calls_forEach_nothing gives_fields fun f hf i => ?row)
    (.after ?closing (calls_nil _)))
  case row =>
    obtain ⟨g, hg, rfl⟩ := List.mem_map.1 hf
    exact calls_initialRow (h.isName_field hg)
  all_goals exact calls_lines (by repeat constructor) (by decide) (by decide)

theorem calls_buildPayload (h : c.IsNormal) :
    Calls (Scope.ofValues [("fields", .list (c.formFields.map fieldValue))]) FormViews.buildPayload
      (c.formFields.flatMap FormField.createCodecs) := by
  have hfields : (Expr.path ["fields"]).Gives
      (Scope.ofValues [("fields", .list (c.formFields.map fieldValue))])
      (.list (c.formFields.map fieldValue)) := rfl
  refine .after ?opening (.before (calls_forEach hfields fun f hf i => ?row)
    (.after ?closing (calls_nil _)))
  case row =>
    obtain ⟨g, hg, rfl⟩ := List.mem_map.1 hf
    exact calls_payloadRows (h.isName_field hg)
  all_goals exact calls_lines (by repeat constructor) (by decide) (by decide)

/-- Sending the form calls what reads the payload, if the rows for validating and sending call nothing. -/
theorem calls_submit (h : c.IsNormal) {validated action sent : String}
    (hv : Calls (viewScope c o codecs more) (row [text "    const validationErrors = await ",
      value ["names", "validator_function"], text validated]) [])
    (hs : Calls (viewScope c o codecs more) (row [text "    const result = await store.",
      value ["names", action], text sent]) []) :
    Calls (viewScope c o codecs more) (FormViews.submit validated action sent)
      (c.formFields.flatMap FormField.createCodecs) := by
  refine .before (calls_within rfl (calls_buildPayload h)) (.after ?opening (.after hv
    (.after ?refuse (.after hs (.after ?closing (calls_nil _))))))
  all_goals exact calls_lines (by repeat constructor) (by decide) (by decide)

/-- The form calls nothing. -/
theorem calls_formBody (h : c.IsNormal) {label : String} (hl : IsFree label) :
    Calls (Scope.ofValues [("fields", .list (c.formFields.map fieldValue)), ("submit_label", .text label)])
      FormViews.formBody [] := by
  generalize hscope : Scope.ofValues [("fields", .list (c.formFields.map fieldValue)),
    ("submit_label", .text label)] = scope
  have hfields : (Expr.path ["fields"]).Gives scope (.list (c.formFields.map fieldValue)) := by
    subst hscope
    rfl
  have hlabel : (Expr.path ["submit_label"]).Gives scope (.text label) := by
    subst hscope
    rfl
  refine .after ?opening (.after (calls_forEach_nothing hfields fun f hf i => ?row)
    (.after ?errors (.after ?button (.after ?closing (calls_nil _)))))
  case row =>
    obtain ⟨g, hg, rfl⟩ := List.mem_map.1 hf
    exact calls_widgetRow (h.isName_field hg) (isFree_of_isTypeTag (h.fields_plain g hg).2)
  case button =>
    refine Row.callsNothing (.text (.hole hlabel (.text .nil))) ⟨?_, ?_⟩
    · simp [hl.1]
    · simp [hl.2]
  all_goals exact calls_lines (by repeat constructor) (by decide) (by decide)

/-- The function that gives access to the store is no conversion. -/
theorem calls_storeRow :
    Calls (viewScope c o codecs more)
      (row [text "const store = ", value ["store", "hook"], text "();"]) [] := by
  refine calls_nameRow gives_hook (StoreNames.isName_hook o) (not_mem_codecWords (head?_hook o) (by decide))
    (by decide) fun w hw => ?_
  rw [Script.calleesIn_name rfl hw rfl]
  rfl

/-- The function that validates a record is no conversion. -/
theorem calls_validateRow (h : c.IsNormal) {before after : List Char} (hn : '\n' ∉ before ∧ '\n' ∉ after)
    (hc : ∀ w, IsName w → calleesIn (before ++ (w ++ after)) = [w]) :
    Calls (viewScope c o codecs more) (row [text (String.ofList before),
      value ["names", "validator_function"], text (String.ofList after)]) [] := by
  exact calls_nameRow gives_validatorFunction (h.isName_validatorFunction o)
    (not_mem_codecWords (head?_validatorFunction c o) (by decide)) hn hc

/-- An action is a part of the store. -/
theorem calls_actionRow {action name : String} {before after : List Char}
    (ha : (Expr.path ["names", action]).Gives (viewScope c o codecs more) (.text name))
    (hname : IsName name.toList) (hn : '\n' ∉ before ∧ '\n' ∉ after)
    (hc : ∀ w, IsName w → calleesIn (before ++ (w ++ after)) = []) :
    Calls (viewScope c o codecs more) (row [text (String.ofList before), value ["names", action],
      text (String.ofList after)]) [] := by
  refine Row.calls (.text (.hole ha (.text .nil))) ?_ ?_
  · simp [hn.1, hn.2, hname.not_mem (d := '\n') (by decide)]
  · rw [List.append_nil, conversionsIn, hc _ hname]
    rfl

/-- The title of a view. -/
theorem calls_titleRow (h : c.IsNormal) {before : List Char} (hb : '(' ∉ before ∧ '\n' ∉ before) :
    Calls (viewScope c o codecs more)
      (row [text (String.ofList before), value ["title"], text "</h1>"]) [] := by
  have hother {d : Char} (hw : Text.isWordAscii d = false) (hs : d ≠ ' ') :
      d ∉ (Name.label c.name).toList := by
    intro hm
    rcases Name.mem_label hm with hc | hc | ⟨hc, -⟩
    · exact Bool.false_ne_true (hw.symm.trans hc)
    · exact hs hc
    · exact h.words_ne_nil hc
  refine Row.callsNothing (.text (.hole gives_title (.text .nil))) ⟨?_, ?_⟩
  · simp [hb.1, hother (d := '(') rfl (by decide)]
  · simp [hb.2, hother (d := '\n') rfl (by decide)]

/-! ## Creating a record -/

theorem calls_createState (h : c.IsNormal) (hc : ∀ s ∈ codecs, IsName s.toList) :
    Calls (viewScope c o codecs more) FormViews.createState [] := by
  refine .after ?imports (.after (calls_generatedImports h hc) (.after ?router (.after calls_storeRow
    (.after ?gap (.after (calls_formState h) (calls_nil _))))))
  all_goals exact calls_lines (by repeat constructor) (by decide) (by decide)

theorem calls_createMarkup (h : c.IsNormal) :
    Calls (viewScope c o codecs more) FormViews.createMarkup [] := by
  refine .after ?opening (.after (calls_titleRow h (by decide))
    (.after (calls_within rfl (calls_formBody h (Script.isFree_ofList rfl))) (.after ?closing (calls_nil _))))
  all_goals exact calls_lines (by repeat constructor) (by decide) (by decide)

/-! ## Editing a record -/

theorem calls_editState (h : c.IsNormal) (hc : ∀ s ∈ codecs, IsName s.toList) :
    Calls (viewScope c o codecs more) FormViews.editState [] := by
  refine .after ?imports (.after (calls_generatedImports h hc) (.after ?routes (.after calls_storeRow
    (.after ?record (.after (calls_formState h) (calls_nil _))))))
  all_goals exact calls_lines (by repeat constructor) (by decide) (by decide)

/-- Opening the view calls what turns the values of a record into form texts. -/
theorem calls_editLoad (h : c.IsNormal) :
    Calls (viewScope c o codecs [("redirect_delay", .int redirectDelay)]) FormViews.editLoad
      (c.formFields.flatMap fun f => f.encoder?.toList) := by
  have hleave : ∀ w ∈ ["leaveWith".toList], w ∉ codecWords := by decide
  refine .after ?leaving (.after ?delay (.after ?opening (.after ?absent (.after ?returning (.after ?get
    (.after ?failing (.after ?missing (.after ?found
      (.before (calls_forEach gives_fields fun f hf i => ?row) (.after ?closing (calls_nil _)))))))))))
  case delay =>
    exact Row.calls (.text (.shown gives_redirectDelay (.text .nil))) (by decide) (by decide)
  case absent =>
    have hword := isFree_of_isWord h.isWord_camelName
    refine Row.calls (.text (.hole gives_camelName (.text .nil))) (by simp [hword.2])
      (conversionsIn_eq_nil ?_ hleave)
    have hletter : ∀ d ∈ c.camelName.toList, d ≠ Script.quoteMark false ∧ d ≠ '\\' := fun d hd =>
      Script.ne_quoteMark (Script.isLetter_of_isIdentifierChar
        (isIdentifierChar_of_isWordAscii (h.isWord_camelName d hd))) false
    exact Eq.trans (Script.calleesIn_of_run (Lexing.run_append_of_eq rfl
      (Lexing.run_append_of_eq (Lexing.run_quoted hletter) rfl))) rfl
  case get =>
    refine calls_actionRow gives_getAction (isName_append (isName_ofList rfl) h.isWord_pascalName) (by decide)
      fun w hw => ?_
    rw [Script.calleesIn_name rfl hw rfl]
    rfl
  case missing =>
    have hquote := Script.inline_quote (Name.label c.name ++ " not found.")
    unfold Inline at hquote
    refine Row.calls (.text (.hole gives_missing.quoted (.text .nil))) (by simp [hquote])
      (conversionsIn_eq_nil ?_ hleave)
    exact Eq.trans (Script.calleesIn_of_run (Lexing.run_append_of_eq rfl
      (Lexing.run_append_of_eq (Script.run_script_quote (Name.label c.name ++ " not found.")) rfl))) rfl
  case row =>
    obtain ⟨g, hg, rfl⟩ := List.mem_map.1 hf
    exact calls_loadRow (h.isName_field hg)
  all_goals exact calls_lines (by repeat constructor) (by decide) (by decide)

theorem calls_editMarkup (h : c.IsNormal) :
    Calls (viewScope c o codecs more) FormViews.editMarkup [] := by
  refine .after ?opening (.after (calls_titleRow h (by decide)) (.after ?loading
    (.after (calls_within rfl (calls_formBody h (Script.isFree_ofList rfl))) (.after ?closing (calls_nil _)))))
  all_goals exact calls_lines (by repeat constructor) (by decide) (by decide)

end

/-! ## Conversions of the views -/

/-- The conversions that the text of the view for creating a record calls. -/
theorem callees_createFile (h : c.IsNormal) (o : Options) :
    ∃ f, createFile c o = .ok f ∧ (Script.callees f.content).filter (· ∈ codecNames)
      = c.formFields.flatMap FormField.createCodecs := by
  have hc : ∀ s ∈ createImports c.formFields, IsName s.toList := fun s hm =>
    isName_of_mem_codecNames (mem_codecNames_of_editImports (mem_editImports_of_createImports hm))
  have hsubmit : Calls (viewScope c o (createImports c.formFields) [])
      (FormViews.submit "(payload);" "add_action" "(payload);")
      (c.formFields.flatMap FormField.createCodecs) := by
    refine calls_submit h (calls_validateRow h (by decide) fun w hw => ?_)
      (calls_actionRow gives_addAction (isName_append (isName_ofList rfl) h.isWord_pascalName) (by decide)
        fun w hw => ?_)
    all_goals
      rw [Script.calleesIn_name rfl hw rfl]
      rfl
  exact ((calls_createState h hc).after
    (hsubmit.before ((calls_createMarkup h).after (calls_nil _)))).ofTemplate

/-- The conversions that the text of the view for editing a record calls. -/
theorem callees_editFile (h : c.IsNormal) (o : Options) :
    ∃ f, editFile c o = .ok f ∧ (Script.callees f.content).filter (· ∈ codecNames)
      = (c.formFields.flatMap fun f => f.encoder?.toList) ++ c.formFields.flatMap FormField.createCodecs := by
  have hc : ∀ s ∈ editImports c.formFields, IsName s.toList := fun s hm =>
    isName_of_mem_codecNames (mem_codecNames_of_editImports hm)
  have hsubmit : Calls (viewScope c o (editImports c.formFields) [("redirect_delay", .int redirectDelay)])
      (FormViews.submit "(payload, \x7b checkEmailExistence: false \x7d);" "update_action"
        "(recordId, payload);") (c.formFields.flatMap FormField.createCodecs) := by
    refine calls_submit h (calls_validateRow h (by decide) fun w hw => ?_)
      (calls_actionRow gives_updateAction (isName_append (isName_ofList rfl) h.isWord_pascalName) (by decide)
        fun w hw => ?_)
    all_goals
      rw [Script.calleesIn_name rfl hw rfl]
      rfl
  exact ((calls_editState h hc).after ((calls_editLoad h).cons
    (hsubmit.before ((calls_editMarkup h).after (calls_nil _))))).ofTemplate

/-! ## Conversions that the views import -/

/-- From the module of conversions a view imports these, whatever it imports from libraries. -/
theorem importedFrom_of_declarations {content : String} {before : List Declaration} {codecs : List String}
    (h : Script.declarations content = before ++ importedModules c o codecs)
    (hb : before.flatMap (Declaration.namesFrom codecsImport) = []) :
    Script.importedFrom codecsImport content = codecs := by
  have hstore : (StoreNames.ofOptions o).importPath ≠ codecsImport := by
    intro e
    have hplace := congrArg (fun s : String => s.toList[2]?) e
    simp [StoreNames.importPath, codecsImport] at hplace
  have hvalidator : (CollectionNames.ofCollection c o).validatorImport ≠ codecsImport := by
    intro e
    have hplace := congrArg (fun s : String => s.toList[2]?) e
    simp [CollectionNames.validatorImport, codecsImport] at hplace
  rw [Script.importedFrom, h, List.flatMap_append, hb, importedModules, List.flatMap_append,
    List.flatMap_append, List.flatMap_singleton, List.flatMap_singleton, Declaration.namesFrom_of_ne hstore,
    Declaration.namesFrom_of_ne hvalidator]
  cases codecs with
  | nil => rfl
  | cons s rest => exact (List.flatMap_singleton _ _).trans (Declaration.namesFrom_self _ _)

theorem importedFrom_createFile (h : c.IsNormal) {f : Artifact} (hf : createFile c o = .ok f) :
    Script.importedFrom codecsImport f.content = createImports c.formFields := by
  obtain ⟨g, hg, -, hd⟩ := isMade_createFile h o
  cases hf.symm.trans hg
  exact importedFrom_of_declarations hd (by decide)

theorem importedFrom_editFile (h : c.IsNormal) {f : Artifact} (hf : editFile c o = .ok f) :
    Script.importedFrom codecsImport f.content = editImports c.formFields := by
  obtain ⟨g, hg, -, hd⟩ := isMade_editFile h o
  cases hf.symm.trans hg
  exact importedFrom_of_declarations hd (by decide)

/-! ## Imports and calls -/

/-- A view imports the conversions that its text calls, each of them once. -/
theorem imports_callees {content : String} {names called : List String}
    (hi : Script.importedFrom codecsImport content = Text.distinct names)
    (hc : (Script.callees content).filter (· ∈ codecNames) = called)
    (hm : ∀ s, s ∈ names ↔ s ∈ called) :
    (Script.importedFrom codecsImport content).Nodup
      ∧ ∀ s, s ∈ Script.importedFrom codecsImport content
        ↔ s ∈ codecNames ∧ s ∈ Script.callees content := by
  rw [hi]
  refine ⟨Text.nodup_distinct names, fun s => ?_⟩
  rw [Text.mem_distinct, hm, ← hc, List.mem_filter, decide_eq_true_iff, and_comm]

/-- What a field needs for editing is what fills the form from a record and what reads the payload. -/
theorem mem_editCodecs_iff {fields : List FormField} {s : String} :
    s ∈ fields.flatMap FormField.editCodecs ↔ s ∈ (fields.flatMap fun f => f.encoder?.toList)
      ++ fields.flatMap FormField.createCodecs := by
  simp only [List.mem_append, List.mem_flatMap, FormField.editCodecs, FormField.createCodecs]
  constructor
  · rintro ⟨f, hf, hs | hs⟩
    · exact .inl ⟨f, hf, hs⟩
    · exact .inr ⟨f, hf, hs⟩
  · rintro (⟨f, hf, hs⟩ | ⟨f, hf, hs⟩)
    · exact ⟨f, hf, .inl hs⟩
    · exact ⟨f, hf, .inr hs⟩

/-- The module of conversions is made exactly if it is needed. -/
theorem exists_codecsModule_iff (all : List Collection) (o : Options) :
    ∃ shared, stage.shared all o = .ok shared
      ∧ ((∃ f ∈ shared, f.path = Layout.codecsModule) ↔ needsCodecs all = true) := by
  obtain ⟨f, hf, hpath, -⟩ := isMade_codecsFile
  have hshared : stage.shared all o = Stage.files (if needsCodecs all then [codecsFile] else []) := rfl
  rw [hshared]
  cases needsCodecs all with
  | true =>
    rw [if_pos rfl, hf]
    exact ⟨[f], rfl, iff_of_true ⟨f, List.mem_cons_self, hpath⟩ rfl⟩
  | false =>
    exact ⟨[], rfl, iff_of_false (fun ⟨_, hm, _⟩ => absurd hm List.not_mem_nil) Bool.false_ne_true⟩

/-- Each view imports exactly the conversions that its text calls, each of them once, and the module of
conversions is made if and only if a view of the run imports from it. -/
theorem conversions_of_views {identity : List String} {raw : Value} {notes : List Note}
    {all : List Collection} (hread : Intake.read identity raw = (notes, .ok all)) (o : Options) :
    (∀ c ∈ all, ∃ created edited, createFile c o = .ok created ∧ editFile c o = .ok edited
      ∧ ∀ view ∈ [created, edited], (Script.importedFrom codecsImport view.content).Nodup
        ∧ ∀ s, s ∈ Script.importedFrom codecsImport view.content
          ↔ s ∈ codecNames ∧ s ∈ Script.callees view.content)
    ∧ ∃ shared, stage.shared all o = .ok shared
      ∧ ((∃ f ∈ shared, f.path = Layout.codecsModule)
        ↔ ∃ c ∈ all, ∃ views, stage.forCollection c all o = .ok views
          ∧ ∃ view ∈ views, Script.importedFrom codecsImport view.content ≠ []) := by
  have hnormal := (Intake.areNormal_of_read hread).each
  constructor
  · intro c hc
    obtain ⟨created, hcreated, hcreate⟩ := callees_createFile (hnormal c hc) o
    obtain ⟨edited, hedited, hedit⟩ := callees_editFile (hnormal c hc) o
    refine ⟨created, edited, hcreated, hedited, fun view hv => ?_⟩
    rcases List.mem_cons.1 hv with rfl | hv
    · exact imports_callees (importedFrom_createFile (hnormal c hc) hcreated) hcreate fun _ => Iff.rfl
    · rw [List.mem_singleton.1 hv]
      exact imports_callees (importedFrom_editFile (hnormal c hc) hedited) hedit fun _ => mem_editCodecs_iff
  -- the module is made if some field needs a conversion, and then the view for editing imports it
  · obtain ⟨shared, hshared, hmade⟩ := exists_codecsModule_iff all o
    refine ⟨shared, hshared, hmade.trans ?_⟩
    rw [needsCodecs, List.any_eq_true]
    refine exists_congr fun c => and_congr_right fun hc => ?_
    obtain ⟨created, hcreated, -⟩ := isMade_createFile (hnormal c hc) o
    obtain ⟨edited, hedited, -⟩ := isMade_editFile (hnormal c hc) o
    have hviews : stage.forCollection c all o = .ok [created, edited] := by
      show Stage.files [createFile c o, editFile c o] = _
      rw [hcreated, hedited]
      rfl
    rw [Bool.not_eq_true', List.isEmpty_eq_false_iff]
    constructor
    · intro hne
      refine ⟨_, hviews, edited, List.mem_cons_of_mem _ List.mem_cons_self, ?_⟩
      rwa [importedFrom_editFile (hnormal c hc) hedited]
    · rintro ⟨views, hv, view, hm, hne⟩
      cases hviews.symm.trans hv
      rcases List.mem_cons.1 hm with rfl | hm
      · rw [importedFrom_createFile (hnormal c hc) hcreated] at hne
        obtain ⟨s, hs⟩ := List.exists_mem_of_ne_nil _ hne
        exact List.ne_nil_of_mem (mem_editImports_of_createImports hs)
      · rw [List.mem_singleton.1 hm, importedFrom_editFile (hnormal c hc) hedited] at hne
        exact hne

/-- A collection with a list, an object and a moment needs all conversions for editing, and those that read
form text for creating. -/
theorem conversions_of_trips :
    let trips : Collection := {
      name := "trip", camelName := "trip", pascalName := "Trip",
      fields := [⟨"stops", .list, "array"⟩, ⟨"costs", .object, "object"⟩,
        ⟨"start", .timestamp, "timestamp"⟩] }
    ∃ notes created edited shared,
      Intake.read [] (.list [Intake.declaration "trip"
        [("stops", "array"), ("costs", "object"), ("start", "timestamp")]]) = (notes, .ok [trips])
      ∧ createFile trips {} = .ok created ∧ editFile trips {} = .ok edited
      ∧ stage.shared [trips] {} = .ok shared
      ∧ "parseListText" ∈ Script.callees created.content ∧ "toListText" ∉ Script.callees created.content
      ∧ "toDateTimeText" ∈ Script.callees edited.content
      ∧ ∃ f ∈ shared, f.path = Layout.codecsModule := by
  intro trips
  have hread : Intake.read [] (.list [Intake.declaration "trip"
      [("stops", "array"), ("costs", "object"), ("start", "timestamp")]]) = (_, .ok [trips]) :=
    Intake.read_eq_of_toOption (by with_unfolding_all decide)
  obtain ⟨hviews, shared, hshared, hmade⟩ := conversions_of_views hread {}
  obtain ⟨created, edited, hcreated, hedited, himports⟩ := hviews trips List.mem_cons_self
  have hnormal : trips.IsNormal := (Intake.areNormal_of_read hread).each trips List.mem_cons_self
  have hcreate := (himports created List.mem_cons_self).2
  have hedit := (himports edited (List.mem_cons_of_mem _ List.mem_cons_self)).2
  rw [importedFrom_createFile hnormal hcreated] at hcreate
  rw [importedFrom_editFile hnormal hedited] at hedit
  refine ⟨_, created, edited, shared, hread, hcreated, hedited, hshared, ((hcreate _).1 (by decide)).2,
    fun hm => ?_, ((hedit _).1 (by decide)).2, ?_⟩
  · exact absurd ((hcreate _).2 ⟨by decide, hm⟩) (by decide)
  · refine hmade.2 ⟨trips, List.mem_cons_self, [created, edited], ?_, edited,
      List.mem_cons_of_mem _ List.mem_cons_self, ?_⟩
    · show Stage.files [createFile trips {}, editFile trips {}] = _
      rw [hcreated, hedited]
      rfl
    · rw [importedFrom_editFile hnormal hedited]
      decide

end Form

end Scaffold
