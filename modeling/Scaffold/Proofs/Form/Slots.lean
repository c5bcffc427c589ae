import Scaffold.Proofs.Form.Names
import Scaffold.Proofs.Interface.Routing
import Scaffold.Proofs.Script.FormSlot

/-!
# Slots of the views

The views keep the edited value of each field under a key of its own, unless a field has the name under which
the text of another one is edited. Then both fields are edited in one slot and sent from it.
-/

namespace Scaffold

open Template
open Script (IsName FormSlot)
open scoped List

/-! ## Templates that use slots -/

namespace Template

variable {scope : Scope}

/-- A template has whole lines with these slots, which lead from outside or inside of an object of edited
values to outside or inside of one. -/
def HasSlots (scope : Scope) (t : Template) (inside : Bool) (ss : List FormSlot) (last : Bool) : Prop :=
  ∃ css, HasLines scope t css ∧ Script.Reads inside css ss last

theorem hasSlots_nil (scope : Scope) (inside : Bool) : HasSlots scope (sequence []) inside [] inside :=
  ⟨[], hasLines_nil scope, rfl⟩

theorem HasSlots.cons {t : Template} {ts : List Template} {inside middle last : Bool} {as bs : List FormSlot}
    (h : HasSlots scope t inside as middle) (hr : HasSlots scope (sequence ts) middle bs last) :
    HasSlots scope (sequence (t :: ts)) inside (as ++ bs) last := by
  obtain ⟨css, hl, ha⟩ := h
  obtain ⟨dss, hm, hb⟩ := hr
  exact ⟨css ++ dss, hl.cons hm, ha.append hb⟩

/-- A part without slots stands in front. -/
theorem HasSlots.after {t : Template} {ts : List Template} {inside last : Bool} {ss : List FormSlot}
    (h : HasSlots scope t inside [] inside) (hr : HasSlots scope (sequence ts) inside ss last) :
    HasSlots scope (sequence (t :: ts)) inside ss last := h.cons hr

/-- A part that opens an object of edited values stands in front. -/
theorem HasSlots.afterOpening {t : Template} {ts : List Template} {last : Bool} {ss : List FormSlot}
    (h : HasSlots scope t false [] true) (hr : HasSlots scope (sequence ts) true ss last) :
    HasSlots scope (sequence (t :: ts)) false ss last := h.cons hr

/-- A part that closes an object of edited values stands in front. -/
theorem HasSlots.afterClosing {t : Template} {ts : List Template} {last : Bool} {ss : List FormSlot}
    (h : HasSlots scope t true [] false) (hr : HasSlots scope (sequence ts) false ss last) :
    HasSlots scope (sequence (t :: ts)) true ss last := h.cons hr

/-- A part without slots stands at the end. -/
theorem HasSlots.before {t : Template} {ts : List Template} {inside middle last : Bool} {ss : List FormSlot}
    (h : HasSlots scope t inside ss middle) (hr : HasSlots scope (sequence ts) middle [] last) :
    HasSlots scope (sequence (t :: ts)) inside ss last := List.append_nil ss ▸ h.cons hr

theorem hasSlots_lines {ls : List String} {css : List (List Char)} {inside last : Bool} {ss : List FormSlot}
    (h : Text.Spells ls css) (hn : ∀ cs ∈ css, '\n' ∉ cs) (hr : Script.Reads inside css ss last) :
    HasSlots scope (lines ls) inside ss last := ⟨css, hasLines_lines h hn, hr⟩

theorem Row.hasSlots {ts : List Template} {cs : List Char} {inside last : Bool} {ss : List FormSlot}
    (h : Row scope ts cs) (hn : '\n' ∉ cs) (hr : Script.Reads inside [cs] ss last) :
    HasSlots scope (row ts) inside ss last := ⟨[cs], h.hasLines hn, hr⟩

/-- One of two parts. -/
theorem hasSlots_choose {test : Expr} {v : Value} {yes no : Template} {inside last : Bool} {ss : List FormSlot}
    (hg : test.Gives scope v) (hy : v.truthy = true → HasSlots scope yes inside ss last)
    (hn : v.truthy = false → HasSlots scope no inside ss last) :
    HasSlots scope (choose test yes no) inside ss last := by
  unfold HasSlots
  simp only [hasLines_choose_iff hg]
  cases hv : v.truthy with
  | true => exact hy hv
  | false => exact hn hv

/-- A part with variables of its own, and the end of a line after it. -/
theorem hasSlots_within {arguments : List (String × Expr)} {inner : Scope} {body : Template} {inside : Bool}
    {ss : List FormSlot} (ha : argumentScope scope arguments = .ok inner)
    (h : HasSlots inner body inside ss false) :
    HasSlots scope (row [within arguments body]) inside ss false := by
  obtain ⟨css, hl, hread⟩ := h
  have hend : Script.Reads false [[]] [] false := by decide
  exact ⟨css ++ [[]], hl.within ha, List.append_nil ss ▸ hread.append hend⟩

/-- Parts for each item of a list, each with its slot. -/
theorem hasSlots_forEach {α : Type} {item : String} {source : Expr} {parts : List Template} {items : List α}
    {value : α → Value} {inside : Bool} {found : α → FormSlot}
    (hs : source.Gives scope (.list (items.map value)))
    (h : ∀ x ∈ items, ∀ i,
      HasSlots (itemScope scope item i (value x)) (sequence parts) inside [found x] inside) :
    HasSlots scope (forEach item source parts) inside (items.map found) inside := by
  rw [List.map_eq_flatMap]
  exact hasLines_forEach (P := fun css ss => Script.Reads inside css ss inside) rfl
    (fun ha hb => ha.append hb) hs h

end Template

/-! ## Slots of fields -/

namespace FormField

variable (f : FormField)

/-- The form keeps the edited value of the field. -/
def kept : FormSlot := .kept f.modelKey

/-- The payload has the field from where its edited value is kept. -/
def sent : FormSlot := .sent f.name f.modelKey

/-- The element of the field is bound to where its edited value is kept. -/
def edited : FormSlot := .edited f.name f.modelKey

end FormField

namespace Form

variable {c : Collection} {o : Options}

/-! ### Rows for fields -/

section

variable {scope : Scope} {f : FormField} {i : Nat}

/-- A row of an object that the form is set to. -/
theorem hasSlots_keptRow (h : IsName f.name.toList) (n : Nat) {part value : String}
    (hv : (Expr.path ["field", part]).Gives (itemScope scope "field" i (fieldValue f)) (.text value))
    (hi : Inline value) :
    HasSlots (itemScope scope "field" i (fieldValue f)) (sequence [
      row [text (String.ofList (List.replicate n ' ')), Template.value ["field", "model_key"], text ": ",
        Template.value ["field", part], text ","]]) true [f.kept] true := by
  have hname := FormField.isName_modelKey h
  have hread (more : List Char) := Script.reads_kept (c := ':') n hname (by decide) more
  rw [String.ofList_toList] at hread
  refine Row.hasSlots (.text (.hole gives_modelKey (.text (.hole hv (.text .nil))))) ?_ (hread _)
  have hline := inline_of_isName hname
  unfold Inline at hi hline
  simp [hi, hline]

/-- A row that reads a field with a function. -/
theorem hasSlots_decodedRow (h : IsName f.name.toList) {d : String} (hd : f.decoder? = some d) (n : Nat)
    {before : List Char} (hb : before = List.replicate n ' ' ++ Script.payloadWords) :
    HasSlots (itemScope scope "field" i (fieldValue f)) (decodedRow (String.ofList before)) false [f.sent]
      false := by
  have hmodel := FormField.isName_modelKey h
  have hdecoder := FormField.isName_decoder hd
  have hread := Script.reads_sent n h (Script.readKey?_decoded (c := ')') hdecoder hmodel (by decide) [';'])
  rw [String.ofList_toList, String.ofList_toList] at hread
  unfold Script.valueWords at hread
  rw [String.toList_ofList] at hread
  refine Row.hasSlots (.text (.hole gives_name (.text (.hole (gives_decoder_of_eq hd)
    (.text (.hole gives_modelKey (.text .nil))))))) ?_ ?_
  · have hline := inline_of_isName h
    have hline' := inline_of_isName hmodel
    have hline'' := inline_of_isName hdecoder
    unfold Inline at hline hline' hline''
    have hwords : '\n' ∉ Script.payloadWords := by decide
    rw [hb]
    simp [hline, hline', hline'', hwords]
  · rw [hb, List.append_assoc]
    exact hread

/-- Each field of the payload is read from the slot of the field, whatever happens to its text. -/
theorem hasSlots_payloadRows (h : IsName f.name.toList) :
    HasSlots (itemScope scope "field" i (fieldValue f)) payloadRows false [f.sent] false := by
  have hline := inline_of_isName h
  unfold Inline at hline
  refine payloadRows_cases
    (P := fun t => HasSlots (itemScope scope "field" i (fieldValue f)) t false [f.sent] false)
    hasSlots_choose (fun d hd => ?guarded) (fun d hd => hasSlots_decodedRow h hd 2 rfl) fun _ => ?plain
  case guarded =>
    refine .after ?attempt (.cons (hasSlots_decodedRow h hd 4 rfl)
      (.after ?failure (.after ?problem (.after ?closing (hasSlots_nil _ false)))))
    case problem =>
      refine Row.hasSlots (.text (.hole gives_name (.text (.hole gives_parseError.quoted (.text .nil))))) ?_
        (Script.reads_idle 4 "problems.".toList (by decide) _)
      have hquote := Script.inline_quote f.parseError
      unfold Inline at hquote
      simp [hline, hquote]
    all_goals exact hasSlots_lines (by repeat constructor) (by decide) (by decide)
  case plain =>
    have hmodel := FormField.isName_modelKey h
    have hread := Script.reads_sent 2 h (Script.readKey?_value (c := ';') hmodel (by decide) [])
    rw [String.ofList_toList, String.ofList_toList] at hread
    unfold Script.payloadWords Script.valueWords at hread
    rw [String.toList_ofList, String.toList_ofList] at hread
    refine Row.hasSlots (.text (.hole gives_name (.text (.hole gives_modelKey (.text .nil))))) ?_ hread
    have hline' := inline_of_isName hmodel
    unfold Inline at hline'
    simp [hline, hline']

end

end Form

/-! ### Widgets -/

namespace FormField

variable {f : FormField}

theorem isPlain_label (h : IsName f.name.toList) :
    ∀ c ∈ f.label.toList, Intake.isIdentifierChar c = true ∨ c = ' ' := by
  intro c hc
  rcases Name.mem_label hc with hw | hw | ⟨-, hw⟩
  · exact .inl (isIdentifierChar_of_isWordAscii hw)
  · exact .inr hw
  · exact .inl (h.2 c hw)

/-- How a line of a widget begins tells that it has no slot. -/
theorem reads_margin {l : String} (n : Nat) (words : List Char) (hw : Script.isIdle words = true)
    (hl : List.replicate n ' ' ++ words <+: l.toList) : Script.Reads false [(margin ++ l).toList] [] false := by
  obtain ⟨more, hl⟩ := hl
  have hread := Script.reads_idle (6 + n) words hw more
  rw [String.toList_append, margin, String.toList_ofList, ← hl, List.append_assoc]
  rw [List.replicate_add, List.append_assoc] at hread
  exact hread

/-- A line that begins with an element for a field has its slot. -/
theorem reads_element (h : IsName f.name.toList) (n : Nat) (element : List Char)
    (he : element ∈ Script.elementWords) {l : String} (more : List Char)
    (hl : l.toList = List.replicate n ' ' ++ (element ++ (f.name.toList ++ ('"' :: ' ' :: (f.model.toList
      ++ more))))) : Script.Reads false [(margin ++ l).toList] [f.edited] false := by
  have hmodifier : '=' ∉ f.shape.modifier.toList := by
    unfold shape
    cases f.kind <;> decide
  have hread := Script.reads_edited (6 + n) he h hmodifier (isName_modelKey h) (by decide : _ = false) more
    (c := '"')
  rw [String.ofList_toList, String.ofList_toList, List.replicate_add, List.append_assoc] at hread
  rw [String.toList_append, margin, String.toList_ofList, hl, model, property]
  simp only [String.toList_append, List.append_assoc]
  exact hread

theorem reads_labelLine (f : FormField) : Script.Reads false [(margin ++ f.labelLine).toList] [] false := by
  refine reads_margin 2 "<label ".toList (by decide) ?_
  rw [labelLine]
  simp only [String.toList_append, List.append_assoc]
  exact List.prefix_append _ _

/-- The lines of an element as they stand in a view: one of them binds the element. -/
theorem reads_elementLines (h : IsName f.name.toList) :
    Script.Reads false (f.elementLines.map fun l => (margin ++ l).toList) [f.edited] false := by
  have hblock {l : String} (hl : "<div ".toList <+: l.toList) :
      Script.Reads false [(margin ++ l).toList] [] false := reads_margin 0 _ (by decide) hl
  unfold elementLines
  -- only the line of the element itself binds something; a checkbox has its label inside the element's own
  cases f.shape.element with
  | checkbox =>
    have hopen : Script.Reads false [(margin ++ ("  <label " ++ property "for" f.name ++ ">")).toList] []
        false := by
      refine reads_margin 2 "<label ".toList (by decide) ?_
      simp only [String.toList_append, List.append_assoc]
      exact List.prefix_append _ _
    have hlabel : Script.Reads false [(margin ++ ("    " ++ f.label)).toList] [] false := by
      refine Script.reads_plain fun c hc => ?_
      rw [margin, String.toList_append, String.toList_append, String.toList_ofList, String.toList_ofList] at hc
      rcases List.mem_append.1 hc with hc | hc
      · exact .inr (List.eq_of_mem_replicate (n := 6) hc)
      rcases List.mem_append.1 hc with hc | hc
      · exact .inr (List.eq_of_mem_replicate (n := 4) hc)
      · exact isPlain_label h c hc
    have hclose : Script.Reads false [(margin ++ "  </label>").toList] [] false := by
      refine reads_margin 2 "</label>".toList (by decide) ?_
      rw [String.toList_ofList]
      exact List.prefix_refl _
    have hinput : Script.Reads false [(margin ++ ("    <input " ++ property "id" f.name ++ " " ++ f.model
        ++ " type=\"checkbox\" />")).toList] [f.edited] false := by
      refine reads_element h 4 Script.elementWords[0] (by decide)
        " type=\"checkbox\" />".toList ?_
      simp only [property, String.toList_append, List.append_assoc]
      rfl
    exact (hblock ⟨_, rfl⟩).append (hopen.append (hinput.append (hlabel.append hclose)))
  | textarea =>
    refine (hblock ⟨_, rfl⟩).append ((reads_labelLine f).append (reads_element h 2 Script.elementWords[1]
      (by decide) (" rows=\"4\"" ++ f.placeholder ++ "></textarea>").toList ?_))
    simp only [property, String.toList_append, List.append_assoc]
    rfl
  | input =>
    refine (hblock ⟨_, rfl⟩).append ((reads_labelLine f).append (reads_element h 2 Script.elementWords[0]
      (by decide) (" " ++ property "type" (f.shape.inputType.getD "") ++ f.placeholder ++ " />").toList ?_))
    simp only [property, String.toList_append, List.append_assoc]
    rfl

theorem reads_remarkLines (style text : String) :
    Script.Reads false ((remarkLines style text).map fun l => (margin ++ l).toList) [] false := by
  unfold remarkLines
  split
  · rfl
  · refine reads_margin 2 "<small ".toList (by decide) ?_
    simp only [String.toList_append, List.append_assoc]
    exact List.prefix_append _ _

theorem reads_widgetLines (h : IsName f.name.toList) :
    Script.Reads false (f.widgetLines.map fun l => (margin ++ l).toList) [f.edited] false := by
  have herror : Script.Reads false [(margin ++ f.errorLine).toList] [] false := by
    refine reads_margin 2 "<p ".toList (by decide) ?_
    rw [errorLine]
    simp only [String.toList_append, List.append_assoc]
    exact List.prefix_append _ _
  have hend : Script.Reads false [(margin ++ "</div>").toList] [] false := by
    refine reads_margin 0 "</div>".toList (by decide) ?_
    rw [String.toList_ofList]
    exact List.prefix_refl _
  have hall := (((reads_elementLines h).append (reads_remarkLines "field-help" f.shape.help)).append
    (reads_remarkLines "field-note" f.fallbackNote)).append (herror.append hend)
  rw [widgetLines, List.map_append, List.map_append, List.map_append]
  exact hall

end FormField

namespace Form

variable {c : Collection} {o : Options}

/-- The row of the widget of a field has its lines. -/
theorem hasLines_widgetRow {scope : Scope} {f : FormField} {i : Nat} (h : IsName f.name.toList)
    (hd : Inline f.field.declared) :
    HasLines (itemScope scope "field" i (fieldValue f)) (sequence [row [value ["field", "widget"]]])
      (f.widgetLines.map fun l => (FormField.margin ++ l).toList) := by
  have hwidget : (Expr.path ["field", "widget"]).Gives (itemScope scope "field" i (fieldValue f))
      (.text f.widget) := gives_widget
  obtain ⟨s, hr, hs⟩ := Row.isLine (.hole hwidget .nil)
  have hinline := inline_of_isName h
  have hlines := FormField.inline_widgetLines hinline (inline_label fun _ => hinline) hd
  have hne : f.widgetLines.map (FormField.margin ++ ·) ≠ [] := fun e => by
    have hlines := List.map_eq_nil_iff.1 e
    exact List.cons_ne_nil _ _ (List.append_eq_nil_iff.1 hlines).2
  refine ⟨s, hr, ?_, ?_⟩
  · have hjoin := Routing.toList_intercalate_lines hne
    rw [String.toList_append, String.toList_ofList, List.map_map] at hjoin
    rw [hs, List.append_nil]
    exact hjoin
  · intro cs hcs
    obtain ⟨l, hl, rfl⟩ := List.mem_map.1 hcs
    exact inline_append (inline_ofList rfl) (hlines l hl)

theorem hasSlots_widgetRow {scope : Scope} {f : FormField} {i : Nat} (h : IsName f.name.toList)
    (hd : Inline f.field.declared) :
    HasSlots (itemScope scope "field" i (fieldValue f)) (sequence [row [value ["field", "widget"]]])
      false [f.edited] false := ⟨_, hasLines_widgetRow h hd, FormField.reads_widgetLines h⟩

/-! ### Parts of both views -/

-- the fixed lines of the views are read letter by letter
set_option maxRecDepth 4000

section

variable {codecs : List String} {more : List (String × Value)}

theorem hasSlots_generatedImports (h : c.IsNormal) (hc : ∀ s ∈ codecs, IsName s.toList) :
    HasSlots (viewScope c o codecs more) FormViews.generatedImports false [] false := by
  have importRow {list source : Expr} {names path : String}
      (hl : list.Gives (viewScope c o codecs more) (.text names))
      (hs : source.Gives (viewScope c o codecs more) (.text path)) (hn : Inline names) (hp : Inline path) :
      HasSlots (viewScope c o codecs more)
        (row [text "import \x7b ", hole list, text " \x7d from '", hole source, text "';"]) false [] false := by
    refine Row.hasSlots (.text (.hole hl (.text (.hole hs (.text .nil))))) ?_
      (Script.reads_idle 0 ['i'] (by decide) _)
    unfold Inline at hn hp
    simp [hn, hp]
  have hvalidator : Inline (CollectionNames.ofCollection c o).validatorFunction :=
    inline_of_isName (h.isName_validatorFunction o)
  refine .after (importRow gives_hook gives_storePath (StoreNames.inline_hook o) ?store)
    (.after (importRow gives_validatorFunction gives_validatorImport hvalidator
        (inline_append (inline_ofList rfl) hvalidator))
      (hasSlots_choose gives_codecs (fun _ => .after (importRow gives_codecs.commas_of_texts gives_codecsImport
        ?codecs (inline_ofList rfl)) (hasSlots_nil _ _)) fun _ => hasSlots_nil _ _))
  case store => exact inline_append (inline_ofList rfl) (StoreNames.inline_storeName o)
  case codecs => exact inline_commaList fun s hm => inline_of_isName (hc s hm)

theorem hasSlots_formState (h : c.IsNormal) :
    HasSlots (viewScope c o codecs more) FormViews.formState false (c.formFields.map FormField.kept) false := by
  refine .afterOpening ?opening (.before (hasSlots_forEach gives_fields fun f hf i => ?row)
    (.afterClosing ?closing (hasSlots_nil _ false)))
  case row =>
    obtain ⟨g, hg, rfl⟩ := List.mem_map.1 hf
    exact hasSlots_keptRow (h.isName_field hg) 2 gives_initial (FormField.inline_initial _)
  all_goals exact hasSlots_lines (by repeat constructor) (by decide) (by decide)

theorem hasSlots_buildPayload (h : c.IsNormal) :
    HasSlots (Scope.ofValues [("fields", .list (c.formFields.map fieldValue))]) FormViews.buildPayload false
      (c.formFields.map FormField.sent) false := by
  have hfields : (Expr.path ["fields"]).Gives
      (Scope.ofValues [("fields", .list (c.formFields.map fieldValue))])
      (.list (c.formFields.map fieldValue)) := rfl
  refine .after ?opening (.before (hasSlots_forEach hfields fun f hf i => ?row)
    (.after ?closing (hasSlots_nil _ false)))
  case row =>
    obtain ⟨g, hg, rfl⟩ := List.mem_map.1 hf
    exact hasSlots_payloadRows (h.isName_field hg)
  all_goals exact hasSlots_lines (by repeat constructor) (by decide) (by decide)

theorem hasSlots_submit (h : c.IsNormal) {validated sent : List Char} {action name : String}
    (hv : '\n' ∉ validated) (hs : '\n' ∉ sent)
    (ha : (Expr.path ["names", action]).Gives (viewScope c o codecs more) (.text name)) (hn : Inline name) :
    HasSlots (viewScope c o codecs more)
      (FormViews.submit (String.ofList validated) action (String.ofList sent)) false
      (c.formFields.map FormField.sent) false := by
  have hvalidator : Inline (CollectionNames.ofCollection c o).validatorFunction :=
    inline_of_isName (h.isName_validatorFunction o)
  unfold Inline at hvalidator hn
  refine .before (hasSlots_within rfl (hasSlots_buildPayload h)) (.after ?opening (.after ?validate
    (.after ?refuse (.after ?send (.after ?closing (hasSlots_nil _ false))))))
  case validate =>
    refine Row.hasSlots (.text (.hole gives_validatorFunction (.text .nil))) ?_
      (Script.reads_idle 4 "const v".toList (by decide) _)
    simp [hvalidator, hv]
  case send =>
    refine Row.hasSlots (.text (.hole ha (.text .nil))) ?_
      (Script.reads_idle 4 "const r".toList (by decide) _)
    simp [hn, hs]
  all_goals exact hasSlots_lines (by repeat constructor) (by decide) (by decide)

/-- The form has the element of each field. -/
theorem hasSlots_formBody (h : c.IsNormal) {label : String} (hl : Inline label) :
    HasSlots (Scope.ofValues [("fields", .list (c.formFields.map fieldValue)), ("submit_label", .text label)])
      FormViews.formBody false (c.formFields.map FormField.edited) false := by
  generalize hscope : Scope.ofValues [("fields", .list (c.formFields.map fieldValue)),
    ("submit_label", .text label)] = scope
  have hfields : (Expr.path ["fields"]).Gives scope (.list (c.formFields.map fieldValue)) := by
    subst hscope
    rfl
  have hlabel : (Expr.path ["submit_label"]).Gives scope (.text label) := by
    subst hscope
    rfl
  unfold Inline at hl
  refine .after ?opening (.before (hasSlots_forEach hfields fun f hf i => ?row)
    (.after ?errors (.after ?button
      (.after ?closing (hasSlots_nil _ false)))))
  case row =>
    obtain ⟨g, hg, rfl⟩ := List.mem_map.1 hf
    exact hasSlots_widgetRow (h.isName_field hg) (h.inline_declared hg)
  case button =>
    refine Row.hasSlots (.text (.hole hlabel (.text .nil))) ?_
      (Script.reads_idle 6 ['<', 'b'] (by decide) _)
    simp [hl]
  all_goals exact hasSlots_lines (by repeat constructor) (by decide) (by decide)

theorem hasSlots_storeRow :
    HasSlots (viewScope c o codecs more) (row [text "const store = ", value ["store", "hook"], text "();"])
      false [] false := by
  have hinline := StoreNames.inline_hook o
  unfold Inline at hinline
  refine Row.hasSlots (.text (.hole gives_hook (.text .nil))) ?_
    (Script.reads_idle 0 "const s".toList (by decide) _)
  simp [hinline]

/-- The title of a view. -/
theorem hasSlots_titleRow (h : c.IsNormal) (words : List Char) {before : List Char}
    (hw : Script.isIdle words = true) (hb : before = List.replicate 4 ' ' ++ words) (hn : '\n' ∉ words) :
    HasSlots (viewScope c o codecs more) (row [text (String.ofList before), value ["title"], text "</h1>"])
      false [] false := by
  have hinline : Inline (Name.label c.name) := inline_label fun hw => absurd hw h.words_ne_nil
  unfold Inline at hinline
  rw [hb]
  refine Row.hasSlots (.text (.hole gives_title (.text .nil))) ?_ ?_
  · simp [hn, hinline]
  · rw [List.append_assoc]
    exact Script.reads_idle 4 words hw _

/-! ### Creating a record -/

theorem hasSlots_createState (h : c.IsNormal) (hc : ∀ s ∈ codecs, IsName s.toList) :
    HasSlots (viewScope c o codecs more) FormViews.createState false (c.formFields.map FormField.kept)
      false := by
  refine .after ?imports (.after (hasSlots_generatedImports h hc)
    (.after ?router (.after hasSlots_storeRow (.after ?gap
      (.before (hasSlots_formState h) (hasSlots_nil _ false))))))
  all_goals exact hasSlots_lines (by repeat constructor) (by decide) (by decide)

theorem hasSlots_createMarkup (h : c.IsNormal) :
    HasSlots (viewScope c o codecs more) FormViews.createMarkup false (c.formFields.map FormField.edited)
      false := by
  have htitle : HasSlots (viewScope c o codecs more) _ false [] false :=
    hasSlots_titleRow h "<h1>New ".toList (by decide) rfl (by decide)
  refine .after ?opening (.after htitle (.before
    (hasSlots_within rfl (hasSlots_formBody h (inline_ofList rfl)))
      (.after ?closing (hasSlots_nil _ false))))
  all_goals exact hasSlots_lines (by repeat constructor) (by decide) (by decide)

/-! ### Editing a record -/

theorem hasSlots_editState (h : c.IsNormal) (hc : ∀ s ∈ codecs, IsName s.toList) :
    HasSlots (viewScope c o codecs more) FormViews.editState false (c.formFields.map FormField.kept)
      false := by
  refine .after ?imports (.after (hasSlots_generatedImports h hc)
    (.after ?routes (.after hasSlots_storeRow (.after ?record
      (.before (hasSlots_formState h) (hasSlots_nil _ false))))))
  all_goals exact hasSlots_lines (by repeat constructor) (by decide) (by decide)

/-- The form is filled from a record under the same keys. -/
theorem hasSlots_editLoad (h : c.IsNormal) :
    HasSlots (viewScope c o codecs [("redirect_delay", .int redirectDelay)]) FormViews.editLoad false
      (c.formFields.map FormField.kept) false := by
  refine .after ?leaving (.after ?delay (.after ?opening (.after ?absent (.after ?returning (.after ?get
    (.after ?failing (.after ?missing (.afterOpening ?found
      (.before (hasSlots_forEach gives_fields fun f hf i => ?row)
        (.afterClosing ?closing (hasSlots_nil _ false)))))))))))
  case delay =>
    refine Row.hasSlots (.text (.shown gives_redirectDelay (.text .nil))) ?_
      (Script.reads_idle 2 ['s', 'e'] (by decide) _)
    decide
  case absent =>
    refine Row.hasSlots (.text (.hole gives_camelName (.text .nil))) ?_ (Script.reads_idle 4 ['l'] (by decide) _)
    have hline : Inline c.camelName := inline_of_isWord h.isWord_camelName
    unfold Inline at hline
    simp [hline]
  case get =>
    refine Row.hasSlots (.text (.hole gives_getAction (.text .nil))) ?_
      (Script.reads_idle 2 "const r".toList (by decide) _)
    have hline : Inline (CollectionNames.ofCollection c o).getAction :=
      inline_append (inline_ofList rfl) (inline_of_isWord h.isWord_pascalName)
    unfold Inline at hline
    simp [hline]
  case missing =>
    refine Row.hasSlots (.text (.hole gives_missing.quoted (.text .nil))) ?_
      (Script.reads_idle 4 ['l'] (by decide) _)
    have hline := Script.inline_quote (Name.label c.name ++ " not found.")
    unfold Inline at hline
    simp [hline]
  case row =>
    obtain ⟨g, hg, rfl⟩ := List.mem_map.1 hf
    exact hasSlots_keptRow (h.isName_field hg) 4 gives_loadExpression
      (FormField.inline_loadExpression (h.inline_field hg))
  all_goals exact hasSlots_lines (by repeat constructor) (by decide) (by decide)

theorem hasSlots_editMarkup (h : c.IsNormal) :
    HasSlots (viewScope c o codecs more) FormViews.editMarkup false (c.formFields.map FormField.edited)
      false := by
  have htitle : HasSlots (viewScope c o codecs more) _ false [] false :=
    hasSlots_titleRow h "<h1>Edit ".toList (by decide) rfl (by decide)
  refine .after ?opening (.after htitle (.after ?loading (.before
    (hasSlots_within rfl (hasSlots_formBody h (inline_ofList rfl)))
      (.after ?closing (hasSlots_nil _ false)))))
  all_goals exact hasSlots_lines (by repeat constructor) (by decide) (by decide)

end

/-! ### The views -/

/-- A file from a template has the slots of the template. -/
theorem formSlots_of_ofTemplate {path : String} {t : Template} {values : List (String × Value)}
    {ss : List FormSlot} (h : HasSlots (Scope.ofValues values) t false ss false) :
    ∃ f, Artifact.ofTemplate path t values = .ok f ∧ Script.formSlots f.content = ss := by
  obtain ⟨css, ⟨s, hs, hl, hn⟩, hread⟩ := h
  refine ⟨⟨path, s⟩, ?_, Script.formSlots_of_joinLines hl hn hread⟩
  rw [Artifact.ofTemplate, hs]
  rfl

/-- The slots of the view for creating a record: the form has one key for each field, and each field is sent
from its slot and edited in it. -/
def createSlots (fields : List FormField) : List FormSlot :=
  fields.map FormField.kept ++ (fields.map FormField.sent ++ fields.map FormField.edited)

/-- The view for editing a record also fills the slots from the record. -/
def editSlots (fields : List FormField) : List FormSlot := fields.map FormField.kept ++ createSlots fields

theorem formSlots_createFile (h : c.IsNormal) (o : Options) :
    ∃ f, createFile c o = .ok f ∧ Script.formSlots f.content = createSlots c.formFields := by
  have hc : ∀ s ∈ createImports c.formFields, IsName s.toList := fun s hm =>
    isName_of_mem_codecNames (mem_codecNames_of_editImports (mem_editImports_of_createImports hm))
  have hname : Inline (CollectionNames.ofCollection c o).addAction :=
    inline_append (inline_ofList rfl) (inline_of_isWord h.isWord_pascalName)
  have hsubmit : HasSlots (viewScope c o (createImports c.formFields) [])
      (FormViews.submit "(payload);" "add_action" "(payload);") false (c.formFields.map FormField.sent) false :=
    hasSlots_submit h (by decide) (by decide) gives_addAction hname
  exact formSlots_of_ofTemplate ((hasSlots_createState h hc).cons
    (hsubmit.cons (.before (hasSlots_createMarkup h) (hasSlots_nil _ false))))

theorem formSlots_editFile (h : c.IsNormal) (o : Options) :
    ∃ f, editFile c o = .ok f ∧ Script.formSlots f.content = editSlots c.formFields := by
  have hc : ∀ s ∈ editImports c.formFields, IsName s.toList := fun s hm =>
    isName_of_mem_codecNames (mem_codecNames_of_editImports hm)
  have hname : Inline (CollectionNames.ofCollection c o).updateAction :=
    inline_append (inline_ofList rfl) (inline_of_isWord h.isWord_pascalName)
  have hsubmit : HasSlots (viewScope c o (editImports c.formFields) [("redirect_delay", .int redirectDelay)])
      (FormViews.submit "(payload, \x7b checkEmailExistence: false \x7d);" "update_action"
        "(recordId, payload);") false (c.formFields.map FormField.sent) false :=
    hasSlots_submit h (by decide) (by decide) gives_updateAction hname
  exact formSlots_of_ofTemplate ((hasSlots_editState h hc).cons ((hasSlots_editLoad h).cons
    (hsubmit.cons (.before (hasSlots_editMarkup h) (hasSlots_nil _ false)))))

end Form

end Scaffold
