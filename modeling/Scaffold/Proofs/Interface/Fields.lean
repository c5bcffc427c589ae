import Scaffold.Form.Stage
import Scaffold.Proofs.Interface.Names

/-!
# Fields of forms

The values of a form field as the views see them: texts that stay in their line, and a widget whose
lines all have space in front.
-/

namespace Scaffold

open Script (quietFrom)

/-! ## Indented lines -/

/-- A line with space in front. -/
def IsIndented (s : String) : Prop := ∃ cs, s.toList = ' ' :: cs ∧ '\n' ∉ cs

theorem IsIndented.quietFrom {s : String} (h : IsIndented s) {start : Bool} :
    quietFrom start s.toList = some false := by
  obtain ⟨cs, hs, hn⟩ := h
  rw [hs]
  have hq : Script.quietFrom false cs = some false := Script.quietFrom_of_not_mem hn
  cases start <;> exact hq

/-- A block of lines with space in front. -/
theorem Shape.fits_block {ls : List String} (hne : ls ≠ []) (h : ∀ l ∈ ls, IsIndented l) :
    Shape.block.Fits (.text ("\n".intercalate ls)) := by
  rw [Shape.Fits]
  show Script.quietFrom true ("\n".intercalate ls).toList = some false
  induction ls with
  | nil => exact absurd rfl hne
  | cons l rest ih =>
    have hl := h l List.mem_cons_self
    cases rest with
    | nil =>
      rw [String.intercalate_singleton]
      exact hl.quietFrom
    | cons m rest =>
      have hr := ih (List.cons_ne_nil m rest) fun k hk => h k (List.mem_cons_of_mem l hk)
      rw [String.intercalate_cons_cons, String.toList_append, String.toList_append,
        String.toList_ofList, List.append_assoc, Script.quietFrom_append hl.quietFrom]
      exact hr

/-! ## Texts of fields -/

theorem inline_label {name : String} (h : Name.words name = [] → Inline name) :
    Inline (Name.label name) := by
  intro hm
  rcases Name.mem_label hm with hc | hc | ⟨hw, hc⟩
  · exact absurd hc (by decide)
  · exact absurd hc (by decide)
  · exact h hw hc

/-- The characters that stand in for others in markup. -/
def Markup.escapeAlphabet : List Char := [
  '&', 'a', 'm', 'p', 'l', 't', 'g', 'q', 'u', 'o', '#', 'x', '2', '7', ';']

/-- No other characters come into a text when it is escaped. -/
theorem Markup.not_mem_escape {d : Char} (hd : d ∉ escapeAlphabet) {s : String} (h : d ∉ s.toList) :
    d ∉ (escape s).toList := by
  have hchar (c : Char) (hm : d ∈ (escapeChar c).toList) : c = d := by
    unfold escapeChar at hm
    split at hm
    case h_6 =>
      rw [Char.toString, String.toList_singleton, List.mem_singleton] at hm
      exact hm.symm
    all_goals
      rw [String.toList_ofList] at hm
      exact absurd ((by decide : (_ : List Char) ⊆ escapeAlphabet) hm) hd
  rw [escape, String.toList_join, List.flatMap_map]
  intro hm
  obtain ⟨c, hc, hm⟩ := List.mem_flatMap.1 hm
  exact h (hchar c hm ▸ hc)

/-- A property of texts that stays when texts are put together and escaped, and that fixed texts have if
there is neither a bracket that opens nor the end of a line in them. -/
structure Markup.IsKept (P : String → Prop) : Prop where
  fixed {cs : List Char} (h : (cs.contains '(' || cs.contains '\n') = false) : P (String.ofList cs)
  append {s t : String} (hs : P s) (ht : P t) : P (s ++ t)
  escape {s : String} (hs : P s) : P (Markup.escape s)

theorem Markup.isKept_inline : IsKept Inline where
  fixed h := inline_ofList (Bool.or_eq_false_iff.1 h).2
  append := inline_append
  escape := not_mem_escape (by decide)

namespace FormField

variable {f : FormField}

theorem inline_defaultLiteral (k : Kind) : Inline k.defaultLiteral := by
  cases k <;> exact inline_ofList rfl

theorem inline_initial (f : FormField) : Inline f.initial := by
  unfold initial
  split
  · exact Script.inline_quote _
  · exact inline_defaultLiteral _

theorem inline_encoder {k : Kind} {s : String} (h : k.encoder? = some s) : Inline s := by
  cases k <;> cases h <;> exact inline_ofList rfl

theorem inline_loadExpression (h : Inline f.name) : Inline f.loadExpression := by
  have href : Inline ("record." ++ f.name) := inline_append (inline_ofList rfl) h
  unfold loadExpression
  dsimp only
  split
  next encoder he =>
    exact inline_append (inline_append (inline_append (inline_encoder he) (inline_ofList rfl)) href)
      (inline_ofList rfl)
  next =>
    exact inline_append (inline_append href (inline_ofList rfl)) (inline_defaultLiteral _)

theorem inline_parseError (h : Inline f.name) : Inline f.parseError := by
  unfold parseError Widget.parseError shape
  split
  next rest hr =>
    refine inline_append h ?_
    cases hk : f.kind <;> rw [hk] at hr <;> cases hr
    exact inline_ofList rfl
  next => exact inline_ofList rfl

/-! ## Widgets -/

section

variable {P : String → Prop} (hP : Markup.IsKept P)

include hP

theorem kept_modelKey (h : P f.name) : P f.modelKey :=
  hP.append h (by unfold shape; cases f.kind <;> exact hP.fixed rfl)

theorem kept_fallbackNote (h : P f.field.declared) : P f.fallbackNote := by
  unfold fallbackNote
  split
  · exact hP.append (hP.append (hP.fixed rfl) h) (hP.fixed rfl)
  · exact hP.fixed rfl

theorem kept_property {name value : String} (hn : P name) (hv : P value) : P (property name value) :=
  hP.append (hP.append (hP.append hn (hP.fixed rfl)) hv) (hP.fixed rfl)

theorem kept_model (h : P f.name) : P f.model :=
  kept_property hP (hP.append (hP.fixed rfl) (by unfold shape; cases f.kind <;> exact hP.fixed rfl))
    (hP.append (hP.fixed rfl) (kept_modelKey hP h))

theorem kept_placeholder (f : FormField) : P f.placeholder := by
  unfold placeholder
  split
  · exact hP.fixed rfl
  · refine hP.append (hP.fixed rfl) (kept_property hP (hP.fixed rfl) (hP.escape ?_))
    unfold shape
    cases f.kind <;> exact hP.fixed rfl

theorem kept_labelLine (h : P f.name) (hl : P f.label) : P f.labelLine :=
  hP.append (hP.append (hP.append (hP.append (hP.fixed rfl) (kept_property hP (hP.fixed rfl) h))
    (hP.fixed rfl)) hl) (hP.fixed rfl)

theorem kept_elementLines (h : P f.name) (hl : P f.label) : ∀ l ∈ f.elementLines, P l := by
  have hid : P (property "id" f.name) := kept_property hP (hP.fixed rfl) h
  have hfor : P (property "for" f.name) := kept_property hP (hP.fixed rfl) h
  have htype : P (property "type" (f.shape.inputType.getD "")) := by
    apply kept_property hP (hP.fixed rfl)
    unfold shape
    cases f.kind <;> exact hP.fixed rfl
  have hm := kept_model hP h
  have hp := kept_placeholder hP f
  have hline := kept_labelLine hP h hl
  unfold elementLines
  split
  all_goals
    repeat' first
      | exact fun l hl => absurd hl List.not_mem_nil
      | refine List.forall_mem_cons.2 ⟨?_, ?_⟩
      | with_reducible assumption
      | with_reducible refine hP.append ?_ ?_
      | exact hP.fixed rfl

theorem kept_remarkLines {style text : String} (hs : P style) (ht : P text) :
    ∀ l ∈ remarkLines style text, P l := by
  unfold remarkLines
  split
  · exact fun l hl => absurd hl List.not_mem_nil
  · refine List.forall_mem_cons.2 ⟨?_, fun l hl => absurd hl List.not_mem_nil⟩
    exact hP.append (hP.append (hP.append (hP.append (hP.fixed rfl) (kept_property hP (hP.fixed rfl) hs))
      (hP.fixed rfl)) (hP.escape ht)) (hP.fixed rfl)

theorem kept_errorLine (h : P f.name) : P f.errorLine :=
  hP.append (hP.append (hP.append (hP.append (hP.fixed rfl)
    (kept_property hP (hP.fixed rfl) (hP.append (hP.fixed rfl) h))) (hP.fixed rfl)) h) (hP.fixed rfl)

/-- All lines of a widget have what its name, its label and its declared type have. -/
theorem kept_widgetLines (h : P f.name) (hl : P f.label) (hd : P f.field.declared) :
    ∀ l ∈ f.widgetLines, P l := by
  have hhelp : P f.shape.help := by
    unfold shape
    cases f.kind <;> exact hP.fixed rfl
  intro l hm
  unfold widgetLines at hm
  rcases List.mem_append.1 hm with hm | hm
  · rcases List.mem_append.1 hm with hm | hm
    · rcases List.mem_append.1 hm with hm | hm
      · exact kept_elementLines hP h hl l hm
      · exact kept_remarkLines hP (hP.fixed rfl) hhelp l hm
    · exact kept_remarkLines hP (hP.fixed rfl) (kept_fallbackNote hP hd) l hm
  · rcases List.mem_cons.1 hm with rfl | hm
    · exact kept_errorLine hP h
    · rw [List.mem_singleton.1 hm]
      exact hP.fixed rfl

end

theorem inline_modelKey (h : Inline f.name) : Inline f.modelKey := kept_modelKey Markup.isKept_inline h

theorem inline_widgetLines (h : Inline f.name) (hl : Inline f.label) (hd : Inline f.field.declared) :
    ∀ l ∈ f.widgetLines, Inline l := kept_widgetLines Markup.isKept_inline h hl hd

theorem isIndented_margin {l : String} (h : Inline l) : IsIndented (margin ++ l) := by
  refine ⟨[' ', ' ', ' ', ' ', ' '] ++ l.toList, ?_, ?_⟩
  · rw [String.toList_append, margin, String.toList_ofList]
    rfl
  · rw [List.mem_append, not_or]
    exact ⟨by decide, h⟩

theorem fits_widget (h : Inline f.name) (hl : Inline f.label) (hd : Inline f.field.declared) :
    Shape.block.Fits (.text f.widget) := by
  apply Shape.fits_block
  · intro hn
    have hw := List.map_eq_nil_iff.1 hn
    unfold widgetLines at hw
    exact List.cons_ne_nil _ _ (List.append_eq_nil_iff.1 hw).2
  · intro l hm
    obtain ⟨line, hline, rfl⟩ := List.mem_map.1 hm
    exact isIndented_margin (inline_widgetLines h hl hd line hline)

end FormField

namespace Form

/-! ## Fields as values -/

/-- The shape of a field of a form. -/
def fieldShape : Shape := .record [
  ("name", .line), ("label", .line), ("model_key", .line), ("initial", .line),
  ("load_expression", .line), ("parse_error", .line), ("fallback_note", .line),
  ("encode_js", .inline), ("decode_js", .inline), ("widget", .block)]

theorem fits_optional {name : Option String} (h : ∀ s, name = some s → Inline s) :
    Shape.inline.Fits (optional name) := by
  rw [Shape.Fits]
  cases name with
  | none => exact inline_ofList rfl
  | some s => exact h s rfl

theorem inline_decoder {k : Kind} {s : String} (h : k.decoder? = some s) : Inline s := by
  cases k <;> cases h <;> exact inline_ofList rfl

theorem fits_fieldValue {f : FormField} (h : Inline f.name) (hd : Inline f.field.declared) :
    fieldShape.Fits (fieldValue f) := by
  have hl : Inline f.label := inline_label fun _ => h
  have hdecoder : ∀ s, f.decoder? = some s → Inline s := by
    intro s hs
    unfold FormField.decoder? at hs
    split at hs
    · exact inline_decoder hs
    · cases hs
  apply Shape.fits_record
  refine List.forall_mem_cons.2 ⟨⟨_, rfl, Shape.fits_line h⟩, ?_⟩
  refine List.forall_mem_cons.2 ⟨⟨_, rfl, Shape.fits_line hl⟩, ?_⟩
  refine List.forall_mem_cons.2 ⟨⟨_, rfl, Shape.fits_line (FormField.inline_modelKey h)⟩, ?_⟩
  refine List.forall_mem_cons.2 ⟨⟨_, rfl, Shape.fits_line (FormField.inline_initial f)⟩, ?_⟩
  refine List.forall_mem_cons.2 ⟨⟨_, rfl, Shape.fits_line (FormField.inline_loadExpression h)⟩, ?_⟩
  refine List.forall_mem_cons.2 ⟨⟨_, rfl, Shape.fits_line (FormField.inline_parseError h)⟩, ?_⟩
  refine List.forall_mem_cons.2
    ⟨⟨_, rfl, Shape.fits_line (FormField.kept_fallbackNote Markup.isKept_inline hd)⟩, ?_⟩
  refine List.forall_mem_cons.2 ⟨⟨_, rfl, fits_optional fun s => FormField.inline_encoder⟩, ?_⟩
  refine List.forall_mem_cons.2 ⟨⟨_, rfl, fits_optional hdecoder⟩, ?_⟩
  exact List.forall_mem_cons.2 ⟨⟨_, rfl, FormField.fits_widget h hl hd⟩,
    fun p hp => absurd hp List.not_mem_nil⟩

end Form

end Scaffold
