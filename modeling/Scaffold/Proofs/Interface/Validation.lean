import Scaffold.Proofs.Interface.Names
import Scaffold.Proofs.Value.Mapping
import Scaffold.Validation.Stage

/-!
# Validators

What the validator of a normal collection declares, under all options.
-/

namespace Scaffold

open Template
open Script (Declaration)

/-! ## Texts of checks -/

theorem Kind.inline_requirement (k : Kind) : Inline k.requirement := by
  cases k <;> exact inline_ofList rfl

theorem Kind.inline_condition (k : Kind) {reference : String} (h : Inline reference) :
    Inline (k.condition.render reference) := by
  apply inline_intercalate h
  cases k
  all_goals
    repeat first
      | exact fun s hs => absurd hs List.not_mem_nil
      | refine List.forall_mem_cons.2 ⟨inline_ofList rfl, ?_⟩

theorem TypeCheck.inline_remark {f : Field} (hd : Inline f.declared) :
    Inline (TypeCheck.ofField f).remark := by
  unfold TypeCheck.ofField
  dsimp only
  split
  · exact inline_append (inline_append (inline_append (inline_ofList rfl) hd) (inline_ofList rfl))
      f.kind.inline_tag
  · exact inline_ofList rfl

theorem TypeCheck.inline_message {c : TypeCheck} (h : Inline c.field) : Inline c.message :=
  inline_append (inline_append (inline_append h (inline_ofList rfl)) c.kind.inline_requirement)
    (inline_ofList rfl)

theorem inline_requiredMessage {field : String} (h : Inline field) :
    Inline (requiredMessage field) :=
  inline_append h (inline_ofList rfl)

theorem inline_inUseMessage {field : String} (h : Inline field) : Inline (inUseMessage field) :=
  inline_append (inline_append (inline_ofList rfl) h) (inline_ofList rfl)

namespace Validation

/-! ## The module -/

/-- The shape of a plan. -/
def planShape (p : Plan) : Shape := .record [
  ("required", .list p.required.length (.record [("field", .line), ("message", .line)])),
  ("type_checks", .list p.typeChecks.length (.record [("annotation", .line), ("field", .line),
    ("fragment", .record [("message", .line)])])),
  ("email_fields", .texts p.emailFields),
  ("email_fields", .list p.emailFields.length (.oneOf p.emailFields))]

/-- The shapes that a validator counts on. -/
def context (c : Collection) (o : Options) : Context :=
  let p := Plan.ofCollection c
  [("names", .record (Shape.exactParts (CollectionNames.ofCollection c o).entries)),
    ("plan", planShape p),
    ("conditions", .list p.typeChecks.length .line),
    ("email_pattern", .line),
    ("uses_email_pattern", .any),
    ("email_in_use", .keyed p.emailFields .line)]

/-- The declarations of a validator. -/
def declarations (c : Collection) (o : Options) : List Declaration :=
  (if (Plan.ofCollection c).emailFields.isEmpty then []
    else [Declaration.imports ["getAuth", "fetchSignInMethodsForEmail"] "firebase/auth"])
    ++ [Declaration.exports (CollectionNames.ofCollection c o).validatorFunction]

variable {scope : Scope} {c : Collection} {o : Options}

theorem declares_opening (hs : (context c o).Fits scope) :
    Declares scope ValidatorModule.opening true true
      ((if !(Plan.ofCollection c).emailFields.isEmpty then
        [Declaration.imports ["getAuth", "fetchSignInMethodsForEmail"] "firebase/auth"] ++ [] else []) ++ []) := by
  have he : Expr.Has (context c o) (.path ["plan", "email_fields"])
      (.texts (Plan.ofCollection c).emailFields) := by
    refine .part (.name (.later .here)) ?_
    repeat' constructor
  have hp : Quiet (context c o) (row [text "const EMAIL_PATTERN = ", value ["email_pattern"],
      text ";"]) true true := by
    repeat' constructor
  refine .cons (b := true) (.when hs he .texts (.cons (b := true) ?_ (hp.declares hs)))
    (Quiet.declares ?_ hs)
  · apply declares_lines
    · repeat constructor
    · repeat first
        | exact .nil
        | refine .quiet (by decide) ?_
        | refine .declared rfl (by repeat constructor) (by decide) ?_
  · repeat' constructor

theorem declares_checks (h : c.IsNormal) (hs : (context c o).Fits scope) :
    Declares scope ValidatorModule.checks true true
      ([Declaration.exports (CollectionNames.ofCollection c o).validatorFunction] ++ []) := by
  have hf : Expr.Has (context c o) (.path ["names", "validator_function"])
      (.exact (CollectionNames.ofCollection c o).validatorFunction) := by
    refine .part (.name .here) ?_
    repeat' constructor
  refine .cons (b := true) ?_ (Quiet.declares (b := true) ?_ hs)
  · refine declares_row 3 hs (.cons (.text rfl) (.cons (.hole hf) (.text rfl))) (fun rest => ?_)
      (b := false) .nil
    exact Script.declarationAt_export (fun rest => by rw [String.toList_ofList]; rfl)
      (h.isName_validatorFunction o) String.toList_ofList (by decide) rest
  · repeat' constructor

theorem quiet_addresses : Quiet (context c o) ValidatorModule.addresses true true := by
  repeat' constructor

/-! ### Values -/

theorem fits_required (h : c.IsNormal) :
    Shape.Fits (.list (Plan.ofCollection c).required.length
      (.record [("field", .line), ("message", .line)]))
      (.list ((Plan.ofCollection c).required.map Plan.requiredValue)) := by
  apply Shape.fits_list
  intro r hr
  obtain ⟨f, hf, rfl⟩ := List.mem_map.1 hr
  have hname := h.inline_field hf
  apply Shape.fits_record
  exact List.forall_mem_cons.2 ⟨⟨_, rfl, Shape.fits_line hname⟩,
    List.forall_mem_cons.2 ⟨⟨_, rfl, Shape.fits_line (inline_requiredMessage hname)⟩,
      fun p hp => absurd hp List.not_mem_nil⟩⟩

theorem fits_typeChecks (h : c.IsNormal) :
    Shape.Fits (.list (Plan.ofCollection c).typeChecks.length
      (.record [("annotation", .line), ("field", .line), ("fragment", .record [("message", .line)])]))
      (.list ((Plan.ofCollection c).typeChecks.map TypeCheck.toValue)) := by
  apply Shape.fits_list
  intro check hcheck
  obtain ⟨f, hf, rfl⟩ := List.mem_map.1 hcheck
  have hname := h.inline_field hf
  have hfragment : Shape.Fits (.record [("message", .line)])
      (Value.record [("message", .text (TypeCheck.ofField f).message)]) := by
    apply Shape.fits_record
    exact List.forall_mem_cons.2 ⟨⟨_, rfl, Shape.fits_line (TypeCheck.inline_message hname)⟩,
      fun p hp => absurd hp List.not_mem_nil⟩
  apply Shape.fits_record
  exact List.forall_mem_cons.2
    ⟨⟨_, rfl, Shape.fits_line (TypeCheck.inline_remark (h.inline_declared hf))⟩,
      List.forall_mem_cons.2 ⟨⟨_, rfl, Shape.fits_line hname⟩,
        List.forall_mem_cons.2 ⟨⟨_, rfl, hfragment⟩, fun p hp => absurd hp List.not_mem_nil⟩⟩⟩

theorem inline_emailFields (h : c.IsNormal) :
    ∀ s ∈ (Plan.ofCollection c).emailFields, Inline s := by
  intro s hs
  obtain ⟨f, hf, rfl⟩ := List.mem_map.1 hs
  exact h.inline_field (List.mem_filter.1 hf).1

theorem fits_planShape (h : c.IsNormal) :
    (planShape (Plan.ofCollection c)).Fits (Plan.ofCollection c).toValue := by
  have hemails : Shape.Fits (.list (Plan.ofCollection c).emailFields.length
      (.oneOf (Plan.ofCollection c).emailFields)) (Value.texts (Plan.ofCollection c).emailFields) := by
    apply Shape.fits_list
    intro s hs
    rw [Shape.Fits]
    exact ⟨s, hs, rfl, inline_emailFields h s hs⟩
  apply Shape.fits_record
  exact List.forall_mem_cons.2 ⟨⟨_, rfl, fits_required h⟩,
    List.forall_mem_cons.2 ⟨⟨_, rfl, fits_typeChecks h⟩,
      List.forall_mem_cons.2 ⟨⟨_, rfl, rfl⟩,
        List.forall_mem_cons.2 ⟨⟨_, rfl, hemails⟩, fun p hp => absurd hp List.not_mem_nil⟩⟩⟩⟩

theorem fits_conditions (h : c.IsNormal) :
    Shape.Fits (.list (Plan.ofCollection c).typeChecks.length .line)
      (Value.texts ((Plan.ofCollection c).typeChecks.map TypeCheck.scriptCondition)) := by
  unfold Value.texts
  rw [List.map_map]
  apply Shape.fits_list
  intro check hcheck
  obtain ⟨f, hf, rfl⟩ := List.mem_map.1 hcheck
  exact Shape.fits_line
    (Kind.inline_condition _ (inline_append (inline_ofList rfl) (h.inline_field hf)))

/-- Every field for addresses has its message. -/
theorem lookup?_inUseMessages {p : Plan} {s : String} (hs : s ∈ p.emailFields) :
    Expr.lookup? p.inUseMessages (.text s) = some (.text (inUseMessage s)) := by
  have hf := Value.field?_mapping p.emailFields (fun f => .text (inUseMessage f)) s
  rw [if_pos hs] at hf
  have he : Expr.elementOf? p.inUseMessages (.text s) = some (.text (inUseMessage s)) := hf
  rw [Expr.lookup?, he]
  rfl

theorem fits_inUseMessages (h : c.IsNormal) :
    Shape.Fits (.keyed (Plan.ofCollection c).emailFields .line) (Plan.ofCollection c).inUseMessages := by
  rw [Shape.Fits]
  intro s hs
  exact ⟨_, lookup?_inUseMessages hs,
    Shape.fits_line (inline_inUseMessage (inline_emailFields h s hs))⟩

theorem fits_context (h : c.IsNormal) (o : Options) :
    (context c o).Fits (Scope.ofValues (values c o)) := by
  refine Context.fits_cons (h.fits_names o) ?_
    (Context.fits_cons (fits_planShape h) ?_
    (Context.fits_cons (fits_conditions h) ?_
    (Context.fits_cons (Shape.fits_line (inline_ofList rfl)) ?_
    (Context.fits_cons trivial ?_
    (Context.fits_cons (fits_inUseMessages h) ?_ Context.fits_nil)))))
  all_goals
    repeat' constructor

/-! ### The file -/

theorem isMade_validatorFile (h : c.IsNormal) (o : Options) :
    Artifact.IsMade (validatorFile c o) (CollectionNames.ofCollection c o).validatorPath
      (declarations c o) := by
  have hs := fits_context h o
  have hd : Declares _ ValidatorModule.template true true _ :=
    (declares_opening hs).cons ((declares_checks h hs).cons (quiet_addresses.declares hs))
  apply Artifact.isMade_ofTemplate (b := true)
  unfold declarations
  cases he : (Plan.ofCollection c).emailFields.isEmpty with
  | true =>
    rw [he] at hd
    exact hd
  | false =>
    rw [he] at hd
    exact hd

end Validation

end Scaffold
