import Scaffold.Stage
import Scaffold.Validation.Module
import Scaffold.Validation.Plan

/-!
# Validators

The stage that makes a validator for each collection from its plan.
-/

namespace Scaffold

namespace TypeCheck

/-- The condition in the validator that holds for values of another kind. -/
def scriptCondition (c : TypeCheck) : String := c.kind.condition.render ("record." ++ c.field)

/-- A check of a kind as a value. -/
def toValue (c : TypeCheck) : Value :=
  Value.record [
    ("annotation", .text c.remark),
    ("field", .text c.field),
    ("fragment", Value.record [("message", .text c.message)])]

end TypeCheck

namespace Plan

/-- The check that a field is filled in as a value. -/
def requiredValue (c : RequiredCheck) : Value :=
  Value.record [("field", .text c.field), ("message", .text c.message)]

/-- A plan as a value. -/
def toValue (p : Plan) : Value :=
  Value.record [
    ("required", .list (p.required.map requiredValue)),
    ("type_checks", .list (p.typeChecks.map TypeCheck.toValue)),
    ("email_fields", Value.texts p.emailFields)]

/-- The messages for addresses that are taken, by the field. -/
def inUseMessages (p : Plan) : Value :=
  .map (Value.mapping (p.emailFields.map fun f => (.text f, .text (inUseMessage f))))

end Plan

namespace Validation

/-- The values that the validator of a collection depends on. -/
def values (c : Collection) (o : Options) : List (String × Value) :=
  let p := Plan.ofCollection c
  [("names", (CollectionNames.ofCollection c o).toValue),
    ("plan", p.toValue),
    ("conditions", Value.texts (p.typeChecks.map TypeCheck.scriptCondition)),
    ("email_pattern", .text emailPattern),
    ("uses_email_pattern", .bool (!p.emailFields.isEmpty)),
    ("email_in_use", p.inUseMessages)]

/-- The validator of a collection. -/
def validatorFile (c : Collection) (o : Options) : Except RenderFault Artifact :=
  Artifact.ofTemplate (CollectionNames.ofCollection c o).validatorPath ValidatorModule.template
    (values c o)

/-- The stage of validators. -/
def stage : Stage where
  name := "validation"
  forCollection c _ o := Stage.files [validatorFile c o]

end Validation

end Scaffold
