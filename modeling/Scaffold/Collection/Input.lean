import Scaffold.Collection.Basic
import Scaffold.Input.Fault

/-!
# Typed collections from loosely typed input

Fields and collections whose parts are given by name. Unlike the intake of declarations, which repairs
names and types, this takes the parts as they are and finds everything that is wrong with them.
-/

namespace Scaffold

/-- The field with parts that are given by name. -/
def Field.read (given : List (String × Value)) : Input.Checked Field :=
  (Input.both (Input.required "name" given Input.nonemptyText)
    (Input.both (Input.required "type" given Input.fieldKind)
      (Input.withDefault "declared_type" given "" Input.text))).map fun (name, kind, declared) =>
        ⟨name, kind, declared⟩

/-- The collection of typed fields with the other parts given by name. -/
def Collection.read (given : List (String × Value)) (fields : List Field) :
    Input.Checked Collection :=
  (Input.both (Input.required "name" given Input.text)
    (Input.both (Input.required "canonical_name" given Input.nonemptyText)
      (Input.both (Input.required "pascal_name" given Input.nonemptyText)
        (Input.withDefault "data_type" given "object" Input.text)))).map
    fun (name, camelName, pascalName, dataType) =>
      { name := name, camelName := camelName, pascalName := pascalName
        fields := fields, dataType := dataType }

end Scaffold
