import Scaffold.Form.CodecsModule
import Scaffold.Form.Field
import Scaffold.Form.Views
import Scaffold.Stage

/-!
# Views of collections

The stage that makes the views for creating and editing records, and the module of form texts if one of
the views needs it.
-/

namespace Scaffold.Form

/-! ## Fixed values -/

/-- The module of form texts as views import it. -/
def codecsImport : String := "@/utils/formCodecs"

/-- How long a view shows why it closes, in milliseconds. -/
def redirectDelay : Nat := 1500

/-! ## Values -/

/-- A name that may be missing as a value. -/
def optional (name : Option String) : Value := (name.map Value.text).getD .null

/-- A field of a form as a value. -/
def fieldValue (f : FormField) : Value :=
  Value.record [
    ("name", .text f.name),
    ("label", .text f.label),
    ("model_key", .text f.modelKey),
    ("initial", .text f.initial),
    ("load_expression", .text f.loadExpression),
    ("parse_error", .text f.parseError),
    ("fallback_note", .text f.fallbackNote),
    ("encode_js", optional f.encoder?),
    ("decode_js", optional f.decoder?),
    ("widget", .text f.widget)]

/-- The values that both views of a collection depend on. -/
def values (c : Collection) (o : Options) : List (String × Value) := [
  ("names", (CollectionNames.ofCollection c o).toValue),
  ("store", (StoreNames.ofOptions o).toValue),
  ("fields", .list (c.formFields.map fieldValue)),
  ("codecs_import", .text codecsImport),
  ("title", .text (Name.label c.name))]

/-! ## Files -/

/-- The view that creates a record. -/
def createFile (c : Collection) (o : Options) : Except RenderFault Artifact :=
  Artifact.ofTemplate (CollectionNames.ofCollection c o).createViewPath FormViews.create
    (values c o ++ [("codecs", Value.texts (createImports c.formFields))])

/-- The view that edits a record. -/
def editFile (c : Collection) (o : Options) : Except RenderFault Artifact :=
  Artifact.ofTemplate (CollectionNames.ofCollection c o).editViewPath FormViews.edit
    (values c o ++ [
      ("codecs", Value.texts (editImports c.formFields)),
      ("redirect_delay", .int redirectDelay)])

/-- The module of form texts. -/
def codecsFile : Except RenderFault Artifact :=
  Artifact.ofTemplate Layout.codecsModule CodecsModule.template []

/-- A view of one of the collections needs the module of form texts. -/
def needsCodecs (all : List Collection) : Bool :=
  all.any fun c => !(editImports c.formFields).isEmpty

/-! ## The stage -/

/-- The stage of views. -/
def stage : Stage where
  name := "forms"
  shared all _ := Stage.files (if needsCodecs all then [codecsFile] else [])
  forCollection c _ o := Stage.files [createFile c o, editFile c o]

end Scaffold.Form
