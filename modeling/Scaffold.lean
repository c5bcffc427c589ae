import Scaffold.Access.Actions
import Scaffold.Access.Activity
import Scaffold.Access.Bootstrap
import Scaffold.Access.Paging
import Scaffold.Access.Stage
import Scaffold.Access.Support
import Scaffold.Assembly
import Scaffold.Calendar.Date
import Scaffold.Calendar.Iso
import Scaffold.Calendar.Moment
import Scaffold.Collection.Basic
import Scaffold.Collection.Input
import Scaffold.Collection.Intake
import Scaffold.CommandLine.Arguments
import Scaffold.CommandLine.Program
import Scaffold.CommandLine.Tools
import Scaffold.Console.Markup
import Scaffold.Console.PictographTable
import Scaffold.Console.Style
import Scaffold.Definition
import Scaffold.Duration
import Scaffold.Field.Blank
import Scaffold.Field.Check
import Scaffold.Field.Codec
import Scaffold.Field.Kind
import Scaffold.Field.Widget
import Scaffold.Form.CodecsModule
import Scaffold.Form.Field
import Scaffold.Form.Stage
import Scaffold.Form.Views
import Scaffold.Input.Fault
import Scaffold.Json.Encoding
import Scaffold.Json.Printer
import Scaffold.Json.Reader
import Scaffold.Log
import Scaffold.Main
import Scaffold.Name.Label
import Scaffold.Name.Layout
import Scaffold.Name.Words
import Scaffold.Number.Binary64
import Scaffold.Number.Digits
import Scaffold.Number.Notation
import Scaffold.Number.Shortest
import Scaffold.Options.Basic
import Scaffold.Options.Settings
import Scaffold.Project.Root
import Scaffold.Project.Writer
import Scaffold.Proofs.Access.Identity
import Scaffold.Proofs.Access.Operations
import Scaffold.Proofs.Access.Paging
import Scaffold.Proofs.Assembly.Addition
import Scaffold.Proofs.Assembly.Catalogue
import Scaffold.Proofs.Assembly.Hooks
import Scaffold.Proofs.Assembly.Imports
import Scaffold.Proofs.Assembly.Interface
import Scaffold.Proofs.Assembly.Lines
import Scaffold.Proofs.Assembly.Outcome
import Scaffold.Proofs.Assembly.Places
import Scaffold.Proofs.Assembly.Records
import Scaffold.Proofs.Calendar.Iso
import Scaffold.Proofs.Collection.Acceptance
import Scaffold.Proofs.Collection.Composition
import Scaffold.Proofs.Collection.Grammar
import Scaffold.Proofs.Collection.Invariants
import Scaffold.Proofs.Collection.Merging
import Scaffold.Proofs.Collection.Normal
import Scaffold.Proofs.Collection.Redeclaration
import Scaffold.Proofs.Collection.Shapes
import Scaffold.Proofs.Collection.Warnings
import Scaffold.Proofs.CommandLine.Ending
import Scaffold.Proofs.Console.Markup
import Scaffold.Proofs.Duration
import Scaffold.Proofs.Field.Blank
import Scaffold.Proofs.Field.Email
import Scaffold.Proofs.Field.Lists
import Scaffold.Proofs.Field.Moments
import Scaffold.Proofs.Field.Objects
import Scaffold.Proofs.Form.Apart
import Scaffold.Proofs.Form.Conversions
import Scaffold.Proofs.Form.Keys
import Scaffold.Proofs.Form.Names
import Scaffold.Proofs.Form.Slots
import Scaffold.Proofs.Interface.Access
import Scaffold.Proofs.Interface.Actions
import Scaffold.Proofs.Interface.Fields
import Scaffold.Proofs.Interface.Form
import Scaffold.Proofs.Interface.Lines
import Scaffold.Proofs.Interface.Names
import Scaffold.Proofs.Interface.Routes
import Scaffold.Proofs.Interface.Routing
import Scaffold.Proofs.Interface.Store
import Scaffold.Proofs.Interface.Validation
import Scaffold.Proofs.Json.RoundTrip
import Scaffold.Proofs.Json.Scalars
import Scaffold.Proofs.Json.Writing
import Scaffold.Proofs.Layout.Folded
import Scaffold.Proofs.Layout.Place
import Scaffold.Proofs.Name.CamelCase
import Scaffold.Proofs.Name.Labels
import Scaffold.Proofs.Name.Recovery
import Scaffold.Proofs.Name.Respelling
import Scaffold.Proofs.Name.Spelling
import Scaffold.Proofs.Number.Rounding
import Scaffold.Proofs.Options.Answers
import Scaffold.Proofs.Options.Roles
import Scaffold.Proofs.Project.Prefix
import Scaffold.Proofs.Project.Root
import Scaffold.Proofs.Project.Writer
import Scaffold.Proofs.Routing.Distinct
import Scaffold.Proofs.Routing.Guarded
import Scaffold.Proofs.Run
import Scaffold.Proofs.Script.Callee
import Scaffold.Proofs.Script.Component
import Scaffold.Proofs.Script.Declaration
import Scaffold.Proofs.Script.Factory
import Scaffold.Proofs.Script.FormSlot
import Scaffold.Proofs.Script.Keys
import Scaffold.Proofs.Script.Line
import Scaffold.Proofs.Script.Operation
import Scaffold.Proofs.Script.Push
import Scaffold.Proofs.Script.Quotation
import Scaffold.Proofs.Script.Resolution
import Scaffold.Proofs.Script.Scope
import Scaffold.Proofs.Script.Spelling
import Scaffold.Proofs.Script.Statement
import Scaffold.Proofs.Script.Token
import Scaffold.Proofs.Script.Unquote
import Scaffold.Proofs.Store.Clashes
import Scaffold.Proofs.Store.Factories
import Scaffold.Proofs.Store.Keys
import Scaffold.Proofs.Store.Reading
import Scaffold.Proofs.Store.Repetitions
import Scaffold.Proofs.Store.Scopes
import Scaffold.Proofs.Store.Segments
import Scaffold.Proofs.Store.Tokens
import Scaffold.Proofs.Template.Declared
import Scaffold.Proofs.Template.Likeness
import Scaffold.Proofs.Template.Lines
import Scaffold.Proofs.Template.Names
import Scaffold.Proofs.Template.Parts
import Scaffold.Proofs.Template.Quiet
import Scaffold.Proofs.Template.Shape
import Scaffold.Proofs.Template.Tokens
import Scaffold.Proofs.Template.Variables
import Scaffold.Proofs.Text.Ascii
import Scaffold.Proofs.Text.Parts
import Scaffold.Proofs.Text.Trimmed
import Scaffold.Proofs.Tree.Growth
import Scaffold.Proofs.Validation.Addresses
import Scaffold.Proofs.Validation.Checks
import Scaffold.Proofs.Validation.Records
import Scaffold.Proofs.Validation.Resaved
import Scaffold.Proofs.Value.Mapping
import Scaffold.Proofs.Value.Shown
import Scaffold.Routing.Guards
import Scaffold.Routing.Module
import Scaffold.Routing.Placeholder
import Scaffold.Routing.Route
import Scaffold.Routing.Stage
import Scaffold.Routing.Table
import Scaffold.Run
import Scaffold.Script.Literal
import Scaffold.Stage
import Scaffold.Store.AuthMessages
import Scaffold.Store.Module
import Scaffold.Store.Registry
import Scaffold.Template.Basic
import Scaffold.Template.Library
import Scaffold.Template.Render
import Scaffold.Text.Blank
import Scaffold.Text.Case
import Scaffold.Text.CaseTable
import Scaffold.Text.CodePoint
import Scaffold.Text.DecimalDigit
import Scaffold.Text.Distinct
import Scaffold.Text.Parts
import Scaffold.Text.Printable
import Scaffold.Text.UnprintableTable
import Scaffold.Text.Utf8
import Scaffold.Tree.FileTree
import Scaffold.Tree.Files
import Scaffold.Tree.Path
import Scaffold.Validation.Module
import Scaffold.Validation.Plan
import Scaffold.Validation.Stage
import Scaffold.Value.Basic
import Scaffold.Value.Display
import Scaffold.Yaml.Cursor
import Scaffold.Yaml.Document
import Scaffold.Yaml.Graph
import Scaffold.Yaml.Merge
import Scaffold.Yaml.Node
import Scaffold.Yaml.Numeral
import Scaffold.Yaml.Object
import Scaffold.Yaml.Scalar
import Scaffold.Yaml.ScalarValue
import Scaffold.Yaml.Tag
import Scaffold.Yaml.Token
import Scaffold.Yaml.Token.Stream
