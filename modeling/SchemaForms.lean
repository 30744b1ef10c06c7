import SchemaForms.CommandLine.Arguments
import SchemaForms.CommandLine.Invocation
import SchemaForms.CommandLine.Outcome
import SchemaForms.CommandLine.Report
import SchemaForms.Document
import SchemaForms.Event
import SchemaForms.Failure
import SchemaForms.FileSystem.Basic
import SchemaForms.FileSystem.OsError
import SchemaForms.FileSystem.Path
import SchemaForms.Form.Basic
import SchemaForms.Form.Compilation
import SchemaForms.Generator
import SchemaForms.Json.Basic
import SchemaForms.Json.Literal
import SchemaForms.Json.Pointer
import SchemaForms.Json.Printer
import SchemaForms.Json.Reader
import SchemaForms.Keyed
import SchemaForms.Main
import SchemaForms.Naming
import SchemaForms.Number.Basic
import SchemaForms.Number.Double
import SchemaForms.Number.Shortest
import SchemaForms.Proofs.FileSystem.Change
import SchemaForms.Proofs.FileSystem.Place
import SchemaForms.Proofs.Form.Composition
import SchemaForms.Proofs.Form.Independence
import SchemaForms.Proofs.Form.Nodes
import SchemaForms.Proofs.Form.Place
import SchemaForms.Proofs.Form.Registry
import SchemaForms.Proofs.Form.Reordering
import SchemaForms.Proofs.Form.Repeats
import SchemaForms.Proofs.Form.Warnings
import SchemaForms.Proofs.Generator.Contents
import SchemaForms.Proofs.Generator.FileName
import SchemaForms.Proofs.Generator.Loading
import SchemaForms.Proofs.Generator.Output
import SchemaForms.Proofs.Generator.Rehearsal
import SchemaForms.Proofs.Json.Distinct
import SchemaForms.Proofs.Naming.BareKey
import SchemaForms.Proofs.Naming.CamelCase
import SchemaForms.Proofs.Naming.Constants
import SchemaForms.Proofs.Naming.Identifier
import SchemaForms.Proofs.Naming.Styles
import SchemaForms.Proofs.Naming.Words
import SchemaForms.Proofs.Number.Numeral
import SchemaForms.Proofs.Number.Rounding
import SchemaForms.Proofs.Number.Shortest
import SchemaForms.Proofs.Recursion.Calls
import SchemaForms.Proofs.Reference.Circle
import SchemaForms.Proofs.Reference.Expansion
import SchemaForms.Proofs.Reference.FirstFault
import SchemaForms.Proofs.Reference.Leftover
import SchemaForms.Proofs.Reference.Substitution
import SchemaForms.Proofs.Reference.Termination
import SchemaForms.Proofs.Reference.Walk
import SchemaForms.Proofs.Reference.WrittenOut
import SchemaForms.Proofs.Render.Declaration
import SchemaForms.Proofs.Render.Layout
import SchemaForms.Proofs.Render.Pattern
import SchemaForms.Proofs.Render.Quotation
import SchemaForms.Proofs.Render.ReadBack
import SchemaForms.Proofs.Render.Spelling
import SchemaForms.Proofs.Rule.Standard
import SchemaForms.Proofs.Schema.Distinct
import SchemaForms.Proofs.Schema.Field
import SchemaForms.Proofs.Schema.Grammar
import SchemaForms.Proofs.Schema.Position
import SchemaForms.Proofs.Schema.Record
import SchemaForms.Proofs.Schema.Size
import SchemaForms.Proofs.Script.Grammar
import SchemaForms.Proofs.Script.TextLiteral
import SchemaForms.Proofs.Script.Token
import SchemaForms.Proofs.Spec.Decoding
import SchemaForms.Proofs.Spec.Defaults
import SchemaForms.Proofs.Spec.Names
import SchemaForms.Proofs.Spec.Order
import SchemaForms.Proofs.Spec.Transparency
import SchemaForms.Proofs.Text.Difference
import SchemaForms.Proofs.Text.IdentifierContinue
import SchemaForms.Proofs.Text.IdentifierStart
import SchemaForms.Proofs.Text.Letters
import SchemaForms.Reference
import SchemaForms.Render.Angular
import SchemaForms.Render.Basic
import SchemaForms.Rule.Basic
import SchemaForms.Rule.Standard
import SchemaForms.Schema.Basic
import SchemaForms.Schema.Decode
import SchemaForms.Schema.DecodeError
import SchemaForms.Schema.Sameness
import SchemaForms.Spec.Basic
import SchemaForms.Spec.Format
import SchemaForms.Text.Alphabetic
import SchemaForms.Text.Blank
import SchemaForms.Text.CaseIgnorable
import SchemaForms.Text.CaseMap
import SchemaForms.Text.Cased
import SchemaForms.Text.CharTable
import SchemaForms.Text.Combining
import SchemaForms.Text.Digits
import SchemaForms.Text.Lowercase
import SchemaForms.Text.Numeric
import SchemaForms.Text.Quoted
import SchemaForms.Text.Split
import SchemaForms.Text.Unprintable
import SchemaForms.Text.Uppercase
import SchemaForms.Yaml.Glyph
import SchemaForms.Yaml.Node
import SchemaForms.Yaml.Outline
import SchemaForms.Yaml.Reader
import SchemaForms.Yaml.Resolution
import SchemaForms.Yaml.Scalar.Block
import SchemaForms.Yaml.Scalar.Gap
import SchemaForms.Yaml.Scalar.Plain
import SchemaForms.Yaml.Scalar.Quoted
import SchemaForms.Yaml.Tag
import SchemaForms.Yaml.Token
import SchemaForms.Yaml.Value
