import SchemaCompiler.Breakdown
import SchemaCompiler.Calendar
import SchemaCompiler.Column.Basic
import SchemaCompiler.Column.Default
import SchemaCompiler.Column.Failure
import SchemaCompiler.Column.Mapping
import SchemaCompiler.CommandLine.Arguments
import SchemaCompiler.CommandLine.Description
import SchemaCompiler.CommandLine.Load
import SchemaCompiler.CommandLine.Markup
import SchemaCompiler.CommandLine.Project
import SchemaCompiler.CommandLine.Run
import SchemaCompiler.CommandLine.Style
import SchemaCompiler.CommandLine.Table
import SchemaCompiler.Decimal.Binary64
import SchemaCompiler.Decimal.Fixed
import SchemaCompiler.Decimal.Numeral
import SchemaCompiler.Decimal.Shortest
import SchemaCompiler.Diagnostic
import SchemaCompiler.Dialect.Basic
import SchemaCompiler.Dialect.Profile
import SchemaCompiler.Document.Assembly
import SchemaCompiler.Document.Basic
import SchemaCompiler.Document.Block
import SchemaCompiler.Document.Formatter
import SchemaCompiler.Document.Index
import SchemaCompiler.Document.ModelBlock
import SchemaCompiler.Document.Printer
import SchemaCompiler.FileTree.Basic
import SchemaCompiler.FileTree.Path
import SchemaCompiler.FileTree.Write
import SchemaCompiler.Generation.Basic
import SchemaCompiler.Generation.Block
import SchemaCompiler.Generation.Compile
import SchemaCompiler.Generation.Draft
import SchemaCompiler.Junction.Plan
import SchemaCompiler.Junction.Printer
import SchemaCompiler.Log.Entry
import SchemaCompiler.Log.Record
import SchemaCompiler.Log.Setup
import SchemaCompiler.Log.Template
import SchemaCompiler.Main
import SchemaCompiler.Model.Basic
import SchemaCompiler.Model.Field
import SchemaCompiler.Model.Printer
import SchemaCompiler.Model.Problem
import SchemaCompiler.Model.Reader
import SchemaCompiler.Model.Relation
import SchemaCompiler.Options.Basic
import SchemaCompiler.Options.Load
import SchemaCompiler.Proofs.Agreement
import SchemaCompiler.Proofs.Column.Breakdown
import SchemaCompiler.Proofs.Column.Default
import SchemaCompiler.Proofs.Column.Dialect
import SchemaCompiler.Proofs.Column.KeyMark
import SchemaCompiler.Proofs.Column.Legible
import SchemaCompiler.Proofs.Column.Literal
import SchemaCompiler.Proofs.Column.Mapping
import SchemaCompiler.Proofs.Document.Balance
import SchemaCompiler.Proofs.Document.Essential
import SchemaCompiler.Proofs.Document.Extraction
import SchemaCompiler.Proofs.Document.Index
import SchemaCompiler.Proofs.Document.Layout
import SchemaCompiler.Proofs.Document.Legible
import SchemaCompiler.Proofs.Document.Opening
import SchemaCompiler.Proofs.Document.Partition
import SchemaCompiler.Proofs.Document.Table
import SchemaCompiler.Proofs.FileTree.Basic
import SchemaCompiler.Proofs.FileTree.Write
import SchemaCompiler.Proofs.Generation.Accounting
import SchemaCompiler.Proofs.Generation.BlockName
import SchemaCompiler.Proofs.Generation.Breakdown
import SchemaCompiler.Proofs.Generation.Closure
import SchemaCompiler.Proofs.Generation.Compile
import SchemaCompiler.Proofs.Generation.Contribution
import SchemaCompiler.Proofs.Generation.DatabaseName
import SchemaCompiler.Proofs.Generation.Dialect
import SchemaCompiler.Proofs.Generation.Draft
import SchemaCompiler.Proofs.Generation.Extraction
import SchemaCompiler.Proofs.Generation.Fixpoint
import SchemaCompiler.Proofs.Generation.ForeignKey
import SchemaCompiler.Proofs.Generation.Format
import SchemaCompiler.Proofs.Generation.HasOne
import SchemaCompiler.Proofs.Generation.History
import SchemaCompiler.Proofs.Generation.Independence
import SchemaCompiler.Proofs.Generation.IndexName
import SchemaCompiler.Proofs.Generation.JunctionCheck
import SchemaCompiler.Proofs.Generation.Legible
import SchemaCompiler.Proofs.Generation.Locality
import SchemaCompiler.Proofs.Generation.MemberName
import SchemaCompiler.Proofs.Generation.Module
import SchemaCompiler.Proofs.Generation.Optional
import SchemaCompiler.Proofs.Generation.PrimaryKey
import SchemaCompiler.Proofs.Generation.Result
import SchemaCompiler.Proofs.Generation.Survival
import SchemaCompiler.Proofs.Junction.Order
import SchemaCompiler.Proofs.Junction.Pairing
import SchemaCompiler.Proofs.Junction.Plan
import SchemaCompiler.Proofs.Junction.Settled
import SchemaCompiler.Proofs.Log.Record
import SchemaCompiler.Proofs.Model.Checked
import SchemaCompiler.Proofs.Model.Legible
import SchemaCompiler.Proofs.Model.Lookup
import SchemaCompiler.Proofs.Model.Rendering
import SchemaCompiler.Proofs.Options.Failure
import SchemaCompiler.Proofs.Options.Layers
import SchemaCompiler.Proofs.Outcome
import SchemaCompiler.Proofs.Registry.Builder
import SchemaCompiler.Proofs.Registry.Cycles
import SchemaCompiler.Proofs.Registry.Gathering
import SchemaCompiler.Proofs.Resolver.Accepted
import SchemaCompiler.Proofs.Resolver.Counterpart
import SchemaCompiler.Proofs.Resolver.ForeignKey
import SchemaCompiler.Proofs.Resolver.JunctionModel
import SchemaCompiler.Proofs.Resolver.Label
import SchemaCompiler.Proofs.Resolver.Legible
import SchemaCompiler.Proofs.Resolver.Member
import SchemaCompiler.Proofs.Resolver.Order
import SchemaCompiler.Proofs.Resolver.Plan
import SchemaCompiler.Proofs.Resolver.Reference
import SchemaCompiler.Proofs.Text.CamelCase
import SchemaCompiler.Proofs.Text.Case
import SchemaCompiler.Proofs.Text.Class
import SchemaCompiler.Proofs.Text.Join
import SchemaCompiler.Proofs.Text.Lines
import SchemaCompiler.Proofs.Text.Lowering
import SchemaCompiler.Proofs.Text.OneLine
import SchemaCompiler.Proofs.Text.Order
import SchemaCompiler.Proofs.Text.Separator
import SchemaCompiler.Proofs.Text.SnakeCase
import SchemaCompiler.Proofs.Text.Squeeze
import SchemaCompiler.Proofs.Toml.Digits
import SchemaCompiler.Proofs.Toml.Within
import SchemaCompiler.Proofs.Validation.Accepted
import SchemaCompiler.Proofs.Validation.DeclaredKey
import SchemaCompiler.Proofs.Validation.Ending
import SchemaCompiler.Proofs.Validation.Field
import SchemaCompiler.Proofs.Validation.Findings
import SchemaCompiler.Proofs.Validation.ForeignKey
import SchemaCompiler.Proofs.Validation.Junction
import SchemaCompiler.Proofs.Validation.Order
import SchemaCompiler.Proofs.Validation.PrimaryKey
import SchemaCompiler.Proofs.Validation.Relation
import SchemaCompiler.Proofs.Validation.RelationCheck
import SchemaCompiler.Proofs.Validation.Report
import SchemaCompiler.Proofs.Value.Entries
import SchemaCompiler.Proofs.Value.Json
import SchemaCompiler.Proofs.Value.JsonNumber
import SchemaCompiler.Proofs.Value.JsonReader
import SchemaCompiler.Proofs.Value.JsonString
import SchemaCompiler.Proofs.Value.Literal
import SchemaCompiler.Proofs.Value.Numeral
import SchemaCompiler.Proofs.Value.Sorting
import SchemaCompiler.Registry.Basic
import SchemaCompiler.Registry.Builder
import SchemaCompiler.Registry.Cycle
import SchemaCompiler.Registry.Gathering
import SchemaCompiler.Registry.Readiness
import SchemaCompiler.Resolver.Basic
import SchemaCompiler.Resolver.ForeignKey
import SchemaCompiler.Resolver.JunctionModel
import SchemaCompiler.Resolver.Member
import SchemaCompiler.Text.Case
import SchemaCompiler.Text.CaseTable
import SchemaCompiler.Text.Class
import SchemaCompiler.Text.ClassTable
import SchemaCompiler.Text.Emoji
import SchemaCompiler.Text.EmojiTable
import SchemaCompiler.Text.Lines
import SchemaCompiler.Text.Naming
import SchemaCompiler.Text.Quoted
import SchemaCompiler.Text.Width
import SchemaCompiler.Text.WidthTable
import SchemaCompiler.Text.Wrap
import SchemaCompiler.Toml.Document
import SchemaCompiler.Toml.Failure
import SchemaCompiler.Toml.Item
import SchemaCompiler.Toml.Scalar
import SchemaCompiler.Toml.Table
import SchemaCompiler.Toml.Token
import SchemaCompiler.Validation.Check
import SchemaCompiler.Validation.Report
import SchemaCompiler.Value.Basic
import SchemaCompiler.Value.Integer
import SchemaCompiler.Value.Json
import SchemaCompiler.Value.JsonReader
import SchemaCompiler.Value.Key
import SchemaCompiler.Value.Literal
import SchemaCompiler.Value.Sorting
