import TableCast.Catalog.Mysql
import TableCast.Catalog.Postgresql
import TableCast.Catalog.Query
import TableCast.Catalog.Reader
import TableCast.Catalog.Recording
import TableCast.Catalog.Selection
import TableCast.Catalog.Sqlite
import TableCast.Command.Arguments
import TableCast.Command.Perform
import TableCast.Command.Summary
import TableCast.Command.Workspace
import TableCast.Document.Calendar
import TableCast.Document.Json
import TableCast.Document.Record
import TableCast.Document.Value
import TableCast.Document.Yaml.Node
import TableCast.Document.Yaml.Reader
import TableCast.Document.Yaml.Scalar
import TableCast.Document.Yaml.ScalarText
import TableCast.Document.Yaml.Token
import TableCast.Document.Yaml.TokenStream
import TableCast.Document.Yaml.Writer
import TableCast.Emit.Artifact
import TableCast.Emit.Doctrine.Entity
import TableCast.Emit.Doctrine.Enum
import TableCast.Emit.Doctrine.Repository
import TableCast.Emit.Doctrine.Value
import TableCast.Emit.Emitter
import TableCast.Emit.Linked
import TableCast.Emit.Manifest
import TableCast.Emit.Python.Entity
import TableCast.Emit.Python.Enum
import TableCast.Emit.Python.Repository
import TableCast.Emit.Python.Value
import TableCast.Emit.Record
import TableCast.Emit.Template.Basic
import TableCast.Emit.Template.Eval
import TableCast.Emit.Template.Reader
import TableCast.Emit.TemplateSet
import TableCast.Fault
import TableCast.Files.Path
import TableCast.Files.Sink
import TableCast.Files.Tree
import TableCast.Layout.Directive
import TableCast.Layout.Expression
import TableCast.Layout.Format
import TableCast.Layout.Line
import TableCast.Layout.Literal
import TableCast.Layout.Paragraph
import TableCast.Layout.Quote
import TableCast.Layout.Remark
import TableCast.Layout.Scribe
import TableCast.Layout.Split
import TableCast.Layout.Statement
import TableCast.Layout.Token
import TableCast.Log.Console
import TableCast.Log.Entry
import TableCast.Main
import TableCast.Model.Assembly
import TableCast.Model.Association
import TableCast.Model.Diagnostic
import TableCast.Model.Entity
import TableCast.Model.EnumType
import TableCast.Model.Record
import TableCast.Name.Normalizer
import TableCast.Name.Plural
import TableCast.Name.Plural.WordList
import TableCast.Name.Scope
import TableCast.Name.Words
import TableCast.Number.Floating
import TableCast.Number.Reading
import TableCast.Number.Real
import TableCast.Proofs.Catalog.CheckHeads
import TableCast.Proofs.Catalog.CheckLists
import TableCast.Proofs.Catalog.KeyRows
import TableCast.Proofs.Catalog.LiteralDefaults
import TableCast.Proofs.Catalog.ReaderSteps
import TableCast.Proofs.Catalog.TableReads
import TableCast.Proofs.Catalog.TypeLists
import TableCast.Proofs.Emit.Accessors
import TableCast.Proofs.Emit.ArtifactPaths
import TableCast.Proofs.Emit.ClassLines
import TableCast.Proofs.Emit.CodeLines
import TableCast.Proofs.Emit.CodeReader
import TableCast.Proofs.Emit.CommentLines
import TableCast.Proofs.Emit.EntityMembers
import TableCast.Proofs.Emit.EnumDefaults
import TableCast.Proofs.Emit.FieldTerms
import TableCast.Proofs.Emit.ImportLines
import TableCast.Proofs.Emit.Imports
import TableCast.Proofs.Emit.Literals
import TableCast.Proofs.Emit.OutputPaths
import TableCast.Proofs.Emit.PythonNames
import TableCast.Proofs.Fallible
import TableCast.Proofs.Files.Batches
import TableCast.Proofs.Files.Directories
import TableCast.Proofs.Files.PlainPaths
import TableCast.Proofs.Files.Skips
import TableCast.Proofs.Files.TargetPaths
import TableCast.Proofs.Files.Walks
import TableCast.Proofs.Files.Writes
import TableCast.Proofs.Model.AssemblyPasses
import TableCast.Proofs.Model.ColumnPairs
import TableCast.Proofs.Model.Completion
import TableCast.Proofs.Model.EnumCases
import TableCast.Proofs.Model.EnumTypes
import TableCast.Proofs.Model.Exclusions
import TableCast.Proofs.Model.Extraction
import TableCast.Proofs.Model.FailureReports
import TableCast.Proofs.Model.KeyLinks
import TableCast.Proofs.Model.LinkClosure
import TableCast.Proofs.Model.LinkSteps
import TableCast.Proofs.Model.MemberNames
import TableCast.Proofs.Model.NameRules
import TableCast.Proofs.Model.OrderIndependence
import TableCast.Proofs.Model.SelfNames
import TableCast.Proofs.Model.Siblings
import TableCast.Proofs.Model.TypeNames
import TableCast.Proofs.Model.TypedColumns
import TableCast.Proofs.Model.ValueConstants
import TableCast.Proofs.Name.Alphabets
import TableCast.Proofs.Name.BatchNames
import TableCast.Proofs.Name.BatchRule
import TableCast.Proofs.Name.FileNames
import TableCast.Proofs.Name.FreshNames
import TableCast.Proofs.Name.Grants
import TableCast.Proofs.Name.NameRoutes
import TableCast.Proofs.Name.SortedNames
import TableCast.Proofs.Name.WordScan
import TableCast.Proofs.Number.IntegerSpellings
import TableCast.Proofs.Number.NumberTexts
import TableCast.Proofs.Reordering
import TableCast.Proofs.Run.Accounts
import TableCast.Proofs.Run.Cancellation
import TableCast.Proofs.Run.CatalogRuns
import TableCast.Proofs.Run.Interleaving
import TableCast.Proofs.Run.Readings
import TableCast.Proofs.Run.Results
import TableCast.Proofs.Run.Statuses
import TableCast.Proofs.Run.Workers
import TableCast.Proofs.Schema.KeyGroups
import TableCast.Proofs.Schema.Layers
import TableCast.Proofs.Schema.StaticDefaults
import TableCast.Proofs.Schema.TypeSpellings
import TableCast.Proofs.Schema.TypeWords
import TableCast.Proofs.Text.BlankWords
import TableCast.Proofs.Text.DoubledQuotes
import TableCast.Proofs.Text.OneLine
import TableCast.Proofs.Text.Pieces
import TableCast.Proofs.Text.QuotedLists
import TableCast.Proofs.Text.SpacedLists
import TableCast.Proofs.Text.Trimming
import TableCast.Run.Account
import TableCast.Run.Emission
import TableCast.Run.Generation
import TableCast.Run.Options
import TableCast.Run.Result
import TableCast.Run.Source
import TableCast.Run.Token
import TableCast.Schema.Action
import TableCast.Schema.Default
import TableCast.Schema.Facts
import TableCast.Schema.KeyRow
import TableCast.Schema.NativeType
import TableCast.Schema.Record
import TableCast.Schema.TypeArguments
import TableCast.Settings.Check
import TableCast.Settings.Configuration
import TableCast.Settings.Database
import TableCast.Settings.Framework
import TableCast.Settings.Load
import TableCast.Text.CharClass
import TableCast.Text.Credentials
import TableCast.Text.Glob
import TableCast.Text.LetterCase
import TableCast.Text.Pieces
import TableCast.Text.Quoted
import TableCast.Text.QuotedList
import TableCast.Text.Ranges
import TableCast.Text.Table.Alphanumeric
import TableCast.Text.Table.Digit
import TableCast.Text.Table.Identifier
import TableCast.Text.Table.LetterCase
import TableCast.Text.Table.Printable
import TableCast.Text.Table.Width
