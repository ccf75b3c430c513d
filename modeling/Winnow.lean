import Winnow.CommandLine.Command
import Winnow.CommandLine.Options
import Winnow.CommandLine.Run
import Winnow.Decimal.Basic
import Winnow.Decimal.Digits
import Winnow.Decimal.Double
import Winnow.FileTree
import Winnow.Filter.Defaults
import Winnow.Filter.Error
import Winnow.Filter.FieldType
import Winnow.Filter.Input
import Winnow.Filter.Operator
import Winnow.Filter.Specification
import Winnow.Filter.Stream
import Winnow.FilterFile
import Winnow.Grouping
import Winnow.Json.Basic
import Winnow.Json.Number
import Winnow.Json.Parser
import Winnow.Json.Printer
import Winnow.Json.Scan
import Winnow.Json.Shape
import Winnow.Json.Stream
import Winnow.Log.Directive
import Winnow.Log.Directive.Parser
import Winnow.Log.Event
import Winnow.Log.Filter
import Winnow.Log.History
import Winnow.Main
import Winnow.PatternSyntax.Atom
import Winnow.PatternSyntax.CharSet
import Winnow.PatternSyntax.Mode
import Winnow.PatternSyntax.Opening
import Winnow.PatternSyntax.Validity
import Winnow.Proofs.Alternative
import Winnow.Proofs.Assembly
import Winnow.Proofs.ClauseDocument
import Winnow.Proofs.Compilation
import Winnow.Proofs.Conjunction
import Winnow.Proofs.Conservation
import Winnow.Proofs.Digits
import Winnow.Proofs.Discovery
import Winnow.Proofs.FileForms
import Winnow.Proofs.FileReading
import Winnow.Proofs.FileRequest
import Winnow.Proofs.FilterDocument
import Winnow.Proofs.Grouping
import Winnow.Proofs.HomeFile
import Winnow.Proofs.Isolation
import Winnow.Proofs.JsonText
import Winnow.Proofs.Meaning
import Winnow.Proofs.Merging
import Winnow.Proofs.Reduction
import Winnow.Proofs.Refusal
import Winnow.Proofs.Reordering
import Winnow.Proofs.Requirement
import Winnow.Proofs.Scanning
import Winnow.Proofs.Session
import Winnow.Proofs.SettingsText
import Winnow.Proofs.Specification
import Winnow.Proofs.Splitting
import Winnow.Proofs.Success
import Winnow.Proofs.TomlString
import Winnow.Proofs.TomlValue
import Winnow.Proofs.WrittenPath
import Winnow.Query.Clause
import Winnow.Query.Compiler
import Winnow.Query.IndexQueries
import Winnow.Query.Meaning
import Winnow.Query.Reduction
import Winnow.Query.Request
import Winnow.Query.Sort
import Winnow.Query.ValueMask
import Winnow.Query.Wildcard
import Winnow.Settings.Basic
import Winnow.Settings.Configuration
import Winnow.Settings.Layer
import Winnow.Settings.Printer
import Winnow.Settings.Template
import Winnow.Settings.Warning
import Winnow.ShapeError
import Winnow.Style.Highlight
import Winnow.Style.Palette
import Winnow.Text.Blank
import Winnow.Text.CodeRange
import Winnow.Text.Letter
import Winnow.Text.LetterCase
import Winnow.Text.Name
import Winnow.Text.Pattern
import Winnow.Text.Quoted
import Winnow.Text.Scan
import Winnow.Text.Split
import Winnow.Text.WordChar
import Winnow.Toml.Basic
import Winnow.Toml.Moment
import Winnow.Toml.Node
import Winnow.Toml.Number
import Winnow.Toml.Parser
import Winnow.Toml.Printer
import Winnow.Toml.Scan
import Winnow.Toml.Shape
import Winnow.Proofs.JsonPrinting
import Winnow.Proofs.Construction
import Winnow.Proofs.ClauseGrammar
import Winnow.Proofs.QueryDocument
import Winnow.Proofs.CountRange
import Winnow.Proofs.Colouring
import Winnow.Proofs.PrintedQuery
import Winnow.Proofs.BuilderSession
import Winnow.Proofs.FileWriting
import Winnow.Proofs.CleanCheck
import Winnow.Proofs.NewSettingsFile
import Winnow.Proofs.PatternLanguage
import Winnow.Proofs.CharacterRange
import Winnow.Proofs.RangeValues
import Winnow.Proofs.Exclusion
import Winnow.Proofs.ReductionGroups
import Winnow.Proofs.StagedReduction
import Winnow.Proofs.Precedence
import Winnow.Proofs.BoundForm
import Winnow.Proofs.LowerCase
import Winnow.Proofs.WordRuns
import Winnow.Proofs.SpecificationDocument
import Winnow.Proofs.Trimming
import Winnow.Proofs.SortEntry
import Winnow.Proofs.OpenFlags
