import TagNesting.Check
import TagNesting.CommandLine.Arguments
import TagNesting.CommandLine.Flag
import TagNesting.CommandLine.Refusal
import TagNesting.Diagnostic.Basic
import TagNesting.Diagnostic.Canvas
import TagNesting.Diagnostic.Drawing
import TagNesting.Diagnostic.Excerpt
import TagNesting.Diagnostic.Layout
import TagNesting.Diagnostic.Margin
import TagNesting.Diagnostic.Picture
import TagNesting.FileCheck
import TagNesting.Files.Reading
import TagNesting.Files.Relative
import TagNesting.Files.Tree
import TagNesting.Finding
import TagNesting.Json.Reader
import TagNesting.Json.Value
import TagNesting.Json.Writer
import TagNesting.Log.Event
import TagNesting.Log.Filter
import TagNesting.Main
import TagNesting.Markup.Comment
import TagNesting.Markup.SourceLine
import TagNesting.Markup.Tag
import TagNesting.Nesting
import TagNesting.Number.Binary64
import TagNesting.Number.Power
import TagNesting.Number.Shortest
import TagNesting.Number.Whole
import TagNesting.OutputFormat
import TagNesting.Program
import TagNesting.Proofs.Alike
import TagNesting.Proofs.BlockComment
import TagNesting.Proofs.Canvas
import TagNesting.Proofs.CommentRemoval
import TagNesting.Proofs.Conservation
import TagNesting.Proofs.DistinctNames
import TagNesting.Proofs.EntryPoint
import TagNesting.Proofs.ExitStatus
import TagNesting.Proofs.FailFlag
import TagNesting.Proofs.FindingCount
import TagNesting.Proofs.FoundTag
import TagNesting.Proofs.GivenFlags
import TagNesting.Proofs.Heading
import TagNesting.Proofs.HiddenText
import TagNesting.Proofs.Insertion
import TagNesting.Proofs.Interchange
import TagNesting.Proofs.JsonText
import TagNesting.Proofs.KeptText
import TagNesting.Proofs.LineEnding
import TagNesting.Proofs.LineNumber
import TagNesting.Proofs.LinePartition
import TagNesting.Proofs.LoadedSettings
import TagNesting.Proofs.Merge
import TagNesting.Proofs.Message
import TagNesting.Proofs.NamedTag
import TagNesting.Proofs.Numeral
import TagNesting.Proofs.OffsetMap
import TagNesting.Proofs.Origin
import TagNesting.Proofs.Partner
import TagNesting.Proofs.Pieces
import TagNesting.Proofs.Placement
import TagNesting.Proofs.Places
import TagNesting.Proofs.ReportFormats
import TagNesting.Proofs.ReportJson
import TagNesting.Proofs.Resumption
import TagNesting.Proofs.SettingLayers
import TagNesting.Proofs.SettingSources
import TagNesting.Proofs.SettingsFailure
import TagNesting.Proofs.SourceLine
import TagNesting.Proofs.Span
import TagNesting.Proofs.StrippedLine
import TagNesting.Proofs.TagGrammar
import TagNesting.Proofs.TagName
import TagNesting.Proofs.TakenArguments
import TagNesting.Proofs.ValueFlag
import TagNesting.Proofs.WellNested
import TagNesting.Report
import TagNesting.Settings.Basic
import TagNesting.Settings.Datum
import TagNesting.Settings.Merge
import TagNesting.Settings.Sources
import TagNesting.Span
import TagNesting.Text.Bytes
import TagNesting.Text.CapitalTable
import TagNesting.Text.CaseTable
import TagNesting.Text.Class
import TagNesting.Text.Decimal
import TagNesting.Text.Display
import TagNesting.Text.LetterTable
import TagNesting.Text.Literal
import TagNesting.Text.LowerCase
import TagNesting.Text.PlainTable
import TagNesting.Text.Ranges
import TagNesting.Text.Similarity
import TagNesting.Text.Utf8
import TagNesting.Text.WidthTable
import TagNesting.Toml.Date
import TagNesting.Toml.Document
import TagNesting.Toml.Fault
import TagNesting.Toml.Quoted
import TagNesting.Toml.Scalar
import TagNesting.Toml.Syntax
import TagNesting.Toml.Token
