import LicenseHeader.CommandLine.Arguments
import LicenseHeader.CommandLine.Reader
import LicenseHeader.CommandLine.Run
import LicenseHeader.Config.Basic
import LicenseHeader.Config.Error
import LicenseHeader.Config.Loading
import LicenseHeader.Console
import LicenseHeader.Conventions
import LicenseHeader.Disk
import LicenseHeader.Document
import LicenseHeader.Failure
import LicenseHeader.FileTree.Basic
import LicenseHeader.Glob.PathPattern
import LicenseHeader.Glob.Wildcard
import LicenseHeader.Header.Properties
import LicenseHeader.Header.Scan
import LicenseHeader.Header.Template
import LicenseHeader.Journal
import LicenseHeader.Keyed
import LicenseHeader.Main
import LicenseHeader.Mapping.Basic
import LicenseHeader.Mapping.Builtin
import LicenseHeader.Mapping.Table
import LicenseHeader.Number.Double
import LicenseHeader.Path
import LicenseHeader.Processing
import LicenseHeader.Proofs.Header.ReadBack
import LicenseHeader.Proofs.Header.Reading
import LicenseHeader.Proofs.Header.Rendering
import LicenseHeader.Proofs.Regex.Ink
import LicenseHeader.Proofs.Style.Builtin
import LicenseHeader.Proofs.Text.Basic
import LicenseHeader.Proofs.Text.Lines
import LicenseHeader.Regex.Basic
import LicenseHeader.Regex.CharSet
import LicenseHeader.Regex.Property
import LicenseHeader.Regex.Reader
import LicenseHeader.Report.Basic
import LicenseHeader.Report.Elapsed
import LicenseHeader.Report.Json
import LicenseHeader.Report.Outcome
import LicenseHeader.Report.Summary
import LicenseHeader.Report.Writing
import LicenseHeader.Repository.Basic
import LicenseHeader.Repository.History
import LicenseHeader.Repository.Ignore
import LicenseHeader.Repository.IgnorePattern
import LicenseHeader.Repository.IgnoreRule
import LicenseHeader.Repository.Inflate
import LicenseHeader.Repository.Instant
import LicenseHeader.Repository.Objects
import LicenseHeader.Repository.Opening
import LicenseHeader.Resource.Basic
import LicenseHeader.Resource.Bundled
import LicenseHeader.Selection.Basic
import LicenseHeader.Selection.Builtin
import LicenseHeader.Selection.Walk
import LicenseHeader.Style.Basic
import LicenseHeader.Style.Builtin
import LicenseHeader.Style.Registry
import LicenseHeader.Text.Age
import LicenseHeader.Text.Basic
import LicenseHeader.Text.Case
import LicenseHeader.Text.Category
import LicenseHeader.Text.Cursor
import LicenseHeader.Text.Line
import LicenseHeader.Text.Property
import LicenseHeader.Text.Script
import LicenseHeader.Text.Word
import LicenseHeader.Toml.Document
import LicenseHeader.Toml.Field
import LicenseHeader.Toml.Quoted
import LicenseHeader.Toml.Scalar
import LicenseHeader.Toml.Value
import LicenseHeader.Proofs.Document.RoundTrip
import LicenseHeader.Proofs.Header.Span
import LicenseHeader.Proofs.Header.CursorScan
import LicenseHeader.Proofs.Header.Offsets
import LicenseHeader.Proofs.Document.Editing
import LicenseHeader.Proofs.Header.LineBreaks
import LicenseHeader.Proofs.FileTree.Writing
import LicenseHeader.Proofs.Processing.LineBreaks
import LicenseHeader.Proofs.Glob.Below
import LicenseHeader.Proofs.Selection.Pruning
import LicenseHeader.Proofs.Glob.Matching
import LicenseHeader.Proofs.FileTree.Contents
import LicenseHeader.Proofs.Processing.Effects
import LicenseHeader.Proofs.Processing.Separation
import LicenseHeader.Proofs.Processing.Pool
import LicenseHeader.Proofs.Text.Removal
import LicenseHeader.Proofs.Header.Stripping
import LicenseHeader.Proofs.Header.Lenient
import LicenseHeader.Proofs.Glob.Windows
import LicenseHeader.Proofs.Glob.Segments
import LicenseHeader.Proofs.Text.Case
import LicenseHeader.Proofs.Text.Order
import LicenseHeader.Proofs.Path
import LicenseHeader.Proofs.Style.Registry
import LicenseHeader.Proofs.Document.Headroom
import LicenseHeader.Proofs.Selection.Walking
import LicenseHeader.Proofs.Repository.Inside
import LicenseHeader.Proofs.Journal
import LicenseHeader.Proofs.Processing.HeaderFile
import LicenseHeader.Proofs.Selection.Reach
import LicenseHeader.Proofs.Header.Rewrapping
import LicenseHeader.Proofs.Document.TopLines
import LicenseHeader.Proofs.Header.Expansion
import LicenseHeader.Proofs.Mapping.Building
import LicenseHeader.Proofs.Mapping.Lookup
import LicenseHeader.Proofs.Selection.Failures
import LicenseHeader.Proofs.Repository.Ancestry
import LicenseHeader.Proofs.Repository.Crediting
import LicenseHeader.Proofs.Repository.Years
import LicenseHeader.Proofs.Style.Enumeration
import LicenseHeader.Proofs.Report.ReadBack
import LicenseHeader.Proofs.Header.TrailingSpaces
import LicenseHeader.Proofs.Report.Agreement
import LicenseHeader.Proofs.Text.LineReading
