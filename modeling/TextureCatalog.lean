import TextureCatalog.Text.Blank
import TextureCatalog.Text.Lowercase
import TextureCatalog.Text.PrintableTable
import TextureCatalog.Text.Substring
import TextureCatalog.Text.Newline
import TextureCatalog.Text.Quoted
import TextureCatalog.Text.Utf8
import TextureCatalog.Json.Reader
import TextureCatalog.Json.Writer
import TextureCatalog.Filter
import TextureCatalog.Manifest.Loading
import TextureCatalog.Toml.Reader
import TextureCatalog.Toml.Writer
import TextureCatalog.Settings.Storage
import TextureCatalog.Session.Workspace
import TextureCatalog.Terminal.Escape
import TextureCatalog.CommandLine.Arguments
import TextureCatalog.CommandLine.Help
import TextureCatalog.Main
import TextureCatalog.Terminal.Markup
import TextureCatalog.Terminal.Table
import TextureCatalog.Proofs.Query.Selection
import TextureCatalog.Proofs.Query.Composition
import TextureCatalog.Proofs.Session.Steps
import TextureCatalog.Proofs.Session.Tracking
import TextureCatalog.Proofs.Session.Identity
import TextureCatalog.Proofs.Session.ActiveTab
import TextureCatalog.Proofs.Session.Scripts
import TextureCatalog.Proofs.Session.Failures
import TextureCatalog.Proofs.Session.Closings
import TextureCatalog.Proofs.Session.Bulk
import TextureCatalog.Proofs.Text.Utf8
import TextureCatalog.Proofs.Text.Newline
import TextureCatalog.Proofs.Toml.Values
import TextureCatalog.Proofs.Toml.Sections
import TextureCatalog.Proofs.Files.Reaching
import TextureCatalog.Proofs.Files.Writing
import TextureCatalog.Proofs.Settings.Saving
import TextureCatalog.Proofs.Query.Refusal
import TextureCatalog.Proofs.Text.Trimming
import TextureCatalog.Proofs.Query.Terms
import TextureCatalog.Proofs.Query.Alternatives
import TextureCatalog.Proofs.Query.Negation
import TextureCatalog.Proofs.Query.ResolutionRange
import TextureCatalog.Proofs.Text.Lowercase
import TextureCatalog.Proofs.Query.Finding
import TextureCatalog.Proofs.Manifest.Checks
import TextureCatalog.Proofs.Manifest.Conformance
import TextureCatalog.Proofs.Json.Grammar
import TextureCatalog.Proofs.Json.Reading
import TextureCatalog.Proofs.Json.Writing
import TextureCatalog.Proofs.Json.Styles
import TextureCatalog.Proofs.Json.LineEnds
import TextureCatalog.Proofs.Terminal.Cutting
import TextureCatalog.Proofs.Terminal.Escaping
import TextureCatalog.Proofs.Terminal.Tables
import TextureCatalog.Proofs.Program.Actions
import TextureCatalog.Proofs.Terminal.Labels
import TextureCatalog.Proofs.Manifest.Loading
import TextureCatalog.Proofs.Manifest.Written
import TextureCatalog.Proofs.Program.Invocation
import TextureCatalog.Proofs.Program.ManifestFaults
import TextureCatalog.Proofs.Program.Printing
import TextureCatalog.Proofs.Program.TableOutput
import TextureCatalog.Proofs.Program.Searching
import TextureCatalog.Proofs.Text.AsciiCase
import TextureCatalog.Proofs.Query.Positions
import TextureCatalog.Proofs.Query.LetterCase
import TextureCatalog.Proofs.Session.WorkspaceSteps
import TextureCatalog.Proofs.Session.Naming
import TextureCatalog.Proofs.Session.Views
import TextureCatalog.Proofs.Session.Commuting
import TextureCatalog.Proofs.Session.Moving
import TextureCatalog.Proofs.Settings.Outcomes
import TextureCatalog.Proofs.Terminal.Unfolded
import TextureCatalog.Proofs.Terminal.Faithful
import TextureCatalog.Proofs.Files.Missing
import TextureCatalog.Proofs.Program.MissingManifest
import TextureCatalog.Proofs.Session.Undoing
import TextureCatalog.Proofs.Query.Comparisons
import TextureCatalog.Proofs.Query.Trichotomy
import TextureCatalog.Proofs.Query.Rendering
import TextureCatalog.Proofs.Document.Pruning
import TextureCatalog.Proofs.Settings.Overriding
import TextureCatalog.Proofs.Manifest.Records
import TextureCatalog.Proofs.Manifest.Pruning
import TextureCatalog.Proofs.Settings.Sections
import TextureCatalog.Proofs.Settings.Clamping
import TextureCatalog.Proofs.Files.Sparing
import TextureCatalog.Proofs.Settings.Template
import TextureCatalog.Proofs.Program.Endings
import TextureCatalog.Proofs.Program.CreatingSettings
