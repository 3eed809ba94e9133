import Phrasebook.Catalog.Codecs
import Phrasebook.Catalog.Entities
import Phrasebook.Catalog.Overview
import Phrasebook.Catalog.Store
import Phrasebook.CommandLine
import Phrasebook.Decimal.Layout
import Phrasebook.Decimal.Shortest
import Phrasebook.Dictionary.Basic
import Phrasebook.Dictionary.Entries
import Phrasebook.Document.Leaves
import Phrasebook.Document.Path
import Phrasebook.Export.Basic
import Phrasebook.Export.Outline
import Phrasebook.Import.Basic
import Phrasebook.Import.Key
import Phrasebook.Import.Title
import Phrasebook.Inference.Basic
import Phrasebook.Inference.Example
import Phrasebook.Inference.Pattern
import Phrasebook.Inference.Warning
import Phrasebook.Json.Basic
import Phrasebook.Json.Codec
import Phrasebook.Json.Fault
import Phrasebook.Json.Numeral
import Phrasebook.Json.Printer
import Phrasebook.Json.Reader
import Phrasebook.Json.Reading
import Phrasebook.Json.Shape
import Phrasebook.Json.Skip
import Phrasebook.Locale.Basic
import Phrasebook.Main
import Phrasebook.Message.Codec
import Phrasebook.Message.Fault
import Phrasebook.Message.Marker
import Phrasebook.Message.Segment
import Phrasebook.Message.Token
import Phrasebook.Settings.Basic
import Phrasebook.Settings.Validation
import Phrasebook.Settings.Workspace
import Phrasebook.Text.Blank
import Phrasebook.Text.Bytes
import Phrasebook.Text.Case
import Phrasebook.Text.CaseTable
import Phrasebook.Text.Dotted
import Phrasebook.Text.Quoted
import Phrasebook.Text.Ranges
import Phrasebook.Text.VisibleTable
import Phrasebook.Titling.Basic
import Phrasebook.Titling.Suggestion
import Phrasebook.Trie.Basic
import Phrasebook.Trie.Branch
import Phrasebook.Trie.Codec
import Phrasebook.Proofs.Dictionary.Lookup
import Phrasebook.Proofs.Checks
import Phrasebook.Proofs.Trie.Labels
import Phrasebook.Proofs.Trie.Merging
import Phrasebook.Proofs.Catalog.Sharing
import Phrasebook.Proofs.Export.Listing
import Phrasebook.Proofs.Export.Failures
import Phrasebook.Proofs.Import.Key
import Phrasebook.Proofs.Import.Records
import Phrasebook.Proofs.Import.Slots
import Phrasebook.Proofs.Document.Texts
import Phrasebook.Proofs.Export.Condensed
import Phrasebook.Proofs.Export.Written
import Phrasebook.Proofs.Import.Shown
import Phrasebook.Proofs.Import.Faithful
import Phrasebook.Proofs.RoundTrip
import Phrasebook.Proofs.Text.Positions
import Phrasebook.Proofs.Message.Markers
import Phrasebook.Proofs.Message.Tokens
import Phrasebook.Proofs.Message.Grammar
import Phrasebook.Proofs.Message.Steps
import Phrasebook.Proofs.Message.Reading
import Phrasebook.Proofs.Message.Extents
import Phrasebook.Proofs.Catalog.Joining
import Phrasebook.Proofs.Catalog.Accounting
import Phrasebook.Proofs.Catalog.Merging
import Phrasebook.Proofs.Catalog.Applying
import Phrasebook.Proofs.Inference.Warnings
import Phrasebook.Proofs.Inference.Backtracking
import Phrasebook.Proofs.Inference.Captures
import Phrasebook.Proofs.Inference.Examples
import Phrasebook.Proofs.Inference.Outcome
import Phrasebook.Proofs.Inference.Agreement
import Phrasebook.Proofs.Import.Marks
import Phrasebook.Proofs.Catalog.Reachable
import Phrasebook.Proofs.Catalog.Arguments
import Phrasebook.Proofs.Import.Parts
import Phrasebook.Proofs.Document.Members
import Phrasebook.Proofs.Import.Localewise
import Phrasebook.Proofs.Export.Depth
import Phrasebook.Proofs.Export.Filters
import Phrasebook.Proofs.Catalog.Shadowing
import Phrasebook.Proofs.Catalog.Nodes
import Phrasebook.Proofs.Document.Refusals
import Phrasebook.Proofs.Import.Outcome
import Phrasebook.Proofs.Document.Alike
import Phrasebook.Proofs.Document.Nodes
import Phrasebook.Proofs.Document.Sorted
import Phrasebook.Proofs.Import.Hint
import Phrasebook.Proofs.Import.Variables
import Phrasebook.Proofs.Json.Members
import Phrasebook.Proofs.Codecs
import Phrasebook.Proofs.Message.Faults
import Phrasebook.Proofs.Titling.Targets
import Phrasebook.Proofs.Titling.Titles
import Phrasebook.Proofs.Titling.Outcome
import Phrasebook.Proofs.Titling.Coverage
import Phrasebook.Proofs.Titling.Convergence
import Phrasebook.Proofs.Outline.Merging
import Phrasebook.Proofs.Outline.Locales
import Phrasebook.Proofs.Outline.ByLocale
import Phrasebook.Proofs.Outline.Documents
import Phrasebook.Proofs.Locale.Resolution
import Phrasebook.Proofs.Settings.Problems
import Phrasebook.Proofs.Inference.Keys
import Phrasebook.Proofs.Inference.Arguments
import Phrasebook.Proofs.Catalog.Migration
import Phrasebook.Proofs.Titling.Distance
import Phrasebook.Proofs.Titling.Suggestions
import Phrasebook.Proofs.Text.Case
import Phrasebook.Proofs.Import.Title
import Phrasebook.Proofs.Message.Declarations
import Phrasebook.Proofs.Text.Boundaries
import Phrasebook.Proofs.Message.Excerpts
import Phrasebook.Proofs.Inference.Endings
