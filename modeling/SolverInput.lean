import SolverInput.Check
import SolverInput.CommandLine
import SolverInput.Dictionary
import SolverInput.Dictionary.Builtin
import SolverInput.Dictionary.Listing
import SolverInput.Files
import SolverInput.Finding
import SolverInput.FindingStore
import SolverInput.Json
import SolverInput.Json.Numeral
import SolverInput.Json.Reader
import SolverInput.Json.Writer
import SolverInput.Keyword
import SolverInput.Line
import SolverInput.Loading
import SolverInput.Log
import SolverInput.Main
import SolverInput.Outline
import SolverInput.Pattern
import SolverInput.Pattern.Bracket
import SolverInput.Pattern.Capture
import SolverInput.Pattern.CharSet
import SolverInput.Pattern.Escape
import SolverInput.Pattern.Property
import SolverInput.Pattern.Reader
import SolverInput.Proofs.Agreement
import SolverInput.Proofs.Consistency
import SolverInput.Proofs.Exactness
import SolverInput.Proofs.Extension
import SolverInput.Proofs.Grammar
import SolverInput.Proofs.History
import SolverInput.Proofs.Lines
import SolverInput.Proofs.Listing
import SolverInput.Proofs.Merge
import SolverInput.Proofs.NormalForm
import SolverInput.Proofs.Outline
import SolverInput.Proofs.Positions
import SolverInput.Proofs.Respelling
import SolverInput.Proofs.SmallLetters
import SolverInput.Proofs.Spans
import SolverInput.Proofs.Structure
import SolverInput.Proofs.Symbols
import SolverInput.Proofs.Token
import SolverInput.Proofs.WellFormed
import SolverInput.Proofs.Words
import SolverInput.Report
import SolverInput.Scan
import SolverInput.Section
import SolverInput.Session
import SolverInput.Session.Message
import SolverInput.Session.Wire
import SolverInput.Table
import SolverInput.Text
import SolverInput.Text.Category
import SolverInput.Text.LetterCase
import SolverInput.Text.Script
import SolverInput.Toml.Items
import SolverInput.Toml.Reader
import SolverInput.Toml.Scalar
import SolverInput.Toml.Token
import SolverInput.Proofs.Gather
import SolverInput.Proofs.Padding
import SolverInput.Proofs.Composition
import SolverInput.Proofs.Likeness
import SolverInput.Proofs.Values
import SolverInput.Proofs.Layout
import SolverInput.Proofs.LetterCase
import SolverInput.Proofs.Deeds
import SolverInput.Proofs.Independence
import SolverInput.Proofs.Degraded
import SolverInput.Proofs.Outcome
import SolverInput.Proofs.ProtocolLines
import SolverInput.Proofs.LastCheck
import SolverInput.Proofs.Roles
import SolverInput.Proofs.KeywordPattern
import SolverInput.Proofs.Decimal
import SolverInput.Proofs.ReadBack
import SolverInput.Proofs.Reports
import SolverInput.Proofs.CanonicalForm
