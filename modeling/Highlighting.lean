import Highlighting.Cluster.Basic
import Highlighting.Cluster.Index
import Highlighting.Cluster.Tables
import Highlighting.CommandLine
import Highlighting.Error
import Highlighting.FileTree
import Highlighting.Grammar.Bundled.Catalogue
import Highlighting.Grammar.Bundled.Diff
import Highlighting.Grammar.Bundled.Entry
import Highlighting.Grammar.Bundled.Json
import Highlighting.Grammar.Bundled.Lua
import Highlighting.Grammar.Bundled.Pascal
import Highlighting.Grammar.Bundled.Properties
import Highlighting.Grammar.Context
import Highlighting.Grammar.Library
import Highlighting.Grammar.Notation
import Highlighting.Grammar.Scanner
import Highlighting.Grammar.Source
import Highlighting.LineReader
import Highlighting.Log.Basic
import Highlighting.Log.Filter
import Highlighting.Main
import Highlighting.Path
import Highlighting.Program
import Highlighting.Proofs.Cluster.Clamping
import Highlighting.Proofs.Cluster.Cuts
import Highlighting.Proofs.Cluster.Slices
import Highlighting.Proofs.List.Last
import Highlighting.Proofs.LineReader.Chunking
import Highlighting.Proofs.LineReader.Delivery
import Highlighting.Proofs.LineReader.Lines
import Highlighting.Proofs.Run.CutOff
import Highlighting.Proofs.Run.ExactCopy
import Highlighting.Proofs.Run.PlainText
import Highlighting.Proofs.Run.Script
import Highlighting.Proofs.Run.StateThreading
import Highlighting.Proofs.Run.WholeClusters
import Highlighting.Proofs.Settings.LastVariable
import Highlighting.Proofs.Sink.Operations
import Highlighting.Proofs.Sink.Writer
import Highlighting.Proofs.Terminal.Display
import Highlighting.Proofs.Terminal.Recovery
import Highlighting.Proofs.Terminal.Rendering
import Highlighting.Proofs.Text.Bisect
import Highlighting.Proofs.Text.Forms
import Highlighting.Proofs.Text.Lines
import Highlighting.Proofs.Text.Lossy
import Highlighting.Proofs.Text.LowerCase
import Highlighting.Proofs.Text.Slice
import Highlighting.Proofs.Text.Subparts
import Highlighting.Proofs.Theme.Flattening
import Highlighting.Proofs.Theme.Resolution
import Highlighting.Proofs.Theme.Shadowing
import Highlighting.Proofs.Token.Partition
import Highlighting.Proofs.Token.Scopes
import Highlighting.Proofs.Token.StackEvolution
import Highlighting.Regex.Automaton
import Highlighting.Regex.Basic
import Highlighting.Regex.CharClass
import Highlighting.Regex.CharSet
import Highlighting.Regex.Escape
import Highlighting.Regex.Marks
import Highlighting.Regex.Parser
import Highlighting.Regex.Plan
import Highlighting.Regex.Property
import Highlighting.Regex.Search
import Highlighting.Run
import Highlighting.Scope.Basic
import Highlighting.Scope.Stack
import Highlighting.Settings
import Highlighting.Sink.Basic
import Highlighting.Sink.Terminal
import Highlighting.Sink.Writer
import Highlighting.Style
import Highlighting.Terminal.Command
import Highlighting.Text.Basic
import Highlighting.Text.Bisect
import Highlighting.Text.CaseFold
import Highlighting.Text.Category.Basic
import Highlighting.Text.Category.Letter
import Highlighting.Text.Category.Mark
import Highlighting.Text.Category.Symbol
import Highlighting.Text.CharRanges
import Highlighting.Text.LowerCase
import Highlighting.Text.Space
import Highlighting.Text.Utf8
import Highlighting.Text.Word
import Highlighting.Theme.Basic
import Highlighting.Theme.Bundled.Base16
import Highlighting.Theme.Bundled.Inspired
import Highlighting.Theme.Bundled.Item
import Highlighting.Theme.Bundled.Solarized
import Highlighting.Theme.Library
import Highlighting.Theme.Rule
import Highlighting.Theme.Selector
import Highlighting.Token.Basic
import Highlighting.Token.Events
import Highlighting.Token.Tokenizer
import Highlighting.Proofs.Run.Styles
import Highlighting.Proofs.LineReader.Yield
import Highlighting.Proofs.Run.Accounting
import Highlighting.Proofs.Run.ReadFailure
import Highlighting.Proofs.Sink.Device
import Highlighting.Proofs.CommandLine.Reporting
import Highlighting.Proofs.LineReader.Consumption
import Highlighting.Proofs.Scope.Matching
import Highlighting.Proofs.Grammar.Lookup
import Highlighting.Proofs.Path.Language
