import TableAsm.Assembly.Assemble
import TableAsm.Assembly.Bind
import TableAsm.Assembly.Event
import TableAsm.Assembly.Listing
import TableAsm.Assembly.Scan
import TableAsm.Command.Assembler
import TableAsm.Command.Countdown
import TableAsm.Command.Flag
import TableAsm.Command.Invocation
import TableAsm.Command.Outcome
import TableAsm.Command.Verifier
import TableAsm.Definition.Document
import TableAsm.Definition.DocumentFormat
import TableAsm.Definition.Load
import TableAsm.Definition.Reading
import TableAsm.Directory.Basic
import TableAsm.Disassembly.Disassemble
import TableAsm.Disassembly.Render
import TableAsm.Fault.Basic
import TableAsm.Fault.Kind
import TableAsm.Isa.Draft
import TableAsm.Isa.Format
import TableAsm.Isa.Mask
import TableAsm.Isa.Mu
import TableAsm.Isa.Registers
import TableAsm.Isa.Slot
import TableAsm.Isa.Table
import TableAsm.Layout.Escape
import TableAsm.Layout.Grid
import TableAsm.Layout.Paragraph
import TableAsm.Log.Level
import TableAsm.Log.Line
import TableAsm.Main
import TableAsm.Source.Instruction
import TableAsm.Source.Operand
import TableAsm.Source.Statement
import TableAsm.Source.Symbols
import TableAsm.Source.Token
import TableAsm.Stream.Input
import TableAsm.Stream.Pipeline
import TableAsm.Stream.Sink
import TableAsm.Text.Base64
import TableAsm.Text.Basic
import TableAsm.Text.Blank
import TableAsm.Text.Capital
import TableAsm.Text.Character
import TableAsm.Text.Decimal
import TableAsm.Text.Moment
import TableAsm.Text.Numeral
import TableAsm.Text.Printable
import TableAsm.Text.Quoted
import TableAsm.Text.Rune
import TableAsm.Text.Width
import TableAsm.Toml.Content
import TableAsm.Toml.Definition
import TableAsm.Toml.Lexeme
import TableAsm.Toml.Notes
import TableAsm.Toml.Store
import TableAsm.Toml.Written
import TableAsm.Verify.Issue
import TableAsm.Verify.Lint
import TableAsm.Verify.Report
import TableAsm.Verify.RoundTrip
import TableAsm.Word.Basic
import TableAsm.Word.BitField
import TableAsm.Word.Explain
import TableAsm.Word.Fields
import TableAsm.Yaml.Check
import TableAsm.Yaml.Definition
import TableAsm.Yaml.Encoding
import TableAsm.Yaml.Freeform
import TableAsm.Yaml.Glyph
import TableAsm.Yaml.Layout
import TableAsm.Yaml.Lookahead
import TableAsm.Yaml.Meaning
import TableAsm.Yaml.Node
import TableAsm.Yaml.Scalar
import TableAsm.Yaml.Token
import TableAsm.Yaml.Window
import TableAsm.Yaml.Written
import TableAsm.Proofs.Text.Runes
import TableAsm.Proofs.Text.Trimming
import TableAsm.Proofs.Text.Splitting
import TableAsm.Proofs.Source.Pieces
import TableAsm.Proofs.Source.Layouts
import TableAsm.Proofs.Source.Grammar
import TableAsm.Proofs.Source.Lexing
import TableAsm.Proofs.Source.Lines
import TableAsm.Proofs.Isa.Drafts
import TableAsm.Proofs.Isa.FieldLists
import TableAsm.Proofs.Text.Numerals
import TableAsm.Proofs.Isa.Lookups
import TableAsm.Proofs.Source.Classification
import TableAsm.Proofs.Source.RegisterNames
import TableAsm.Proofs.Source.Literals
import TableAsm.Proofs.Word.Packing
import TableAsm.Proofs.Word.Codec
import TableAsm.Proofs.Word.Streams
import TableAsm.Proofs.Word.StrayBits
import TableAsm.Proofs.Word.Explanations
import TableAsm.Proofs.Assembly.Binding
import TableAsm.Proofs.Disassembly.Rendering
import TableAsm.Proofs.Assembly.Encoding
import TableAsm.Proofs.Assembly.OperandPositions
import TableAsm.Proofs.Disassembly.Decoding
import TableAsm.Proofs.Disassembly.Noninterference
import TableAsm.Proofs.Disassembly.SharedKeys
import TableAsm.Proofs.Stream.Runs
import TableAsm.Proofs.Verify.CanonicalText
import TableAsm.Proofs.Verify.CanonicalWords
import TableAsm.Proofs.Verify.RoundTrips
import TableAsm.Proofs.Verify.ReachableMnemonics
import TableAsm.Proofs.Assembly.Addresses
import TableAsm.Proofs.Stream.Scripts
import TableAsm.Proofs.Assembly.Outcomes
import TableAsm.Proofs.Stream.SourceLines
import TableAsm.Proofs.Stream.Buffers
import TableAsm.Proofs.Verify.Reports
import TableAsm.Proofs.Fault.Positions
import TableAsm.Proofs.Assembly.Agreement
import TableAsm.Proofs.Assembly.Labels
import TableAsm.Proofs.Assembly.Inlining
import TableAsm.Proofs.Verify.InstructionChecks
import TableAsm.Proofs.Verify.WordChecks
import TableAsm.Proofs.Definition.Documents
import TableAsm.Proofs.Assembly.Relayout
import TableAsm.Proofs.Stream.LineLimits
import TableAsm.Proofs.Verify.FrontEnds
import TableAsm.Proofs.Assembly.Refusals
import TableAsm.Proofs.Stream.Failures
import TableAsm.Proofs.Assembly.Places
import TableAsm.Proofs.Assembly.Programs
import TableAsm.Proofs.Assembly.Traces
import TableAsm.Proofs.Assembly.Extension
import TableAsm.Proofs.Definition.ReadBack
import TableAsm.Proofs.Disassembly.Streams
import TableAsm.Proofs.Isa.Problems
import TableAsm.Proofs.Assembly.Listings
import TableAsm.Proofs.Verify.LintPositions
import TableAsm.Proofs.Word.Explanations
