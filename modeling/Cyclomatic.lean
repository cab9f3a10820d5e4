import Cyclomatic.Assembly.Scan
import Cyclomatic.Report
import Cyclomatic.Number
import Cyclomatic.Number.Reading
import Cyclomatic.Language
import Cyclomatic.Path
import Cyclomatic.Log
import Cyclomatic.Log.Routing
import Cyclomatic.Syntax.Node
import Cyclomatic.Java.Units
import Cyclomatic.Java.Lexer
import Cyclomatic.Java.Cursor
import Cyclomatic.Java.Parser
import Cyclomatic.Java.Grammar
import Cyclomatic.Settings
import Cyclomatic.Toml.Document
import Cyclomatic.Analysis
import Cyclomatic.Session
import Cyclomatic.Settings.Layers
import Cyclomatic.Render
import Cyclomatic.Render.Terminal
import Cyclomatic.CommandLine.Run
import Cyclomatic.Main
import Cyclomatic.Proofs.OrderedMap
import Cyclomatic.Proofs.Number.Reading
import Cyclomatic.Proofs.Number.Writing
import Cyclomatic.Proofs.Assembly.Trace
import Cyclomatic.Proofs.Assembly.Mos6502
import Cyclomatic.Proofs.Assembly.X86
import Cyclomatic.Proofs.Assembly.Seam
import Cyclomatic.Proofs.Assembly.Accounting
import Cyclomatic.Proofs.Assembly.Comments
import Cyclomatic.Proofs.Assembly.Roles
import Cyclomatic.Proofs.Settings.Files
import Cyclomatic.Proofs.Settings.Variables
import Cyclomatic.Proofs.Settings.Precedence
import Cyclomatic.Proofs.Settings.Faults
import Cyclomatic.Proofs.Text.Utf8
import Cyclomatic.Proofs.Text.CodePoint
import Cyclomatic.Proofs.Analysis.Outcome
import Cyclomatic.Proofs.Analysis.Agreement
import Cyclomatic.Proofs.Analysis.Taxonomy
import Cyclomatic.Proofs.Analysis.Source
import Cyclomatic.Proofs.Java.Units
import Cyclomatic.Proofs.Session
import Cyclomatic.Proofs.Assembly.LetterCase
import Cyclomatic.Proofs.Text.Digits
import Cyclomatic.Proofs.Report
import Cyclomatic.Proofs.Report.Ranking
import Cyclomatic.Proofs.CommandLine.Batch
import Cyclomatic.Proofs.Render.Terminal
import Cyclomatic.Proofs.Render.Reading
import Cyclomatic.Proofs.Render.RoundTrip
import Cyclomatic.Proofs.Render.Summary
import Cyclomatic.Proofs.FileTree
import Cyclomatic.Proofs.Log.Routing
import Cyclomatic.Proofs.Analysis.Redefinition
import Cyclomatic.Proofs.Assembly.LineEndings
import Cyclomatic.Proofs.Java.Nesting
import Cyclomatic.Proofs.Java.Overloads
import Cyclomatic.Proofs.Java.Comments
import Cyclomatic.Proofs.Assembly.Interruption
import Cyclomatic.Proofs.Log.Setup
import Cyclomatic.Proofs.Analysis.Extensions
import Cyclomatic.Proofs.Text.Newlines
import Cyclomatic.Proofs.Java.Alike
import Cyclomatic.Proofs.Java.Correspondence
import Cyclomatic.Proofs.Java.Grammar
import Cyclomatic.Proofs.Java.Lexemes
import Cyclomatic.Proofs.Java.LongLexemes
import Cyclomatic.Proofs.Java.Places
import Cyclomatic.Proofs.Java.LineEndings
import Cyclomatic.Proofs.Analysis.JavaAgreement
import Cyclomatic.Proofs.Text.Replacement
import Cyclomatic.Proofs.Text.ByteLines
import Cyclomatic.Proofs.Analysis.BrokenBytes
import Cyclomatic.Proofs.Assembly.CleanLine
import Cyclomatic.Proofs.Java.Traversal
import Cyclomatic.Proofs.Syntax.Errors
