import TranscriptTest.Unicode.Ranges
import TranscriptTest.Unicode.Category
import TranscriptTest.Unicode.Script
import TranscriptTest.Unicode.ScriptExtension
import TranscriptTest.Unicode.Age
import TranscriptTest.Unicode.Property
import TranscriptTest.Unicode.Word
import TranscriptTest.Unicode.CaseFold
import TranscriptTest.Unicode.CaseMap
import TranscriptTest.Unicode.Normalize
import TranscriptTest.Unicode.Collation
import TranscriptTest.Unicode.Blank
import TranscriptTest.Unicode.Printable
import TranscriptTest.Unicode.Segment
import TranscriptTest.Text.Lines
import TranscriptTest.Text.Units
import TranscriptTest.Text.Bytes
import TranscriptTest.Text.Template
import TranscriptTest.Pattern.CharSet
import TranscriptTest.Pattern.Syntax
import TranscriptTest.Pattern.Parser
import TranscriptTest.Pattern.Program
import TranscriptTest.Pattern.Limits
import TranscriptTest.Pattern.Search
import TranscriptTest.Config.Error
import TranscriptTest.Identity.Normalizer
import TranscriptTest.Identity.Matcher
import TranscriptTest.Transcript.Prompts
import TranscriptTest.Transcript.Session
import TranscriptTest.Transcript.Marker
import TranscriptTest.Transcript.Indent
import TranscriptTest.Transcript.Parse
import TranscriptTest.Transcript.Emit
import TranscriptTest.Replay.Failure
import TranscriptTest.Replay.Execution
import TranscriptTest.Replay.Run
import TranscriptTest.Replay.Pooled
import TranscriptTest.Verdict.Basic
import TranscriptTest.Verdict.Judge
import TranscriptTest.Verdict.Batch
import TranscriptTest.Verdict.Parallel
import TranscriptTest.Report.Style
import TranscriptTest.Report.Human
import TranscriptTest.Decimal.Shortest
import TranscriptTest.Locale.Numbers
import TranscriptTest.Decimal.Format
import TranscriptTest.Wire.JsonText
import TranscriptTest.Wire.Reader
import TranscriptTest.Wire.Protocol
import TranscriptTest.Yaml.Node
import TranscriptTest.Yaml.Reader
import TranscriptTest.Files.Path
import TranscriptTest.Config.File
import TranscriptTest.Config.Settings
import TranscriptTest.Files.Tree
import TranscriptTest.Files.Load
import TranscriptTest.Js.Utf16
import TranscriptTest.Js.Regex.Syntax
import TranscriptTest.Js.Regex.Match
import TranscriptTest.Shell.Syntax
import TranscriptTest.Shell.Arith
import TranscriptTest.Shell.Run
import TranscriptTest.Js.Syntax
import TranscriptTest.Js.Lexer
import TranscriptTest.Js.Number
import TranscriptTest.Js.BigInt
import TranscriptTest.Js.Element
import TranscriptTest.Js.Declared
import TranscriptTest.Js.Parser
import TranscriptTest.Js.Value
import TranscriptTest.Js.Object
import TranscriptTest.Js.Native
import TranscriptTest.Js.Inspect
import TranscriptTest.Js.Elementary
import TranscriptTest.Js.DateText
import TranscriptTest.Js.Builtin.Object
import TranscriptTest.Sort.TimSort
import TranscriptTest.Js.Builtin.Array
import TranscriptTest.Js.Builtin.String
import TranscriptTest.Js.Builtin.Number
import TranscriptTest.Js.Builtin.Error
import TranscriptTest.Js.Builtin.Json
import TranscriptTest.Js.Builtin.Date
import TranscriptTest.Js.Builtin.Collection
import TranscriptTest.Js.Builtin.RegExp
import TranscriptTest.Js.Builtin.Uri
import TranscriptTest.Js.Builtin.Reflect
import TranscriptTest.Js.Builtin.Symbol
import TranscriptTest.Js.Builtin.TypedArray
import TranscriptTest.Js.Builtin.Process
import TranscriptTest.Js.Builtin.Intl
import TranscriptTest.Js.Library
import TranscriptTest.Js.Eval
import TranscriptTest.Js.Repl
import TranscriptTest.Js.Standalone
import TranscriptTest.Python.Syntax
import TranscriptTest.Python.Lexer
import TranscriptTest.Python.Parser
import TranscriptTest.Python.Value
import TranscriptTest.Python.Format
import TranscriptTest.Python.Json
import TranscriptTest.Python.Builtins
import TranscriptTest.Python.Library
import TranscriptTest.Python.Methods
import TranscriptTest.Python.Functions
import TranscriptTest.Python.Operators
import TranscriptTest.Python.Eval
import TranscriptTest.Python.Run
import TranscriptTest.Worker.Program
import TranscriptTest.Worker.Channel
import TranscriptTest.Worker.Interpreter
import TranscriptTest.Cli.Options
import TranscriptTest.Cli.Help
import TranscriptTest.Cli.Run
import TranscriptTest.Main
import TranscriptTest.Proofs.Lines
import TranscriptTest.Proofs.Word
import TranscriptTest.Proofs.Marker
import TranscriptTest.Proofs.Indent
import TranscriptTest.Proofs.Replay
import TranscriptTest.Proofs.Reading
import TranscriptTest.Proofs.Matcher
import TranscriptTest.Proofs.RecordedOutput
import TranscriptTest.Proofs.Mapping
import TranscriptTest.Proofs.Pooled
import TranscriptTest.Proofs.Grammar
import TranscriptTest.Proofs.Judging
import TranscriptTest.Proofs.PolynomialHash
import TranscriptTest.Proofs.HashSpans
import TranscriptTest.Proofs.SettingsPrecedence
import TranscriptTest.Proofs.Loading
import TranscriptTest.Proofs.Stripping
