import Lexis.Chars
import Lexis.Unicode.GraphemeExtend
import Lexis.Unicode.Printable
import Lexis.Text.CharLiteral
import Lexis.Text.Json
import Lexis.Fault
import Lexis.Span
import Lexis.Token
import Lexis.LexError
import Lexis.Cursor
import Lexis.Lexer.Extent
import Lexis.Lexer.Basic
import Lexis.Lexer.Run
import Lexis.LineIndex
import Lexis.Report
import Lexis.Cursor.Calls
import Lexis.Lexer.Calls
import Lexis.Listing
import Lexis.Session
import Lexis.Toml.Item
import Lexis.Toml.Lexical
import Lexis.Toml.Document
import Lexis.Toml.Write
import Lexis.Settings
import Lexis.Text.Quoted
import Lexis.Cli.Similar
import Lexis.Cli.Grammar
import Lexis.Cli.Help
import Lexis.Cli.Errors
import Lexis.Cli.Parse
import Lexis.Host
import Lexis.Sandbox
import Lexis.App.Interface
import Lexis.App.Run
import Lexis.Main
import Lexis.Proofs.Utf8
import Lexis.Proofs.CursorOffsets
import Lexis.Proofs.Faultless
import Lexis.Proofs.Grammar
import Lexis.Proofs.Scanners
import Lexis.Proofs.Stream
import Lexis.Proofs.Coverage
import Lexis.Proofs.Classification
import Lexis.Proofs.Pass
import Lexis.Proofs.Failure
import Lexis.Proofs.Relex
import Lexis.Proofs.Literals
import Lexis.Proofs.Transcript
import Lexis.Proofs.Locality
import Lexis.Proofs.Lines
import Lexis.Proofs.Skipping
import Lexis.Proofs.LineTable
import Lexis.Proofs.Caret
import Lexis.Proofs.Console
