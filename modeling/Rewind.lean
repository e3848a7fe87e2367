import Rewind.CharSet
import Rewind.Checkpoint
import Rewind.Criterion
import Rewind.Datum
import Rewind.Event
import Rewind.Options
import Rewind.Pattern.Basic
import Rewind.Pattern.Flags
import Rewind.Pattern.Footprint
import Rewind.Pattern.Footprint.Layout
import Rewind.Pattern.Footprint.Sets
import Rewind.Pattern.Footprint.Words
import Rewind.Pattern.Program
import Rewind.Pattern.Program.Run
import Rewind.Pattern.Program.StateSet
import Rewind.Pattern.Regex
import Rewind.Pattern.Regex.Class
import Rewind.Pattern.Regex.OfWritten
import Rewind.Pattern.Written
import Rewind.Pattern.Written.Parser
import Rewind.Proofs.Pattern.Classes
import Rewind.Proofs.Pattern.Flags
import Rewind.Proofs.Pattern.Footprint
import Rewind.Proofs.Pattern.Geometry
import Rewind.Proofs.Pattern.Groups
import Rewind.Proofs.Pattern.Modes
import Rewind.Proofs.Pattern.Source
import Rewind.Proofs.Ring.Growth
import Rewind.Proofs.Ring.Layout
import Rewind.Proofs.Ring.Queue
import Rewind.Proofs.Ring.Traversal
import Rewind.Proofs.Scanner.Advance
import Rewind.Proofs.Scanner.Attempts
import Rewind.Proofs.Scanner.Checkpoints
import Rewind.Proofs.Scanner.Course
import Rewind.Proofs.Scanner.Invariant
import Rewind.Proofs.Scanner.Invisibility
import Rewind.Proofs.Scanner.Laziness
import Rewind.Proofs.Scanner.Lifetime
import Rewind.Proofs.Scanner.Matches
import Rewind.Proofs.Scanner.Operations
import Rewind.Proofs.Scanner.Position
import Rewind.Proofs.Scanner.Reading
import Rewind.Proofs.Scanner.Refinement
import Rewind.Proofs.Scanner.Runs
import Rewind.Proofs.Scanner.Tracks
import Rewind.Proofs.Script.Expression
import Rewind.Proofs.Script.Grammar
import Rewind.Proofs.Script.Keywords
import Rewind.Proofs.Script.Lexeme
import Rewind.Proofs.Script.Lines
import Rewind.Proofs.Script.Output
import Rewind.Proofs.Script.Quoted
import Rewind.Proofs.Script.Reading
import Rewind.Proofs.Script.Records
import Rewind.Proofs.Script.Safety
import Rewind.Proofs.Script.Statement
import Rewind.Proofs.Script.Target
import Rewind.Proofs.Script.Termination
import Rewind.Proofs.Script.Tokens
import Rewind.Proofs.Text.Offset
import Rewind.Proofs.Text.Quoted
import Rewind.Proofs.Text.Spans
import Rewind.Proofs.Trace
import Rewind.Proofs.Window.Capacity
import Rewind.Proofs.Window.Log
import Rewind.Proofs.Window.Refinement
import Rewind.Proofs.Window.Traversal
import Rewind.Ring.Basic
import Rewind.Ring.Command
import Rewind.Ring.Lemmas
import Rewind.Ring.Walk
import Rewind.Scanner.Basic
import Rewind.Scanner.Rule
import Rewind.Scanner.Session
import Rewind.Script.Expr
import Rewind.Script.Lexeme
import Rewind.Script.Record
import Rewind.Script.Token
import Rewind.Text.ByteRanges
import Rewind.Text.Bytes
import Rewind.Text.Quoted
import Rewind.Unicode.Alphabetic
import Rewind.Unicode.CaseFold
import Rewind.Unicode.Combining
import Rewind.Unicode.DecimalDigit
import Rewind.Unicode.Greek
import Rewind.Unicode.Letter
import Rewind.Unicode.LowercaseLetter
import Rewind.Unicode.Number
import Rewind.Unicode.Unprintable
import Rewind.Unicode.UppercaseLetter
import Rewind.Unicode.Whitespace
import Rewind.Unicode.Word
import Rewind.Window.Basic
import Rewind.Window.Command
