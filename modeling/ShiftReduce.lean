import ShiftReduce.Text.Blank
import ShiftReduce.Text.Word
import ShiftReduce.Text.DecimalDigit
import ShiftReduce.Text.Quoted
import ShiftReduce.Text.CaseFold
import ShiftReduce.Source.Cursor
import ShiftReduce.Source.Excerpt
import ShiftReduce.Grammar.Builder
import ShiftReduce.Grammar.Expected
import ShiftReduce.Parser.Recovery
import ShiftReduce.Pattern.Compiler
import ShiftReduce.Lexer.Scan
import ShiftReduce.Parser.Engine
import ShiftReduce.Calculator.CommandLine
import ShiftReduce.Main
import ShiftReduce.Proofs.Lexer.Ending
import ShiftReduce.Proofs.Parser.Fetch
import ShiftReduce.Proofs.Parser.Move
import ShiftReduce.Proofs.Parser.Step
import ShiftReduce.Proofs.Parser.Path
import ShiftReduce.Proofs.Grammar.Built
import ShiftReduce.Proofs.Grammar.Coherent
import ShiftReduce.Proofs.Parser.Conservation
import ShiftReduce.Proofs.Calculator.Construction
import ShiftReduce.Proofs.Parser.Rearming
import ShiftReduce.Proofs.Parser.Forest
import ShiftReduce.Proofs.Parser.Bound
import ShiftReduce.Proofs.Parser.Fault
import ShiftReduce.Proofs.Lexer.Operation
import ShiftReduce.Proofs.Lexer.Representation
import ShiftReduce.Proofs.Lexer.Progress
import ShiftReduce.Proofs.Lexer.Lossless
import ShiftReduce.Proofs.Lexer.Selection
import ShiftReduce.Proofs.Parser.Discarding
import ShiftReduce.Proofs.Parser.Defaults
import ShiftReduce.Proofs.Parser.View
import ShiftReduce.Proofs.Parser.Calls
import ShiftReduce.Proofs.Parser.Invariant
import ShiftReduce.Proofs.Parser.Verdicts
import ShiftReduce.Proofs.Parser.Reuse
import ShiftReduce.Proofs.Pattern.Automata
import ShiftReduce.Proofs.Calculator.Fetching
import ShiftReduce.Proofs.Calculator.LexerRules
import ShiftReduce.Proofs.Calculator.Machine
import ShiftReduce.Proofs.Calculator.Reading
import ShiftReduce.Proofs.Calculator.Scanning
import ShiftReduce.Proofs.Parser.Outline
import ShiftReduce.Proofs.Calculator.Reply
import ShiftReduce.Proofs.Calculator.Steps
import ShiftReduce.Proofs.Calculator.Evaluation
import ShiftReduce.Proofs.Calculator.Answering
import ShiftReduce.Proofs.Lexer.Course
import ShiftReduce.Proofs.Lexer.Script
import ShiftReduce.Proofs.Lexer.Advance
import ShiftReduce.Proofs.Lexer.Rejection
import ShiftReduce.Proofs.Lexer.Termination
import ShiftReduce.Proofs.Lexer.Idling
import ShiftReduce.Proofs.Lexer.Spans
import ShiftReduce.Proofs.Lexer.HandBack
import ShiftReduce.Proofs.Lexer.RoundTrip
import ShiftReduce.Proofs.Source.Precedence
import ShiftReduce.Proofs.Parser.Coverage
import ShiftReduce.Proofs.Parser.Reports
import ShiftReduce.Proofs.Source.Moves
import ShiftReduce.Proofs.Source.Excerpt
import ShiftReduce.Proofs.Calculator.Turns
import ShiftReduce.Proofs.Calculator.Totality
import ShiftReduce.Proofs.Calculator.Losses
import ShiftReduce.Proofs.Calculator.Accounts
import ShiftReduce.Proofs.Grammar.Consistent
import ShiftReduce.Proofs.Grammar.Described
import ShiftReduce.Proofs.Grammar.Contents
import ShiftReduce.Proofs.Grammar.Expected
import ShiftReduce.Proofs.Lexer.Declared
import ShiftReduce.Proofs.Source.Collapse
import ShiftReduce.Proofs.Parser.Custody
