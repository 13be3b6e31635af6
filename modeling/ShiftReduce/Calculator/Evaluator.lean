import ShiftReduce.Calculator.Language
import ShiftReduce.Calculator.Value
import ShiftReduce.Parser.Engine

/-!
# Evaluating an input

The actions of the calculator: values are built from the bottom up, numbers for sums and a list of
results for the input. Every error is kept as a diagnostic; the parse goes on after those that it can
recover from.
-/

namespace ShiftReduce.Calculator

/-- A reported error as the calculator keeps it, without the stack that the report came with.
Reference: `Diagnostic`. -/
structure Diagnostic where
  kind : ErrorKind
  message : String
  location : Location
  recoverable : Bool
deriving Repr, DecidableEq

/-- What is noted while an input is evaluated: the errors, the number of comments, and the texts
that were skipped after errors. It outlives the parse, since the caller hands it in. Reference:
`CalcContext`. -/
structure Context where
  diagnostics : List Diagnostic := []
  comments : Nat := 0
  skipped : List String := []
deriving Repr, DecidableEq, Inhabited

/-- The action of a lexer rule. Blanks and comments are skipped, the end of the input inside a
comment is a fault, and any other rule emits its terminal. Reference: `CalcLexerDriver::action`. -/
def ruleAction (rule : RuleId) (lexer : Lexer) (context : Context) :
    Except Fault (Option SymbolId) × Lexer × Context :=
  match rule with
  | Rule.blanks | Rule.commentText | Rule.commentStar => (.ok none, lexer, context)
  | Rule.commentOpen =>
    match lexer.pushCondition commentCondition with
    | .ok lexer => (.ok none, lexer, { context with comments := context.comments + 1 })
    | .error cause => (.error (.grammar cause), lexer, context)
  | Rule.commentClose => (.ok none, lexer.popCondition.2, context)
  | Rule.commentEnd => (.error (.unterminatedComment (lexer.lineNo + 1)), lexer, context)
  | Rule.number => (.ok (some Terminal.number), lexer, context)
  | Rule.semicolon => (.ok (some Terminal.semicolon), lexer, context)
  | Rule.plusSign => (.ok (some Terminal.plusSign), lexer, context)
  | Rule.minusSign => (.ok (some Terminal.minusSign), lexer, context)
  | rule => (.error (.noAction s!"lexer rule {rule}"), lexer, context)

/-- The value of the child at a place of a reduction, counted from nought; nothing, where there is
no such child. Reference: `Reduction::get`. -/
def child (reduction : Reduction Value) (place : Nat) : Value :=
  reduction.values[place]?.getD .nothing

/-- The value of an operation between the first and the third child. The left operand is read first,
so a fault in it wins. Reference: `CalcParserDriver::arith`. -/
def operate (op : Operator) (reduction : Reduction Value) : Except Fault Value := do
  let lhs ← (child reduction 0).toNumber
  let rhs ← (child reduction 2).toNumber
  match op.result? lhs rhs with
  | some n => return .number n
  | none => throw (.overflow op lhs rhs)

/-- The value of a production's left-hand side, but for lines with errors. A line that was skipped
adds no number to its list. Reference: `CalcParserDriver::reduce`. -/
def evaluate (reduction : Reduction Value) : Except Fault Value :=
  match reduction.production with
  | Production.listAppend => do
    let lines ← (child reduction 0).toLines
    let line := match child reduction 1 with
      | .number n => some n
      | _ => none
    return .lines (lines ++ [line])
  | Production.listEmpty => .ok (.lines [])
  | Production.lineExpr | Production.exprNumber => (child reduction 0).toNumber.map .number
  | Production.lineError => .ok .nothing
  | Production.exprAdd => operate .plus reduction
  | Production.exprSub => operate .minus reduction
  | other => .error (.noAction s!"production {other}")

/-- The action of a production. A line with an error leaves the text that was skipped; it is empty
where no recovery is going on. Reference: `CalcParserDriver::reduce`. -/
def productionAction (reduction : Reduction Value) (context : Context) :
    Except Fault (Yield Value) × Context :=
  if reduction.production = Production.lineError then
    let skipped := (reduction.recovery.map (·.text)).getD ""
    (.ok { value := some .nothing, remark := some s!"skipped line {Text.quote skipped}" },
      { context with skipped := context.skipped ++ [skipped] })
  else
    ((evaluate reduction).map fun value => { value := some value }, context)

/-- The actions of the calculator. A token has its text for a value, and every error is kept before
the standard verdict on it. Reference: `CalcLexerDriver` and `CalcParserDriver`. -/
def actions : Actions Context Value Fault where
  rule := ruleAction
  tokenValue token context := (.text token.text, context)
  reduce := productionAction
  judge info context :=
    (none, { context with
      diagnostics :=
        context.diagnostics ++ [⟨info.kind, info.message, info.location, info.recoverable⟩] })

/-- The choices a calculator is made with: those of its lexer, and the discard count of its parser.
Reference: `CalcOptions`. -/
structure Options where
  lexer : LexerOptions := {}
  discardCount : Nat := 3
deriving Repr, DecidableEq

end Calculator

open Calculator

/-- A calculator: its table, and the state of its parser between two parses. The lexer holds the
rules. Reference: `CalcParser`. -/
structure Calculator where
  table : Table
  discardCount : Nat
  config : Config Context Value

namespace Calculator

/-- A calculator that has not evaluated anything, or the first fault of its own declarations.
Reference: `CalcParser::new`. -/
def new (options : Options) (compile : PatternCompiler := Pattern.compile) :
    Except GrammarError Calculator := do
  let table ← parseTable
  let rules ← lexerRules options.lexer compile
  return ⟨table, options.discardCount, ⟨Lexer.new rules, { user := {} }⟩⟩

/-- More scans than the search for a token takes in an input of `length` characters: each but the last
two takes a character. -/
def scanLimit (length : Nat) : Nat := length + 8

/-- More steps than a parse takes for an input of `length` characters. -/
def stepLimit (length : Nat) : Nat := 64 * (length + 8)

/-- The engine for an input of `length` characters. The limits on scans and steps are never met, so
the parse is the one that has none. Reference: the `Parser` of a `CalcParser`. -/
def engine (calculator : Calculator) (length : Nat) : Engine Context Value Fault :=
  { table := calculator.table
    actions
    discardCount := calculator.discardCount
    scanLimit := scanLimit length }

/-- What is noted of the last evaluation. Reference: the `CalcContext` of `CalcParser::parse`. -/
def context (calculator : Calculator) : Context := calculator.config.session.user

/-- The results that the outcome of a parse holds. A value that is no list of results is an internal
fault. Reference: `CalcParser::parse`. -/
def linesOf : Engine.Outcome Value (ParseError Value Fault) →
    Engine.Outcome Lines (ParseError Value Fault)
  | .value v =>
    match v.toLines with
    | .ok lines => .value lines
    | .error fault => .failed (.internal (.other fault.message))
  | .failed error => .failed error
  | .exhausted => .exhausted

/-- Evaluates an input line by line, going on with the notes of a context. Reference:
`CalcParser::parse`. -/
def parse (calculator : Calculator) (input : String) (context : Context) :
    Engine.Outcome Lines (ParseError Value Fault) × Calculator :=
  let engine := calculator.engine input.length
  let (outcome, config) := engine.parse (stepLimit input.length) input
    (calculator.config.update fun session => { session with user := context })
  (linesOf outcome, { calculator with config })

/-- The lines of the last input around a location. Reference: `CalcParser::excerpt`. -/
def excerpt (calculator : Calculator) (loc : Location) : String :=
  calculator.config.lexer.prettyRange loc

end Calculator

end ShiftReduce
