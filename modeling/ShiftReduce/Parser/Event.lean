import ShiftReduce.Lexer.Event
import ShiftReduce.Parser.Actions

/-!
# The journal of a parse

Everything a parser does leaves an event, in order: what its lexer did, the tokens it fetched, shifted
and threw away, the reductions and errors it handed to the actions. Some events have a log record.
-/

namespace ShiftReduce

/-- An event of a parse. Those without a log record are there for the theory: what was fetched,
shifted, reduced and reported. -/
inductive ParserEvent (V : Type)
  | lexer (event : LexerEvent)
  | fetched (token : Token)
  | atState (stack : Stack V) (lookahead : Option Token)
  | shifting (target : StateId)
  | reducing (production : ProductionId)
  | accepting
  /-- A token was shifted; a synthetic one was made by the recovery. -/
  | shifted (token : Token) (synthetic : Bool)
  /-- The action of a production was called, its children still being on the stack. -/
  | reduced (stack : Stack V) (reduction : Reduction V)
  | remarked (text : String)
  | detected (state : StateId) (depth : Option Nat)
  /-- An error was handed to the actions for a verdict. -/
  | reported (info : ErrorInfo V)
  | tolerated (message : String)
  | discarded (token : Token)
  /-- The recovery from an error at a token has cut the stack back to a height. -/
  | resumed (token : Token) (height : Nat)
  | recovered
  /-- An error that cannot be recovered from ends the parse. -/
  | halted (info : ErrorInfo V)
deriving Repr

namespace ParserEvent

variable {V : Type}

/-- A stack and the token ahead of it as the log shows them. Reference: `Parser::dump_state`. -/
def displayState (table : Table) (stack : Stack V) (lookahead : Option Token) : String :=
  let name (symbol : SymbolId) := (table.symbolName? symbol).getD "?"
  String.join (stack.slots.map fun slot => s!"<{slot.state}> {name slot.symbol}  ") ++
    match lookahead with
    | some token => s!"<-  {name token.symbol} {Text.quote token.text}"
    | none => ""

/-- The log record of an event, if it has one. Reference: the log records of `Parser::run`,
`Parser::shift`, `Parser::recover` and `Parser::halt`. -/
def record? (table : Table) : ParserEvent V → Option LogRecord
  | .lexer e => some e.record
  | .atState stack lookahead => some ⟨.trace, displayState table stack lookahead⟩
  | .shifting target => some ⟨.trace, s!"Shift {target}"⟩
  | .reducing production => some ⟨.trace, s!"Reduce {production}"⟩
  | .accepting => some ⟨.trace, "Accept"⟩
  | .remarked text => some ⟨.debug, text⟩
  | .detected state (some depth) =>
    some ⟨.debug, s!"syntax error in state {state}, recovery depth Some({depth})"⟩
  | .detected state none => some ⟨.debug, s!"syntax error in state {state}, recovery depth None"⟩
  | .tolerated message => some ⟨.warning, message⟩
  | .discarded token => some ⟨.debug, s!"discarding {Text.quote token.text} while recovering"⟩
  | .recovered => some ⟨.debug, "recovered from syntax error"⟩
  | .halted info => some ⟨.debug, info.message⟩
  | .fetched _ | .shifted _ _ | .reduced _ _ | .reported _ | .resumed _ _ => none

end ParserEvent

end ShiftReduce
