import ShiftReduce.Grammar.Expected
import ShiftReduce.Lexer.Error
import ShiftReduce.Lexer.Token
import ShiftReduce.Parser.Stack

/-!
# Parse errors

What a parser reports about faulty input, and the ways in which a parse fails.
-/

namespace ShiftReduce

/-- The kinds of faulty input. Reference: `ErrorKind`. -/
inductive ErrorKind
  | lexical
  | syntactic
deriving Repr, DecidableEq

/-- What is wrong with the input: all that a message needs beside the fields of an `ErrorInfo`.
Reference: the messages of `Lexer::error_info`, `Parser::syntax_message` and `Parser::halt`. -/
inductive ErrorCause
  /-- No lexer rule matches. -/
  | unrecognized (excerpt : String)
  /-- The state has no action for the token. -/
  | unexpected (excerpt : String)
  /-- The input ends before the parser got over another error. -/
  | haltedRecovering
  /-- No state on the stack can take an error. -/
  | haltedNoRule
deriving Repr, DecidableEq

/-- The kind of a cause: only unrecognized input is lexical. Reference: `ErrorInfo::kind`. -/
def ErrorCause.kind : ErrorCause → ErrorKind
  | .unrecognized _ => .lexical
  | _ => .syntactic

/-- The state of a parse at an error, as it is handed to the actions and kept in the error of a
parse. Reference: `ErrorInfo`. -/
structure ErrorInfo (V : Type) where
  cause : ErrorCause
  /-- Some state on the stack can take an error, or the lexer makes error tokens. -/
  recoverable : Bool
  /-- The text of the offending token. -/
  text : String
  /-- The offending token, described and by number; a lexical error has none. -/
  token : Option (String × SymbolId)
  /-- The number of line breaks before the end of the offending token. -/
  line : Nat
  location : Location
  /-- The tokens that the state can take. -/
  expected : List (String × SymbolId)
  state : StateId
  stack : Stack V
deriving Repr

namespace ErrorInfo

variable {V : Type}

/-- The kind of an error. Reference: `ErrorInfo::kind`. -/
def kind (info : ErrorInfo V) : ErrorKind := info.cause.kind

/-- The message of an error: where it is and what was expected instead, or why the parse cannot go
on. Reference: `Parser::syntax_message` and the halting messages of `Parser::recover`. -/
def message (info : ErrorInfo V) : String :=
  match info.cause with
  | .unrecognized excerpt => unrecognizedMessage info.line excerpt
  | .unexpected excerpt =>
    let got := (info.token.map (·.1)).getD ""
    let place := s!"Parse error on line {info.line + 1}:\n{excerpt}\n"
    if info.expected.isEmpty then place ++ s!"Unexpected {got}"
    else
      place ++ "Expecting " ++ ", ".intercalate (info.expected.map (·.1)) ++
        s!", got unexpected {got}"
  | .haltedRecovering => "Parsing halted while starting to recover from another error."
  | .haltedNoRule => "Parsing halted. No suitable error recovery rule available."

/-- The error of a parse whose lexer came upon unrecognized input. Whether it is recoverable is the
lexer's option, whatever the stack holds. Reference: `ErrorInfo::from_lex` and `fill_info`. -/
def ofUnrecognized (table : Table) (stack : Stack V) (info : Unrecognized) : ErrorInfo V :=
  let state := stack.topState?.getD 0
  { cause := .unrecognized info.excerpt
    recoverable := info.recoverable
    text := info.offendingText
    token := none
    line := info.line
    location := info.location
    expected := table.expectedTokens state
    state, stack }

/-- The error of a parse in a state that cannot take a token. Reference: `Parser::error_info`. -/
def ofToken (table : Table) (stack : Stack V) (cause : ErrorCause) (recoverable : Bool)
    (state : StateId) (token : Token) : ErrorInfo V :=
  { cause, recoverable
    text := token.text
    token := some (table.describeSymbol token.symbol, token.symbol)
    line := token.lineNo
    location := token.location
    expected := table.expectedTokens state
    state, stack }

end ErrorInfo

/-- What goes wrong where a table, or what is done with it, does not fit the parser. Reference: the
calls of `Parser::internal`, and `LexError::NoProgress`. -/
inductive InternalFault
  | emptyStack
  | unknownState (state : StateId)
  | ambiguous (state : StateId) (actions : List Action)
  | gotoOnLookahead (state : StateId)
  | shiftWithoutLookahead
  | errorWithoutLookahead
  | acceptOnEmptyStack
  | unknownProduction (production : ProductionId)
  | stackTooLow (production : ProductionId) (needed held : Nat)
  | noGoto (symbol : String) (state : StateId) (found : Action)
  | noProgress (rule : RuleId) (offset : Nat)
  | other (text : String)
deriving Repr, DecidableEq

/-- What an internal fault is. Reference: the calls of `Parser::internal`. -/
def InternalFault.message : InternalFault → String
  | .emptyStack => "empty state stack"
  | .unknownState state => s!"unknown state {state}"
  | .ambiguous state actions =>
    s!"ambiguous table entry in state {state}: {Action.displayList actions}"
  | .gotoOnLookahead state => s!"goto action on a lookahead in state {state}"
  | .shiftWithoutLookahead => "shift without a lookahead"
  | .errorWithoutLookahead => "error without a lookahead"
  | .acceptOnEmptyStack => "accept on an empty stack"
  | .unknownProduction production => s!"unknown production {production}"
  | .stackTooLow production needed held =>
    s!"production {production} needs {needed} symbols, stack holds {held}"
  | .noGoto symbol state found =>
    s!"no goto on {symbol} in state {state} (found {found.display})"
  | .noProgress rule offset => noProgressMessage rule offset
  | .other text => text

/-- Where an action that failed belongs. Reference: `ActionOrigin`. -/
inductive ActionOrigin
  | rule (rule : RuleId)
  | production (production : ProductionId)
deriving Repr, DecidableEq

/-- The origin of an action as messages name it. Reference: the display form of `ActionOrigin`. -/
def ActionOrigin.display : ActionOrigin → String
  | .rule number => s!"lexer rule {number}"
  | .production number => s!"production {number}"

/-- Why a parse failed. `ε` is the type of the faults of actions. Reference: `ParseError`. -/
inductive ParseError (V ε : Type)
  | lexical (info : ErrorInfo V)
  | syntactic (info : ErrorInfo V)
  | internal (fault : InternalFault)
  | action (origin : ActionOrigin) (fault : ε)
deriving Repr

namespace ParseError

variable {V ε : Type}

/-- The error that reports an error of the input, by its kind. Reference: the provided
`ParserDriver::parse_error`. -/
def ofInfo (info : ErrorInfo V) : ParseError V ε :=
  match info.kind with
  | .lexical => .lexical info
  | .syntactic => .syntactic info

/-- The error that a fault of a lexer rule amounts to. A rule without progress counts as an internal
fault. Reference: the conversion of a `LexError` into a `ParseError`. -/
def ofRuleFault : RuleFault ε → ParseError V ε
  | .action rule fault => .action (.rule rule) fault
  | .noProgress rule offset => .internal (.noProgress rule offset)

/-- The message of a parse error, given those of the faults of actions. Reference: the messages of
`ParseError`. -/
def message (faultMessage : ε → String) : ParseError V ε → String
  | .lexical info | .syntactic info => info.message
  | .internal fault => s!"internal parser error: {fault.message}"
  | .action origin fault =>
    s!"semantic action for {origin.display} failed: {faultMessage fault}"

end ParseError

end ShiftReduce
