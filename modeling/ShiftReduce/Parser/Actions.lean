import ShiftReduce.Lexer.State
import ShiftReduce.Parser.Error
import ShiftReduce.Parser.Recovery

/-!
# Semantic actions

The side of a parser that gives the input a meaning: the actions of lexer rules, the values of tokens,
the actions of productions, and the verdict on errors. All of them share a state.
-/

namespace ShiftReduce

/-- What the action of a production sees of a reduction, before its children leave the stack.
Reference: `Reduction`. -/
structure Reduction (V : Type) where
  production : ProductionId
  lhs : SymbolId
  /-- The slots of the right-hand side, in order. -/
  children : List (Slot V)
  /-- From the first child to the last one; empty, behind the slot below, where there is no child. -/
  location : Location
  /-- The last token consumed. -/
  consumed : Token
  /-- The record of the recovery, while the parser recovers from an error. -/
  recovery : Option (Recovery V)
deriving Repr

namespace Reduction

variable {V : Type}

/-- The values of the right-hand side, in order. Reference: `Reduction::values`. -/
def values (reduction : Reduction V) : List V := reduction.children.map (·.value)

/-- The locations of the right-hand side, in order. Reference: `Reduction::locations`. -/
def locations (reduction : Reduction V) : List Location := reduction.children.map (·.location)

end Reduction

/-- What the action of a production makes of a reduction. Without a value the left-hand side takes
the value of the first child, or the default value if there is none; without a location it takes the
reduction's. Reference: `value` and `location` of `Reduction`, as `Parser::reduce` reads them back.
-/
structure Yield (V : Type) where
  value : Option V := none
  location : Option Location := none
  /-- A line for the log. -/
  remark : Option String := none
deriving Repr

/-- The verdict on an error. Reference: the result of `ParserDriver::parse_error`. -/
inductive Verdict (V ε : Type)
  /-- Go on, if the error is recoverable. -/
  | resume
  /-- End the parse with a value. -/
  | answer (value : V)
  /-- End the parse with an error. -/
  | raise (error : ParseError V ε)
deriving Repr

/-- The semantic actions of a parser over a state `σ`, with values `V` and faults `ε`. Reference:
`LexerDriver::action` and `ParserDriver`. -/
structure Actions (σ V ε : Type) where
  /-- The action of a lexer rule: the symbol to emit, or none to skip the match. -/
  rule : RuleId → Lexer → σ → Except ε (Option SymbolId) × Lexer × σ
  /-- The value of a token. -/
  tokenValue : Token → σ → V × σ
  /-- The action of a production. -/
  reduce : Reduction V → σ → Except ε (Yield V) × σ
  /-- The verdict on an error; none leaves it to `standardVerdict`. -/
  judge : ErrorInfo V → σ → Option (Verdict V ε) × σ

/-- The verdict where nobody has another: go on after a recoverable error, and raise any other.
Reference: the provided `ParserDriver::parse_error`. -/
def standardVerdict {V ε : Type} (info : ErrorInfo V) : Verdict V ε :=
  if info.recoverable then .resume else .raise (.ofInfo info)

end ShiftReduce
