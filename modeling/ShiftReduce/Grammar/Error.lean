import ShiftReduce.Text.Quoted

/-!
# Faults of a grammar or of lexer rules

What can be wrong with the declarations a table or a lexer is built from, or with the use of the
lexer's operations, and the message of each fault.
-/

namespace ShiftReduce

/-- A fault in declarations, or in the use of a lexer: an unknown start condition, or a rejection
that its options rule out. Reference: `GrammarError`. -/
inductive GrammarError
  | duplicateSymbol (name : String)
  | terminalAfterNonterminal (name : String)
  | unknownSymbol (name : String)
  | unknownProduction (number : Nat)
  | terminalProduction (name : String)
  | gotoOnTerminal (name : String)
  | unknownCondition (name : String)
  | invalidPattern (rule : Nat) (pattern : String) (reason : String)
  | rejectWithoutBacktrack
deriving Repr, DecidableEq

/-- The message of a fault. Names are quoted, numbers are not. Reference: the messages of
`GrammarError`. -/
def GrammarError.message : GrammarError → String
  | .duplicateSymbol name => s!"symbol {Text.quote name} is registered twice"
  | .terminalAfterNonterminal name =>
    s!"terminal {Text.quote name} registered after the first nonterminal"
  | .unknownSymbol name => s!"unknown symbol {Text.quote name}"
  | .unknownProduction number => s!"unknown production {number}"
  | .terminalProduction name =>
    s!"terminal {Text.quote name} used as a production's left-hand side"
  | .gotoOnTerminal name => s!"goto on terminal {Text.quote name}"
  | .unknownCondition name => s!"unknown start condition {Text.quote name}"
  | .invalidPattern rule pattern reason =>
    s!"invalid pattern for lexer rule {rule} ({Text.quote pattern}): {reason}"
  | .rejectWithoutBacktrack =>
    "reject() can only be invoked when the lexer is of the backtracking persuasion (backtrack_lexer = true)"

end ShiftReduce
