/-!
# Symbols, productions and parse actions

The numbers and actions a parse table is made of. Symbols are numbered in one sequence, terminals
before nonterminals; the first three are reserved.
-/

namespace ShiftReduce

/-- The number of a terminal or nonterminal symbol. Reference: `SymbolID`. -/
abbrev SymbolId := Nat

/-- The number of a state of the automaton. Reference: `StateID`. -/
abbrev StateId := Nat

/-- The number of a production; number 0 is the augmented start production. Reference: `ProdID`. -/
abbrev ProductionId := Nat

/-- The number of a cell that holds several actions. Reference: `AmbigID`. -/
abbrev ConflictId := Nat

/-- The number of a lexer rule. Reference: `RuleID`. -/
abbrev RuleId := Nat

namespace SymbolId

/-- The augmented start symbol, which also stands at the bottom of every stack. Reference:
`SymbolID::ACCEPT`. -/
def accept : SymbolId := 0

/-- The terminal that ends every input. Reference: `SymbolID::EOF`. -/
def endOfInput : SymbolId := 1

/-- The terminal that stands for a fault in the input. Reference: `SymbolID::ERROR`. -/
def error : SymbolId := 2

end SymbolId

/-- The entry of a cell of the table. A cell without an entry reads as `error`. Reference:
`ParserAction`. -/
inductive Action
  | error
  | accept
  | shift (target : StateId)
  | reduce (production : ProductionId)
  | ambiguous (conflict : ConflictId)
  | goto (target : StateId)
deriving Repr, DecidableEq, Inhabited

namespace Action

/-- The action as messages about a faulty table show it. Reference: the debug form of `ParserAction`
in `Parser::run` and `Parser::reduce`. -/
def display : Action → String
  | .error => "Error"
  | .accept => "Accept"
  | .shift s => s!"Shift(StateID({s}))"
  | .reduce p => s!"Reduce(ProdID({p}))"
  | .ambiguous i => s!"Ambig(AmbigID({i}))"
  | .goto s => s!"Goto(StateID({s}))"

/-- A list of actions as the message about an ambiguous cell shows it. Reference: `Parser::run`. -/
def displayList (actions : List Action) : String :=
  "[" ++ ", ".intercalate (actions.map Action.display) ++ "]"

end Action

/-- What a reduction needs of a production: the symbol on its left and how many symbols there are on
its right. Reference: `Production`. -/
structure Production where
  lhs : SymbolId
  length : Nat
deriving Repr, DecidableEq, Inhabited

end ShiftReduce
