import ShiftReduce.Grammar.Table

/-!
# What messages say about symbols

The description of a terminal, and the terminals that a state can take.
-/

namespace ShiftReduce.Table

/-- A symbol as a message names it: its description, or else its name between single quotes unless
the name brings quotes of its own. The end of the input has a description that cannot be replaced.
Reference: `describe_symbol`. -/
def describeSymbol (table : Table) (symbol : SymbolId) : String :=
  if symbol = SymbolId.endOfInput then "end of input"
  else match table.description? symbol with
    | some text => text
    | none =>
      match table.symbolName? symbol with
      | some name =>
        if name.toList.head? = some '\'' ∨ name.toList.head? = some '"' then name
        else s!"'{name}'"
      | none => s!"'{symbol}'"

/-- Whether a cell makes its symbol one that the state can take: a terminal other than `error`, with
an entry that is not a goto. Reference: `expected_token_set`. -/
def isExpected (table : Table) : SymbolId × Action → Bool
  | (symbol, action) =>
    symbol != SymbolId.error && table.isTerminal symbol &&
      match action with
      | .error | .goto _ => false
      | _ => true

/-- The terminals that a state can take, each with its description. Of several with one description
the first alone is listed. Reference: `expected_token_set`. -/
def expectedTokens (table : Table) (state : StateId) : List (String × SymbolId) :=
  ((table.row state).filter table.isExpected).foldl
    (fun seen (symbol, _) =>
      let text := table.describeSymbol symbol
      if seen.any (·.1 == text) then seen else seen ++ [(text, symbol)])
    []

end ShiftReduce.Table
