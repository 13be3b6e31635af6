import ShiftReduce.Source.Position
import ShiftReduce.Grammar.Symbol

/-!
# Tokens

What a lexer hands to a parser: a terminal, the text it stands for and where that text is.
-/

namespace ShiftReduce

/-- A token: a terminal, its text, its location, and the number of line breaks up to its end.
Reference: `Token`. -/
structure Token where
  symbol : SymbolId := 0
  text : String := ""
  location : Location := {}
  lineNo : Nat := 0
deriving Repr, DecidableEq, Inhabited

end ShiftReduce
