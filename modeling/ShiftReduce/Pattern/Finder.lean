/-!
# Compiled patterns

What a pattern looks like and what it matches is not settled by a lexer. A lexer is handed a compiler of
patterns, which refuses a pattern with a message or turns it into a `Finder`, and it asks the finders of
its rules for matches at the cursor. The laws of lexers hold for every compiler; `Pattern.compile` is the
one that runs.
-/

namespace ShiftReduce

/-- A compiled pattern, told by what it finds: the number of characters of its match that starts between
the text `before`, last character first, and the text `rest`, or none if nothing starts there. A match
ends at a character of `rest` or behind the last one. Reference: the regular expression of a `LexerRule`,
which `match_at` searches with, anchored at an offset of the whole buffer. -/
structure Finder where
  length? : (before rest : List Char) → Option Nat
  length?_le : ∀ {before rest : List Char} {n : Nat}, length? before rest = some n → n ≤ rest.length

/-- A compiler of patterns. It is told whether case is ignored, and refuses a pattern with a message.
Reference: the builder that `LexerDataBuilder::compile` hands a pattern to. -/
abbrev PatternCompiler := (pattern : String) → (ignoreCase : Bool) → Except String Finder

end ShiftReduce
