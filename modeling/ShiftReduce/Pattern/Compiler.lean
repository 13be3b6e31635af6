import ShiftReduce.Pattern.Finder
import ShiftReduce.Pattern.Matcher
import ShiftReduce.Pattern.Reader

/-!
# The compiler of patterns

A pattern is read as it is written, laid out as an automaton and matched by that. It is refused if it is
not well formed or if its automaton would be too large.

This is the compiler that runs. Its notation, its order of preference and its limits follow what is
documented of the regular expressions that `LexerDataBuilder::compile` asks for. No law of lexers or parsers
depends on them: the laws take any compiler, and those of the calculator take one that reads its ten patterns
in their usual meaning (`Calculator.ReadsPatterns`).
-/

namespace ShiftReduce

/-- Why a pattern is refused: it is not well formed, or it is too large. Reference: the error that
`LexerDataBuilder::compile` turns into a `GrammarError::InvalidRegex`. -/
inductive PatternFault
  | malformed
  | tooLarge
deriving Repr, DecidableEq

/-- What is wrong with a pattern, as the message of `GrammarError.invalidPattern` goes on. -/
def PatternFault.message : PatternFault → String
  | .malformed => "error parsing pattern 0"
  | .tooLarge => "error building NFA"

/-- The finder that runs an automaton from the place it is asked about. Reference:
`LexerRule::match_at`. -/
def Automaton.finder (a : Automaton) : Finder := ⟨a.matchLength?, matchLength?_le⟩

namespace Pattern

/-- The automaton of a pattern as it is written, or what is wrong with the pattern. -/
def automaton (pattern : String) (ignoreCase : Bool) : Except PatternFault Automaton :=
  match read? pattern ignoreCase with
  | none => .error .malformed
  | some p =>
    match Automaton.ofPattern? p with
    | none => .error .tooLarge
    | some a => .ok a

/-- The compiler that runs: a pattern is read, laid out and matched by its automaton. Reference: the
builder in `LexerDataBuilder::compile`. -/
def compile : PatternCompiler := fun pattern ignoreCase =>
  match automaton pattern ignoreCase with
  | .error fault => .error fault.message
  | .ok a => .ok a.finder

end Pattern

end ShiftReduce
