import ShiftReduce.Grammar.Symbol
import ShiftReduce.Source.Position

/-!
# Lexical errors

What a lexer reports when no rule matches, and the ways in which a lexer fails.
-/

namespace ShiftReduce

/-- Input that no rule recognizes, as it is handed to whoever decides about it. The message is kept
as its excerpt and its line. Reference: `LexErrorInfo`. -/
structure Unrecognized where
  /-- The place in the input, as shown by `showPosition`. -/
  excerpt : String
  /-- The text matched so far; empty unless a match was to be continued. -/
  text : String
  /-- The character the lexer is stuck on. -/
  unexpected : Option Char
  /-- The number of line breaks before it. -/
  line : Nat
  location : Location
  recoverable : Bool
  /-- The active start condition. -/
  condition : String
deriving Repr, DecidableEq

/-- The message about unrecognized input behind `line` line breaks. Lexers and parsers share it.
Reference: `Lexer::error_info`. -/
def unrecognizedMessage (line : Nat) (excerpt : String) : String :=
  s!"Lexical error on line {line + 1}: Unrecognized text.\n{excerpt}"

/-- The message about unrecognized input. Reference: `LexErrorInfo::message`. -/
def Unrecognized.message (info : Unrecognized) : String :=
  unrecognizedMessage info.line info.excerpt

/-- The unrecognized text: what was matched so far and the character behind it. Reference:
`ErrorInfo::from_lex`. -/
def Unrecognized.offendingText (info : Unrecognized) : String :=
  match info.unexpected with
  | some c => info.text.push c
  | none => info.text

/-- A fault of a rule: of its action, or of its doing nothing at all. `ε` is the type of the faults
of actions. Reference: `LexError::Action` and `LexError::NoProgress`. -/
inductive RuleFault (ε : Type)
  | action (rule : RuleId) (fault : ε)
  | noProgress (rule : RuleId) (offset : Nat)
deriving Repr, DecidableEq

/-- Why a lexer that runs on its own failed. Reference: `LexError`. -/
inductive LexError (ε : Type)
  | unrecognized (info : Unrecognized)
  | faulty (fault : RuleFault ε)
deriving Repr, DecidableEq

/-- The message about a rule that matched nothing and changed nothing. Reference:
`LexError::NoProgress`. -/
def noProgressMessage (rule : RuleId) (offset : Nat) : String :=
  s!"lexer rule {rule} matched empty input at offset {offset} without making progress"

/-- The message of a lexical error, given those of the faults of actions. Reference: the messages of
`LexError`. -/
def LexError.message {ε : Type} (faultMessage : ε → String) : LexError ε → String
  | .unrecognized info => info.message
  | .faulty (.action rule fault) => s!"lexer rule {rule} action failed: {faultMessage fault}"
  | .faulty (.noProgress rule offset) => noProgressMessage rule offset

end ShiftReduce
