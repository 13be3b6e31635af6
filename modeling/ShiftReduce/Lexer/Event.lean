import ShiftReduce.Lexer.Token
import ShiftReduce.Text.Quoted

/-!
# What a lexer records

The steps of a lexer that a log shows, and their log records.
-/

namespace ShiftReduce

/-- The levels of the log records that lexers and parsers leave. -/
inductive LogLevel
  | trace
  | debug
  | warning
deriving Repr, DecidableEq

/-- A record of a log. -/
structure LogRecord where
  level : LogLevel
  message : String
deriving Repr, DecidableEq

/-- A step of a lexer, in as much detail as its log record shows. Reference: the log records of
`Lexer::lex` and `Lexer::test_match`. -/
inductive LexerEvent
  | matched (condition : String) (rule : RuleId) (pattern text : String)
  | rejected (rule : RuleId)
  | token (token : Token)
  | unrecognized (offset : Nat)
  | tolerated (message : String)
deriving Repr, DecidableEq

/-- The log record of a step. Patterns and texts are quoted. Reference: the log records of
`Lexer::lex` and `Lexer::test_match`. -/
def LexerEvent.record : LexerEvent → LogRecord
  | .matched condition rule pattern text =>
    ⟨.trace, s!"MATCHED: condition={condition}, rule={rule}, pattern={Text.quote pattern}, text={Text.quote text}"⟩
  | .rejected rule => ⟨.trace, s!"REJECTED: rule={rule}"⟩
  | .token t =>
    ⟨.trace, s!"TOKEN: symbol={t.symbol}, text={Text.quote t.text}, loc={t.location.display}"⟩
  | .unrecognized offset => ⟨.debug, s!"unrecognized input at offset {offset}"⟩
  | .tolerated message => ⟨.warning, message⟩

end ShiftReduce
