import ShiftReduce.Calculator.Integer
import ShiftReduce.Grammar.Error
import ShiftReduce.Source.Position

/-!
# Values of the calculator

What the slots of the calculator's stack hold, and the faults of its actions.
-/

namespace ShiftReduce.Calculator

/-- The results of the lines of an input; a line that was skipped has none. Reference:
`CalcValue::Lines`. -/
abbrev Lines := List (Option Int)

/-- A value: nothing, the text of a token, a number, or the results so far. Reference: `CalcValue`.
-/
inductive Value
  | nothing
  | text (text : String)
  | number (number : Int)
  | lines (lines : Lines)
deriving Repr, DecidableEq

instance : Inhabited Value := ⟨.nothing⟩

/-- The signs of the two operations. Reference: the argument `op` of `CalcParserDriver::arith`. -/
inductive Operator
  | plus
  | minus
deriving Repr, DecidableEq

namespace Operator

/-- The sign of an operation, as the message about an overflow shows it. Reference:
`CalcError::Overflow`. -/
def sign : Operator → String
  | .plus => "+"
  | .minus => "-"

/-- The result of an operation, if it fits. Reference: `CalcParserDriver::arith`. -/
def result? : Operator → Int → Int → Option Int
  | .plus => Integer.add?
  | .minus => Integer.sub?

end Operator

/-- Why an action failed. The parser reports it as the cause of an error of a rule or of a
production. Reference: `CalcError`. -/
inductive Fault
  | number (cause : IntegerFault)
  | overflow (op : Operator) (lhs rhs : Int)
  | unterminatedComment (line : Nat)
  | value (expected : String) (found : Value)
  | noAction (origin : String)
  | grammar (cause : GrammarError)
deriving Repr, DecidableEq

/-- A value as messages name it; of results only their number is shown. Reference:
`CalcValue::kind`. -/
def Value.describe : Value → String
  | .nothing => "nothing"
  | .text s => s!"text {Text.quote s}"
  | .number n => s!"number {n}"
  | .lines ls => s!"{ls.length} lines"

namespace Fault

/-- The message of a fault. Reference: the messages of `CalcError`. -/
def message : Fault → String
  | .number cause => s!"unable to parse ParseIntError \x7b kind: {cause.name} \x7d"
  | .overflow op lhs rhs => s!"arithmetic overflow in {lhs} {op.sign} {rhs}"
  | .unterminatedComment line => s!"unterminated comment at end of input (line {line})"
  | .value expected found => s!"expected {expected}, found {found.describe}"
  | .noAction origin => s!"no action for {origin}"
  | .grammar cause => s!"grammar error {cause.message}"

/-- The messages of the causes behind a fault; most faults have none. Reference: the sources of
`CalcError::ParseInt` and `CalcError::Grammar`. -/
def causes : Fault → List String
  | .number cause => [cause.message]
  | .grammar cause => [cause.message]
  | _ => []

end Fault

namespace Value

/-- The number that a value stands for: itself, or its text read. Reference: `CalcValue::number`. -/
def toNumber : Value → Except Fault Int
  | .number n => .ok n
  | .text s => (Integer.read s).mapError .number
  | v => .error (.value "number" v)

/-- The results of lines that a value holds. Reference: `CalcValue::into_lines`. -/
def toLines : Value → Except Fault Lines
  | .lines ls => .ok ls
  | v => .error (.value "lines" v)

end Value

end ShiftReduce.Calculator
