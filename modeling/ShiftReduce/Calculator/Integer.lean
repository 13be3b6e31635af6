/-!
# Integers of 64 bits

The numbers of the calculator: integers that fit into 64 bits with a sign. Reading refuses what is no
number and what does not fit; sums and differences that do not fit are no values
(`Integer.add?_eq_some_iff`).
-/

namespace ShiftReduce.Calculator

/-- Why a text is no number of 64 bits. Reference: the `IntErrorKind` in a `CalcError::ParseInt`. -/
inductive IntegerFault
  | empty
  | invalidDigit
  | tooLarge
  | tooSmall
deriving Repr, DecidableEq

namespace IntegerFault

/-- The name of a fault, which the message of an action's fault shows. Reference: the message of
`CalcError::ParseInt`. -/
def name : IntegerFault → String
  | .empty => "Empty"
  | .invalidDigit => "InvalidDigit"
  | .tooLarge => "PosOverflow"
  | .tooSmall => "NegOverflow"

/-- What a fault is, as the cause behind the message of an action's fault. Reference: the
`ParseIntError` in a `CalcError::ParseInt`. -/
def message : IntegerFault → String
  | .empty => "cannot parse integer from empty string"
  | .invalidDigit => "invalid digit found in string"
  | .tooLarge => "number too large to fit in target type"
  | .tooSmall => "number too small to fit in target type"

end IntegerFault

namespace Integer

/-- The least number, -2 to the power of 63. -/
def least : Int := -9223372036854775808

/-- The greatest number, 2 to the power of 63 less one. -/
def greatest : Int := 9223372036854775807

/-- A number that fits into 64 bits with a sign. -/
def Fits (n : Int) : Prop := least ≤ n ∧ n ≤ greatest

instance (n : Int) : Decidable (Fits n) := inferInstanceAs (Decidable (_ ∧ _))

/-- A number, if it fits. Both operations compute without a bound and come to this. -/
def check? (n : Int) : Option Int := if Fits n then some n else none

/-- The sum of two numbers, if it fits. Reference: `checked_add` in `CalcParserDriver::arith`. -/
def add? (a b : Int) : Option Int := check? (a + b)

/-- The difference of two numbers, if it fits. Reference: `checked_sub` in
`CalcParserDriver::arith`. -/
def sub? (a b : Int) : Option Int := check? (a - b)

theorem check?_eq_some_iff {n m : Int} : check? n = some m ↔ n = m ∧ Fits n := by
  unfold check?; split <;> simp_all

theorem add?_eq_some_iff {a b c : Int} : add? a b = some c ↔ a + b = c ∧ Fits (a + b) :=
  check?_eq_some_iff

theorem sub?_eq_some_iff {a b c : Int} : sub? a b = some c ↔ a - b = c ∧ Fits (a - b) :=
  check?_eq_some_iff

/-- Reads digits onto a number, away from nought. Of a fault in a digit and a number that grows too
large the first in the text is reported. Reference: `parse` in `CalcValue::number`. -/
def readDigits (negative : Bool) : Int → List Char → Except IntegerFault Int
  | value, [] => .ok value
  | value, c :: cs =>
    if c.isDigit then
      let digit : Int := (c.toNat - '0'.toNat : Nat)
      let next := if negative then value * 10 - digit else value * 10 + digit
      if greatest < next then .error .tooLarge
      else if next < least then .error .tooSmall
      else readDigits negative next cs
    else .error .invalidDigit

/-- Reads a number: a sign or none, and digits. A sign alone has an invalid digit, not a missing
one. Reference: `parse` in `CalcValue::number`. -/
def read (text : String) : Except IntegerFault Int :=
  match text.toList with
  | [] => .error .empty
  | ['+'] | ['-'] => .error .invalidDigit
  | '+' :: digits => readDigits false 0 digits
  | '-' :: digits => readDigits true 0 digits
  | digits => readDigits false 0 digits

end Integer

end ShiftReduce.Calculator
