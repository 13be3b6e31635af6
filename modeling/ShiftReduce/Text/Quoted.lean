import ShiftReduce.Text.Unprintable

/-!
# Quoted text

The form in which names and texts stand in messages: between double quotes, with a backslash before
quotes and backslashes, short escapes for the common controls and a hexadecimal number in braces for
every other character that has no visible form. A single quote stands as it is.
-/

namespace ShiftReduce.Text

/-- The lower-case hexadecimal digits of a number, without leading zeros, as they stand in braces.
-/
def hex (n : Nat) : String := String.ofList (Nat.toDigits 16 n)

/-- One character of quoted text: short escapes for common controls, a number for whatever has no
visible form, and itself otherwise. -/
def quoteChar (c : Char) : String :=
  match c with
  | '"' => "\\\""
  | '\\' => "\\\\"
  | '\n' => "\\n"
  | '\t' => "\\t"
  | '\r' => "\\r"
  | '\x00' => "\\0"
  | c => if isUnprintable c then "\\u\x7b" ++ hex c.toNat ++ "\x7d" else String.singleton c

/-- A text in quoted form. Reference: the debug form of names and texts in `GrammarError`,
`Lexer::test_match` and `CalcValue::kind`. -/
def quote (s : String) : String := "\"" ++ String.join (s.toList.map quoteChar) ++ "\""

end ShiftReduce.Text
