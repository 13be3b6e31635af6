import ShiftReduce.Pattern.Basic

/-!
# Flags of patterns

The flags that say how the notation of a pattern is read, and the readers that depend on them alone:
blanks and comments, which may stand anywhere if a flag asks for it, and numbers.
-/

namespace ShiftReduce.Pattern

/-- The flags in force at a place of a pattern. -/
structure Flags where
  /-- Letters stand for both cases. -/
  caseInsensitive : Bool := false
  /-- Anchors hold at every line. -/
  multiLine : Bool := false
  /-- The dot stands for line breaks too. -/
  dotAll : Bool := false
  /-- Carriage returns end lines too. -/
  carriage : Bool := false
  /-- Repetitions are lazy unless they are marked. -/
  swapGreed : Bool := false
  /-- Blanks and comments mean nothing. -/
  ignoreSpace : Bool := false
  /-- Classes have the characters of ASCII alone. -/
  ascii : Bool := false
deriving Repr, DecidableEq, Inhabited

namespace Flags

/-- A set as the flags read it: up to case, where case is ignored. -/
def fold (flags : Flags) (set : CharSet) : CharSet :=
  if flags.caseInsensitive then set.upToCase (if flags.ascii then Text.asciiFolds else Text.folds) else set

/-- All characters that are not in a set. There are none of them where classes are ASCII, since the
others could not be all. -/
def compl? (flags : Flags) (set : CharSet) : Option CharSet :=
  if flags.ascii then none else some set.compl

/-- A set or, if it is `negated`, all other characters. -/
def sign? (flags : Flags) (negated : Bool) (set : CharSet) : Option CharSet :=
  if negated then flags.compl? set else some set

/-- The decimal digits. -/
def digit (flags : Flags) : CharSet := if flags.ascii then .span '0' '9' else .digit

/-- The blank characters. -/
def blank (flags : Flags) : CharSet :=
  if flags.ascii then (CharSet.range 0x9 0xd).union (.single ' ') else .blank

/-- The word characters. -/
def word (flags : Flags) : CharSet :=
  if flags.ascii then .unions [.span '0' '9', .span 'A' 'Z', .single '_', .span 'a' 'z'] else .word

/-- The characters that a dot stands for. -/
def dot? (flags : Flags) : Option CharSet :=
  flags.compl?
    (if flags.dotAll then .empty
    else if flags.carriage then (CharSet.single '\r').union (.single '\n')
    else .single '\n')

/-- The assertion that a circumflex stands for. -/
def start (flags : Flags) : Look := if flags.multiLine then .lineStart flags.carriage else .textStart

/-- The assertion that a dollar sign stands for. -/
def finish (flags : Flags) : Look := if flags.multiLine then .lineEnd flags.carriage else .textEnd

/-- The greed of a repetition: lazy ones are marked, and a flag swaps the two. -/
def greed (flags : Flags) : List Char → Bool × List Char
  | '?' :: cs => (flags.swapGreed, cs)
  | cs => (!flags.swapGreed, cs)

end Flags

/-! ## Blanks and comments -/

/-- A text without the blanks and comments at its start; `inComment` says that it starts inside a
comment. -/
def dropSpace : (inComment : Bool) → List Char → List Char
  | _, [] => []
  | true, c :: cs => dropSpace (c != '\n') cs
  | false, c :: cs =>
    if Text.isBlank c then dropSpace false cs
    else if c = '#' then dropSpace true cs
    else c :: cs

/-- A text without blanks and comments at its start, where the flags allow them. -/
def Flags.skip (flags : Flags) (cs : List Char) : List Char :=
  if flags.ignoreSpace then dropSpace false cs else cs

/-- The first character that is no blank and no first number sign. -/
def peekSpace? : (inComment : Bool) → List Char → Option Char
  | _, [] => none
  | inComment, c :: cs =>
    if Text.isBlank c then peekSpace? inComment cs
    else if c = '#' ∧ !inComment then peekSpace? true cs
    else some c

/-- The character that decides whether a hyphen makes a range. Where blanks are ignored, it may stand
behind them and one number sign; a text of nothing else is decided by its first character. -/
def Flags.peek? (flags : Flags) (cs : List Char) : Option Char :=
  if flags.ignoreSpace then peekSpace? false cs <|> cs.head? else cs.head?

/-! ## Numbers -/

/-- The value of a digit of a number system. -/
def digitValue? (c : Char) : Option Nat :=
  if c.isDigit then some (c.toNat - '0'.toNat)
  else if 'a' ≤ c ∧ c ≤ 'f' then some (c.toNat - 'a'.toNat + 10)
  else if 'A' ≤ c ∧ c ≤ 'F' then some (c.toNat - 'A'.toNat + 10)
  else none

/-- The character of a code point, if there is one. -/
def charOf? (code : Nat) : Option Char := if h : code.isValidChar then some (Char.ofNatAux code h) else none

/-- Reads `n` hexadecimal digits onto a number. -/
def hexDigits? (flags : Flags) : Nat → Nat → List Char → Option (Nat × List Char)
  | 0, value, cs => some (value, cs)
  | _ + 1, _, [] => none
  | n + 1, value, c :: cs => do
    let digit ← digitValue? c
    hexDigits? flags n (value * 16 + digit) (flags.skip cs)

/-- Reads hexadecimal digits up to a closing brace. There must be one at least. -/
def hexBraces? (flags : Flags) : (fuel : Nat) → Option Nat → List Char → Option (Nat × List Char)
  | 0, _, _ => none
  | _ + 1, _, [] => none
  | fuel + 1, value, c :: cs =>
    if c = '\x7d' then value.map fun value => (value, flags.skip cs)
    else do
      let digit ← digitValue? c
      hexBraces? flags fuel (some (value.getD 0 * 16 + digit)) (flags.skip cs)

/-- Reads the decimal digits at the start of a text. -/
def decimalDigits (flags : Flags) : (fuel : Nat) → Option Nat → List Char → Option Nat × List Char
  | fuel + 1, value, c :: cs =>
    if c.isDigit then
      decimalDigits flags fuel (some (value.getD 0 * 10 + (c.toNat - '0'.toNat))) (flags.skip cs)
    else (value, c :: cs)
  | _, value, cs => (value, cs)

/-- The bound of the counts in a pattern. -/
def countLimit : Nat := 4294967296

/-- Reads a count, with blanks around it. -/
def count? (flags : Flags) (cs : List Char) : Option (Nat × List Char) := do
  let (value, rest) := decimalDigits flags cs.length none (cs.dropWhile Text.isBlank)
  let value ← value
  if countLimit ≤ value then none
  return (value, rest.dropWhile Text.isBlank)

end ShiftReduce.Pattern
