import ShiftReduce.Pattern.Flags

/-!
# Single items of patterns

Characters, escapes, classes with a letter for a name and assertions: the items of a pattern that hold
no others. Back references and classes of named properties are not part of the notation.
-/

namespace ShiftReduce.Pattern

/-- An item that stands for one place of a pattern. -/
inductive Atom
  | char (c : Char)
  | chars (set : CharSet)
  | look (assertion : Look)
deriving Repr, DecidableEq

/-- The characters that a pattern gives a meaning to. -/
def metaChars : List Char :=
  ['\\', '.', '+', '*', '?', '(', ')', '|', '[', ']', '\x7b', '\x7d', '^', '$', '#', '&', '-', '~']

/-- A character that stands for itself after a backslash: ASCII, but no letter, digit or angle
bracket. -/
def isEscapable (c : Char) : Bool :=
  c ∈ metaChars || (c.toNat < 128 && !c.isAlphanum && c != '<' && c != '>')

/-! ## Word boundaries -/

/-- The names of the places that follow a word boundary in braces. -/
def boundaryNames : List (String × WordEdge) :=
  [("start", .start), ("end", .finish), ("start-half", .startHalf), ("end-half", .finishHalf)]

/-- A character of the names of word boundaries. -/
def isBoundaryName (c : Char) : Bool := c.isAlpha || c = '-'

/-- Reads a name in braces up to a character that is not part of names. -/
def boundaryName (flags : Flags) : (fuel : Nat) → (name : List Char) → List Char → String × List Char
  | fuel + 1, name, c :: cs =>
    if isBoundaryName c then boundaryName flags fuel (c :: name) (flags.skip cs)
    else (String.ofList name.reverse, c :: cs)
  | _, name, cs => (String.ofList name.reverse, cs)

/-- Reads the braces behind a word boundary. Braces that do not start with a letter are left alone:
they hold a count. -/
def wordBoundary? (flags : Flags) (cs : List Char) : Option (WordEdge × List Char) :=
  match cs with
  | '\x7b' :: inner =>
    match flags.skip inner with
    | [] => none
    | c :: inner =>
      if isBoundaryName c then
        match boundaryName flags (inner.length + 1) [] (c :: inner) with
        | (name, '\x7d' :: rest) => (boundaryNames.lookup name).map fun edge => (edge, rest)
        | _ => none
      else some (.boundary, cs)
  | _ => some (.boundary, cs)

/-! ## Escapes -/

/-- A character given by its number: in braces, or in `digits` digits. Where classes are ASCII, a number
of two digits is a byte, which must be ASCII too. -/
def escapedCode? (flags : Flags) (digits : Nat) (cs : List Char) : Option (Atom × List Char) := do
  match flags.skip cs with
  | '\x7b' :: inner =>
    let (code, rest) ← hexBraces? flags (inner.length + 1) none (flags.skip inner)
    return (.char (← charOf? code), rest)
  | cs =>
    let (code, rest) ← hexDigits? flags digits 0 cs
    if flags.ascii ∧ digits = 2 ∧ 128 ≤ code then none
    return (.char (← charOf? code), rest)

/-- Reads what follows a backslash. -/
def escape? (flags : Flags) : List Char → Option (Atom × List Char)
  | [] => none
  | c :: cs =>
    match c with
    | 'x' => escapedCode? flags 2 cs
    | 'u' => escapedCode? flags 4 cs
    | 'U' => escapedCode? flags 8 cs
    | 'd' => some (.chars flags.digit, cs)
    | 's' => some (.chars flags.blank, cs)
    | 'w' => some (.chars flags.word, cs)
    | 'D' => (flags.compl? flags.digit).map fun set => (.chars set, cs)
    | 'S' => (flags.compl? flags.blank).map fun set => (.chars set, cs)
    | 'W' => (flags.compl? flags.word).map fun set => (.chars set, cs)
    | 'a' => some (.char '\x07', cs)
    | 'f' => some (.char '\x0c', cs)
    | 't' => some (.char '\t', cs)
    | 'n' => some (.char '\n', cs)
    | 'r' => some (.char '\r', cs)
    | 'v' => some (.char '\x0b', cs)
    | 'A' => some (.look .textStart, cs)
    | 'z' => some (.look .textEnd, cs)
    | 'b' => (wordBoundary? flags cs).map fun (edge, cs) => (.look (.word flags.ascii edge), cs)
    | 'B' => some (.look (.word flags.ascii .noBoundary), cs)
    | '<' => some (.look (.word flags.ascii .start), cs)
    | '>' => some (.look (.word flags.ascii .finish), cs)
    | c => if isEscapable c then some (.char c, cs) else none

namespace Atom

/-- The character of an item of a class, where it is one. -/
def classChar? (flags : Flags) : Atom → Option Char
  | .char c => if flags.ascii ∧ 128 ≤ c.toNat then none else some c
  | _ => none

/-- The set of an item of a class; an assertion is none. -/
def set? (flags : Flags) : Atom → Option CharSet
  | .chars set => some set
  | atom => (atom.classChar? flags).map .single

/-- The pattern of an item outside of classes. -/
def pattern (flags : Flags) : Atom → Pattern
  | .char c => .oneOf (flags.fold (.single c))
  | .chars set => .oneOf set
  | .look assertion => .look assertion

end Atom

end ShiftReduce.Pattern
