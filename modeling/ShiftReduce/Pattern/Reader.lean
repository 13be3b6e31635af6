import ShiftReduce.Pattern.Bracket
import ShiftReduce.Text.Alphabetic
import ShiftReduce.Text.Numeric

/-!
# Reading patterns

The notation of patterns: items, groups, flags, alternatives and repetitions. Reading keeps a stack of
open groups and walks over the text once; a text that is not well formed has no pattern, and neither has
one whose notation is nested too deeply. Groups, classes in brackets and repetitions are a level each;
items beside each other are one together, and so are alternatives. Look-around is not part of the
notation.
-/

namespace ShiftReduce.Pattern

/-! ## Groups -/

/-- Reads flags up to a colon or a closing parenthesis. `seen` holds the letters read so far and
`negative` says that they switch flags off. -/
def flagLetters? : (negative : Bool) → (seen : List Char) → Flags → List Char →
    Option (List Char × Flags × List Char)
  | negative, seen, flags, c :: cs =>
    if c = ':' ∨ c = ')' then
      if seen.head? = some '-' then none else some (seen, flags, c :: cs)
    else if c ∈ seen then none
    else
      match c with
      | '-' => flagLetters? true (c :: seen) flags cs
      | 'i' => flagLetters? negative (c :: seen) { flags with caseInsensitive := !negative } cs
      | 'm' => flagLetters? negative (c :: seen) { flags with multiLine := !negative } cs
      | 's' => flagLetters? negative (c :: seen) { flags with dotAll := !negative } cs
      | 'R' => flagLetters? negative (c :: seen) { flags with carriage := !negative } cs
      | 'U' => flagLetters? negative (c :: seen) { flags with swapGreed := !negative } cs
      | 'x' => flagLetters? negative (c :: seen) { flags with ignoreSpace := !negative } cs
      | 'u' => flagLetters? negative (c :: seen) { flags with ascii := negative } cs
      | _ => none
  | _, _, _, [] => none

/-- A character that a group name can start with. -/
def isNameStart (c : Char) : Bool := c = '_' || Text.isAlphabetic c

/-- A character that a group name can go on with. -/
def isNamePart (c : Char) : Bool :=
  c ∈ ['_', '.', '[', ']'] || Text.isAlphabetic c || Text.isNumeric c

/-- Reads the name of a group up to its closing angle bracket. -/
def groupName? (cs : List Char) : Option (String × List Char) :=
  let name := cs.takeWhile (· != '>')
  match name, cs.drop name.length with
  | first :: more, _ :: rest =>
    if isNameStart first && more.all isNamePart then some (String.ofList name, rest) else none
  | _, _ => none

/-! ## Repetitions -/

/-- The counts of a repetition: the least one and, if there is a bound, the greatest one. -/
abbrev Counts := Nat × Option Nat

/-- Reads the counts of a repetition, after the opening brace. -/
def counts? (flags : Flags) (cs : List Char) : Option (Counts × List Char) := do
  let (least, cs) ← count? flags (flags.skip cs)
  match cs with
  | '\x7d' :: cs => return ((least, some least), flags.skip cs)
  | ',' :: cs =>
    match flags.skip cs with
    | '\x7d' :: cs => return ((least, none), flags.skip cs)
    | cs =>
      match ← count? flags cs with
      | (most, '\x7d' :: cs) =>
        if least ≤ most then return ((least, some most), flags.skip cs) else none
      | _ => none
  | _ => none

/-- Reads what follows the sign of a repetition. -/
def countsOf? (flags : Flags) (sign : Char) (cs : List Char) : Option (Counts × List Char) :=
  match sign with
  | '?' => some ((0, some 1), cs)
  | '*' => some ((0, none), cs)
  | '+' => some ((1, none), cs)
  | _ => counts? flags cs

/-! ## Reading -/

/-- The greatest depth to which the notation of a pattern may be nested. -/
def depthLimit : Nat := 250

/-- A pattern that was read and the depth of its notation. -/
structure Piece where
  pattern : Pattern
  depth : Nat := 0
deriving Repr

namespace Piece

/-- The depth of pieces beside each other, some of which may stand for no pattern. -/
def depthOf (count : Nat) (pieces : List Piece) : Nat :=
  jointDepth count (pieces.foldl (fun deepest piece => max deepest piece.depth) 0)

end Piece

/-- A group in reading: its number if it has one, the alternatives that are complete, the items of the
last one, both last one first, and the flags to restore behind the group. A setting of flags is an item
that cannot be repeated. -/
structure Frame where
  number : Option Nat := none
  alternatives : List Piece := []
  items : List (Option Piece) := []
  outerFlags : Flags := {}
deriving Repr

namespace Frame

/-- The alternative that the items make up. -/
def alternative (frame : Frame) : Piece :=
  let pieces := frame.items.reverse.filterMap id
  ⟨concat (pieces.map (·.pattern)), Piece.depthOf frame.items.length pieces⟩

/-- What all alternatives make up. -/
def choice (frame : Frame) : Piece :=
  let pieces := (frame.alternative :: frame.alternatives).reverse
  ⟨Pattern.choice (pieces.map (·.pattern)), Piece.depthOf pieces.length pieces⟩

/-- The group. -/
def group (frame : Frame) : Piece :=
  let choice := frame.choice
  ⟨match frame.number with
    | some number => .group number choice.pattern
    | none => choice.pattern, choice.depth + 1⟩

/-- The group with one more item. -/
def push (frame : Frame) (item : Option Piece) : Frame := { frame with items := item :: frame.items }

/-- The group with its last alternative complete. -/
def alternate (frame : Frame) : Frame :=
  { frame with alternatives := frame.alternative :: frame.alternatives, items := [] }

end Frame

/-- The state of reading: the innermost group, those around it, the flags in force, the number of groups
that have one and the group names used. -/
structure Reading where
  frame : Frame := {}
  outer : List Frame := []
  flags : Flags := {}
  groups : Nat := 0
  names : List String := []
deriving Repr

namespace Reading

/-- The state with one more item in the innermost group. -/
def push (reading : Reading) (pattern : Pattern) (depth : Nat) : Reading :=
  { reading with frame := reading.frame.push (some { pattern, depth }) }

/-- The state inside a new group. -/
def enter (reading : Reading) (flags : Flags) (number : Option Nat) : Reading :=
  { reading with
    frame := { number, outerFlags := reading.flags }
    outer := reading.frame :: reading.outer
    flags }

/-- The state inside a new group with a number. -/
def enterNumbered (reading : Reading) : Reading :=
  { reading.enter reading.flags (some reading.groups) with groups := reading.groups + 1 }

/-- Reads what follows an opening parenthesis. -/
def open? (reading : Reading) (cs : List Char) : Option (Reading × List Char) :=
  match reading.flags.skip cs with
  | '?' :: '=' :: _ | '?' :: '!' :: _ | '?' :: '<' :: '=' :: _ | '?' :: '<' :: '!' :: _ => none
  | '?' :: 'P' :: '<' :: cs | '?' :: '<' :: cs => do
    let (name, rest) ← groupName? cs
    if name ∈ reading.names then none
    return ({ reading.enterNumbered with names := name :: reading.names }, rest)
  | '?' :: cs => do
    match ← flagLetters? false [] reading.flags cs with
    | (_, flags, ':' :: rest) => return (reading.enter flags none, rest)
    | (seen, flags, _ :: rest) =>
      if seen.isEmpty then none
      return ({ reading with frame := reading.frame.push none, flags }, rest)
    | _ => none
  | cs => some (reading.enterNumbered, cs)

/-- Closes the innermost group. -/
def close? (reading : Reading) : Option Reading :=
  match reading.outer with
  | [] => none
  | frame :: outer =>
    some { reading with
      frame := frame.push (some reading.frame.group), outer, flags := reading.frame.outerFlags }

/-- Takes the last item to repeat it. -/
def popItem? (reading : Reading) : Option (Piece × Reading) :=
  match reading.frame.items with
  | some piece :: items => some (piece, { reading with frame := { reading.frame with items } })
  | _ => none

/-- Repeats the last item, as the sign of a repetition and what follows it say. An item that is nested
too deeply already is not repeated. -/
def repeat? (reading : Reading) (sign : Char) (cs : List Char) : Option (Reading × List Char) := do
  let (piece, reading) ← reading.popItem?
  if depthLimit ≤ piece.depth then none
  let ((least, most), cs) ← countsOf? reading.flags sign cs
  let (greedy, cs) := reading.flags.greed cs
  return (reading.push (piece.pattern.repeated greedy least most) (piece.depth + 1), cs)

/-- Reads one item, group sign or repetition. The text does not start with a blank to be skipped. -/
def step? (reading : Reading) (c : Char) (cs : List Char) : Option (Reading × List Char) :=
  let flags := reading.flags
  match c with
  | '(' => reading.open? cs
  | ')' => reading.close?.map fun reading => (reading, cs)
  | '|' => some ({ reading with frame := reading.frame.alternate }, cs)
  | '[' => do
    let (set, depth, rest) ← class? flags cs
    return (reading.push (.oneOf set) depth, rest)
  | '?' | '*' | '+' | '\x7b' => reading.repeat? c cs
  | '\\' => do
    let (atom, rest) ← escape? flags cs
    return (reading.push (atom.pattern flags) 0, rest)
  | '.' => do return (reading.push (.oneOf (← flags.dot?)) 0, cs)
  | '^' => some (reading.push (.look flags.start) 0, cs)
  | '$' => some (reading.push (.look flags.finish) 0, cs)
  | c => some (reading.push ((Atom.char c).pattern flags) 0, cs)

/-- Reads a text to its end. All groups must be closed there. -/
def run? : (fuel : Nat) → Reading → List Char → Option Piece
  | 0, _, _ => none
  | fuel + 1, reading, cs =>
    match reading.flags.skip cs with
    | [] => if reading.outer.isEmpty then some reading.frame.choice else none
    | c :: cs =>
      match reading.step? c cs with
      | none => none
      | some (reading, rest) => run? fuel reading rest

end Reading

/-- The pattern that a text denotes, if it is well formed. Case is ignored from the start if
`caseInsensitive` says so, and flags in the text may change that. -/
def read? (text : String) (caseInsensitive : Bool) : Option Pattern := do
  let piece ← Reading.run? (text.length + 1) { flags := { caseInsensitive } } text.toList
  if piece.depth ≤ depthLimit then return piece.pattern else none

end ShiftReduce.Pattern
