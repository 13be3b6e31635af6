import ShiftReduce.Pattern.Atom

/-!
# Classes in brackets

A class is a union of items in brackets: characters, ranges, escapes, named classes, classes in brackets
of their own, and unions joined by the signs of set operations, which bind to the left. Reading walks
over the text once and keeps what waits for its end on a stack (`ClassReading`); with the set it
counts how deep the notation is nested.
-/

namespace ShiftReduce.Pattern

/-- The depth of several notations beside each other: together they are one level if there are two or
more. -/
def jointDepth (count deepest : Nat) : Nat := if 1 < count then deepest + 1 else deepest

/-- The named classes of ASCII characters. -/
def asciiClasses : List (String × CharSet) :=
  let small := CharSet.span 'a' 'z'
  let capital := CharSet.span 'A' 'Z'
  let figure := CharSet.span '0' '9'
  let letter := CharSet.union capital small
  let letterOrFigure := CharSet.union figure letter
  [("alnum", letterOrFigure), ("alpha", letter), ("ascii", .range 0 0x7f),
   ("blank", .union (.single '\t') (.single ' ')),
   ("cntrl", .union (.range 0 0x1f) (.single '\x7f')), ("digit", figure),
   ("graph", .range 0x21 0x7e), ("lower", small), ("print", .range 0x20 0x7e),
   ("punct", .unions [.range 0x21 0x2f, .range 0x3a 0x40, .range 0x5b 0x60, .range 0x7b 0x7e]),
   ("space", .union (.range 0x9 0xd) (.single ' ')), ("upper", capital),
   ("word", .union letterOrFigure (.single '_')), ("xdigit", .unions [figure, .span 'A' 'F', .span 'a' 'f'])]

/-- A bracketed set: up to case where that is asked for, and only then negated. -/
def Flags.bracket? (flags : Flags) (negated : Bool) (set : CharSet) : Option CharSet :=
  flags.sign? negated (flags.fold set)

/-- Reads the name of an ASCII class behind an opening bracket, if there is one: whether the class is
negated, and its set. -/
def asciiClass? : List Char → Option (Bool × CharSet × List Char)
  | ':' :: cs =>
    let (negated, cs) := match cs with
      | '^' :: cs => (true, cs)
      | cs => (false, cs)
    let name := cs.takeWhile (· != ':')
    match asciiClasses.lookup (String.ofList name), cs.drop name.length with
    | some set, ':' :: ']' :: rest => some (negated, set, rest)
    | _, _ => none
  | _ => none

/-! ## Items -/

/-- The items of a class that stand beside each other: their union, their number and the depth of the
deepest one. -/
structure ClassItems where
  set : CharSet := .empty
  count : Nat := 0
  deepest : Nat := 0
deriving Repr, DecidableEq, Inhabited

namespace ClassItems

/-- The items with one more of a depth. -/
def add (items : ClassItems) (set : CharSet) (depth : Nat) : ClassItems :=
  ⟨items.set.union set, items.count + 1, max items.deepest depth⟩

/-- The depth of the items together. -/
def depth (items : ClassItems) : Nat := jointDepth items.count items.deepest

end ClassItems

/-- Reads one character or escape of a class. -/
def classAtom? (flags : Flags) : List Char → Option (Atom × List Char)
  | [] => none
  | '\\' :: cs => escape? flags cs
  | c :: cs => some (.char c, cs)

/-- Reads an item of a class or a range of characters. A hyphen before a closing bracket or another
hyphen makes no range. -/
def classRange? (flags : Flags) (cs : List Char) : Option (CharSet × List Char) := do
  let (first, rest) ← classAtom? flags cs
  match flags.skip rest with
  | [] => none
  | '-' :: after =>
    match flags.peek? after with
    | some ']' | some '-' => return (← first.set? flags, '-' :: after)
    | _ =>
      let (second, rest) ← classAtom? flags (flags.skip after)
      let lo ← first.classChar? flags
      let hi ← second.classChar? flags
      if lo ≤ hi then return (.span lo hi, rest) else none
  | rest => return (← first.set? flags, rest)

/-- The hyphens at the start of a class, which stand for themselves. -/
def leadingHyphens (flags : Flags) : (fuel : Nat) → ClassItems → List Char → ClassItems × List Char
  | fuel + 1, items, '-' :: cs => leadingHyphens flags fuel (items.add (.single '-') 0) (flags.skip cs)
  | _, items, cs => (items, cs)

/-- Reads the opening of a bracket, after the bracket itself: a negation, and then hyphens or one
closing bracket that stand for themselves. -/
def openBracket? (flags : Flags) (cs : List Char) : Option (Bool × ClassItems × List Char) :=
  let (negated, cs) := match flags.skip cs with
    | '^' :: cs => (true, flags.skip cs)
    | cs => (false, cs)
  let (items, cs) := leadingHyphens flags cs.length {} cs
  let (items, cs) := match items.count, cs with
    | 0, ']' :: cs => (items.add (.single ']') 0, flags.skip cs)
    | _, cs => (items, cs)
  if cs.isEmpty then none else some (negated, items, cs)

/-! ## Operations -/

/-- The operations on sets in a class. -/
inductive SetOp
  | inter
  | diff
  | symmDiff
deriving Repr, DecidableEq

namespace SetOp

/-- The set that an operation makes of two others. -/
def apply (flags : Flags) : SetOp → CharSet → CharSet → CharSet
  | .inter, a, b => (flags.fold a).inter (flags.fold b)
  | .diff, a, b => (flags.fold a).diff (flags.fold b)
  | .symmDiff, a, b => (flags.fold a).symmDiff (flags.fold b)

/-- Reads the sign of an operation on sets. -/
def read? : List Char → Option (SetOp × List Char)
  | '&' :: '&' :: rest => some (.inter, rest)
  | '-' :: '-' :: rest => some (.diff, rest)
  | '~' :: '~' :: rest => some (.symmDiff, rest)
  | _ => none

end SetOp

/-- What a class in reading waits for: the other side of an operation, or the end of a bracket whose
set joins the items around it. -/
inductive ClassFrame
  | operation (op : SetOp) (left : CharSet) (depth : Nat)
  | bracket (negated : Bool) (outer : ClassItems)
deriving Repr, DecidableEq

/-- Completes the operation that waits for its right side: the set and its depth. -/
def closeOperation (flags : Flags) (items : ClassItems) :
    List ClassFrame → CharSet × Nat × List ClassFrame
  | .operation op left depth :: frames => (op.apply flags left items.set, max depth items.depth + 1, frames)
  | frames => (items.set, items.depth, frames)

/-! ## Reading -/

/-- A class in reading: what waits, and the items that the innermost open bracket holds so far. Nothing
waits once the class is closed. -/
structure ClassReading where
  frames : List ClassFrame
  items : ClassItems
deriving Repr

namespace ClassReading

/-- The class with one more item. -/
def add (reading : ClassReading) (set : CharSet) : ClassReading :=
  { reading with items := reading.items.add set 0 }

/-- The class behind the sign of an operation. -/
def operate (flags : Flags) (op : SetOp) (reading : ClassReading) : ClassReading :=
  let (left, depth, frames) := closeOperation flags reading.items reading.frames
  ⟨.operation op left depth :: frames, {}⟩

/-- Closes the innermost bracket. -/
def close? (flags : Flags) (reading : ClassReading) : Option ClassReading :=
  match closeOperation flags reading.items reading.frames with
  | (set, depth, .bracket negated outer :: frames) => do
    let inner ← flags.bracket? negated set
    return ⟨frames, outer.add inner (depth + 1)⟩
  | _ => none

/-- Reads one item, bracket or sign of an operation. -/
def step? (flags : Flags) (reading : ClassReading) (cs : List Char) :
    Option (ClassReading × List Char) :=
  match SetOp.read? cs with
  | some (op, rest) => some (reading.operate flags op, rest)
  | none =>
    match cs with
    | '[' :: rest =>
      match asciiClass? rest with
      | some (negated, set, rest) => do return (reading.add (← flags.bracket? negated set), rest)
      | none => do
        let (negated, inner, rest) ← openBracket? flags rest
        return (⟨.bracket negated reading.items :: reading.frames, inner⟩, rest)
    | ']' :: rest => (reading.close? flags).map fun reading => (reading, rest)
    | cs => do
      let (item, rest) ← classRange? flags cs
      return (reading.add item, rest)

/-- Reads a class up to the bracket that closes it. -/
def run? (flags : Flags) :
    (fuel : Nat) → ClassReading → List Char → Option (ClassItems × List Char)
  | 0, _, _ => none
  | fuel + 1, reading, cs =>
    if reading.frames.isEmpty then some (reading.items, cs)
    else
      match reading.step? flags (flags.skip cs) with
      | none => none
      | some (reading, rest) => run? flags fuel reading rest

end ClassReading

/-- Reads a class, after the bracket that opens it: its set and its depth. -/
def class? (flags : Flags) (cs : List Char) : Option (CharSet × Nat × List Char) := do
  let (negated, inner, rest) ← openBracket? flags cs
  let (items, rest) ← ClassReading.run? flags (cs.length + 1) ⟨[.bracket negated {}], inner⟩ rest
  return (items.set, items.deepest, rest)

end ShiftReduce.Pattern
