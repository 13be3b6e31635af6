import ShiftReduce.Pattern.CharSet

/-!
# Patterns

A pattern is an expression over character sets and assertions about the place between two characters.
Alternatives are ordered: the first one that leads to a match is preferred. Sequences, alternatives and
repetitions are put together by `Pattern.concat`, `Pattern.choice` and `Pattern.repeated`, which bring
them into one form: a sequence holds no sequence and no empty pattern, alternatives hold no
alternatives, and what all alternatives start with is matched once, before the choice.
-/

namespace ShiftReduce

/-- A kind of place at the edge of a word. -/
inductive WordEdge
  | boundary
  | noBoundary
  | start
  | finish
  | startHalf
  | finishHalf
deriving Repr, DecidableEq

/-- An assertion about a place in a text. Lines end at a line feed or, where `carriage` says so, at a
carriage return, a line feed or both in this order. Words are made of the characters of all scripts or
of ASCII characters alone. -/
inductive Look
  | textStart
  | textEnd
  | lineStart (carriage : Bool)
  | lineEnd (carriage : Bool)
  | word (ascii : Bool) (edge : WordEdge)
deriving Repr, DecidableEq

namespace WordEdge

/-- Whether a place is an edge of a kind, by whether word characters stand before and behind it. -/
def holds (before behind : Bool) : WordEdge → Bool
  | .boundary => before != behind
  | .noBoundary => before == behind
  | .start => !before && behind
  | .finish => before && !behind
  | .startHalf => !before
  | .finishHalf => !behind

end WordEdge

namespace Look

/-- Whether the character next to a place, if there is one, is a word character. -/
def beside (ascii : Bool) (cs : List Char) : Bool :=
  cs.head?.any fun c => if ascii then c.isAlphanum || c = '_' else Text.isWord c

/-- Whether an assertion holds between the text `before`, last character first, and `rest`. -/
def holds (before rest : List Char) : Look → Bool
  | .textStart => before.isEmpty
  | .textEnd => rest.isEmpty
  | .lineStart carriage =>
    before.head?.all fun c => c == '\n' || (carriage && c == '\r' && rest.head? != some '\n')
  | .lineEnd carriage =>
    rest.head?.all fun c =>
      if carriage then c == '\r' || (c == '\n' && before.head? != some '\r') else c == '\n'
  | .word ascii edge => edge.holds (beside ascii before) (beside ascii rest)

/-- Whether an assertion holds at a place whatever stands behind it. -/
def settled (before : List Char) : Look → Bool
  | .textStart => before.isEmpty
  | .lineStart _ => before.head?.all (· == '\n')
  | .word ascii .startHalf => !beside ascii before
  | _ => false

end Look

/-- A pattern. `times` matches its body `least` times or more, up to `most` times if that is given; a
greedy one prefers to go on. A group has the number of its opening parenthesis. -/
inductive Pattern
  | empty
  | oneOf (chars : CharSet)
  | look (assertion : Look)
  | seq (a b : Pattern)
  | alt (a b : Pattern)
  | times (greedy : Bool) (least : Nat) (most : Option Nat) (body : Pattern)
  | group (number : Nat) (body : Pattern)
deriving Repr, DecidableEq, Inhabited

namespace Pattern

/-- The least number of characters that a pattern matches; none if it holds a set that matches
nothing. -/
def minLength? : Pattern → Option Nat
  | .empty | .look _ => some 0
  | .oneOf chars => if chars.isEmpty then none else some 1
  | .seq a b => do return (← a.minLength?) + (← b.minLength?)
  | .alt a b => do return min (← a.minLength?) (← b.minLength?)
  | .times _ least _ body => body.minLength?.map (least * ·)
  | .group _ body => body.minLength?

/-- The greatest number of characters that a pattern matches, if it is bounded. -/
def maxLength? : Pattern → Option Nat
  | .empty | .look _ => some 0
  | .oneOf chars => if chars.isEmpty then none else some 1
  | .seq a b => do return (← a.maxLength?) + (← b.maxLength?)
  | .alt a b => do return max (← a.maxLength?) (← b.maxLength?)
  | .times _ _ most body => do return (← most) * (← body.maxLength?)
  | .group _ body => body.maxLength?

/-! ## Sequences -/

/-- The parts of a sequence. -/
def parts : Pattern → List Pattern
  | .empty => []
  | .seq a b => a.parts ++ b.parts
  | p => [p]

/-- Parts one after the other. -/
def chain : List Pattern → Pattern
  | [] => .empty
  | [p] => p
  | p :: ps => .seq p (chain ps)

/-- Patterns one after the other. -/
def concat (ps : List Pattern) : Pattern := chain (ps.flatMap parts)

/-- Whether a pattern is a single character. -/
def isLiteral : Pattern → Bool
  | .oneOf chars => chars.isSingle
  | _ => false

/-- The number of pieces of a sequence, where literal characters in a row are one piece. -/
def pieces : List Pattern → Nat
  | [] => 0
  | p :: ps => if p.isLiteral && ps.head?.any isLiteral then pieces ps else pieces ps + 1

/-- Whether a pattern has several pieces. -/
def isSequence (p : Pattern) : Bool := 1 < pieces p.parts

/-! ## Alternatives -/

/-- The alternatives of a pattern. -/
def alternatives : Pattern → List Pattern
  | .alt a b => a.alternatives ++ b.alternatives
  | p => [p]

/-- The set of a pattern that is one. -/
def set? : Pattern → Option CharSet
  | .oneOf chars => some chars
  | _ => none

/-- One of the alternatives, the first that leads to a match. -/
def ordered : List Pattern → Pattern
  | [] => .oneOf .empty
  | [p] => p
  | p :: ps => .alt p (ordered ps)

/-- The first alternative that leads to a match; a choice between sets is their union. -/
def oneAmong (ps : List Pattern) : Pattern :=
  let ps := ps.flatMap alternatives
  match ps.mapM set? with
  | some sets => .oneOf (.unions sets)
  | none => ordered ps

/-- What two lists have in common at their start. -/
def commonStart : List Pattern → List Pattern → List Pattern
  | p :: ps, q :: qs => if p = q then p :: commonStart ps qs else []
  | _, _ => []

/-- What all alternatives start with, if each of them is a sequence. -/
def sharedStart : List Pattern → List Pattern
  | [] => []
  | p :: ps =>
    if (p :: ps).all isSequence then ps.foldl (fun shared q => commonStart shared q.parts) p.parts
    else []

/-- The first pattern that leads to a match. What all of them start with stands before the choice, so
the alternatives are tried anew for each way to match it. -/
def choice (ps : List Pattern) : Pattern :=
  let ps := ps.flatMap alternatives
  match ps, sharedStart ps with
  | [p], _ => p
  | ps, [] => oneAmong ps
  | ps, shared => concat (shared ++ [oneAmong (ps.map fun p => chain (p.parts.drop shared.length))])

/-! ## Repetitions -/

/-- A pattern `least` times or more, up to `most` times if that is given. What matches no character is
matched once at most. -/
def repeated (greedy : Bool) (least : Nat) (most : Option Nat) (p : Pattern) : Pattern :=
  let (least, most) :=
    if p.maxLength? = some 0 then (min least 1, some (min (most.getD 1) 1)) else (least, most)
  if most = some 0 then .empty
  else if least = 1 ∧ most = some 1 then p
  else .times greedy least most p

end Pattern

end ShiftReduce
