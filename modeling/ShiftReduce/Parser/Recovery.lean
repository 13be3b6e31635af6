import ShiftReduce.Lexer.Token
import ShiftReduce.Parser.Stack

/-!
# The record of a recovery

While a parser recovers from an error it keeps what it removes: the slots popped from the stack, the
token at which the error was found and the tokens discarded after it. The record outlives the popping,
so that the action of an error production can say what was skipped.
-/

namespace ShiftReduce

/-- The record of one recovery episode. It is kept when the parser is over the error, and cleared at
the next one that is reported. Reference: `RecoveryTrack`. -/
structure Recovery (V : Type) where
  /-- The height of the stack when the error was found. -/
  height : Nat := 0
  /-- The height of the stack after the last popping. -/
  base : Nat := 0
  /-- How many entries the episode has recorded. -/
  recorded : Nat := 0
  /-- The popped slots; those of each popping stand from the bottom up. -/
  popped : List (Slot V) := []
  /-- The token at which the error was found. -/
  offending : Option Token := none
  /-- The tokens thrown away after it. -/
  discarded : List Token := []
deriving Repr

namespace Recovery

variable {V : Type}

/-- The record of an episode that starts with an error token of the lexer's own: nothing is popped,
and the token is the offending one. Reference: `RecoveryTrack::begin`. -/
def beginAt (height : Nat) (token : Token) : Recovery V :=
  { height, base := height, recorded := 1, offending := some token }

/-- A stack without its top `depth` slots, and the record with these slots added. The first popping
of an episode notes the height of the stack and the offending token. Reference:
`RecoveryTrack::pop_from`. -/
def popFrom (record : Recovery V) (stack : Stack V) (depth : Nat) (offending : Token) :
    Recovery V × Stack V :=
  ({ record with
      height := if record.recorded = 0 then stack.length else record.height
      base := stack.length - depth
      recorded := record.recorded + depth + 1
      popped := record.popped ++ (stack.take depth).reverse
      offending := some (record.offending.getD offending) },
    stack.drop depth)

/-- Popping more slots than there are is refused. Reference: `RecoveryTrack::pop_from`, which fails
there. -/
def popFrom? (record : Recovery V) (stack : Stack V) (depth : Nat) (offending : Token) :
    Option (Recovery V × Stack V) :=
  if depth ≤ stack.length then some (record.popFrom stack depth offending) else none

/-- The record with a discarded token. The offending token is not recorded twice, but counted.
Reference: `RecoveryTrack::discard`. -/
def discard (record : Recovery V) (token : Token) : Recovery V :=
  { record with
    discarded :=
      if record.offending = some token then record.discarded else record.discarded ++ [token]
    recorded := record.recorded + 1 }

/-- The span of the popped slots and the offending token; none where nothing was recorded.
Reference: `RecoveryTrack::location`. -/
def location? (record : Recovery V) : Option Location :=
  Location.cover? (record.popped.map (·.location) ++ record.offending.toList.map (·.location))

/-- The texts of the offending token and of all tokens discarded after it, with blanks between them.
Reference: `RecoveryTrack::text`. -/
def text (record : Recovery V) : String :=
  " ".intercalate ((record.offending.toList ++ record.discarded).map (·.text))

end Recovery

end ShiftReduce
