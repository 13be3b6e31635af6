import ShiftReduce.Source.Position
import ShiftReduce.Grammar.Symbol

/-!
# Parse stacks

A slot of the stack holds a symbol, the state entered with it, a semantic value and a location. The
operations cut a stack from its top, look at its top slots, or write the values of those.
-/

namespace ShiftReduce

/-- One slot of a parse stack. Reference: one entry of each of the four vectors of `ParseStacks`. -/
structure Slot (V : Type) where
  symbol : SymbolId
  state : StateId
  value : V
  location : Location
deriving Repr

/-- A parse stack, top slot first. Reference: `ParseStacks`. -/
abbrev Stack (V : Type) := List (Slot V)

namespace Stack

variable {V : Type}

/-- The state on top of a stack. Reference: `ParseStacks::top_state`. -/
def topState? (stack : Stack V) : Option StateId := stack.head?.map (·.state)

/-- The slots of a stack from the bottom up, as reports list them. -/
def slots (stack : Stack V) : List (Slot V) := stack.reverse

/-- The symbols of a stack from the bottom up. Reference: `ParseStacks::symbols`. -/
def symbols (stack : Stack V) : List SymbolId := stack.slots.map (·.symbol)

/-- The states of a stack from the bottom up. Reference: `ParseStacks::states`. -/
def states (stack : Stack V) : List StateId := stack.slots.map (·.state)

/-- The values of a stack from the bottom up. Reference: `ParseStacks::values`. -/
def values (stack : Stack V) : List V := stack.slots.map (·.value)

/-- The locations of a stack from the bottom up. Reference: `ParseStacks::locations`. -/
def locations (stack : Stack V) : List Location := stack.slots.map (·.location)

/-- A stack cut down to its lowest `height` slots. Reference: `ParseStacks::truncate`. -/
def truncate (stack : Stack V) (height : Nat) : Stack V := stack.drop (stack.length - height)

/-- The value on top of a stack, which leaves the default value behind. Reference:
`ParseStacks::take_top_value`. -/
def takeTop? [Inhabited V] : Stack V → Option V × Stack V
  | [] => (none, [])
  | slot :: rest => (some slot.value, { slot with value := default } :: rest)

/-- The top `n` slots from the bottom up; none if there are not that many. Reference:
`ParseStacks::window_mut`. -/
def window? (stack : Stack V) (n : Nat) : Option (List (Slot V)) :=
  if n ≤ stack.length then some (stack.take n).reverse else none

/-- A stack with the values of its top `n` slots changed. Reference: writes through
`ParseStacks::window_mut`. -/
def mapWindow (stack : Stack V) (n : Nat) (f : V → V) : Stack V :=
  (stack.take n).map (fun slot => { slot with value := f slot.value }) ++ stack.drop n

/-- A push puts the slot's symbol after the others. -/
@[simp] theorem symbols_cons (slot : Slot V) (stack : Stack V) :
    Stack.symbols (slot :: stack) = stack.symbols ++ [slot.symbol] := by
  simp [symbols, slots]

/-- A push puts the slot's state after the others. -/
@[simp] theorem states_cons (slot : Slot V) (stack : Stack V) :
    Stack.states (slot :: stack) = stack.states ++ [slot.state] := by
  simp [states, slots]

/-- Cutting a stack keeps its lowest slots. -/
theorem slots_truncate (stack : Stack V) (height : Nat) :
    (stack.truncate height).slots = stack.slots.take height := by
  simp only [truncate, slots]
  rw [List.take_reverse]

end Stack

end ShiftReduce
