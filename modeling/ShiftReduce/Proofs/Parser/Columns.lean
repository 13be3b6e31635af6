import ShiftReduce.Parser.Stack

/-!
# A stack as four lists

The symbols, the states, the values and the locations of a stack, each from the bottom up, are four lists
(`Columns`). Whatever is done to the slots of a stack can be done to each of these lists by itself: a push
puts something behind each, a cut takes the first of each, and other values are written into one of them
alone (`Columns.ofSlots_overwrite`).
-/

namespace ShiftReduce

variable {V : Type}

/-! ## Stacks from the bottom up -/

namespace Stack

/-- There are as many slots as the stack is high. -/
@[simp] theorem length_slots (stack : Stack V) : stack.slots.length = stack.length :=
  List.length_reverse

/-- A push puts its slot behind the others. -/
@[simp] theorem slots_cons (slot : Slot V) (stack : Stack V) :
    slots (slot :: stack) = stack.slots ++ [slot] := List.reverse_cons

/-- The slots that are left below the top `n`. -/
theorem slots_drop (stack : Stack V) (n : Nat) :
    slots (stack.drop n) = stack.slots.take (stack.length - n) := List.reverse_drop

/-- The top `n` slots. -/
theorem slots_take (stack : Stack V) (n : Nat) :
    slots (stack.take n) = stack.slots.drop (stack.length - n) := List.reverse_take

/-- A stack that is cut is not higher than it was, nor than it is cut to. -/
theorem length_truncate (stack : Stack V) (height : Nat) :
    (stack.truncate height).length = min height stack.length := by
  rw [← length_slots, slots_truncate, List.length_take, length_slots]

/-- Taking the value on top keeps the height. -/
theorem length_takeTop [Inhabited V] (stack : Stack V) : stack.takeTop?.2.length = stack.length := by
  cases stack <;> rfl

/-- A stack with the values of its top slots overwritten, the lowest of them first. -/
def overwrite (stack : Stack V) (values : List V) : Stack V :=
  List.zipWith (fun slot value => { slot with value }) (stack.take values.length) values.reverse ++
    stack.drop values.length

/-- To change the value of each top slot is to overwrite the values with the changed ones. -/
theorem mapWindow_eq_overwrite (stack : Stack V) (n : Nat) (f : V → V) :
    stack.mapWindow n f = stack.overwrite ((slots (stack.take n)).map fun slot => f slot.value) := by
  unfold mapWindow overwrite slots
  rw [List.map_reverse, List.reverse_reverse, List.length_reverse, List.length_map, List.length_take,
    ← List.take_eq_take_min, ← List.drop_eq_drop_min, List.zipWith_map_right, List.zipWith_self]

/-- Overwriting changes the values of the top slots, and leaves the slots below as they are. -/
theorem slots_overwrite {stack : Stack V} {values : List V} (fits : values.length ≤ stack.length) :
    (stack.overwrite values).slots = stack.slots.take (stack.length - values.length) ++
      List.zipWith (fun slot value => { slot with value })
        (stack.slots.drop (stack.length - values.length)) values := by
  have hsame : (stack.take values.length).length = values.reverse.length := by
    rw [List.length_take_of_le fits, List.length_reverse]
  rw [← slots_drop, ← slots_take]
  unfold overwrite slots
  rw [List.reverse_append, List.reverse_zipWith hsame, List.reverse_reverse]

/-- Overwriting keeps the height. -/
theorem length_overwrite {stack : Stack V} {values : List V} (fits : values.length ≤ stack.length) :
    (stack.overwrite values).length = stack.length := by
  rw [← length_slots, slots_overwrite fits, List.length_append, List.length_take, List.length_zipWith,
    List.length_drop, length_slots]
  omega

/-- Changing values keeps the height. -/
theorem length_mapWindow (stack : Stack V) (n : Nat) (f : V → V) :
    (stack.mapWindow n f).length = stack.length := by
  rw [mapWindow, List.length_append, List.length_map, ← List.length_append, List.take_append_drop]

end Stack

/-! ## Four lists -/

/-- The symbols, the states, the values and the locations of some slots, from the bottom up. -/
structure Columns (V : Type) where
  symbols : List SymbolId := []
  states : List StateId := []
  values : List V := []
  locations : List Location := []

namespace Columns

/-- The four lists of some slots, from the bottom up. -/
def ofSlots (slots : List (Slot V)) : Columns V where
  symbols := slots.map (·.symbol)
  states := slots.map (·.state)
  values := slots.map (·.value)
  locations := slots.map (·.location)

/-- Each of four lists with another one behind it. Reference: `ParseStacks::push`. -/
def append (columns more : Columns V) : Columns V where
  symbols := columns.symbols ++ more.symbols
  states := columns.states ++ more.states
  values := columns.values ++ more.values
  locations := columns.locations ++ more.locations

/-- The first `n` of each of four lists. Reference: `ParseStacks::truncate`. -/
def take (columns : Columns V) (n : Nat) : Columns V where
  symbols := columns.symbols.take n
  states := columns.states.take n
  values := columns.values.take n
  locations := columns.locations.take n

/-- Each of four lists without its first `n`. Reference: the draining in `RecoveryTrack::pop_from`.
-/
def drop (columns : Columns V) (n : Nat) : Columns V where
  symbols := columns.symbols.drop n
  states := columns.states.drop n
  values := columns.values.drop n
  locations := columns.locations.drop n

/-- Four lists of one length. Reference: the lock-step of `ParseStacks`. -/
structure Even (columns : Columns V) (n : Nat) : Prop where
  symbols : columns.symbols.length = n
  states : columns.states.length = n
  values : columns.values.length = n
  locations : columns.locations.length = n

/-- The lists of slots are as long as there are slots. -/
theorem even_ofSlots (slots : List (Slot V)) : (ofSlots slots).Even slots.length :=
  ⟨List.length_map _, List.length_map _, List.length_map _, List.length_map _⟩

/-- Slots behind others are put behind them in each list. -/
theorem ofSlots_append (slots more : List (Slot V)) :
    ofSlots (slots ++ more) = (ofSlots slots).append (ofSlots more) := by
  simp [ofSlots, append]

/-- The first slots are the first of each list. -/
theorem ofSlots_take (slots : List (Slot V)) (n : Nat) :
    ofSlots (slots.take n) = (ofSlots slots).take n := by
  simp [ofSlots, take, List.map_take]

/-- The slots behind the first ones are those behind them in each list. -/
theorem ofSlots_drop (slots : List (Slot V)) (n : Nat) :
    ofSlots (slots.drop n) = (ofSlots slots).drop n := by
  simp [ofSlots, drop, List.map_drop]

/-- Slots whose values are overwritten differ in the list of values only. -/
theorem ofSlots_zipWith {slots : List (Slot V)} {values : List V}
    (same : slots.length = values.length) :
    ofSlots (List.zipWith (fun slot value => { slot with value }) slots values) =
      { ofSlots slots with values } := by
  induction slots generalizing values with
  | nil => simp [ofSlots, List.length_eq_zero_iff.mp same.symm]
  | cons slot slots ih =>
    cases values with
    | nil => cases same
    | cons value values =>
      have hrest := ih (Nat.succ.inj same)
      simp only [ofSlots, Columns.mk.injEq] at hrest
      simp [ofSlots, hrest]

/-- To take the value on top is to put the default value at the end of the list of values. -/
theorem ofSlots_takeTop [Inhabited V] (stack : Stack V) :
    ofSlots (stack.takeTop?.2).slots =
      { ofSlots stack.slots with
        values := (ofSlots stack.slots).values.set (stack.length - 1) default } := by
  cases stack with
  | nil => simp [Stack.takeTop?, Stack.slots, ofSlots]
  | cons slot rest => simp [Stack.takeTop?, ofSlots]

/-- To overwrite values is to overwrite the end of the list of values. -/
theorem ofSlots_overwrite {stack : Stack V} {values : List V} (fits : values.length ≤ stack.length) :
    ofSlots (stack.overwrite values).slots =
      { ofSlots stack.slots with
        values := (ofSlots stack.slots).values.take (stack.length - values.length) ++ values } := by
  have hsame : (stack.slots.drop (stack.length - values.length)).length = values.length := by
    rw [List.length_drop, Stack.length_slots]
    omega
  rw [Stack.slots_overwrite fits, ofSlots_append, ofSlots_zipWith hsame]
  simp [append, ofSlots, List.map_take, List.map_drop]

/-- To change values is to change the end of the list of values. -/
theorem ofSlots_mapWindow {stack : Stack V} {n : Nat} (fits : n ≤ stack.length) (f : V → V) :
    ofSlots (stack.mapWindow n f).slots =
      { ofSlots stack.slots with
        values := (ofSlots stack.slots).values.take (stack.length - n) ++
          ((ofSlots stack.slots).values.drop (stack.length - n)).map f } := by
  have hcount : ((Stack.slots (stack.take n)).map fun slot => f slot.value).length = n := by
    rw [List.length_map, Stack.length_slots, List.length_take_of_le fits]
  have hvalues : ((ofSlots stack.slots).values.drop (stack.length - n)).map f =
      (Stack.slots (stack.take n)).map fun slot => f slot.value := by
    rw [Stack.slots_take, ofSlots, ← List.map_drop, List.map_map]
    rfl
  rw [Stack.mapWindow_eq_overwrite, ofSlots_overwrite (hcount.symm ▸ fits), hcount, hvalues]

end Columns

end ShiftReduce
