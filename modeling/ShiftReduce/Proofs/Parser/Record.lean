import Mathlib.Algebra.GroupWithZero.Nat
import ShiftReduce.Parser.Recovery
import ShiftReduce.Proofs.Parser.Columns

/-!
# What the record of a recovery tells

Since a record was begun or cleared last, slots were popped off a stack and tokens were thrown away. A
list of this is an `Episode`, and what the record holds can be read off it (`Recovery.Tells`): the popped
slots in the order of the poppings, the token at which the error was found, the tokens thrown away but for
that one, the height at which the error was found if a popping or a beginning stands first, the height that
the last popping left, and the number of entries. Popping and throwing away keep this
(`Recovery.Tells.popFrom`, `Recovery.Tells.discard`).
-/

namespace ShiftReduce.Recovery

variable {V : Type}

/-! ## Episodes -/

/-- The top `depth` slots are popped off a stack, because of a token that does not fit. -/
structure Popping (V : Type) where
  stack : Stack V
  depth : Nat
  token : Token

namespace Popping

/-- The height of the stack that a popping leaves. Reference: `RecoveryTrack::base_pointer`. -/
def base (p : Popping V) : Nat := p.stack.length - p.depth

/-- The slots that a popping removes, from the bottom up, as they are recorded. -/
def slots (p : Popping V) : List (Slot V) := p.stack.slots.drop p.base

end Popping

/-- What goes into a record: the slots of a popping, or a token that is thrown away. -/
inductive Entry (V : Type)
  | popped (popping : Popping V)
  | discarded (token : Token)

namespace Entry

/-- The popping that an entry is of, if it is of one. Reference: `RecoveryTrack::pop_from`. -/
def popping? : Entry V → Option (Popping V)
  | popped popping => some popping
  | discarded _ => none

/-- The token that an entry throws away, if it is of one. Reference: `RecoveryTrack::discard`. -/
def discarded? : Entry V → Option Token
  | popped _ => none
  | discarded token => some token

end Entry

/-- What happened since a record was begun or cleared last: the height and the token that it was begun
with, if it was, and its entries in their order. -/
structure Episode (V : Type) where
  opening : Option (Nat × Token) := none
  entries : List (Entry V) := []

namespace Episode

/-- The poppings of an episode, in their order. -/
def poppings (e : Episode V) : List (Popping V) := e.entries.filterMap (·.popping?)

/-- An episode up to its first `n` entries; its beginning stays the same. -/
def upTo (e : Episode V) (n : Nat) : Episode V := { e with entries := e.entries.take n }

/-- The height at which the error was found: the one that the record was begun with, or that of the
stack of the first popping, if nothing stands before it. -/
def height? (e : Episode V) : Option Nat :=
  (e.opening.map (·.1)).or ((e.entries.head?.bind (·.popping?)).map (·.stack.length))

/-- The height after the last popping; before the first one it is the height that the episode began
at, if it was told. -/
def base? (e : Episode V) : Option Nat :=
  (e.poppings.getLast?.map (·.base)).or (e.opening.map (·.1))

/-- The number of entries: one for the beginning, one for each popped slot, for each popping and for each
token that is thrown away. -/
def recorded (e : Episode V) : Nat :=
  e.opening.toList.length + (e.poppings.map (·.depth + 1)).sum +
    (e.entries.filterMap (·.discarded?)).length

/-- The token at which the error was found: that of the beginning or of the first popping. -/
def offending? (e : Episode V) : Option Token :=
  (e.opening.map (·.2)).or (e.poppings.head?.map (·.token))

/-- The tokens that were thrown away, but for those that were the offending one by then. -/
def discarded (e : Episode V) : List Token :=
  (e.entries.zipIdx.filter fun (entry, place) =>
    decide ((e.upTo place).offending? ≠ entry.discarded?)).filterMap (·.1.discarded?)

/-- An episode with one more entry behind the others. -/
def add (e : Episode V) (entry : Entry V) : Episode V := { e with entries := e.entries ++ [entry] }

/-! ## One more entry -/

/-- A popping is put behind the others. -/
theorem poppings_add (e : Episode V) (entry : Entry V) :
    (e.add entry).poppings = e.poppings ++ entry.popping?.toList := by
  unfold poppings add
  rw [List.filterMap_append]
  cases entry <;> rfl

/-- Nothing is counted exactly where nothing happened. -/
theorem recorded_eq_zero {e : Episode V} : e.recorded = 0 ↔ e = {} := by
  obtain ⟨opening, entries⟩ := e
  cases opening with
  | some opening => simp [recorded]
  | none =>
    cases entries with
    | nil => simp [recorded, poppings]
    | cons entry entries =>
      cases entry <;> simp [recorded, poppings, Entry.popping?, Entry.discarded?]

/-- A popping counts for itself and for its slots, a token that is thrown away counts once. -/
theorem recorded_add (e : Episode V) (entry : Entry V) :
    (e.add entry).recorded = e.recorded + (entry.popping?.map (·.depth)).getD 0 + 1 := by
  have hentries : (e.add entry).entries = e.entries ++ [entry] := rfl
  have hopening : (e.add entry).opening = e.opening := rfl
  unfold recorded
  rw [poppings_add, hentries, hopening, List.map_append, List.sum_append, List.filterMap_append,
    List.length_append]
  cases entry <;> simp [Entry.popping?, Entry.discarded?] <;> omega

/-- Only an entry with nothing before it can tell the height. -/
theorem height?_add (e : Episode V) (entry : Entry V) :
    (e.add entry).height? =
      if e.recorded = 0 then entry.popping?.map (·.stack.length) else e.height? := by
  by_cases hnothing : e.recorded = 0
  · rw [if_pos hnothing, recorded_eq_zero.mp hnothing]
    rfl
  · rw [if_neg hnothing]
    obtain ⟨opening, entries⟩ := e
    cases opening with
    | some opening => rfl
    | none =>
      cases entries with
      | nil => exact absurd rfl hnothing
      | cons first rest => rfl

/-- The last popping tells the base. -/
theorem base?_add (e : Episode V) (entry : Entry V) :
    (e.add entry).base? = (entry.popping?.map (·.base)).or e.base? := by
  unfold base?
  rw [poppings_add, List.getLast?_append, Option.map_or, Option.or_assoc]
  cases entry <;> rfl

/-- The first popping tells the offending token, unless the beginning does. -/
theorem offending?_add (e : Episode V) (entry : Entry V) :
    (e.add entry).offending? = e.offending?.or (entry.popping?.map (·.token)) := by
  unfold offending?
  rw [poppings_add, List.head?_append, Option.map_or, Option.or_assoc]
  cases entry <;> rfl

/-- A token that is thrown away is put behind the others, unless it is the offending one by then.
What is offending by then is told by the entries before it, and one more entry does not change what
was offending at an earlier one. -/
theorem discarded_add (e : Episode V) (entry : Entry V) :
    (e.add entry).discarded =
      e.discarded ++ if e.offending? = entry.discarded? then [] else entry.discarded?.toList := by
  have hentries : (e.add entry).entries = e.entries ++ [entry] := rfl
  -- What was offending at an earlier entry is told by the entries before that one.
  have hearlier : ∀ numbered ∈ e.entries.zipIdx,
      decide (((e.add entry).upTo numbered.2).offending? ≠ numbered.1.discarded?) =
        decide ((e.upTo numbered.2).offending? ≠ numbered.1.discarded?) := by
    rintro ⟨earlier, place⟩ hmem
    have hplace : place < e.entries.length := by
      have hbound := (List.mem_zipIdx hmem).2.1
      rwa [Nat.zero_add] at hbound
    have hsame : (e.add entry).upTo place = e.upTo place := by
      rw [upTo, hentries, List.take_append_of_le_length (Nat.le_of_lt hplace)]
      rfl
    rw [hsame]
  have hlast : (e.add entry).upTo e.entries.length = e := by
    rw [upTo, hentries, List.take_left]
    rfl
  unfold discarded
  rw [hentries, List.zipIdx_append, List.filter_append, List.filterMap_append,
    List.filter_congr hearlier, List.zipIdx_singleton, Nat.zero_add]
  congr 1
  by_cases hoffending : e.offending? = entry.discarded?
  · rw [if_pos hoffending, List.filter_cons_of_neg (by simp [hlast, hoffending])]
    rfl
  · rw [if_neg hoffending, List.filter_cons_of_pos (by simp [hlast, hoffending])]
    cases entry <;> rfl

end Episode

/-! ## The record of an episode -/

/-- A record holds what an episode tells. Heights that the episode does not tell are nought. -/
structure Tells (record : Recovery V) (e : Episode V) : Prop where
  height : record.height = e.height?.getD 0
  base : record.base = e.base?.getD 0
  recorded : record.recorded = e.recorded
  popped : record.popped = e.poppings.flatMap (·.slots)
  offending : record.offending = e.offending?
  discarded : record.discarded = e.discarded

namespace Tells

variable {record : Recovery V} {e : Episode V}

/-- A cleared record tells of nothing. -/
theorem cleared : Tells ({} : Recovery V) {} := ⟨rfl, rfl, rfl, rfl, rfl, rfl⟩

/-- A record that is begun tells of its beginning. -/
theorem beginAt (height : Nat) (token : Token) :
    Tells (.beginAt height token : Recovery V) { opening := some (height, token) } :=
  ⟨rfl, rfl, rfl, rfl, rfl, rfl⟩

/-- A record tells of the slots that it gains. -/
theorem popFrom (h : record.Tells e) (stack : Stack V) (depth : Nat) (token : Token) :
    (record.popFrom stack depth token).1.Tells (e.add (.popped ⟨stack, depth, token⟩)) where
  height := by
    show (if record.recorded = 0 then stack.length else record.height) = _
    rw [Episode.height?_add, h.recorded, h.height]
    split <;> rfl
  base := by
    rw [Episode.base?_add]
    rfl
  recorded := by
    rw [Episode.recorded_add, ← h.recorded]
    rfl
  popped := by
    show record.popped ++ Stack.slots (stack.take depth) = _
    rw [Episode.poppings_add, List.flatMap_append, ← h.popped, Stack.slots_take]
    simp [Entry.popping?, Popping.slots, Popping.base]
  offending := by
    show some (record.offending.getD token) = _
    rw [Episode.offending?_add, ← h.offending]
    cases record.offending <;> rfl
  discarded := by
    show record.discarded = _
    rw [Episode.discarded_add, ← h.discarded]
    split <;> exact (List.append_nil _).symm

/-- A record tells of a token that is thrown away. It is one more entry even where it is the
offending one, which is not listed a second time. -/
theorem discard (h : record.Tells e) (token : Token) :
    (record.discard token).Tells (e.add (.discarded token)) where
  height := by
    show record.height = _
    rw [Episode.height?_add, h.height]
    split
    case isTrue hnothing =>
      rw [Episode.recorded_eq_zero.mp hnothing]
      rfl
    case isFalse => rfl
  base := by
    rw [Episode.base?_add]
    exact h.base
  recorded := by
    rw [Episode.recorded_add, ← h.recorded]
    rfl
  popped := by
    rw [Episode.poppings_add, List.flatMap_append, ← h.popped]
    exact (List.append_nil _).symm
  offending := by
    rw [Episode.offending?_add, ← h.offending]
    exact Option.or_none.symm
  discarded := by
    show (if record.offending = some token then record.discarded else record.discarded ++ [token]) = _
    rw [Episode.discarded_add, ← h.offending, ← h.discarded]
    by_cases hoffending : record.offending = some token <;> simp [hoffending, Entry.discarded?]

end Tells

end ShiftReduce.Recovery
