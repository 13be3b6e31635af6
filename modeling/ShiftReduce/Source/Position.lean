/-!
# Positions and locations

A position is a line and a column; a location is the span between two positions, which may also carry
the span in characters. `Location.merge` covers both of its arguments (`Location.merge_start_le`,
`Location.le_merge_end`), and collapsing a location leaves the empty span at its end.
-/

namespace ShiftReduce

/-- A place in a text: lines count from one, columns from nought, both in characters. Reference:
`Position`. -/
structure Position where
  line : Nat := 1
  column : Nat := 0
deriving Repr, DecidableEq, Inhabited

namespace Position

/-- Positions are ordered by line, then by column. -/
instance : LE Position := ⟨fun a b => a.line < b.line ∨ a.line = b.line ∧ a.column ≤ b.column⟩

theorem le_def {a b : Position} :
    a ≤ b ↔ a.line < b.line ∨ a.line = b.line ∧ a.column ≤ b.column := Iff.rfl

instance (a b : Position) : Decidable (a ≤ b) := decidable_of_iff' _ le_def

theorem le_refl (a : Position) : a ≤ a := .inr ⟨rfl, Nat.le_refl _⟩

theorem le_trans {a b c : Position} (hab : a ≤ b) (hbc : b ≤ c) : a ≤ c := by
  simp only [le_def] at *; omega

theorem le_total (a b : Position) : a ≤ b ∨ b ≤ a := by
  simp only [le_def]; omega

theorem le_antisymm {a b : Position} (hab : a ≤ b) (hba : b ≤ a) : a = b := by
  cases a; cases b; simp only [le_def, Position.mk.injEq] at *; omega

/-- The earlier of two positions. Reference: `Location::merge`. -/
def earlier (a b : Position) : Position := if a ≤ b then a else b

/-- The later of two positions. Reference: `Location::merge`. -/
def later (a b : Position) : Position := if b ≤ a then a else b

theorem earlier_le_left (a b : Position) : a.earlier b ≤ a := by
  unfold earlier; split
  · exact le_refl a
  · exact (le_total a b).resolve_left ‹_›

theorem earlier_le_right (a b : Position) : a.earlier b ≤ b := by
  unfold earlier; split
  · assumption
  · exact le_refl b

theorem le_later_left (a b : Position) : a ≤ a.later b := by
  unfold later; split
  · exact le_refl a
  · exact (le_total a b).resolve_right ‹_›

theorem le_later_right (a b : Position) : b ≤ a.later b := by
  unfold later; split
  · assumption
  · exact le_refl b

end Position

/-- A span of a text, its end excluded. The span in characters is there only when it was asked for.
Reference: `Location`. -/
structure Location where
  start : Position := {}
  stop : Position := {}
  range : Option (Nat × Nat) := none
deriving Repr, DecidableEq, Inhabited

namespace Location

/-- The empty span at the end of a location. Reference: `Location::collapse`. -/
def collapse (loc : Location) : Location :=
  ⟨loc.stop, loc.stop, loc.range.map fun (_, stop) => (stop, stop)⟩

/-- A span that ends where it starts. Reference: `Location::is_empty`. -/
def isEmpty (loc : Location) : Bool := loc.start == loc.stop

theorem collapse_collapse (loc : Location) : loc.collapse.collapse = loc.collapse := by
  cases loc with | mk start stop range => cases range <;> rfl

/-- The span of characters that covers two others; one that is missing covers nothing. Reference:
`Location::merge`. -/
def mergeRange : Option (Nat × Nat) → Option (Nat × Nat) → Option (Nat × Nat)
  | some (a, b), some (c, d) => some (min a c, max b d)
  | some r, none => some r
  | none, r => r

/-- The span that covers two others, whichever comes first. Reference: `Location::merge`. -/
def merge (a b : Location) : Location :=
  ⟨a.start.earlier b.start, a.stop.later b.stop, mergeRange a.range b.range⟩

theorem merge_start_le (a b : Location) :
    (a.merge b).start ≤ a.start ∧ (a.merge b).start ≤ b.start :=
  ⟨Position.earlier_le_left _ _, Position.earlier_le_right _ _⟩

theorem le_merge_end (a b : Location) :
    a.stop ≤ (a.merge b).stop ∧ b.stop ≤ (a.merge b).stop :=
  ⟨Position.le_later_left _ _, Position.le_later_right _ _⟩

/-- The span that covers all locations of a list, if there are any. Reference: the folding of
`Location::merge` in `RecoveryTrack::location`. -/
def cover? : List Location → Option Location
  | [] => none
  | loc :: rest => some (rest.foldl merge loc)

/-- A location as the log shows it. Reference: `Location::display`. -/
def display (loc : Location) : String :=
  s!"span {loc.start.line}:{loc.start.column} to {loc.stop.line}:{loc.stop.column}"

/-- A location as messages to a reader show it. A column of width one is named alone, and the span
in characters follows in braces. Reference: `Location::describe`. -/
def describe (loc : Location) : String :=
  let lines :=
    if loc.start.line = loc.stop.line then
      if loc.start.column + 1 = loc.stop.column then
        s!"line {loc.start.line}, column {loc.start.column}"
      else
        s!"line {loc.start.line}, columns {loc.start.column} .. {loc.stop.column}"
    else
      s!"lines {loc.start.line}(column {loc.start.column}) .. {loc.stop.line}(column {loc.stop.column})"
  match loc.range with
  | none => lines
  | some (first, stop) =>
    if first + 1 < stop then
      lines ++ s!" \x7bString Offset range: {first} .. {stop}\x7d"
    else
      lines ++ s!" \x7bString Offset: {first}\x7d"

end Location

end ShiftReduce
