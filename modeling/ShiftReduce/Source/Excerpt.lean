import ShiftReduce.Source.Position
import ShiftReduce.Text.Blank

/-!
# Excerpts of a text

How a message shows the place it is about. `showPosition` puts a caret under the border of past and
upcoming text. `prettyRange` prints the lines around a location, each marked line followed by a row of
carets; a region with many non-blank lines keeps only its first and last ones (`Excerpt.collapse`).
-/

namespace ShiftReduce

/-- Past and upcoming text on one line, with a caret under the first upcoming character. Reference:
`show_position`. -/
def showPosition (past upcoming : String) : String :=
  past ++ upcoming ++ "\n" ++ "".pushn '-' past.length ++ "^"

namespace Excerpt

/-- The lines of a text; each newline ends one. A return that stands alone does not. Reference:
`lines` in `pretty_print_range`. -/
def splitLines : List Char → List (List Char)
  | [] => [[]]
  | c :: cs =>
    if c = '\n' then [] :: splitLines cs
    else match splitLines cs with
      | [] => [[c]]
      | line :: lines => (c :: line) :: lines

/-- A text has at least one line. -/
theorem splitLines_ne_nil (cs : List Char) : splitLines cs ≠ [] := by
  cases cs with
  | nil => simp [splitLines]
  | cons c cs =>
    unfold splitLines
    split
    · simp
    · split <;> simp

/-- A line without the return that may end it. Reference: `lines` in `pretty_print_range`. -/
def dropReturn (line : List Char) : List Char :=
  if line.getLast? = some '\r' then line.dropLast else line

/-- A tab is shown as one blank, so that carets stay in their column. Reference:
`pretty_print_range`. -/
def untab (line : List Char) : List Char := line.map fun c => if c = '\t' then ' ' else c

/-- The lines of a text as an excerpt shows them. Reference: `lines` in `pretty_print_range`. -/
def shownLines (source : String) : List (List Char) :=
  (splitLines source.toList).map fun line => untab (dropReturn line)

/-- What a row of an excerpt belongs to: the lines before the location, its own, or those after.
Reference: `ExcerptLine::region`. -/
inductive Region
  | lead
  | marked
  | tail
deriving Repr, DecidableEq

/-- A row of an excerpt: a numbered line, and where its carets start and how many there are.
Reference: `ExcerptLine`. -/
structure Row where
  number : Nat
  line : List Char
  marks : Option (Nat × Nat)

/-- A line without a visible character. Such lines do not count towards the size of a region.
Reference: `ExcerptLine::nonempty`. -/
def Row.isBlank (row : Row) : Bool := row.line.all Text.isBlank

/-- The carets under line `number`, for a location that covers the lines `first` to `last`. There is
at least one on every line of the location. Reference: `mark` in `pretty_print_range`. -/
def marksOf (loc : Location) (first last number length : Nat) : Option (Nat × Nat) :=
  if number = first then
    let stop := if number = last then loc.stop.column else length
    some (loc.start.column, max (stop - loc.start.column) 1)
  else if number = last then some (0, max loc.stop.column 1)
  else if first < number ∧ number < last then some (0, max length 1)
  else none

/-- The lines `first` to `last` of a text as rows; a line beyond the text is empty. Reference: the
first loop of `pretty_print_range`. -/
def rows (lines : List (List Char)) (marks : Nat → Nat → Option (Nat × Nat)) (first last : Nat) :
    List Row :=
  (List.range' first (last + 1 - first)).map fun number =>
    let line := lines[number - 1]?.getD []
    ⟨number, line, marks number line.length⟩

/-- Non-blank lines of a region kept at each end when the region is collapsed. Reference:
`VISIBLE_LINES`. -/
def visibleLines : Nat := 2

/-- The rows up to the `n`-th non-blank one, that one included. Reference: `nonempty` in
`pretty_print_range`. -/
def takeThrough : Nat → List Row → List Row
  | _, [] => []
  | 0, _ => []
  | n + 1, row :: rest => row :: takeThrough (if row.isBlank then n + 1 else n) rest

/-- A region whole, or its two ends if there are too many non-blank rows in it. Reference: the
second loop of `pretty_print_range`. -/
def collapse (region : List Row) : List Row ⊕ List Row × List Row :=
  if 2 * visibleLines < region.countP (!·.isBlank) then
    .inr (takeThrough visibleLines region, (takeThrough visibleLines region.reverse).reverse)
  else .inl region

/-- A number right-aligned in `width` columns. -/
def padLeft (width : Nat) (s : String) : String := "".pushn ' ' (width - s.length) ++ s

/-- A row as printed, labels being `width` columns wide: the line, and below it the carets if it has
any. Reference: the first loop of `pretty_print_range`. -/
def Row.render (width : Nat) (row : Row) : String :=
  let label := padLeft width (toString row.number) ++ ": " ++ String.ofList row.line
  match row.marks with
  | none => label
  | some (column, length) =>
    label ++ "\n" ++ "".pushn '^' width ++ "".pushn '.' (2 + column) ++ "".pushn '^' length

/-- What is printed in the place of hidden rows; the marked region has a second line for its carets.
Reference: the last loop of `pretty_print_range`. -/
def placeholder (width : Nat) (region : Region) : String :=
  "".pushn ' ' width ++ "  (...continued...)" ++
    if region = .marked then "\n" ++ "".pushn '-' width ++ "  (---------------)" else ""

/-- The printed rows of a region. Reference: the last loop of `pretty_print_range`. -/
def renderRegion (width : Nat) (region : Region) (rows : List Row) : List String :=
  match collapse rows with
  | .inl rows => rows.map (·.render width)
  | .inr (head, tail) =>
    head.map (·.render width) ++ placeholder width region :: tail.map (·.render width)

/-- The first line of an excerpt, the first and last lines of its location, and its last line.
Reference: `l0`, `first`, `last` and `l1` in `pretty_print_range`. -/
structure Window where
  start : Nat
  first : Nat
  last : Nat
  stop : Nat

/-- The window of `lead` lines before a location and `tail` lines after it, in a text of `count`
lines. It does not end before it starts. Reference: `pretty_print_range`. -/
def Window.of (loc : Location) (lead tail count : Nat) : Window :=
  let first := max loc.start.line 1
  let last := max loc.stop.line first
  let low := max (first - lead) 1
  ⟨low, first, last, max (min (last + tail) count) low⟩

end Excerpt

open Excerpt in
/-- The lines of a text around a location, numbered, with carets under the location, with `lead`
lines before it and `tail` lines after it. Reference: `pretty_print_range`. -/
def prettyRange (source : String) (loc : Location) (lead tail : Nat) : String :=
  let lines := shownLines source
  let window := Window.of loc lead tail lines.length
  let all := rows lines (marksOf loc window.first window.last) window.start window.stop
  let width := (toString window.stop).length
  "\n".intercalate <|
    renderRegion width .lead (all.filter (·.number < window.first)) ++
    renderRegion width .marked (all.filter fun row =>
      window.first ≤ row.number ∧ row.number ≤ window.last) ++
    renderRegion width .tail (all.filter (window.last < ·.number))

end ShiftReduce
