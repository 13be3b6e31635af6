import Mathlib.Data.List.ReduceOption
import ShiftReduce.Proofs.Calculator.Reply

/-!
# What lines with errors leave

A line that is no sum leaves the texts from the first item on that does not fit into one
(`Calculator.spoiled`). A calculator leaves that of a line only if the last error is over by then: up to
there a further error adds to the record of the earlier one, which is left again by the later line
(`Calculator.losses`). The same is told item by item (`Calculator.due`), which is how a parser comes to it
(`Calculator.due_eq_losses`). Where every error is found when the last one is over, each line leaves what is
its own (`Calculator.losses_of_apart`).
-/

namespace ShiftReduce.Calculator

/-- The text of an item; a fault in the input is an error token, whose text is not told here. -/
def Item.text : Item → String
  | number text => text
  | sign op => op.sign
  | semicolon => ";"
  | fault => ""

/-! ## Line by line -/

/-- The items of a line that are behind the longest start of a sum. -/
def unfit (numberFirst : Bool) (line : List Item) : List Item :=
  line.drop (viable numberFirst line).length

/-- The texts of a line from the first item on that does not fit. If all of them fit, that is the
semicolon. -/
def spoiled (numberFirst : Bool) (line : List Item) : List String :=
  if unfit numberFirst line = [] then [Item.semicolon.text] else (unfit numberFirst line).map Item.text

/-- The record behind a line with an error, from which on `left` tokens are to be shifted until the error
before is over. -/
def recordBehind (numberFirst : Bool) (left : Nat) (record : List String) (line : List Item) :
    List String :=
  if left ≤ (viable numberFirst line).length then spoiled numberFirst line
  else record ++ (unfit numberFirst line).map Item.text

/-- What a line with an error leaves of a record. Where an error is over with the shift of the semicolon,
nothing is left of it. -/
def lossOf (quiet : Nat) (record : List String) : String :=
  if quiet ≤ 1 then "" else " ".intercalate record

/-- What lines leave, and nothing for those that are sums: `left` tokens are to be shifted until the last
error is over, and there is a record of it. -/
def losses (quiet left : Nat) (record : List String) : List (List Item) → List (Option String)
  | [] => []
  | line :: lines =>
    if isSum line then none :: losses quiet (left - (line.length + 1)) record lines
    else
      some (lossOf quiet (recordBehind true left record line)) ::
        losses quiet (quiet - 1) (recordBehind true left record line) lines

/-- Whether in each line that is no sum the error is found when the last one is over. -/
def apart (quiet left : Nat) : List (List Item) → Bool
  | [] => true
  | line :: lines =>
    if isSum line then apart quiet (left - (line.length + 1)) lines
    else decide (left ≤ (viable true line).length) && apart quiet (quiet - 1) lines

section
variable {quiet left : Nat} {record : List String} {line : List Item} {lines : List (List Item)}

/-- There is something left of each line that is no sum. -/
theorem isNone_losses (lines : List (List Item)) :
    (losses quiet left record lines).map Option.isNone = lines.map isSum := by
  induction lines generalizing left record with
  | nil => rfl
  | cons line lines ih =>
    rw [losses, List.map_cons]
    split
    · next hsum => rw [List.map_cons, ih, hsum, Option.isNone_none]
    · next hsum => rw [List.map_cons, ih, eq_false_of_ne_true hsum, Option.isNone_some]

/-- Where the errors are apart, each line leaves what is its own. -/
theorem losses_of_apart (several : 2 ≤ quiet) (h : apart quiet left lines = true) :
    (losses quiet left record lines).reduceOption =
      (lines.filter fun line => !isSum line).map fun line => " ".intercalate (spoiled true line) := by
  induction lines generalizing left record with
  | nil => rfl
  | cons line lines ih =>
    rw [losses]
    rw [apart] at h
    split at h
    · next hsum =>
      rw [if_pos hsum, List.reduceOption_cons_of_none, ih h, List.filter_cons_of_neg (by simp [hsum])]
    · next hsum =>
      obtain ⟨hover, hothers⟩ := Bool.and_eq_true_iff.mp h
      rw [if_neg hsum, List.reduceOption_cons_of_some, ih hothers, List.filter_cons_of_pos (by simp [hsum]),
        List.map_cons, recordBehind, if_pos (of_decide_eq_true hover), lossOf, if_neg (by omega)]

end

/-! ## Item by item -/

/-- What a line goes on with, as long as it is a sum, and behind an error. -/
inductive Awaited
  /-- At its start, or behind a sign. -/
  | number
  /-- A sign, or its end. -/
  | sign
  /-- Nothing but its end, behind an error. -/
  | ending
deriving Repr, DecidableEq

/-- What comes behind an item that fits; none if it does not fit, which is where an error is found.
-/
def Awaited.next? : Awaited → Item → Option Awaited
  | number, .number _ => some sign
  | sign, .sign _ => some number
  | sign, .semicolon => some number
  | _, _ => none

/-- The record of an error with an item that is thrown away. A semicolon is not. -/
def recordWith (record : List String) : Item → List String
  | .semicolon => record
  | item => record ++ [item.text]

/-- The record with an item that does not fit, if `left` tokens are to be shifted until the error before is
over. -/
def recordAt (left : Nat) (record : List String) (item : Item) : List String :=
  if left = 0 then [item.text] else recordWith record item

/-- What items leave, line by line, from within a line on. `left` is the number of tokens to be
shifted before the parser is over the last error, and `record` holds the texts that are recorded;
the record is not cleared between two errors that are close to each other. Reference:
`CalcContext::skipped`. -/
def due (quiet : Nat) (awaited : Awaited) (left : Nat) (record : List String) :
    List Item → List (Option String)
  | [] => []
  | item :: items =>
    match awaited.next? item with
    | some next =>
      if item = .semicolon then none :: due quiet next (left - 1) record items
      else due quiet next (left - 1) record items
    | none =>
      if item = .semicolon then
        some (lossOf quiet (recordAt left record item)) ::
          due quiet .number (quiet - 1) (recordAt left record item) items
      else due quiet .ending quiet (recordAt left record item) items

/-! ## The same losses -/

section
variable {quiet left : Nat} {awaited next : Awaited} {record : List String} {item : Item}
  {items line : List Item}

/-- An item that fits and ends no line leaves nothing. -/
theorem due_of_fits (fits : awaited.next? item = some next) (inside : item ≠ .semicolon) :
    due quiet awaited left record (item :: items) = due quiet next (left - 1) record items := by
  rw [due, fits]
  exact if_neg inside

/-- An item that does not fit spoils its line. -/
theorem due_of_misfit (misfit : awaited.next? item = none) (inside : item ≠ .semicolon) :
    due quiet awaited left record (item :: items) =
      due quiet .ending quiet (recordAt left record item) items := by
  rw [due, misfit]
  exact if_neg inside

/-- Any other item is recorded. -/
theorem recordWith_of_inside (inside : item ≠ .semicolon) :
    recordWith record item = record ++ [item.text] := by
  cases item with
  | semicolon => exact absurd rfl inside
  | number | sign | fault => rfl

/-- A line that is spoiled leaves the record with what else there is of it. -/
theorem due_ending (begun : quiet ≠ 0) (inside : .semicolon ∉ line) :
    due quiet .ending quiet record (line ++ .semicolon :: items) =
      some (lossOf quiet (record ++ line.map Item.text)) ::
        due quiet .number (quiet - 1) (record ++ line.map Item.text) items := by
  induction line generalizing record with
  | nil =>
    have hrecord : recordAt quiet record .semicolon = record ++ [] := by
      rw [recordAt, if_neg begun, List.append_nil]
      rfl
    show some (lossOf quiet (recordAt quiet record .semicolon)) :: _ = _
    rw [hrecord]
    rfl
  | cons item line ih =>
    have hitem := (List.ne_of_not_mem_cons inside).symm
    have hrecord : recordAt quiet record item = record ++ [item.text] := by
      rw [recordAt, if_neg begun, recordWith_of_inside hitem]
    rw [List.cons_append, due_of_misfit rfl hitem, ih (List.not_mem_of_not_mem_cons inside), hrecord,
      List.map_cons, List.append_assoc]
    rfl

/-- What a line awaits that is a sum as far as it has been read. -/
def awaiting (numberFirst : Bool) : Awaited := if numberFirst then .number else .sign

/-- Whether a sum ends behind a line, be it the start of the sum or what follows a number. -/
def endsSum (numberFirst : Bool) (line : List Item) : Bool :=
  if numberFirst then isSum line else areOperations line

/-- Behind a sign there is a sum again. -/
theorem areOperations_sign (op : Operator) (line : List Item) :
    areOperations (.sign op :: line) = isSum line := by
  cases line with
  | nil => rfl
  | cons item line => cases item <;> rfl

/-- An item that fits goes on with the sum. -/
theorem awaiting_of_fits {numberFirst : Bool} (fits : (awaiting numberFirst).next? item = some next)
    (inside : item ≠ .semicolon) (line : List Item) :
    next = awaiting (!numberFirst) ∧ endsSum numberFirst (item :: line) = endsSum (!numberFirst) line ∧
      viable numberFirst (item :: line) = item :: viable (!numberFirst) line := by
  cases numberFirst with
  | true =>
    cases item with
    | number text =>
      cases fits
      exact ⟨rfl, rfl, rfl⟩
    | sign | semicolon | fault => cases fits
  | false =>
    cases item with
    | sign op =>
      cases fits
      exact ⟨rfl, areOperations_sign op line, rfl⟩
    | semicolon => exact absurd rfl inside
    | number | fault => cases fits

/-- An item that does not fit ends the start of a sum. -/
theorem viable_of_misfit {numberFirst : Bool} (misfit : (awaiting numberFirst).next? item = none)
    (line : List Item) :
    endsSum numberFirst (item :: line) = false ∧ viable numberFirst (item :: line) = [] := by
  cases numberFirst with
  | true =>
    cases item with
    | number => cases misfit
    | sign | semicolon | fault => exact ⟨rfl, rfl⟩
  | false =>
    cases item with
    | sign | semicolon => cases misfit
    | number | fault => exact ⟨rfl, rfl⟩

/-- The shift of an item that fits counts for the error before, and leaves the rest as it is. -/
theorem recordBehind_of_fits {numberFirst : Bool}
    (viable : viable numberFirst (item :: line) = item :: viable (!numberFirst) line) :
    recordBehind numberFirst left record (item :: line) =
      recordBehind (!numberFirst) (left - 1) record line := by
  have hunfit : unfit numberFirst (item :: line) = unfit (!numberFirst) line := by
    unfold unfit
    rw [viable]
    rfl
  unfold recordBehind spoiled
  rw [hunfit, viable, List.length_cons]
  simp only [Nat.sub_le_iff_le_add]

/-- From an item on that does not fit, the record is that of the item and of what is behind it. -/
theorem recordBehind_of_misfit {numberFirst : Bool} (inside : item ≠ .semicolon)
    (viable : viable numberFirst (item :: line) = []) :
    recordBehind numberFirst left record (item :: line) =
      recordAt left record item ++ line.map Item.text := by
  have hunfit : unfit numberFirst (item :: line) = item :: line := by
    unfold unfit
    rw [viable]
    rfl
  unfold recordBehind spoiled recordAt
  rw [hunfit, viable, recordWith_of_inside inside, if_neg (List.cons_ne_nil _ _), List.length_nil]
  by_cases hover : left = 0
  · rw [if_pos (Nat.le_zero.mpr hover), if_pos hover]
    rfl
  · rw [if_neg (mt Nat.le_zero.mp hover), if_neg hover, List.append_assoc]
    rfl

/-- Behind what fits of it, a line is a sum or leaves the record of its error. By induction on the
line: an item that fits is one that is shifted, and the first one that does not begins the record of
the line. -/
theorem due_awaiting (begun : quiet ≠ 0) (inside : .semicolon ∉ line) (numberFirst : Bool) :
    due quiet (awaiting numberFirst) left record (line ++ .semicolon :: items) =
      if endsSum numberFirst line then
        none :: due quiet .number (left - (line.length + 1)) record items
      else
        some (lossOf quiet (recordBehind numberFirst left record line)) ::
          due quiet .number (quiet - 1) (recordBehind numberFirst left record line) items := by
  induction line generalizing numberFirst left with
  | nil =>
    cases numberFirst with
    | false => rfl
    | true =>
      have hrecord : recordAt left record .semicolon = recordBehind true left record [] := by
        show (if left = 0 then _ else record) = if left ≤ 0 then _ else record ++ []
        rw [List.append_nil]
        simp only [Nat.le_zero]
        rfl
      show some (lossOf quiet (recordAt left record .semicolon)) :: _ = some _ :: _
      rw [hrecord]
  | cons item line ih =>
    have hitem := (List.ne_of_not_mem_cons inside).symm
    have hline := List.not_mem_of_not_mem_cons inside
    cases hnext : (awaiting numberFirst).next? item with
    | some next =>
      obtain ⟨rfl, hends, hviable⟩ := awaiting_of_fits hnext hitem line
      have hleft : left - 1 - (line.length + 1) = left - ((item :: line).length + 1) := by
        rw [List.length_cons]
        omega
      rw [List.cons_append, due_of_fits hnext hitem, ih hline, hends, recordBehind_of_fits hviable, hleft]
    | none =>
      obtain ⟨hends, hviable⟩ := viable_of_misfit hnext line
      rw [List.cons_append, due_of_misfit hnext hitem, due_ending begun hline, hends,
        recordBehind_of_misfit hitem hviable]
      rfl

/-- A tail leaves nothing. -/
theorem due_tail (inside : .semicolon ∉ line) : due quiet awaited left record line = [] := by
  induction line generalizing awaited left record with
  | nil => rfl
  | cons item line ih =>
    have hitem := (List.ne_of_not_mem_cons inside).symm
    have hline := List.not_mem_of_not_mem_cons inside
    cases hnext : awaited.next? item with
    | some next => rw [due_of_fits hnext hitem, ih hline]
    | none => rw [due_of_misfit hnext hitem, ih hline]

/-- What is due item by item is what the lines leave. -/
theorem due_eq_losses (begun : quiet ≠ 0) (left : Nat) (record : List String) (items : List Item) :
    due quiet .number left record items =
      losses quiet left record (items.splitOn .semicolon).dropLast := by
  by_cases hmem : .semicolon ∈ items
  · obtain ⟨line, others, hitems, inside⟩ := List.eq_append_cons_of_mem hmem
    have hshorter : others.length < items.length := by
      rw [hitems, List.length_append, List.length_cons]
      omega
    have hsplit : (line ++ .semicolon :: others).splitOn .semicolon =
        line :: others.splitOn .semicolon := List.splitOn_append_cons_self_of_not_mem inside others
    rw [hitems, hsplit, List.dropLast_cons_of_ne_nil (List.splitOn_ne_nil _ _), losses,
      ← due_eq_losses begun _ _ others, ← due_eq_losses begun _ _ others]
    exact due_awaiting begun inside true
  · rw [due_tail hmem, List.splitOn_eq_singleton hmem]
    rfl
termination_by items.length
decreasing_by all_goals assumption

end

end ShiftReduce.Calculator
