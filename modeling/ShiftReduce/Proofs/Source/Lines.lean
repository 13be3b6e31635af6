import ShiftReduce.Proofs.Source.Reader

/-!
# Lines of a text

The lines of a text end at its line breaks: a return with the newline behind it is one break, and so is
each of the two alone. `Position.behind` counts the lines and columns of a text from the text itself, all
at once; a cursor counts them one character at a time. The two agree on every text
(`Reader.Exact.position`), wherever its pieces are cut.
-/

namespace ShiftReduce

namespace Text

/-- The number of line breaks of a text. A return is left out if a newline follows it, which counts for
both. -/
def lineBreaks : List Char → Nat
  | [] => 0
  | c :: text =>
    (if c = '\n' ∨ c = '\r' ∧ text.head? ≠ some '\n' then 1 else 0) + lineBreaks text

/-- The number of characters behind the last line break of a text. -/
def lastColumn (text : List Char) : Nat :=
  (text.reverse.takeWhile fun c => c != '\r' && c != '\n').length

/-- One more character is one more line break if it breaks the line where it stands. Whether a
newline breaks the line is told by the character before it: behind a return it has been counted
already. -/
theorem lineBreaks_concat (text : List Char) (c : Char) :
    lineBreaks (text ++ [c]) =
      lineBreaks text + if Cursor.Advance.of text.reverse c = .lineBreak then 1 else 0 := by
  induction text with
  | nil =>
    by_cases hreturn : c = '\r' <;> by_cases hnewline : c = '\n' <;>
      simp [lineBreaks, Cursor.Advance.of, hreturn, hnewline]
  | cons first rest ih =>
    cases rest with
    | nil =>
      -- The first character is the one before `c`: a newline may join the break of a return.
      by_cases hreturn : c = '\r' <;> by_cases hnewline : c = '\n' <;>
        by_cases hfirst : first = '\r' <;> by_cases hfirst' : first = '\n' <;>
        simp_all [lineBreaks, Cursor.Advance.of]
    | cons second more =>
      have hlast : Cursor.Advance.of (first :: second :: more).reverse c =
          Cursor.Advance.of (second :: more).reverse c := by
        simp [Cursor.Advance.of]
      have hsplit : ∀ tail, lineBreaks (first :: second :: tail) =
          (if first = '\n' ∨ first = '\r' ∧ second ≠ '\n' then 1 else 0) +
            lineBreaks (second :: tail) := by
        intro tail
        rw [lineBreaks]
        simp
      rw [hlast, List.cons_append, List.cons_append, hsplit, hsplit, ← List.cons_append, ih,
        Nat.add_assoc]

/-- A character behind the last line break is one more column; a line break leaves none. -/
theorem lastColumn_concat (text : List Char) (c : Char) :
    lastColumn (text ++ [c]) = if c = '\r' ∨ c = '\n' then 0 else lastColumn text + 1 := by
  by_cases hreturn : c = '\r' <;> by_cases hnewline : c = '\n' <;>
    simp [lastColumn, hreturn, hnewline]

end Text

/-- The position behind a text: its lines are counted from one, and its column is the number of
characters behind the last line break. -/
def Position.behind (text : List Char) : Position := ⟨Text.lineBreaks text + 1, Text.lastColumn text⟩

/-- A text does not end before a part of it that it begins with. More characters only add line
breaks, or columns where they add none. -/
theorem Position.behind_le (text more : List Char) :
    Position.behind text ≤ Position.behind (text ++ more) := by
  induction more generalizing text with
  | nil => rw [List.append_nil]; exact Position.le_refl _
  | cons c more ih =>
    have hstep : Position.behind text ≤ Position.behind (text ++ [c]) := by
      unfold Position.behind
      rw [Text.lineBreaks_concat, Text.lastColumn_concat, Position.le_def]
      dsimp only
      by_cases hbreak : Cursor.Advance.of text.reverse c = .lineBreak
      · rw [if_pos hbreak]
        omega
      · rw [if_neg hbreak]
        refine .inr ⟨rfl, ?_⟩
        by_cases hends : c = '\r' ∨ c = '\n'
        · -- A newline joins the break of the return before it, behind which there is no column.
          have hjoined : c = '\n' ∧ text.getLast? = some '\r' := by
            rcases hends with rfl | rfl
            · simp [Cursor.Advance.of] at hbreak
            · simpa [Cursor.Advance.of] using hbreak
          obtain ⟨front, rfl⟩ := List.getLast?_eq_some_iff.mp hjoined.2
          have hcolumn : Text.lastColumn (front ++ ['\r']) = 0 := by
            rw [Text.lastColumn_concat, if_pos (.inl rfl)]
          rw [if_pos hends]
          exact Nat.le_of_eq hcolumn
        · rw [if_neg hends]
          exact Nat.le_succ _
    have hrest := ih (text ++ [c])
    rw [List.append_assoc, List.singleton_append] at hrest
    exact Position.le_trans hstep hrest

namespace Cursor

/-- A step takes the position behind a text to the position behind the text with one more character. -/
theorem position_step (text : List Char) (c : Char) (cur : Cursor)
    (h : cur.position = Position.behind text) :
    (cur.step text.reverse c).position = Position.behind (text ++ [c]) := by
  rw [Position.behind, Text.lineBreaks_concat, Text.lastColumn_concat]
  by_cases hreturn : c = '\r'
  · simp [step, Advance.of, hreturn, h, Position.behind]
  · by_cases hnewline : c = '\n'
    · by_cases hjoined : text.getLast? = some '\r'
      · -- The column is nought already: the text before ends with a line break.
        obtain ⟨front, rfl⟩ : ∃ front, text = front ++ ['\r'] := List.getLast?_eq_some_iff.mp hjoined
        simp [step, Advance.of, hnewline, h, Position.behind, Text.lastColumn]
      · simp [step, Advance.of, hnewline, hjoined, h, Position.behind]
    · simp [step, Advance.of, hreturn, hnewline, h, Position.behind]

/-- Reading on takes the position behind a text to the position behind all that was read. -/
theorem position_advance (text more : List Char) (cur : Cursor)
    (h : cur.position = Position.behind text) :
    (advance text.reverse more cur).position = Position.behind (text ++ more) := by
  induction more generalizing text cur with
  | nil => simpa [advance] using h
  | cons c more ih =>
    have hstep := ih (text ++ [c]) (cur.step text.reverse c) (position_step text c cur h)
    simpa [advance] using hstep

/-- A step counts one character. -/
theorem charOffset_step (before : List Char) (c : Char) (cur : Cursor) :
    (cur.step before c).charOffset = cur.charOffset + 1 := by
  unfold step
  cases Advance.of before c <;> rfl

/-- Reading on counts the characters that are read. -/
theorem charOffset_advance (before more : List Char) (cur : Cursor) :
    (advance before more cur).charOffset = cur.charOffset + more.length := by
  induction more generalizing before cur with
  | nil => rfl
  | cons c more ih => rw [advance, ih, charOffset_step, List.length_cons, Nat.add_assoc, Nat.add_comm 1]

end Cursor

namespace Reader

variable {r : Reader}

/-- An exact reader is at the position behind the text it has consumed. -/
theorem Exact.position (h : r.Exact) :
    r.cursor.position = Position.behind r.buffer.consumed.reverse := by
  rw [h]
  exact Cursor.position_advance [] _ _ rfl

/-- An exact reader has counted the line breaks of the text it has consumed. -/
theorem Exact.lineNo (h : r.Exact) :
    r.cursor.lineNo = Text.lineBreaks r.buffer.consumed.reverse := by
  rw [Cursor.lineNo, h.position]
  rfl

/-- An exact reader has counted the characters it has consumed. -/
theorem Exact.charOffset (h : r.Exact) : r.cursor.charOffset = r.buffer.consumed.length := by
  rw [h, Cursor.ofBuffer, Cursor.charOffset_advance, List.length_reverse]
  exact Nat.zero_add _

/-- An exact reader has counted the bytes it has consumed. -/
theorem Exact.offset (h : r.Exact) :
    r.cursor.offset = (String.ofList r.buffer.consumed.reverse).utf8ByteSize := by
  rw [h, Cursor.offset_ofBuffer, Buffer.utf8ByteSize_ofList, Buffer.byteLength_reverse]

end Reader

end ShiftReduce
