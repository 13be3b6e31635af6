import Mathlib.Data.List.Induction
import ShiftReduce.Source.Excerpt
import ShiftReduce.Proofs.Source.Moves

/-!
# Excerpts and the lines of a cursor

An excerpt numbers the pieces of its text between newlines; a cursor also starts a new line behind a
return on its own. A row of an excerpt shows the line of its number as the cursor counts lines
(`Cursor.lineText`) if no return on its own breaks a line up to there, and the carets of the first
marked row then start under the text at which the location starts (`prettyRange_shows_lines`).
Behind a return on its own the two numberings differ (`prettyRange_misses_line_behind_return`).

Lines are told twice, as an excerpt does it and as a cursor does: `Excerpt.piece` cuts the text at
its newlines and drops a return in front of one, `Cursor.lineText` keeps what a cursor passes of a
line. The two are the same up to the first stray return (`Text.StrayReturn`,
`Excerpt.piece_eq_lineText`).
-/

namespace ShiftReduce

/-! ## The text of a line -/

namespace Cursor

/-- The characters of line `k`, without line breaks, that a cursor passes on its way over a text. -/
def lineText (k : Nat) : (before : List Char) → List Char → Cursor → List Char
  | _, [], _ => []
  | before, c :: cs, cur =>
    if Advance.of before c = .column ∧ cur.position.line = k then
      c :: lineText k (c :: before) cs (cur.step before c)
    else lineText k (c :: before) cs (cur.step before c)

variable {k : Nat} {before : List Char} {c : Char} {cs : List Char} {cur : Cursor}

/-- A character of the line stays on it. -/
theorem line_step_of_column (cur : Cursor) (h : Advance.of before c = .column) :
    (cur.step before c).position.line = cur.position.line := by
  rw [step, h]

/-- The newline of a return stays on the line behind it. -/
theorem line_step_of_joined (cur : Cursor) (h : Advance.of before c = .joined) :
    (cur.step before c).position.line = cur.position.line := by
  rw [step, h]

/-- A line break leads to the next line. -/
theorem line_step_of_lineBreak (cur : Cursor) (h : Advance.of before c = .lineBreak) :
    (cur.step before c).position.line = cur.position.line + 1 := by
  rw [step, h]

/-- Lines are counted upwards. -/
theorem line_le_step (before : List Char) (c : Char) (cur : Cursor) :
    cur.position.line ≤ (cur.step before c).position.line := by
  cases h : Advance.of before c with
  | column => exact Nat.le_of_eq (line_step_of_column cur h).symm
  | lineBreak => rw [line_step_of_lineBreak cur h]; exact Nat.le_succ _
  | joined => exact Nat.le_of_eq (line_step_of_joined cur h).symm

/-- A character of a line is part of its text. -/
theorem lineText_column (h : Advance.of before c = .column) (line : cur.position.line = k) :
    cur.lineText k before (c :: cs) = c :: (cur.step before c).lineText k (c :: before) cs := by
  rw [lineText, if_pos ⟨h, line⟩]

/-- A character that ends a line is not part of its text. -/
theorem lineText_of_not_column (h : Advance.of before c ≠ .column) :
    cur.lineText k before (c :: cs) = (cur.step before c).lineText k (c :: before) cs := by
  rw [lineText, if_neg fun hboth => h hboth.1]

/-- A character of another line is not part of the text of a line. -/
theorem lineText_of_line_ne (h : cur.position.line ≠ k) :
    cur.lineText k before (c :: cs) = (cur.step before c).lineText k (c :: before) cs := by
  rw [lineText, if_neg fun hboth => h hboth.2]

/-- A cursor does not come back to a line that it has left. -/
theorem lineText_eq_nil_of_lt (h : k < cur.position.line) : cur.lineText k before cs = [] := by
  induction cs generalizing before cur with
  | nil => rfl
  | cons c cs ih =>
    rw [lineText_of_line_ne (Nat.ne_of_gt h)]
    exact ih (Nat.lt_of_lt_of_le h (line_le_step before c cur))

/-- A cursor passes nothing of a line that it has not come to. -/
theorem lineText_eq_nil_of_gt (h : (cur.advance before cs).position.line < k) :
    cur.lineText k before cs = [] := by
  induction cs generalizing before cur with
  | nil => rfl
  | cons c cs ih =>
    have hline : cur.position.line < k := by
      refine Nat.lt_of_le_of_lt ?_ h
      clear h ih
      generalize c :: cs = text
      induction text generalizing before cur with
      | nil => exact Nat.le_refl _
      | cons c cs ih => exact Nat.le_trans (line_le_step before c cur) ih
    rw [lineText_of_line_ne (Nat.ne_of_lt hline)]
    exact ih h

/-- What a cursor passes of a line on its way over two texts. -/
theorem lineText_append (xs ys : List Char) :
    cur.lineText k before (xs ++ ys) =
      cur.lineText k before xs ++ (cur.advance before xs).lineText k (xs.reverse ++ before) ys := by
  induction xs generalizing before cur with
  | nil => rfl
  | cons c xs ih =>
    rw [List.cons_append, lineText, lineText, ih]
    split <;> simp [advance]

/-- Of the line it stands on, a cursor has passed as many characters as its column says. -/
theorem length_lineText_behind (text : List Char) :
    (start.lineText (behind text).position.line [] text).length = (behind text).position.column := by
  induction text using List.reverseRecOn with
  | nil => rfl
  | append_singleton text c ih =>
    have hthere : start.advance [] text = behind text := advance_behind [] text
    rw [← step_behind, lineText_append, hthere, List.append_nil, List.length_append]
    cases h : Advance.of text.reverse c with
    | column =>
      rw [line_step_of_column _ h, ih, lineText_column h rfl, step, h]
      rfl
    | lineBreak =>
      rw [line_step_of_lineBreak _ h, lineText_eq_nil_of_gt (hthere ▸ Nat.lt_succ_self _),
        lineText_of_line_ne (Nat.ne_of_lt (Nat.lt_succ_self _)), step, h]
      rfl
    | joined =>
      rw [line_step_of_joined _ h, ih, lineText_of_not_column (by simp [h]), step, h]
      rfl

end Cursor

namespace Text

/-- A return behind `front` that stands on its own: another character than a newline follows it. -/
def StrayReturn (text front : List Char) : Prop :=
  ∃ c rest, text = front ++ '\r' :: c :: rest ∧ c ≠ '\n'

end Text

namespace Excerpt

/-! ## Pieces between newlines -/

/-- A newline ends a piece. -/
theorem splitLines_newline (cs : List Char) : splitLines ('\n' :: cs) = [] :: splitLines cs := by
  rw [splitLines, if_pos rfl]

/-- Another character than a newline belongs to the first piece. -/
theorem splitLines_cons {c : Char} (h : c ≠ '\n') (cs : List Char) :
    ∃ first rest, splitLines cs = first :: rest ∧ splitLines (c :: cs) = (c :: first) :: rest := by
  cases hsplit : splitLines cs with
  | nil => exact absurd hsplit (splitLines_ne_nil cs)
  | cons first rest => exact ⟨first, rest, rfl, by rw [splitLines, if_neg h, hsplit]⟩

/-- The first character of a piece is kept unless it is a return that ends it. -/
theorem dropReturn_cons {c : Char} (h : c ≠ '\r') (line : List Char) :
    dropReturn (c :: line) = c :: dropReturn line := by
  unfold dropReturn
  cases line with
  | nil => simp [h]
  | cons d line =>
    rw [List.getLast?_cons_cons]
    split <;> rfl

/-- Piece `n` of a text without the return that may end it; empty beyond the text. -/
def piece (cs : List Char) (n : Nat) : List Char := ((splitLines cs)[n]?.map dropReturn).getD []

@[simp] theorem piece_nil (n : Nat) : piece [] n = [] := by
  cases n <;> rfl

@[simp] theorem piece_newline_zero (cs : List Char) : piece ('\n' :: cs) 0 = [] := by
  rw [piece, splitLines_newline]
  rfl

@[simp] theorem piece_newline_succ (cs : List Char) (n : Nat) :
    piece ('\n' :: cs) (n + 1) = piece cs n := by
  rw [piece, splitLines_newline, List.getElem?_cons_succ, piece]

@[simp] theorem piece_return_newline_zero (cs : List Char) : piece ('\r' :: '\n' :: cs) 0 = [] := by
  obtain ⟨first, rest, hfirst, hsplit⟩ := splitLines_cons (c := '\r') (by decide) ('\n' :: cs)
  rw [splitLines_newline] at hfirst
  rw [piece, hsplit, ← (List.cons.inj hfirst).1]
  rfl

@[simp] theorem piece_return_newline_succ (cs : List Char) (n : Nat) :
    piece ('\r' :: '\n' :: cs) (n + 1) = piece cs n := by
  obtain ⟨first, rest, hfirst, hsplit⟩ := splitLines_cons (c := '\r') (by decide) ('\n' :: cs)
  rw [splitLines_newline] at hfirst
  rw [piece, hsplit, ← (List.cons.inj hfirst).2, List.getElem?_cons_succ, piece]

theorem piece_return (n : Nat) : piece ['\r'] n = [] := by
  cases n <;> rfl

theorem piece_cons_zero {c : Char} (hnewline : c ≠ '\n') (hreturn : c ≠ '\r') (cs : List Char) :
    piece (c :: cs) 0 = c :: piece cs 0 := by
  obtain ⟨first, rest, hfirst, hsplit⟩ := splitLines_cons hnewline cs
  simp [piece, hsplit, hfirst, dropReturn_cons hreturn]

theorem piece_cons_succ {c : Char} (hnewline : c ≠ '\n') (cs : List Char) (n : Nat) :
    piece (c :: cs) (n + 1) = piece cs (n + 1) := by
  obtain ⟨first, rest, hfirst, hsplit⟩ := splitLines_cons hnewline cs
  simp [piece, hsplit, hfirst]

/-- Behind the characters of a line break the next line starts, and the next piece with it. -/
theorem piece_eq_lineText_of_break {before before' text cs : List Char} {cur next : Cursor} {n : Nat}
    (zero : piece text 0 = []) (succ : ∀ m, piece text (m + 1) = piece cs m)
    (skip : ∀ k, cur.lineText k before text = next.lineText k before' cs)
    (line : next.position.line = cur.position.line + 1)
    (rest : ∀ m, n = m + 1 → piece cs m = next.lineText (next.position.line + m) before' cs) :
    piece text n = cur.lineText (cur.position.line + n) before text := by
  rw [skip]
  cases n with
  | zero => rw [zero, Cursor.lineText_eq_nil_of_lt (by omega)]
  | succ m =>
    have hline : next.position.line + m = cur.position.line + (m + 1) := by omega
    rw [succ, rest m rfl, hline]

/-- Ahead of a cursor that is not between a return and its newline, the pieces of a text are the
lines from the cursor's own on, up to a return that stands on its own. By induction on the length of
the text ahead, since a return and its newline are passed together; `Text.StrayReturn` is what would
make the two ways of counting differ. -/
theorem piece_eq_lineText {before cs : List Char} {cur : Cursor} {n : Nat}
    (outside : before.head? ≠ some '\r') (position : cur.position = Position.behind before.reverse)
    (tidy : ∀ front, Text.StrayReturn (before.reverse ++ cs) front →
      cur.position.line + n < (Position.behind front).line) :
    piece cs n = cur.lineText (cur.position.line + n) before cs := by
  -- A return and its newline are passed together, so the rest of the text is not always the tail.
  induction hlength : cs.length using Nat.strongRecOn generalizing before cs cur n with
  | _ length ih =>
    cases cs with
    | nil => rw [piece_nil, Cursor.lineText]
    | cons c cs =>
      have hposition := Cursor.position_step before.reverse c cur position
      rw [List.reverse_reverse, ← List.reverse_cons] at hposition
      have hsplit : before.reverse ++ c :: cs = (c :: before).reverse ++ cs := by
        rw [List.reverse_cons, List.append_assoc, List.singleton_append]
      rcases Cursor.Advance.of_cases before c with ⟨hcolumn, hreturn, hnewline⟩ | ⟨hbreak, hends⟩ |
        ⟨-, -, hhead⟩
      · -- A character of the line.
        have hline := cur.line_step_of_column hcolumn
        have hrest := ih cs.length (by rw [← hlength]; exact Nat.lt_succ_self _) (n := n)
          (by simpa using hreturn) hposition (hline ▸ hsplit ▸ tidy) rfl
        rw [hline] at hrest
        cases n with
        | zero => rw [piece_cons_zero hnewline hreturn, hrest,
            Cursor.lineText_column hcolumn (Nat.add_zero _).symm]
        | succ n =>
          rw [piece_cons_succ hnewline, hrest, Cursor.lineText_of_line_ne (by omega)]
      · have hline := cur.line_step_of_lineBreak hbreak
        have hskip : ∀ k, cur.lineText k before (c :: cs) =
            (cur.step before c).lineText k (c :: before) cs :=
          fun k => Cursor.lineText_of_not_column (by simp [hbreak])
        rcases hends with rfl | rfl
        · -- A return: the text ends, its newline follows, or it stands on its own.
          cases cs with
          | nil => rw [piece_return, hskip, Cursor.lineText]
          | cons d cs =>
            by_cases hd : d = '\n'
            · subst hd
              have hjoined : Cursor.Advance.of ('\r' :: before) '\n' = .joined := rfl
              have hnext := Cursor.position_step _ '\n' _ hposition
              rw [List.reverse_reverse, ← List.reverse_cons] at hnext
              have hnextLine := (cur.step before '\r').line_step_of_joined hjoined
              refine piece_eq_lineText_of_break (piece_return_newline_zero cs)
                (piece_return_newline_succ cs)
                (fun k => (hskip k).trans (Cursor.lineText_of_not_column (by simp [hjoined])))
                (hnextLine.trans hline) ?_
              rintro m rfl
              refine ih cs.length (by rw [← hlength]; simp only [List.length_cons]; omega) (by simp)
                hnext (fun front hstray => ?_) rfl
              have hlater := tidy front (by simpa using hstray)
              omega
            · have hlater := tidy before.reverse ⟨d, cs, rfl, hd⟩
              rw [← position] at hlater
              omega
        · refine piece_eq_lineText_of_break (piece_newline_zero cs) (piece_newline_succ cs) hskip hline ?_
          rintro m rfl
          refine ih cs.length (by rw [← hlength]; exact Nat.lt_succ_self _) (by simp) hposition
            (fun front hstray => ?_) rfl
          have hlater := tidy front (hsplit ▸ hstray)
          omega
      · exact absurd hhead outside

/-- The lines that an excerpt shows are the pieces of its text, tabs shown as blanks. -/
theorem getD_shownLines (source : String) (n : Nat) :
    (shownLines source)[n]?.getD [] = untab (piece source.toList n) := by
  rw [shownLines, List.getElem?_map, piece]
  cases (splitLines source.toList)[n]? <;> rfl

/-! ## What is printed -/

/-- What an excerpt prints one below the other: rows, and placeholders for hidden ones. -/
inductive Entry
  | row (row : Row)
  | hidden (region : Region)

/-- An entry as printed, labels being `width` columns wide. Reference: the last loop of
`pretty_print_range`. -/
def Entry.render (width : Nat) : Entry → String
  | row shown => shown.render width
  | hidden region => placeholder width region

/-- What is printed of the rows of a region: all of them, or its two ends with a placeholder between
them. -/
def entriesOf (region : Region) (rows : List Row) : List Entry :=
  match collapse rows with
  | .inl rows => rows.map .row
  | .inr (head, tail) => head.map .row ++ .hidden region :: tail.map .row

/-- The window that an excerpt of a text shows around a location. -/
def window (source : String) (loc : Location) (lead tail : Nat) : Window :=
  Window.of loc lead tail (shownLines source).length

/-- All rows of the window, the hidden ones included. Reference: `rows` in `pretty_print_range`. -/
def windowRows (source : String) (loc : Location) (lead tail : Nat) : List Row :=
  let w := window source loc lead tail
  rows (shownLines source) (marksOf loc w.first w.last) w.start w.stop

/-- What an excerpt prints: the lines before the location, its own, and those after. -/
def entries (source : String) (loc : Location) (lead tail : Nat) : List Entry :=
  let w := window source loc lead tail
  let all := windowRows source loc lead tail
  entriesOf .lead (all.filter (·.number < w.first)) ++
    entriesOf .marked (all.filter fun row => w.first ≤ row.number ∧ row.number ≤ w.last) ++
    entriesOf .tail (all.filter (w.last < ·.number))

/-- The labels of an excerpt are as wide as the number of its last line. -/
def labelWidth (source : String) (loc : Location) (lead tail : Nat) : Nat :=
  (toString (window source loc lead tail).stop).length

theorem renderRegion_eq (width : Nat) (region : Region) (rows : List Row) :
    renderRegion width region rows = (entriesOf region rows).map (Entry.render width) := by
  unfold renderRegion entriesOf
  cases collapse rows with
  | inl rows => simp [Entry.render, Function.comp_def]
  | inr ends => simp [Entry.render, Function.comp_def]

/-- An excerpt is its entries, one below the other. -/
theorem prettyRange_eq (source : String) (loc : Location) (lead tail : Nat) :
    prettyRange source loc lead tail = "\n".intercalate
      ((entries source loc lead tail).map (Entry.render (labelWidth source loc lead tail))) := by
  unfold prettyRange entries labelWidth windowRows window
  simp only [renderRegion_eq, List.map_append]

/-! ## Rows -/

/-- What is printed of a region by the number of its rows that are not blank. -/
theorem entriesOf_eq (region : Region) (rows : List Row) :
    entriesOf region rows =
      if 2 * visibleLines < rows.countP (!·.isBlank) then
        (takeThrough visibleLines rows).map .row ++
          .hidden region :: (takeThrough visibleLines rows.reverse).reverse.map .row
      else rows.map .row := by
  unfold entriesOf collapse
  by_cases hmany : 2 * visibleLines < rows.countP (!·.isBlank)
  · rw [if_pos hmany, if_pos hmany]
  · rw [if_neg hmany, if_neg hmany]

theorem mem_of_mem_takeThrough {n : Nat} {row : Row} {rows : List Row} (h : row ∈ takeThrough n rows) :
    row ∈ rows := by
  induction rows generalizing n with
  | nil => cases n <;> exact h
  | cons first rest ih =>
    cases n with
    | zero => exact absurd h List.not_mem_nil
    | succ n =>
      rcases List.mem_cons.mp h with rfl | hrest
      · exact List.mem_cons_self
      · exact List.mem_cons_of_mem _ (ih hrest)

/-- Only rows of a region are printed for it. -/
theorem mem_of_mem_entriesOf {region : Region} {row : Row} {rows : List Row}
    (h : .row row ∈ entriesOf region rows) : row ∈ rows := by
  rw [entriesOf_eq] at h
  split at h
  · simp only [List.mem_append, List.mem_cons, List.mem_map, Entry.row.injEq, exists_eq_right,
      reduceCtorEq, false_or] at h
    rcases h with hhead | htail
    · exact mem_of_mem_takeThrough hhead
    · exact List.mem_reverse.mp (mem_of_mem_takeThrough (List.mem_reverse.mp htail))
  · simpa using h

/-- The first row of a region is printed. -/
theorem mem_entriesOf_cons (region : Region) (row : Row) (rest : List Row) :
    .row row ∈ entriesOf region (row :: rest) := by
  rw [entriesOf_eq]
  split
  · exact List.mem_append_left _ (List.mem_map_of_mem List.mem_cons_self)
  · exact List.mem_map_of_mem List.mem_cons_self

variable {source : String} {loc : Location} {lead tail : Nat} {row : Row}

/-- Only rows of the window are printed. -/
theorem mem_windowRows (h : .row row ∈ entries source loc lead tail) :
    row ∈ windowRows source loc lead tail := by
  unfold entries at h
  rcases List.mem_append.mp h with h | h
  · rcases List.mem_append.mp h with h | h
    · exact (List.mem_filter.mp (mem_of_mem_entriesOf h)).1
    · exact (List.mem_filter.mp (mem_of_mem_entriesOf h)).1
  · exact (List.mem_filter.mp (mem_of_mem_entriesOf h)).1

/-- A row of the window shows the piece of its number. Under it are the carets of that line. -/
theorem eq_of_mem_windowRows (h : row ∈ windowRows source loc lead tail) :
    1 ≤ row.number ∧ row.line = untab (piece source.toList (row.number - 1)) ∧
      row.marks = marksOf loc (window source loc lead tail).first (window source loc lead tail).last
        row.number row.line.length := by
  obtain ⟨number, hnumber, rfl⟩ := List.mem_map.mp h
  have hlow : (window source loc lead tail).start ≤ number := (List.mem_range'_1.mp hnumber).1
  exact ⟨Nat.le_trans (Nat.le_max_right _ _) hlow, getD_shownLines source _, rfl⟩

/-- The first line of a location is printed if the window reaches it. It is the first of the marked
region, and the first row of a region is never hidden. -/
theorem exists_first_row (h : (window source loc lead tail).first ≤ (window source loc lead tail).stop) :
    ∃ row, .row row ∈ entries source loc lead tail ∧
      row.number = (window source loc lead tail).first := by
  unfold entries windowRows
  generalize hw : window source loc lead tail = w at h
  have hlow : w.start ≤ w.first := by
    rw [← hw]
    exact Nat.max_le.mpr ⟨Nat.sub_le _ _, Nat.le_max_right _ _⟩
  have hlast : w.first ≤ w.last := by
    rw [← hw]
    exact Nat.le_max_right _ _
  have hcount : w.stop + 1 - w.start = (w.first - w.start) + (w.stop - w.first + 1) := by omega
  have hnext : w.start + 1 * (w.first - w.start) = w.first := by omega
  -- The marked region starts with the first line: the numbers before it are those of the lead.
  let entry (number : Nat) : Row :=
    ⟨number, (shownLines source)[number - 1]?.getD [],
      marksOf loc w.first w.last number ((shownLines source)[number - 1]?.getD []).length⟩
  have hrows : rows (shownLines source) (marksOf loc w.first w.last) w.start w.stop =
      (List.range' w.start (w.first - w.start)).map entry ++
        entry w.first :: (List.range' (w.first + 1) (w.stop - w.first)).map entry := by
    unfold rows
    rw [hcount, ← List.range'_append, hnext, List.range'_succ, List.map_append, List.map_cons]
  have hlead : ((List.range' w.start (w.first - w.start)).map entry).filter
      (fun row => w.first ≤ row.number ∧ row.number ≤ w.last) = [] := by
    rw [List.filter_eq_nil_iff]
    intro row hrow
    obtain ⟨number, hnumber, rfl⟩ := List.mem_map.mp hrow
    have hbefore := (List.mem_range'_1.mp hnumber).2
    simp only [entry, decide_eq_true_eq]
    omega
  refine ⟨entry w.first, List.mem_append_left _ (List.mem_append_right _ ?_), rfl⟩
  rw [hrows, List.filter_append, hlead, List.nil_append,
    List.filter_cons_of_pos (by simpa [entry] using hlast)]
  exact mem_entriesOf_cons .marked _ _

/-- The window of a location that starts on a line starts no later, and marks that line first. -/
theorem first_eq_line (h : 1 ≤ loc.start.line) : (window source loc lead tail).first = loc.start.line :=
  Nat.max_eq_left h

/-- The window reaches the first line of its location if the text has that line, or if no line before it
is asked for. -/
theorem first_le_stop (tail : Nat) (h : 1 ≤ loc.start.line)
    (reached : lead = 0 ∨ loc.start.line ≤ (shownLines source).length) :
    (window source loc lead tail).first ≤ (window source loc lead tail).stop := by
  rw [first_eq_line h]
  show loc.start.line ≤ max (min (max loc.stop.line (max loc.start.line 1) + tail) (shownLines source).length)
    (max (max loc.start.line 1 - lead) 1)
  omega

/-- A row of the window shows the line of its number, up to a return that stands on its own. -/
theorem windowRow_line (h : row ∈ windowRows source loc lead tail)
    (tidy : ∀ front, Text.StrayReturn source.toList front → row.number < (Position.behind front).line) :
    row.line = untab (Cursor.start.lineText row.number [] source.toList) := by
  obtain ⟨hnumber, hline, -⟩ := eq_of_mem_windowRows h
  have hcount : Cursor.start.position.line + (row.number - 1) = row.number := by
    show 1 + (row.number - 1) = row.number
    omega
  have hpiece : piece source.toList (row.number - 1) =
      Cursor.start.lineText (Cursor.start.position.line + (row.number - 1)) [] source.toList :=
    piece_eq_lineText (by simp) rfl (hcount.symm ▸ tidy)
  rw [hline, hpiece, hcount]

/-- A row that is printed shows the line of its number, up to a return that stands on its own. -/
theorem line_eq_lineText (h : .row row ∈ entries source loc lead tail)
    (tidy : ∀ front, Text.StrayReturn source.toList front → row.number < (Position.behind front).line) :
    row.line = untab (Cursor.start.lineText row.number [] source.toList) :=
  windowRow_line (mem_windowRows h) tidy

end Excerpt

namespace Reader

/-- A reader that was sent forward from the start of a text is exact, and the text is the same. -/
theorem exact_of_advanceTo? {source : String} {offset : Nat} {r : Reader}
    (h : (ofString source).advanceTo? offset = some r) :
    r.Exact ∧ r.buffer.toList = source.toList := by
  unfold advanceTo? at h
  split at h
  · cases h
  · obtain ⟨n, -, rfl⟩ := Option.map_eq_some_iff.mp h
    exact ⟨(exact_ofString source).forward n, Buffer.toList_forward _ n⟩

/-- A line of a text is what an exact reader has passed of it and what is ahead of it. Of its own line
it has passed as many characters as its column says. -/
theorem Exact.lineText {source : String} {r : Reader} (h : r.Exact)
    (text : r.buffer.toList = source.toList) :
    ∃ passed, passed.length = r.cursor.position.column ∧
      Cursor.start.lineText r.cursor.position.line [] source.toList =
        passed ++ r.cursor.lineText r.cursor.position.line r.buffer.consumed r.buffer.rest := by
  have hcursor : r.cursor = Cursor.start.advance [] r.buffer.consumed.reverse := h
  have hbehind : r.cursor = Cursor.behind r.buffer.consumed.reverse :=
    h.trans (Cursor.ofBuffer_eq_behind _)
  refine ⟨Cursor.start.lineText r.cursor.position.line [] r.buffer.consumed.reverse, ?_, ?_⟩
  · rw [hbehind]
    exact Cursor.length_lineText_behind _
  · rw [← text, Buffer.toList, Cursor.lineText_append, ← hcursor, List.reverse_reverse, List.append_nil]

/-- An exact reader stands on a line. -/
theorem Exact.one_le_line {r : Reader} (h : r.Exact) : 1 ≤ r.cursor.position.line := by
  rw [h.position]
  exact Nat.succ_le_succ (Nat.zero_le _)

end Reader

open Excerpt in
/-- An excerpt prints, of every text, location, lead and tail, rows and placeholders one below the
other. Each row shows the line of its number as a cursor counts lines, without its break and with
tabs as blanks, if no return on its own breaks a line up to there. At the first line of a location
that starts where a cursor of the text stands, the carets start below the first character ahead of
that cursor. Reference: `pretty_print_range`. -/
theorem prettyRange_shows_lines (source : String) (loc : Location) (lead tail : Nat) :
    prettyRange source loc lead tail = "\n".intercalate
      ((entries source loc lead tail).map (Entry.render (labelWidth source loc lead tail))) ∧
    (∀ row, .row row ∈ entries source loc lead tail →
      (∀ front, Text.StrayReturn source.toList front → row.number < (Position.behind front).line) →
      row.line = untab (Cursor.start.lineText row.number [] source.toList)) ∧
    ∀ (offset : Nat) (r : Reader), (Reader.ofString source).advanceTo? offset = some r →
      loc.start = r.cursor.position →
      (∀ row, .row row ∈ entries source loc lead tail → row.number = loc.start.line →
        (∀ front, Text.StrayReturn source.toList front → row.number < (Position.behind front).line) →
        ∃ passed length, passed.length = loc.start.column ∧
          row.line = untab (passed ++ r.cursor.lineText row.number r.buffer.consumed r.buffer.rest) ∧
          row.marks = some (loc.start.column, length) ∧ 0 < length) ∧
      (lead = 0 ∨ loc.start.line ≤ (shownLines source).length →
        ∃ row, .row row ∈ entries source loc lead tail ∧ row.number = loc.start.line) := by
  refine ⟨prettyRange_eq source loc lead tail, fun row hrow tidy => line_eq_lineText hrow tidy, ?_⟩
  intro offset r hr hstart
  obtain ⟨hexact, htext⟩ := Reader.exact_of_advanceTo? hr
  have hline : 1 ≤ loc.start.line := hstart ▸ hexact.one_le_line
  refine ⟨fun row hrow hnumber tidy => ?_, fun reached => ?_⟩
  · obtain ⟨passed, hcolumn, hwhole⟩ := hexact.lineText htext
    obtain ⟨-, -, hmarks⟩ := eq_of_mem_windowRows (mem_windowRows hrow)
    have hfirst : row.number = (window source loc lead tail).first :=
      hnumber.trans (first_eq_line hline).symm
    rw [← hstart, ← hnumber] at hwhole
    refine ⟨passed, _, hcolumn.trans (hstart ▸ rfl), hwhole ▸ line_eq_lineText hrow tidy,
      hmarks.trans (if_pos hfirst), Nat.lt_of_lt_of_le Nat.one_pos (Nat.le_max_right _ _)⟩
  · obtain ⟨row, hrow, hnumber⟩ := exists_first_row (first_le_stop tail hline reached)
    exact ⟨row, hrow, hnumber.trans (first_eq_line hline)⟩

/-- Behind a return with its newline the second line is shown with a blank for its tab, and the carets
start below the character that the location starts with. -/
theorem prettyRange_shows_second_line :
    ∃ row passed length, .row row ∈ Excerpt.entries "a\r\n\tbc" ⟨⟨2, 1⟩, ⟨2, 2⟩, none⟩ 0 0 ∧
      row.number = 2 ∧ row.line = Excerpt.untab (passed ++ ['b', 'c']) ∧ passed.length = 1 ∧
      row.marks = some (1, length) := by
  have htidy : ∀ front, Text.StrayReturn "a\r\n\tbc".toList front → 2 < (Position.behind front).line := by
    rintro front ⟨c, rest, hsplit, hc⟩
    have hsplit : ['a', '\r', '\n', '\t', 'b', 'c'] = front ++ '\r' :: c :: rest := hsplit
    rcases front with - | ⟨first, - | ⟨second, front⟩⟩
    · simp at hsplit
    · simp only [List.cons_append, List.nil_append, List.cons.injEq] at hsplit
      exact absurd hsplit.2.2.1.symm hc
    · simp only [List.cons_append, List.cons.injEq] at hsplit
      have hmember : '\r' ∈ ['\n', '\t', 'b', 'c'] := hsplit.2.2 ▸ by simp
      simp at hmember
  obtain ⟨-, -, hcarets⟩ := prettyRange_shows_lines "a\r\n\tbc" ⟨⟨2, 1⟩, ⟨2, 2⟩, none⟩ 0 0
  obtain ⟨hcaret, hprinted⟩ := hcarets 4 ((Reader.ofString "a\r\n\tbc").forward 4) (by rfl) rfl
  obtain ⟨row, hrow, hnumber⟩ := hprinted (.inl rfl)
  have hnumber : row.number = 2 := hnumber
  obtain ⟨passed, length, hcolumn, hline, hmarks, -⟩ := hcaret row hrow hnumber (hnumber ▸ htidy)
  rw [hnumber] at hline
  exact ⟨row, passed, length, hrow, hnumber, hline, hcolumn, hmarks⟩

/-- Behind a return on its own an excerpt misses the line: it prints nothing of the second line of a
cursor, under which the location is. Reference: `pretty_print_range`, which splits lines at newlines
alone. -/
theorem prettyRange_misses_line_behind_return :
    ((Reader.ofString "a\rb").advanceTo? 2).map (·.cursor.position) = some ⟨2, 0⟩ ∧
      ((Reader.ofString "a\rb").advanceTo? 3).map (·.cursor.position) = some ⟨2, 1⟩ ∧
      Excerpt.untab (Cursor.start.lineText 2 [] "a\rb".toList) = ['b'] ∧
      (∃ row, .row row ∈ Excerpt.entries "a\rb" ⟨⟨2, 0⟩, ⟨2, 1⟩, none⟩ 0 0 ∧ row.number = 2 ∧
        row.line = []) ∧
      prettyRange "a\rb" ⟨⟨2, 0⟩, ⟨2, 1⟩, none⟩ 0 0 = "2: \n^..^" :=
  ⟨rfl, rfl, rfl, ⟨⟨2, [], some (0, 1)⟩, List.mem_singleton.mpr rfl, rfl, rfl⟩, by decide +kernel⟩

end ShiftReduce
