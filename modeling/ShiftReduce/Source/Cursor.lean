import ShiftReduce.Source.Position

/-!
# The cursor of a text

A text that is being read is cut in two: the characters already consumed and the rest (`Buffer`). The
cursor counts what was consumed, in bytes, in characters and in lines and columns. A return followed
by a newline is one line break, as is each of the two alone. The cursor goes forward and back one
character at a time; it remembers how wide the finished lines were, so that going back over a line
break restores the column (`Cursor.back_step`), and going back over all that was read restores the
cursor (`Cursor.retreat_advance`).
-/

namespace ShiftReduce

/-- A text cut in two at the cursor. The consumed characters stand last one first. Reference: the
buffer of a `Lexer` and its offset. -/
structure Buffer where
  consumed : List Char := []
  rest : List Char := []
deriving Repr, DecidableEq, Inhabited

namespace Buffer

/-- A text of which nothing is consumed. -/
def ofString (s : String) : Buffer := ⟨[], s.toList⟩

/-- All characters of the text, in order. -/
def toList (b : Buffer) : List Char := b.consumed.reverse ++ b.rest

/-- The whole text. Reference: `Lexer::source`. -/
def source (b : Buffer) : String := String.ofList b.toList

/-- The number of bytes of a list of characters, as encoded in the text. -/
def byteLength : List Char → Nat
  | [] => 0
  | c :: cs => c.utf8Size + byteLength cs

/-- The number of bytes of the whole text. -/
def size (b : Buffer) : Nat := byteLength b.consumed + byteLength b.rest

/-- The cut moved forward by `n` characters, or to the end. -/
def forward (b : Buffer) (n : Nat) : Buffer :=
  ⟨(b.rest.take n).reverse ++ b.consumed, b.rest.drop n⟩

/-- The cut moved back by `n` characters, or to the start. -/
def backward (b : Buffer) (n : Nat) : Buffer :=
  ⟨b.consumed.drop n, (b.consumed.take n).reverse ++ b.rest⟩

@[simp] theorem toList_forward (b : Buffer) (n : Nat) : (b.forward n).toList = b.toList := by
  simp [toList, forward]

@[simp] theorem toList_backward (b : Buffer) (n : Nat) : (b.backward n).toList = b.toList := by
  simp only [toList, backward]
  rw [← List.append_assoc, ← List.reverse_append, List.take_append_drop]

/-- How many of the first characters fill exactly `n` bytes; none if a character straddles the
border or the characters end before it. -/
def charsIn? : List Char → Nat → Option Nat
  | _, 0 => some 0
  | [], _ + 1 => none
  | c :: cs, n + 1 =>
    if c.utf8Size ≤ n + 1 then (charsIn? cs (n + 1 - c.utf8Size)).map (· + 1) else none

end Buffer

/-- What a reader knows of the text before it: offsets in bytes and characters, the position, and
the widths of the finished lines, last line first. Reference: `LexerCursor`. -/
structure Cursor where
  offset : Nat := 0
  charOffset : Nat := 0
  position : Position := {}
  lineWidths : List Nat := []
deriving Repr, DecidableEq, Inhabited

namespace Cursor

/-- The number of line breaks before the cursor. Reference: `LexerCursor::line_no`. -/
def lineNo (cur : Cursor) : Nat := cur.position.line - 1

/-- How the character `c` moves a position when it follows the text `before` (last character first).
Reference: the cases of `LexerCursor::advance`. -/
inductive Advance
  | column
  | lineBreak
  | joined
deriving Repr, DecidableEq

/-- A return breaks the line, and so does a newline, but for one that directly follows a return: it
belongs to the break before it. Reference: the cases of `LexerCursor::advance`. -/
def Advance.of (before : List Char) (c : Char) : Advance :=
  if c = '\r' then .lineBreak
  else if c = '\n' then if before.head? = some '\r' then .joined else .lineBreak
  else .column

/-- The cursor after one more character. A line break puts the width of the line away. Reference:
one round of the loop in `LexerCursor::advance`. -/
def step (before : List Char) (c : Char) (cur : Cursor) : Cursor :=
  let moved : Cursor := { cur with offset := cur.offset + c.utf8Size, charOffset := cur.charOffset + 1 }
  match Advance.of before c with
  | .joined => moved
  | .lineBreak =>
    { moved with
      position := ⟨cur.position.line + 1, 0⟩
      lineWidths := cur.position.column :: cur.lineWidths }
  | .column => { moved with position := ⟨cur.position.line, cur.position.column + 1⟩ }

/-- The cursor before the character `c`, which it has just passed. A line break brings back the
width that was put away. Reference: one round of the loop in `LexerCursor::retreat`. -/
def back (before : List Char) (c : Char) (cur : Cursor) : Cursor :=
  let moved : Cursor := { cur with offset := cur.offset - c.utf8Size, charOffset := cur.charOffset - 1 }
  match Advance.of before c with
  | .joined => moved
  | .lineBreak =>
    { moved with
      position := ⟨cur.position.line - 1, cur.lineWidths.head?.getD 0⟩
      lineWidths := cur.lineWidths.tail }
  | .column => { moved with position := ⟨cur.position.line, cur.position.column - 1⟩ }

/-- A step back undoes the step. -/
@[simp] theorem back_step (before : List Char) (c : Char) (cur : Cursor) :
    (cur.step before c).back before c = cur := by
  unfold step back
  cases Advance.of before c <;> simp

/-- The cursor after the characters of a list, which follow the text `before`. Reference:
`LexerCursor::advance`. -/
def advance : (before : List Char) → List Char → Cursor → Cursor
  | _, [], cur => cur
  | before, c :: cs, cur => advance (c :: before) cs (cur.step before c)

/-- The cursor before the last `n` of the consumed characters. Reference: `LexerCursor::retreat`. -/
def retreat : (consumed : List Char) → Nat → Cursor → Cursor
  | c :: before, n + 1, cur => retreat before n (cur.back before c)
  | _, _, cur => cur

@[simp] theorem retreat_zero (consumed : List Char) (cur : Cursor) :
    retreat consumed 0 cur = cur := by
  unfold retreat; split <;> simp_all

/-- Reading in two portions is reading once. -/
theorem advance_append (before xs ys : List Char) (cur : Cursor) :
    advance before (xs ++ ys) cur = advance (xs.reverse ++ before) ys (advance before xs cur) := by
  induction xs generalizing before cur with
  | nil => rfl
  | cons c xs ih => simp [advance, ih]

/-- Going back in two portions is going back once. -/
theorem retreat_add (consumed : List Char) (m n : Nat) (cur : Cursor) :
    retreat consumed (m + n) cur = retreat (consumed.drop m) n (retreat consumed m cur) := by
  induction m generalizing consumed cur with
  | zero => simp
  | succ m ih =>
    cases consumed with
    | nil => simp [retreat]
    | cons c before => rw [Nat.succ_add]; simpa [retreat] using ih before _

/-- Going back over what was just read restores the cursor. -/
theorem retreat_advance (before xs : List Char) (cur : Cursor) :
    retreat (xs.reverse ++ before) xs.length (advance before xs cur) = cur := by
  induction xs generalizing before cur with
  | nil => simp [advance]
  | cons c xs ih =>
    have h := ih (c :: before) (cur.step before c)
    rw [List.length_cons, retreat_add, advance, List.reverse_cons, List.append_assoc,
      List.singleton_append, h, List.drop_left' (by simp)]
    simp [retreat]

/-- The cursor of a text of which nothing is consumed. Reference: `LexerCursor::new`. -/
def start : Cursor := {}

/-- The cursor behind the consumed part of a text, counted from its start. Laws compare other
cursors with this one. -/
def ofBuffer (b : Buffer) : Cursor := advance [] b.consumed.reverse start

end Cursor

/-- A text under a cursor. Reference: the buffer and cursor of a `Lexer`. -/
structure Reader where
  buffer : Buffer := {}
  cursor : Cursor := {}
deriving Repr, DecidableEq, Inhabited

namespace Reader

/-- A reader at the start of a text. Reference: `Lexer::set_input`. -/
def ofString (s : String) : Reader := ⟨.ofString s, .start⟩

/-- The reader moved forward by `n` characters, or to the end. Reference: `LexerCursor::advance`. -/
def forward (r : Reader) (n : Nat) : Reader :=
  ⟨r.buffer.forward n, r.cursor.advance r.buffer.consumed (r.buffer.rest.take n)⟩

/-- The reader moved back by `n` characters, or to the start. Reference: `LexerCursor::retreat`. -/
def backward (r : Reader) (n : Nat) : Reader :=
  ⟨r.buffer.backward n, r.cursor.retreat r.buffer.consumed n⟩

/-- The reader moved forward to a byte offset. There is none if the offset lies behind the cursor,
beyond the end, or inside a character. Reference: `LexerCursor::advance`. -/
def advanceTo? (r : Reader) (target : Nat) : Option Reader :=
  if target < r.cursor.offset then none
  else (Buffer.charsIn? r.buffer.rest (target - r.cursor.offset)).map r.forward

/-- The reader moved back to a byte offset. There is none if the offset lies ahead of the cursor or
inside a character. Reference: `LexerCursor::retreat`. -/
def retreatTo? (r : Reader) (target : Nat) : Option Reader :=
  if r.cursor.offset < target then none
  else (Buffer.charsIn? r.buffer.consumed (r.cursor.offset - target)).map r.backward

end Reader

end ShiftReduce
