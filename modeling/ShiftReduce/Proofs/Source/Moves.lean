import ShiftReduce.Proofs.Source.Lines

/-!
# A cursor depends on its offset alone

A reader may be sent forward and back to any border between two characters, as often as one likes
(`Move`). Its cursor then is the one that can be read off the text before its offset, whatever way it
took (`moves_behind`): `Cursor.behind` counts that text all at once, by the places at which its lines
break. On the way back each subtraction takes away no more than there is (`Cursor.CanRetreat`).

Going forward is reading on from the cursor behind a text (`Cursor.advance_behind`). Going back
undoes that, as far as what it takes away is there (`Cursor.canRetreat_behind`); the widths of the
finished lines are what leads back over a line break. Of an exact reader both are known from the
text and the offset alone, so moves may be made in any order (`Reader.Exact.travels`,
`Reader.Exact.eq_of_offset`).
-/

namespace ShiftReduce

namespace Text

/-- A line breaks at a return, and at a newline that does not directly follow one. -/
def BreaksAt (text : List Char) (i : Nat) : Prop :=
  text[i]? = some '\r' ∨ text[i]? = some '\n' ∧ (i = 0 ∨ text[i - 1]? ≠ some '\r')

instance (text : List Char) (i : Nat) : Decidable (BreaksAt text i) :=
  inferInstanceAs (Decidable (_ ∨ _))

/-- The places at which the lines of a text break, in order. -/
def breakPlaces (text : List Char) : List Nat :=
  (List.range text.length).filter fun i => decide (BreaksAt text i)

/-- The columns at which the finished lines of a text ended, in order. -/
def finishedWidths (text : List Char) : List Nat :=
  (breakPlaces text).map fun i => lastColumn (text.take i)

/-- Where a line breaks is told by the text up to there. -/
theorem breaksAt_concat_of_lt {text : List Char} {i : Nat} (h : i < text.length) (c : Char) :
    BreaksAt (text ++ [c]) i ↔ BreaksAt text i := by
  unfold BreaksAt
  rw [List.getElem?_append_left h, List.getElem?_append_left (by omega)]

/-- The last character of a text breaks the line if the cursor counts a line break for it. -/
theorem breaksAt_concat_length (text : List Char) (c : Char) :
    BreaksAt (text ++ [c]) text.length ↔ Cursor.Advance.of text.reverse c = .lineBreak := by
  have hlast : (text ++ [c])[text.length]? = some c := by simp
  have hbefore : (text.length = 0 ∨ (text ++ [c])[text.length - 1]? ≠ some '\r') ↔
      text.reverse.head? ≠ some '\r' := by
    cases text with
    | nil => simp
    | cons first rest =>
      rw [List.head?_reverse, List.getLast?_eq_getElem?, List.getElem?_append_left (by simp)]
      simp
  unfold BreaksAt Cursor.Advance.of
  rw [hlast, hbefore]
  by_cases hreturn : c = '\r'
  · simp [hreturn]
  · by_cases hnewline : c = '\n' <;> by_cases hjoined : text.reverse.head? = some '\r' <;>
      simp [hreturn, hnewline, hjoined]

/-- One more character adds its own place if the line breaks there. -/
theorem breakPlaces_concat (text : List Char) (c : Char) :
    breakPlaces (text ++ [c]) =
      breakPlaces text ++ if Cursor.Advance.of text.reverse c = .lineBreak then [text.length] else [] := by
  have hearlier : (List.range text.length).filter (fun i => decide (BreaksAt (text ++ [c]) i)) =
      breakPlaces text := by
    refine List.filter_congr fun i hi => ?_
    rw [decide_eq_decide]
    exact breaksAt_concat_of_lt (List.mem_range.mp hi) c
  rw [breakPlaces, List.length_append, List.length_singleton, List.range_succ, List.filter_append,
    hearlier]
  by_cases hbreak : Cursor.Advance.of text.reverse c = .lineBreak <;>
    simp [breaksAt_concat_length, hbreak]

/-- The places of line breaks lie within the text. -/
theorem lt_length_of_mem_breakPlaces {text : List Char} {i : Nat} (h : i ∈ breakPlaces text) :
    i < text.length := List.mem_range.mp (List.mem_filter.mp h).1

/-- One more character that breaks the line finishes a line as wide as the column before it. -/
theorem finishedWidths_concat (text : List Char) (c : Char) :
    finishedWidths (text ++ [c]) =
      finishedWidths text ++
        if Cursor.Advance.of text.reverse c = .lineBreak then [lastColumn text] else [] := by
  have hearlier : (breakPlaces text).map (fun i => lastColumn ((text ++ [c]).take i)) =
      finishedWidths text := by
    refine List.map_congr_left fun i hi => ?_
    rw [List.take_append_of_le_length (Nat.le_of_lt (lt_length_of_mem_breakPlaces hi))]
  rw [finishedWidths, breakPlaces_concat, List.map_append, hearlier]
  by_cases hbreak : Cursor.Advance.of text.reverse c = .lineBreak
  · rw [if_pos hbreak, if_pos hbreak, List.map_singleton, List.take_left]
  · rw [if_neg hbreak, if_neg hbreak, List.map_nil]

/-- A text that ends with a return has no column behind its last line break. -/
theorem lastColumn_of_return {text : List Char} (h : text.reverse.head? = some '\r') :
    lastColumn text = 0 := by
  rw [List.head?_reverse] at h
  obtain ⟨front, rfl⟩ := List.getLast?_eq_some_iff.mp h
  rw [lastColumn_concat, if_pos (.inl rfl)]

end Text

namespace Cursor

/-- What moves a position: a character of a line, a line break, or the newline of a return before it. -/
theorem Advance.of_cases (before : List Char) (c : Char) :
    (of before c = .column ∧ c ≠ '\r' ∧ c ≠ '\n') ∨
      (of before c = .lineBreak ∧ (c = '\r' ∨ c = '\n')) ∨
      (of before c = .joined ∧ c = '\n' ∧ before.head? = some '\r') := by
  unfold of
  by_cases hreturn : c = '\r'
  · simp [hreturn]
  · by_cases hnewline : c = '\n' <;> by_cases hhead : before.head? = some '\r' <;>
      simp [hreturn, hnewline, hhead]

/-! ## The cursor behind a text -/

/-- The cursor behind a text, counted from the text itself: its bytes, its characters, its line breaks,
the characters behind the last of them, and the widths of the finished lines, last line first. -/
def behind (text : List Char) : Cursor where
  offset := (String.ofList text).utf8ByteSize
  charOffset := text.length
  position := ⟨1 + (Text.breakPlaces text).length, Text.lastColumn text⟩
  lineWidths := (Text.finishedWidths text).reverse

/-- A step takes the cursor behind a text to the cursor behind the text with one more character. -/
theorem step_behind (text : List Char) (c : Char) :
    (behind text).step text.reverse c = behind (text ++ [c]) := by
  have hbytes : (String.ofList (text ++ [c])).utf8ByteSize =
      (String.ofList text).utf8ByteSize + c.utf8Size := by
    simp only [Buffer.utf8ByteSize_ofList, Buffer.byteLength_append, Buffer.byteLength, Nat.add_zero]
  unfold behind
  rw [hbytes, Text.breakPlaces_concat, Text.finishedWidths_concat, Text.lastColumn_concat]
  unfold step
  rcases Advance.of_cases text.reverse c with ⟨hcolumn, hreturn, hnewline⟩ | ⟨hbreak, hends⟩ |
    ⟨hjoined, rfl, hreturn⟩
  · simp [hcolumn, hreturn, hnewline]
  · simp [hbreak, hends, Nat.add_assoc]
  · -- The newline belongs to the break of the return before it, behind which the column is nought.
    simp [hjoined, Text.lastColumn_of_return hreturn]

/-- Reading on takes the cursor behind a text to the cursor behind all that was read. By induction
on what is read, a character at a time. -/
theorem advance_behind (text more : List Char) :
    (behind text).advance text.reverse more = behind (text ++ more) := by
  induction more generalizing text with
  | nil => rw [advance, List.append_nil]
  | cons c more ih =>
    have hrest := ih (text ++ [c])
    rw [List.reverse_append, List.reverse_singleton, List.singleton_append, List.append_assoc,
      List.singleton_append] at hrest
    rw [advance, step_behind, hrest]

/-- The cursor of a buffer is the one behind its consumed text. -/
theorem ofBuffer_eq_behind (b : Buffer) : ofBuffer b = behind b.consumed.reverse :=
  advance_behind [] b.consumed.reverse

/-! ## Subtractions on the way back -/

/-- What a step back over `c` takes away from a cursor is there. Behind a line break there is a line
before the current one, and its width is remembered. -/
structure CanBack (before : List Char) (c : Char) (cur : Cursor) : Prop where
  offset : c.utf8Size ≤ cur.offset
  charOffset : 1 ≤ cur.charOffset
  line : Advance.of before c = .lineBreak → 1 < cur.position.line
  widths : Advance.of before c = .lineBreak → cur.lineWidths ≠ []
  column : Advance.of before c = .column → 1 ≤ cur.position.column

/-- What each step of a way back over `n` characters takes away is there. -/
def CanRetreat : (consumed : List Char) → Nat → Cursor → Prop
  | c :: before, n + 1, cur => cur.CanBack before c ∧ CanRetreat before n (cur.back before c)
  | _, _, _ => True

/-- A cursor that has just passed a character can step back over it. -/
theorem canBack_step (before : List Char) (c : Char) {cur : Cursor} (h : 0 < cur.position.line) :
    (cur.step before c).CanBack before c := by
  unfold step
  constructor <;> cases Advance.of before c <;> simp +arith [h]

/-- The cursor behind a text can go back over any of it. By induction on the way back: where a step
over a character has just led to a cursor, a step back over it finds what it takes away. -/
theorem canRetreat_behind (consumed : List Char) (n : Nat) :
    (behind consumed.reverse).CanRetreat consumed n := by
  induction consumed generalizing n with
  | nil => cases n <;> trivial
  | cons c before ih =>
    cases n with
    | zero => trivial
    | succ n =>
      have hstep : behind (c :: before).reverse = (behind before.reverse).step before c := by
        rw [List.reverse_cons, ← step_behind, List.reverse_reverse]
      rw [hstep]
      refine ⟨canBack_step before c (Nat.lt_add_right _ Nat.one_pos), ?_⟩
      rw [back_step]
      exact ih n

end Cursor

/-! ## Moves -/

/-- A reader is sent forward or back to a byte offset of its text. -/
inductive Move
  | advance (target : Nat)
  | retreat (target : Nat)
deriving Repr, DecidableEq

namespace Move

/-- Where a move goes, as a byte offset. -/
def target : Move → Nat
  | advance target => target
  | retreat target => target

/-- A move from an offset goes to a border between two characters of the text, or to one of its ends,
and not to the other side of where it starts. -/
def Proper (source : String) (offset : Nat) : Move → Prop
  | advance target => String.Pos.Raw.IsValid source ⟨target⟩ ∧ offset ≤ target
  | retreat target => String.Pos.Raw.IsValid source ⟨target⟩ ∧ target ≤ offset

/-- The moves of a list are proper, one after the other: each starts where the last one went. -/
def AllProper (source : String) : (offset : Nat) → List Move → Prop
  | _, [] => True
  | offset, move :: moves => move.Proper source offset ∧ AllProper source move.target moves

/-- Where the last move of a list goes; the start, if there is none. -/
def destination : (offset : Nat) → List Move → Nat
  | offset, [] => offset
  | _, move :: moves => destination move.target moves

end Move

namespace Reader

variable {r : Reader} {source : String} {target : Nat}

/-- The reader after a move, if it can be made. Reference: `LexerCursor::advance` and
`LexerCursor::retreat`. -/
def move? (r : Reader) : Move → Option Reader
  | .advance target => r.advanceTo? target
  | .retreat target => r.retreatTo? target

/-- All moves of a list can be made, one after the other, and wherever the reader comes by, no
subtraction of a way back takes away more than there is. -/
inductive Travels : Reader → List Move → Reader → Prop
  | here {r : Reader} (back : ∀ n, r.cursor.CanRetreat r.buffer.consumed n) : Travels r [] r
  | move {r next last : Reader} {move : Move} {moves : List Move}
      (back : ∀ n, r.cursor.CanRetreat r.buffer.consumed n) (moved : r.move? move = some next)
      (travels : Travels next moves last) : Travels r (move :: moves) last

/-- A border of a text cuts it in two. -/
theorem exists_cut (valid : String.Pos.Raw.IsValid source ⟨target⟩) :
    ∃ front back, source.toList = front ++ back ∧ target = Buffer.byteLength front := by
  obtain ⟨front, back, rfl, hoffset⟩ := String.Pos.Raw.isValid_iff_exists_append.mp valid
  refine ⟨front.toList, back.toList, String.toList_append, ?_⟩
  have hbytes := Buffer.utf8ByteSize_ofList front.toList
  rw [String.ofList_toList] at hbytes
  rw [← hbytes]
  exact congrArg String.Pos.Raw.byteIdx hoffset

/-- Of two cuts of a text the one that is not behind the other one leaves a piece between them. -/
theorem exists_between {front back front' back' : List Char} (whole : front ++ back = front' ++ back')
    (order : Buffer.byteLength front ≤ Buffer.byteLength front') :
    ∃ between, front' = front ++ between ∧ back = between ++ back' := by
  rcases List.append_eq_append_iff.mp whole with ⟨between, hfront, hback⟩ | ⟨between, hfront, hback⟩
  · exact ⟨between, hfront, hback⟩
  · have hempty : between = [] := by
      cases between with
      | nil => rfl
      | cons c between =>
        have hpos := c.utf8Size_pos
        rw [hfront, Buffer.byteLength_append, Buffer.byteLength] at order
        omega
    subst hempty
    exact ⟨[], by rw [hfront, List.append_nil, List.append_nil], hback.symm⟩

/-- An exact reader stands at the bytes it has consumed. -/
theorem Exact.offset_eq (h : r.Exact) : r.cursor.offset = Buffer.byteLength r.buffer.consumed.reverse := by
  rw [h.offset, Buffer.utf8ByteSize_ofList]

/-- An exact reader comes to each border of the text ahead, and keeps the text. -/
theorem Exact.advanceTo? (h : r.Exact) (text : r.buffer.toList = source.toList)
    (valid : String.Pos.Raw.IsValid source ⟨target⟩) (ahead : r.cursor.offset ≤ target) :
    ∃ n, r.advanceTo? target = some (r.forward n) ∧ (r.forward n).cursor.offset = target := by
  obtain ⟨front, back, hcut, rfl⟩ := exists_cut valid
  rw [h.offset_eq] at ahead
  obtain ⟨between, rfl, hrest⟩ := exists_between (text.trans hcut) ahead
  have hdistance : Buffer.byteLength (r.buffer.consumed.reverse ++ between) - r.cursor.offset =
      Buffer.byteLength between := by
    rw [h.offset_eq, Buffer.byteLength_append]
    omega
  refine ⟨between.length, ?_, ?_⟩
  · rw [← h.offset_eq] at ahead
    unfold Reader.advanceTo?
    rw [if_neg (by omega), hdistance, hrest, Buffer.charsIn?_append, Option.map_some]
  · show (r.cursor.advance r.buffer.consumed (r.buffer.rest.take between.length)).offset = _
    rw [Cursor.offset_advance, hrest, List.take_left, h.offset_eq, Buffer.byteLength_append]

/-- An exact reader comes back to each border of the text it has consumed, and keeps the text. -/
theorem Exact.retreatTo? (h : r.Exact) (text : r.buffer.toList = source.toList)
    (valid : String.Pos.Raw.IsValid source ⟨target⟩) (behind : target ≤ r.cursor.offset) :
    ∃ n, r.retreatTo? target = some (r.backward n) ∧ (r.backward n).cursor.offset = target := by
  obtain ⟨front, back, hcut, rfl⟩ := exists_cut valid
  rw [h.offset_eq] at behind
  obtain ⟨between, hconsumed, -⟩ := exists_between (hcut.symm.trans text.symm) behind
  have hdistance : r.cursor.offset - Buffer.byteLength front = Buffer.byteLength between.reverse := by
    rw [h.offset_eq, hconsumed, Buffer.byteLength_append, Buffer.byteLength_reverse]
    omega
  have hback : r.buffer.consumed = between.reverse ++ front.reverse := by
    rw [← List.reverse_append, ← hconsumed, List.reverse_reverse]
  refine ⟨between.reverse.length, ?_, ?_⟩
  · rw [← h.offset_eq] at behind
    unfold Reader.retreatTo?
    rw [if_neg (by omega), hdistance, hback, Buffer.charsIn?_append, Option.map_some]
  · rw [(h.backward _).offset_eq]
    show Buffer.byteLength (r.buffer.consumed.drop between.reverse.length).reverse = _
    rw [hback, List.drop_left, List.reverse_reverse]

/-- A proper move of an exact reader can be made. It keeps the reader exact and the text, and goes where
it should. -/
theorem Exact.move? (h : r.Exact) (text : r.buffer.toList = source.toList) {move : Move}
    (proper : move.Proper source r.cursor.offset) :
    ∃ next, r.move? move = some next ∧ next.Exact ∧ next.buffer.toList = source.toList ∧
      next.cursor.offset = move.target := by
  cases move with
  | advance target =>
    obtain ⟨n, hmoved, hoffset⟩ := h.advanceTo? text proper.1 proper.2
    exact ⟨r.forward n, hmoved, h.forward n, (Buffer.toList_forward _ _).trans text, hoffset⟩
  | retreat target =>
    obtain ⟨n, hmoved, hoffset⟩ := h.retreatTo? text proper.1 proper.2
    exact ⟨r.backward n, hmoved, h.backward n, (Buffer.toList_backward _ _).trans text, hoffset⟩

/-- Nothing underflows when an exact reader goes back. -/
theorem Exact.canRetreat (h : r.Exact) (n : Nat) : r.cursor.CanRetreat r.buffer.consumed n := by
  rw [h, Cursor.ofBuffer_eq_behind]
  exact Cursor.canRetreat_behind _ n

/-- Proper moves of an exact reader can all be made. -/
theorem Exact.travels (h : r.Exact) (text : r.buffer.toList = source.toList) {moves : List Move}
    (proper : Move.AllProper source r.cursor.offset moves) :
    ∃ last, r.Travels moves last ∧ last.Exact ∧ last.buffer.toList = source.toList ∧
      last.cursor.offset = Move.destination r.cursor.offset moves := by
  induction moves generalizing r with
  | nil => exact ⟨r, .here h.canRetreat, h, text, rfl⟩
  | cons move moves ih =>
    obtain ⟨next, hmoved, hexact, htext, hoffset⟩ := h.move? text proper.1
    obtain ⟨last, htravels, hrest⟩ := ih hexact htext (hoffset ▸ proper.2)
    refine ⟨last, .move h.canRetreat hmoved htravels, ?_⟩
    rw [Move.destination, ← hoffset]
    exact hrest

/-- Two exact readers of a text that stand at one offset are the same. -/
theorem Exact.eq_of_offset {r' : Reader} (h : r.Exact) (h' : r'.Exact)
    (text : r.buffer.toList = r'.buffer.toList) (offset : r.cursor.offset = r'.cursor.offset) : r = r' := by
  have hsource : r.buffer.source = r'.buffer.source := congrArg String.ofList text
  have hfirst := h.advanceTo?_offset
  rw [hsource, offset, h'.advanceTo?_offset] at hfirst
  exact (Option.some.inj hfirst).symm

/-- Going forward in two portions is going forward once. -/
theorem Exact.advanceTo?_trans (h : r.Exact) (text : r.buffer.toList = source.toList) {first second : Nat}
    (hfirst : String.Pos.Raw.IsValid source ⟨first⟩) (hsecond : String.Pos.Raw.IsValid source ⟨second⟩)
    (ahead : r.cursor.offset ≤ first) (order : first ≤ second) :
    ∃ next, (r.advanceTo? first).bind (·.advanceTo? second) = some next ∧
      r.advanceTo? second = some next := by
  obtain ⟨m, hmid, hmidOffset⟩ := h.advanceTo? text hfirst ahead
  obtain ⟨n, honce, honceOffset⟩ := h.advanceTo? text hsecond (Nat.le_trans ahead order)
  have hmidText := (Buffer.toList_forward r.buffer m).trans text
  obtain ⟨k, htwice, htwiceOffset⟩ := (h.forward m).advanceTo? hmidText hsecond (hmidOffset ▸ order)
  have htexts : ((r.forward m).forward k).buffer.toList = (r.forward n).buffer.toList :=
    (Buffer.toList_forward _ k).trans (hmidText.trans
      ((Buffer.toList_forward r.buffer n).trans text).symm)
  refine ⟨r.forward n, ?_, honce⟩
  rw [hmid, Option.bind_some, htwice]
  exact congrArg some (((h.forward m).forward k).eq_of_offset (h.forward n) htexts
    (htwiceOffset.trans honceOffset.symm))

/-- Going back to where one came from undoes going forward. -/
theorem Exact.retreatTo?_advanceTo? (h : r.Exact) (text : r.buffer.toList = source.toList)
    (valid : String.Pos.Raw.IsValid source ⟨target⟩) (ahead : r.cursor.offset ≤ target) :
    (r.advanceTo? target).bind (·.retreatTo? r.cursor.offset) = some r := by
  obtain ⟨n, hmoved, hoffset⟩ := h.advanceTo? text valid ahead
  have hmovedText := (Buffer.toList_forward r.buffer n).trans text
  have hvalid : String.Pos.Raw.IsValid source ⟨r.cursor.offset⟩ := by
    have hsource : r.buffer.source = source := by
      rw [Buffer.source, text, String.ofList_toList]
    exact hsource ▸ h.isValid
  obtain ⟨m, hback, hbackOffset⟩ := (h.forward n).retreatTo? hmovedText hvalid (hoffset ▸ ahead)
  have htexts : ((r.forward n).backward m).buffer.toList = r.buffer.toList :=
    (Buffer.toList_backward _ m).trans (hmovedText.trans text.symm)
  rw [hmoved, Option.bind_some, hback]
  exact congrArg some (((h.forward n).backward m).eq_of_offset h htexts hbackOffset)

/-- Whatever proper moves a reader of a text makes, all of them can be made, no subtraction on the
way takes away more than there is, and at the end its cursor is the one behind the text before its
offset. From there going forward in two portions is going forward once, and going back undoes going
forward. Reference: `LexerCursor::advance` and `LexerCursor::retreat`. -/
theorem moves_behind (source : String) (moves : List Move) (proper : Move.AllProper source 0 moves) :
    ∃ (r : Reader) (before after : List Char),
      (ofString source).Travels moves r ∧
      source = String.ofList before ++ String.ofList after ∧
      (String.ofList before).utf8ByteSize = Move.destination 0 moves ∧
      r = ⟨⟨before.reverse, after⟩, Cursor.behind before⟩ ∧
      (∀ first second, String.Pos.Raw.IsValid source ⟨first⟩ → String.Pos.Raw.IsValid source ⟨second⟩ →
        r.cursor.offset ≤ first → first ≤ second →
        ∃ next, (r.advanceTo? first).bind (·.advanceTo? second) = some next ∧
          r.advanceTo? second = some next) ∧
      ∀ target, String.Pos.Raw.IsValid source ⟨target⟩ → r.cursor.offset ≤ target →
        (r.advanceTo? target).bind (·.retreatTo? r.cursor.offset) = some r := by
  have hstart : (ofString source).Exact := exact_ofString source
  obtain ⟨r, htravels, hexact, htext, hoffset⟩ := hstart.travels rfl proper
  have hwhole : r.buffer.consumed.reverse ++ r.buffer.rest = source.toList := htext
  refine ⟨r, r.buffer.consumed.reverse, r.buffer.rest, htravels, ?_, ?_, ?_, ?_, ?_⟩
  · rw [← String.ofList_append, hwhole, String.ofList_toList]
  · rw [← hexact.offset, hoffset]
    rfl
  · rw [List.reverse_reverse, ← Cursor.ofBuffer_eq_behind, ← hexact]
  · intro first second hfirst hsecond ahead order
    exact hexact.advanceTo?_trans htext hfirst hsecond ahead order
  · intro target hvalid ahead
    exact hexact.retreatTo?_advanceTo? htext hvalid ahead

/-- Forward behind a return and a newline, back between the two, and on: the cursor is the one behind
the three characters before its offset. -/
theorem moves_behind_within_break :
    Move.AllProper "é\r\nb" 0 [.advance 4, .retreat 3, .advance 4, .retreat 3] ∧
      ∃ r, (ofString "é\r\nb").Travels [.advance 4, .retreat 3, .advance 4, .retreat 3] r ∧
        r.cursor = ⟨3, 2, ⟨2, 0⟩, [1]⟩ := by
  have hproper : Move.AllProper "é\r\nb" 0 [.advance 4, .retreat 3, .advance 4, .retreat 3] := by
    simp only [Move.AllProper, Move.Proper, Move.target, ← String.Pos.Raw.isValid_eq_true_iff]
    decide
  refine ⟨hproper, ?_⟩
  obtain ⟨r, before, after, htravels, hsource, hbytes, hr, -⟩ := moves_behind _ _ hproper
  have hcut : before ++ after = ['é', '\r'] ++ ['\n', 'b'] := by
    rw [← String.ofList_append] at hsource
    exact (String.ofList_injective hsource).symm
  have hbefore : before = ['é', '\r'] := by
    rw [Buffer.utf8ByteSize_ofList] at hbytes
    exact (Buffer.append_inj_byteLength hcut (hbytes.trans (by decide))).1
  refine ⟨r, htravels, ?_⟩
  rw [hr, hbefore]
  rfl

end Reader

end ShiftReduce
