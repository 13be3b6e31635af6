import ShiftReduce.Source.Cursor

/-!
# Readers know their place

The cursor of a reader is exact (`Reader.Exact`) if it is what counting the consumed text from its start
comes to. Going forward, going back and exchanging the text ahead keep it exact. An exact reader is the
one that a fresh reader of the whole text becomes by moving to its offset
(`Reader.Exact.advanceTo?_offset`), and the offset is a border between two characters of the text
(`Reader.Exact.isValid`).
-/

namespace ShiftReduce

/-! ## Bytes -/

namespace Buffer

@[simp] theorem byteLength_append (xs ys : List Char) :
    byteLength (xs ++ ys) = byteLength xs + byteLength ys := by
  induction xs with
  | nil => exact (Nat.zero_add _).symm
  | cons c xs ih => rw [List.cons_append, byteLength, byteLength, ih, Nat.add_assoc]

@[simp] theorem byteLength_reverse (xs : List Char) : byteLength xs.reverse = byteLength xs := by
  induction xs with
  | nil => rfl
  | cons c xs ih =>
    rw [List.reverse_cons, byteLength_append, ih]
    show byteLength xs + (c.utf8Size + 0) = c.utf8Size + byteLength xs
    omega

/-- The bytes of a list of characters are those of its string. -/
theorem utf8ByteSize_ofList (cs : List Char) : (String.ofList cs).utf8ByteSize = byteLength cs := by
  induction cs with
  | nil => rfl
  | cons c cs ih =>
    have hsplit : String.ofList (c :: cs) = String.singleton c ++ String.ofList cs := by
      rw [String.singleton_eq_ofList, ← String.ofList_append]
      rfl
    rw [hsplit, String.utf8ByteSize_append, String.utf8ByteSize_singleton, ih, byteLength]

/-- The characters at the start of a text are those that fill as many bytes as they have. -/
theorem charsIn?_append (xs ys : List Char) :
    charsIn? (xs ++ ys) (byteLength xs) = some xs.length := by
  induction xs with
  | nil => cases ys <;> rfl
  | cons c xs ih =>
    have hpos := c.utf8Size_pos
    obtain ⟨n, hn⟩ : ∃ n, byteLength (c :: xs) = n + 1 := by
      refine ⟨c.utf8Size + byteLength xs - 1, ?_⟩
      rw [byteLength]
      omega
    have hfits : c.utf8Size ≤ n + 1 := by
      rw [← hn, byteLength]
      omega
    have hrest : n + 1 - c.utf8Size = byteLength xs := by
      rw [← hn, byteLength]
      omega
    rw [hn, List.cons_append, charsIn?, if_pos hfits, hrest, ih]
    rfl

/-- Two beginnings of a text that have as many bytes are the same. -/
theorem append_inj_byteLength {xs ys xs' ys' : List Char} (whole : xs ++ ys = xs' ++ ys')
    (bytes : byteLength xs = byteLength xs') : xs = xs' ∧ ys = ys' := by
  have hlength : xs.length = xs'.length := by
    have hfirst := charsIn?_append xs ys
    have hsecond := charsIn?_append xs' ys'
    rw [whole, bytes, hsecond] at hfirst
    exact (Option.some.inj hfirst).symm
  exact List.append_inj whole hlength

end Buffer

/-! ## Cursors -/

namespace Cursor

/-- A character moves the offset by its bytes. -/
theorem offset_step (before : List Char) (c : Char) (cur : Cursor) :
    (cur.step before c).offset = cur.offset + c.utf8Size := by
  unfold step
  cases Advance.of before c <;> rfl

/-- A text moves the offset by its bytes. -/
theorem offset_advance (before cs : List Char) (cur : Cursor) :
    (advance before cs cur).offset = cur.offset + Buffer.byteLength cs := by
  induction cs generalizing before cur with
  | nil => rfl
  | cons c cs ih => rw [advance, ih, offset_step, Buffer.byteLength, Nat.add_assoc]

/-- The cursor of a text stands behind its consumed bytes. -/
theorem offset_ofBuffer (b : Buffer) : (ofBuffer b).offset = Buffer.byteLength b.consumed := by
  rw [ofBuffer, offset_advance, Buffer.byteLength_reverse]
  exact Nat.zero_add _

/-- Going back ends at the start. -/
theorem retreat_min (consumed : List Char) (n : Nat) (cur : Cursor) :
    retreat consumed (min n consumed.length) cur = retreat consumed n cur := by
  induction consumed generalizing n cur with
  | nil => cases n <;> rfl
  | cons c before ih =>
    cases n with
    | zero => rw [Nat.zero_min]
    | succ n =>
      rw [List.length_cons, Nat.succ_min_succ, retreat, retreat]
      exact ih n _

end Cursor

/-! ## Readers -/

namespace Reader

variable {r : Reader}

/-- The cursor is that of the consumed text, counted from its start: nothing was lost on the way
there. -/
def Exact (r : Reader) : Prop := r.cursor = Cursor.ofBuffer r.buffer

/-- A reader at the start of a text is exact. -/
theorem exact_ofString (s : String) : (ofString s).Exact := rfl

/-- Going forward keeps a reader exact. -/
theorem Exact.forward (h : r.Exact) (n : Nat) : (r.forward n).Exact := by
  unfold Exact at h ⊢
  show r.cursor.advance r.buffer.consumed (r.buffer.rest.take n) =
    Cursor.start.advance [] ((r.buffer.rest.take n).reverse ++ r.buffer.consumed).reverse
  rw [h, List.reverse_append, List.reverse_reverse, Cursor.advance_append, List.reverse_reverse,
    List.append_nil]
  rfl

/-- Going back keeps a reader exact. -/
theorem Exact.backward (h : r.Exact) (n : Nat) : (r.backward n).Exact := by
  have hsplit : r.buffer.consumed.reverse =
      (r.buffer.consumed.drop n).reverse ++ (r.buffer.consumed.take n).reverse := by
    rw [← List.reverse_append, List.take_append_drop]
  have hback := Cursor.retreat_advance (r.buffer.consumed.drop n) (r.buffer.consumed.take n).reverse
    (Cursor.start.advance [] (r.buffer.consumed.drop n).reverse)
  rw [List.reverse_reverse, List.take_append_drop, List.length_reverse, List.length_take,
    Cursor.retreat_min] at hback
  unfold Exact at h ⊢
  show r.cursor.retreat r.buffer.consumed n =
    Cursor.start.advance [] (r.buffer.consumed.drop n).reverse
  rw [h, Cursor.ofBuffer, hsplit, Cursor.advance_append, List.reverse_reverse, List.append_nil]
  exact hback

/-- Going back over the text that was just passed restores a reader. -/
theorem backward_forward (r : Reader) (n : Nat) :
    (r.forward n).backward (r.buffer.rest.take n).length = r := by
  have hconsumed : (r.forward n).buffer.consumed =
      (r.buffer.rest.take n).reverse ++ r.buffer.consumed := rfl
  have hlength : (r.buffer.rest.take n).length = (r.buffer.rest.take n).reverse.length := by
    rw [List.length_reverse]
  have hbuffer : (r.forward n).buffer.backward (r.buffer.rest.take n).length = r.buffer := by
    unfold Buffer.backward
    rw [hconsumed, hlength, List.drop_left, List.take_left, List.reverse_reverse]
    show Buffer.mk r.buffer.consumed (r.buffer.rest.take n ++ r.buffer.rest.drop n) = r.buffer
    rw [List.take_append_drop]
  have hcursor : (r.forward n).cursor.retreat (r.forward n).buffer.consumed
      (r.buffer.rest.take n).length = r.cursor := by
    rw [hconsumed]
    exact Cursor.retreat_advance _ _ _
  rw [backward, hbuffer, hcursor]

/-- The text ahead may be exchanged. -/
theorem Exact.replaceRest (h : r.Exact) (rest : List Char) :
    Exact { r with buffer := ⟨r.buffer.consumed, rest⟩ } := h

/-- An exact reader stands where a fresh one of the whole text comes to by moving to its offset. -/
theorem Exact.advanceTo?_offset (h : r.Exact) :
    (ofString r.buffer.source).advanceTo? r.cursor.offset = some r := by
  have htext : (ofString r.buffer.source).buffer.rest = r.buffer.consumed.reverse ++ r.buffer.rest :=
    String.toList_ofList
  have hoffset : r.cursor.offset = Buffer.byteLength r.buffer.consumed.reverse := by
    rw [h, Cursor.offset_ofBuffer, Buffer.byteLength_reverse]
  have hmoved : (ofString r.buffer.source).forward r.buffer.consumed.reverse.length = r := by
    unfold Reader.forward Buffer.forward
    rw [htext, List.take_left, List.drop_left, List.reverse_reverse]
    show Reader.mk ⟨r.buffer.consumed ++ [], r.buffer.rest⟩ (Cursor.ofBuffer r.buffer) = r
    rw [List.append_nil, ← h]
  have hfresh : (ofString r.buffer.source).cursor.offset = 0 := rfl
  unfold advanceTo?
  rw [hfresh, if_neg (Nat.not_lt_zero _), htext, Nat.sub_zero, hoffset, Buffer.charsIn?_append,
    Option.map_some, hmoved]

/-- The offset of an exact reader is a border between two characters of its text, or one of its ends. -/
theorem Exact.isValid (h : r.Exact) : String.Pos.Raw.IsValid r.buffer.source ⟨r.cursor.offset⟩ := by
  rw [String.Pos.Raw.isValid_iff_exists_append]
  refine ⟨String.ofList r.buffer.consumed.reverse, String.ofList r.buffer.rest, ?_, ?_⟩
  · rw [← String.ofList_append]
    rfl
  · have hoffset : r.cursor.offset = (String.ofList r.buffer.consumed.reverse).utf8ByteSize := by
      rw [h, Cursor.offset_ofBuffer, Buffer.utf8ByteSize_ofList, Buffer.byteLength_reverse]
    rw [hoffset]
    rfl

end Reader

end ShiftReduce
