import ShiftReduce.Proofs.Grammar.Derived
import ShiftReduce.Proofs.Grammar.Described

/-!
# Rows in order

A row lists its symbols in increasing order and keeps doing so (`Row.Ordered.insert`), so all rows of a
built table are in order (`Table.build_ordered`). Each of the cells of such a row can be found, and a row
is uniform exactly if everything that is found in it is one reduction
(`Cells.uniformReduction?_eq_some_iff`).
-/

namespace ShiftReduce

namespace Row

/-- A row that lists its symbols in increasing order, each once, so that an entry of it is the one
that is found. -/
def Ordered (row : Row) : Prop := row.Pairwise (·.1 < ·.1)

variable {row : Row} {symbol : SymbolId} {action : Action}

/-- A row gets no other cell than the one that is written. -/
theorem eq_or_mem_of_mem_insert {cell : SymbolId × Action} (h : cell ∈ row.insert symbol action) :
    cell = (symbol, action) ∨ cell ∈ row := by
  induction row with
  | nil => exact .inl (List.mem_singleton.mp h)
  | cons first rest ih =>
    obtain ⟨s, a⟩ := first
    unfold insert at h
    split at h
    · exact List.mem_cons.mp h
    · split at h
      · rcases List.mem_cons.mp h with heq | hrest
        · exact .inl heq
        · exact .inr (List.mem_cons_of_mem _ hrest)
      · rcases List.mem_cons.mp h with rfl | hrest
        · exact .inr List.mem_cons_self
        · exact (ih hrest).imp_right (List.mem_cons_of_mem _)

/-- A row stays in order if a cell is written. -/
theorem Ordered.insert (h : row.Ordered) (symbol : SymbolId) (action : Action) :
    (row.insert symbol action).Ordered := by
  induction row with
  | nil => exact List.pairwise_singleton _ _
  | cons first rest ih =>
    obtain ⟨s, a⟩ := first
    obtain ⟨hfirst, hrest⟩ := List.pairwise_cons.mp h
    unfold Row.insert
    split
    · next hlt =>
      refine List.pairwise_cons.mpr ⟨fun cell hcell => ?_, h⟩
      rcases List.mem_cons.mp hcell with rfl | hcell
      · exact hlt
      · exact Nat.lt_trans hlt (hfirst cell hcell)
    · next hge =>
      split
      · next heq => exact List.pairwise_cons.mpr ⟨fun cell hcell => heq ▸ hfirst cell hcell, hrest⟩
      · next hne =>
        refine List.pairwise_cons.mpr ⟨fun cell hcell => ?_, ih hrest⟩
        rcases eq_or_mem_of_mem_insert hcell with rfl | hcell
        · exact Nat.lt_of_le_of_ne (Nat.le_of_not_lt hge) (Ne.symm hne)
        · exact hfirst cell hcell

/-- Each cell of an ordered row can be found. -/
theorem Ordered.find? (h : row.Ordered) (hmem : (symbol, action) ∈ row) :
    row.find? symbol = some action := by
  induction row with
  | nil => cases hmem
  | cons first rest ih =>
    obtain ⟨s, a⟩ := first
    obtain ⟨hfirst, hrest⟩ := List.pairwise_cons.mp h
    unfold Row.find?
    rcases List.mem_cons.mp hmem with heq | hmem
    · cases heq
      exact if_pos rfl
    · rw [if_neg (Nat.ne_of_gt (hfirst _ hmem))]
      exact ih hrest hmem

end Row

namespace Cells

/-- The entries of a row are one reduction throughout, and there are some. -/
theorem uniformReduction?_eq_some_iff {row : Row} (h : row.Ordered) {number : ProductionId} :
    uniformReduction? row = some number ↔
      (∃ symbol, row.find? symbol = some (.reduce number)) ∧
        ∀ symbol action, row.find? symbol = some action → action = .reduce number := by
  constructor
  · intro huniform
    exact ⟨find?_of_uniformReduction huniform, fun _ _ hfound => entry_of_uniformReduction huniform hfound⟩
  · rintro ⟨⟨symbol, hsome⟩, hall⟩
    cases row with
    | nil => cases hsome
    | cons first rest =>
      obtain ⟨s, a⟩ := first
      have hfirst : a = .reduce number := hall s a (h.find? List.mem_cons_self)
      have hrest : rest.all (·.2 == .reduce number) = true := by
        refine List.all_eq_true.mpr fun cell hcell => ?_
        rw [hall cell.1 cell.2 (h.find? (List.mem_cons_of_mem _ hcell))]
        exact beq_self_eq_true _
      simp [uniformReduction?, hfirst, hrest]

/-- Cells all of whose rows are in order. The order of the rows is that of the expected tokens. -/
def Ordered (cells : Cells) : Prop := ∀ row ∈ cells.rows, row.Ordered

variable {cells : Cells}

/-- Rows that are added are in order. -/
theorem Ordered.grow (h : cells.Ordered) (state : StateId) :
    ∀ row ∈ Cells.grow cells.rows state, row.Ordered := by
  intro row hrow
  rcases List.mem_append.mp hrow with hrow | hrow
  · exact h row hrow
  · rw [List.eq_of_mem_replicate hrow]
    exact .nil

/-- Rows stay in order if a cell is written. -/
theorem Ordered.set (h : cells.Ordered) (state : StateId) (symbol : SymbolId) (action : Action) :
    (cells.set state symbol action).Ordered := by
  intro row hrow
  obtain ⟨other, hrow⟩ := List.mem_iff_getElem?.mp hrow
  rw [Cells.set, List.getElem?_modify] at hrow
  obtain ⟨old, hold, rfl⟩ := Option.map_eq_some_iff.mp hrow
  have hordered : old.Ordered := h.grow state old (List.mem_of_getElem? hold)
  split
  · exact hordered.insert symbol action
  · exact hordered

/-- Rows stay in order if a declaration is written. -/
theorem Ordered.write (h : cells.Ordered) (names : List String) (declaration : Declaration) :
    (cells.write names declaration).Ordered := by
  cases declaration with
  | shift | reduce | goto | accept | conflict => exact h.set _ _ _
  | defaultReduce state number => exact h.grow state
  | _ => exact h

/-- The rows that declarations write are in order. -/
theorem ordered_written (declarations : List Declaration) : (written declarations).Ordered :=
  List.foldlRecOn declarations (Cells.write (namesOf declarations)) (motive := Cells.Ordered) nofun
    fun _ h declaration _ => h.write _ declaration

end Cells

namespace Table

theorem described_rows (declarations : List Declaration) :
    (described declarations).rows = (Cells.written declarations).rows := by
  unfold described
  dsimp only
  split <;> rfl

/-- The rows of a table that declarations describe are in order. -/
theorem described_ordered (declarations : List Declaration) (state : StateId) :
    ((described declarations).row state).Ordered := by
  rw [row, described_rows]
  cases hrow : (Cells.written declarations).rows[state]? with
  | none => exact .nil
  | some row => exact Cells.ordered_written declarations row (List.mem_of_getElem? hrow)

/-- The rows of a built table are in order. -/
theorem build_ordered {declarations : List Declaration} {table : Table}
    (built : build declarations = .ok table) (state : StateId) : (table.row state).Ordered := by
  obtain ⟨-, rfl⟩ := build_eq_ok.mp built
  exact described_ordered declarations state

end Table

end ShiftReduce
