import Mathlib.Data.List.Induction
import ShiftReduce.Grammar.Expected
import ShiftReduce.Proofs.Grammar.Rows

/-!
# The terminals that a message lists

A message about an unexpected token lists the terminals that a state of a built table takes, in the order
of their numbers and without `error`. What it shows of them are their descriptions, each once: of several
terminals with one description the first stands for all (`Table.expectedTokens_lists`).

The list is put together cell by cell, and `Table.Lists` is what holds of it all along:
`Table.Lists.add` is the step, and the order of the row is what makes the terminal that came first
the one with the smallest number.
-/

namespace ShiftReduce.Table

/-- A terminal other than `error` for which a state has an entry that is not a goto. -/
structure Takes (table : Table) (state : StateId) (symbol : SymbolId) : Prop where
  terminal : table.isTerminal symbol = true
  ordinary : symbol ≠ SymbolId.error
  entry : table.action state symbol ≠ .error
  notGoto : ∀ target, table.action state symbol ≠ .goto target

variable {table : Table} {state : StateId}

/-- The expected cells of an ordered row are those of the terminals that the state takes. In an
ordered row each symbol stands once, so what is found for it is the cell that passes the test. -/
theorem takes_iff (ordered : (table.row state).Ordered) (symbol : SymbolId) :
    table.Takes state symbol ↔ symbol ∈ ((table.row state).filter table.isExpected).map (·.1) := by
  constructor
  · rintro ⟨terminal, ordinary, entry, notGoto⟩
    cases hfound : (table.row state).find? symbol with
    | none => exact absurd (by rw [action, hfound]; rfl) entry
    | some found =>
      have haction : table.action state symbol = found := by rw [action, hfound]; rfl
      refine List.mem_map.mpr ⟨(symbol, found), List.mem_filter.mpr ⟨Row.mem_of_find? hfound, ?_⟩, rfl⟩
      rw [haction] at entry notGoto
      cases found with
      | error => exact absurd rfl entry
      | goto target => exact absurd rfl (notGoto target)
      | _ => simp [isExpected, terminal, ordinary]
  · intro hmem
    obtain ⟨⟨other, found⟩, hcell, rfl⟩ := List.mem_map.mp hmem
    obtain ⟨hrow, hexpected⟩ := List.mem_filter.mp hcell
    have haction : table.action state other = found := by rw [action, ordered.find? hrow]; rfl
    simp only [isExpected, Bool.and_eq_true, bne_iff_ne] at hexpected
    obtain ⟨⟨ordinary, terminal⟩, hentry⟩ := hexpected
    refine ⟨terminal, ordinary, ?_, ?_⟩
    · rintro herror
      rw [← haction, herror] at hentry
      cases hentry
    · rintro target hgoto
      rw [← haction, hgoto] at hentry
      cases hentry

/-- The list with the terminal of one more cell, unless its description is there. -/
def addToken (table : Table) (tokens : List (String × SymbolId)) (cell : SymbolId × Action) :
    List (String × SymbolId) :=
  if tokens.any (·.1 == table.describeSymbol cell.1) then tokens
  else tokens ++ [(table.describeSymbol cell.1, cell.1)]

/-- A list of the terminals of some cells: in the order of the cells and with their descriptions, each
of which stands there once, with a terminal that is not behind the others of that description. -/
structure Lists (table : Table) (cells : Row) (tokens : List (String × SymbolId)) : Prop where
  sublist : (tokens.map (·.2)).Sublist (cells.map (·.1))
  described : ∀ token ∈ tokens, token.1 = table.describeSymbol token.2
  distinct : (tokens.map (·.1)).Nodup
  first : ∀ cell ∈ cells, ∃ token ∈ tokens, token.1 = table.describeSymbol cell.1 ∧ token.2 ≤ cell.1

/-- A list with the terminal of the next cell. If the description is there already, the terminal
that it stands with has a smaller number, since the cells come in the order of their symbols; so it
goes on to stand for both. -/
theorem Lists.add {cells : Row} {tokens : List (String × SymbolId)} {cell : SymbolId × Action}
    (h : table.Lists cells tokens) (behind : ∀ earlier ∈ cells, earlier.1 < cell.1) :
    table.Lists (cells ++ [cell]) (table.addToken tokens cell) := by
  have hcells : (cells ++ [cell]).map (·.1) = cells.map (·.1) ++ [cell.1] := List.map_append
  unfold addToken
  split
  · next hknown =>
    obtain ⟨token, htoken, htext⟩ := List.any_eq_true.mp hknown
    refine ⟨?_, h.described, h.distinct, fun other hother => ?_⟩
    · rw [hcells]
      exact h.sublist.trans (List.sublist_append_left _ _)
    · rcases List.mem_append.mp hother with hother | hother
      · exact h.first other hother
      · obtain ⟨earlier, hearlier, hnumber⟩ :=
          List.mem_map.mp (h.sublist.subset (List.mem_map_of_mem htoken))
        rw [List.mem_singleton.mp hother]
        exact ⟨token, htoken, eq_of_beq htext, hnumber ▸ Nat.le_of_lt (behind earlier hearlier)⟩
  · next hnew =>
    have hfresh : ∀ token ∈ tokens, token.1 ≠ table.describeSymbol cell.1 := fun token htoken heq =>
      hnew (List.any_eq_true.mpr ⟨token, htoken, beq_iff_eq.mpr heq⟩)
    refine ⟨?_, ?_, ?_, fun other hother => ?_⟩
    · rw [hcells, List.map_append]
      exact h.sublist.append (List.Sublist.refl _)
    · intro token htoken
      rcases List.mem_append.mp htoken with htoken | htoken
      · exact h.described token htoken
      · rw [List.mem_singleton.mp htoken]
    · rw [List.map_append]
      refine List.nodup_append.mpr ⟨h.distinct, by simp, fun text htext other hother => ?_⟩
      obtain ⟨token, htoken, rfl⟩ := List.mem_map.mp htext
      rw [List.mem_singleton.mp hother]
      exact hfresh token htoken
    · rcases List.mem_append.mp hother with hother | hother
      · obtain ⟨token, htoken, hfirst⟩ := h.first other hother
        exact ⟨token, List.mem_append_left _ htoken, hfirst⟩
      · rw [List.mem_singleton.mp hother]
        exact ⟨_, List.mem_append_right _ List.mem_cons_self, rfl, Nat.le_refl _⟩

/-- The terminals of the cells of an ordered row, added one by one. -/
theorem lists_foldl {cells : Row} (ordered : cells.Ordered) :
    table.Lists cells (cells.foldl table.addToken []) := by
  induction cells using List.reverseRecOn with
  | nil => exact ⟨List.Sublist.refl _, nofun, .nil, nofun⟩
  | append_singleton cells cell ih =>
    obtain ⟨hcells, -, hbehind⟩ := List.pairwise_append.mp ordered
    rw [List.foldl_append]
    exact (ih hcells).add fun earlier hearlier => hbehind earlier hearlier cell List.mem_cons_self

/-- The expected tokens of a state are a list of its expected cells. -/
theorem lists_expectedTokens (ordered : (table.row state).Ordered) :
    table.Lists ((table.row state).filter table.isExpected) (table.expectedTokens state) :=
  lists_foldl (ordered.sublist List.filter_sublist)

/-- Of a built table, the numbers of the expected tokens increase, their descriptions are distinct,
and each number stands with its own description. They are terminals that the state takes, and each
terminal that it takes has its description there, with the smallest number of those described alike.
Reference: `expected_token_set`. -/
theorem expectedTokens_lists {declarations : List Declaration} {table : Table}
    (built : build declarations = .ok table) (state : StateId) :
    ((table.expectedTokens state).map (·.1)).length = ((table.expectedTokens state).map (·.2)).length ∧
    ((table.expectedTokens state).map (·.2)).Pairwise (· < ·) ∧
    ((table.expectedTokens state).map (·.1)).Nodup ∧
    (table.expectedTokens state).map (·.1) =
      ((table.expectedTokens state).map (·.2)).map table.describeSymbol ∧
    (∀ symbol ∈ (table.expectedTokens state).map (·.2), table.Takes state symbol) ∧
    ∀ symbol, table.Takes state symbol → ∃ first,
      (table.describeSymbol symbol, first) ∈ table.expectedTokens state ∧
        ∀ other, table.Takes state other →
          table.describeSymbol other = table.describeSymbol symbol → first ≤ other := by
  have ordered := build_ordered built state
  have h := lists_expectedTokens ordered
  have hincreasing : (((table.row state).filter table.isExpected).map (·.1)).Pairwise (· < ·) :=
    List.pairwise_map.mpr (ordered.sublist List.filter_sublist)
  refine ⟨by rw [List.length_map, List.length_map], hincreasing.sublist h.sublist, h.distinct, ?_, ?_, ?_⟩
  · rw [List.map_map]
    exact List.map_congr_left h.described
  · intro symbol hsymbol
    exact (takes_iff ordered symbol).mpr (h.sublist.subset hsymbol)
  · intro symbol htakes
    obtain ⟨cell, hcell, rfl⟩ := List.mem_map.mp ((takes_iff ordered symbol).mp htakes)
    obtain ⟨⟨text, first⟩, htoken, htext, -⟩ := h.first cell hcell
    refine ⟨first, htext ▸ htoken, fun other hother hsame => ?_⟩
    -- Any other terminal of this description has one in the list that is not behind it.
    obtain ⟨cell', hcell', rfl⟩ := List.mem_map.mp ((takes_iff ordered other).mp hother)
    obtain ⟨token', htoken', htext', hle⟩ := h.first cell' hcell'
    have heq : (text, first) = token' :=
      List.inj_on_of_nodup_map h.distinct htoken htoken' (htext.trans (hsame.symm.trans htext'.symm))
    rw [← heq] at hle
    exact hle

/-- Declarations of a grammar in which two terminals are described alike. -/
def letters : List Declaration :=
  [.terminal "a", .terminal "b", .nonterminal "S", .describe "a" "letter", .describe "b" "letter",
    .production "S" 1, .goto 0 "S" 3, .shift 0 "error" 4, .shift 0 "b" 1, .shift 0 "a" 2]

theorem consistent_letters : Consistent letters where
  distinct := by decide
  terminalsFirst := by decide
  productions := by simp [letters, Declaration.nonterminal?]
  entries := by
    simp [letters, Declaration.RefersTo, Declaration.nonterminal?, namesOf, Declaration.symbol?,
      reservedNames]
  descriptions := by
    rintro name text hmem
    simp only [letters, List.mem_cons, Declaration.describe.injEq, reduceCtorEq, false_or,
      List.not_mem_nil, or_false] at hmem
    rcases hmem with ⟨rfl, -⟩ | ⟨rfl, -⟩ <;> decide

/-- Of the two terminals that are described as letters the first stands for both. This is where the
numbers of the terminals decide, and not the order in which their cells were declared. -/
theorem expectedTokens_letters :
    ∃ table, build letters = .ok table ∧ table.Takes 0 3 ∧ table.Takes 0 4 ∧
      ("letter", 3) ∈ table.expectedTokens 0 ∧ 4 ∉ (table.expectedTokens 0).map (·.2) := by
  have built : build letters = .ok (described letters) := build_eq_ok.mpr ⟨consistent_letters, rfl⟩
  obtain ⟨-, -, hdistinct, htexts, htaken, hall⟩ := expectedTokens_lists built 0
  have htakes {symbol : SymbolId} {target : StateId}
      (terminal : (described letters).isTerminal symbol = true) (ordinary : symbol ≠ SymbolId.error)
      (shifts : (described letters).action 0 symbol = .shift target) :
      (described letters).Takes 0 symbol :=
    ⟨terminal, ordinary, by rw [shifts]; nofun, by rw [shifts]; nofun⟩
  have ha : (described letters).Takes 0 3 := htakes rfl (by decide) (show _ = Action.shift 2 by decide)
  have hb : (described letters).Takes 0 4 := htakes rfl (by decide) (show _ = Action.shift 1 by decide)
  obtain ⟨first, hfirst, hleast⟩ := hall 3 ha
  -- The terminals before `a` are the reserved ones, none of which is taken.
  have hthree : first = 3 := by
    obtain ⟨hterminal, hordinary, hentry, -⟩ := htaken first (List.mem_map_of_mem hfirst)
    match first, hleast 3 ha rfl with
    | 0, _ => exact absurd hterminal (by decide)
    | 1, _ => exact absurd (by decide) hentry
    | 2, _ => exact absurd rfl hordinary
    | 3, _ => rfl
  subst hthree
  refine ⟨_, built, ha, hb, hfirst, fun hlater => ?_⟩
  obtain ⟨token, htoken, hnumber⟩ := List.mem_map.mp hlater
  have hsame : token.1 = (described letters).describeSymbol token.2 :=
    List.map_inj_left.mp (htexts.trans List.map_map) token htoken
  rw [hnumber] at hsame
  have heq := List.inj_on_of_nodup_map hdistinct htoken hfirst hsame
  rw [heq] at hnumber
  cases hnumber

end ShiftReduce.Table
