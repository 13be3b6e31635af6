import Mathlib.Data.List.Forall2
import ShiftReduce.Grammar.Builder

/-!
# The cells of a built table

A declaration writes at most one cell, and a built table holds no entry that no declaration wrote. So a
property of what declarations write is one of the table (`Cells.Entries`). Parses rely on three of them
(`Cells.Lawful`): a built table accepts at the end of the input alone (`Table.build_accept`), it reduces
by productions that it has (`Table.build_production`), and its gotos are for nonterminals
(`Table.build_goto`). The error token is a terminal of every built table (`Table.build_error`): the
symbols that are reserved stay at the head of the list.

The laws of parsers that need a table to be a built one use no more of it than this, and those that
hold of any table are stated without it.
-/

namespace ShiftReduce

/-- A sequence of two computations succeeds where both do. -/
theorem bind_eq_ok {α β ε : Type} {x : Except ε α} {f : α → Except ε β} {b : β} :
    x >>= f = .ok b ↔ ∃ a, x = .ok a ∧ f a = .ok b := by
  cases x with
  | error fault => exact ⟨nofun, nofun⟩
  | ok a => exact ⟨fun h => ⟨a, rfl, h⟩, fun ⟨_, hx, h⟩ => by cases hx; exact h⟩

/-- A sequence of two computations fails where the first or, behind it, the second does. -/
theorem bind_eq_error {α β ε : Type} {x : Except ε α} {f : α → Except ε β} {fault : ε} :
    x >>= f = .error fault ↔ x = .error fault ∨ ∃ a, x = .ok a ∧ f a = .error fault := by
  cases x with
  | error found =>
    constructor
    · intro h
      cases h
      exact .inl rfl
    · rintro (h | ⟨_, h, -⟩)
      · cases h
        rfl
      · cases h
  | ok a =>
    constructor
    · exact fun h => .inr ⟨a, rfl, h⟩
    · rintro (h | ⟨_, h, hf⟩)
      · cases h
      · cases h
        exact hf

/-- A map by a computation succeeds with the results for the elements. -/
theorem mapM_eq_ok_iff {α β ε : Type} {f : α → Except ε β} {xs : List α} {ys : List β} :
    xs.mapM f = .ok ys ↔ List.Forall₂ (fun x y => f x = .ok y) xs ys := by
  induction xs generalizing ys with
  | nil =>
    rw [List.forall₂_nil_left_iff]
    exact ⟨fun h => by cases h; rfl, fun h => by rw [h]; rfl⟩
  | cons x xs ih =>
    rw [List.mapM_cons, bind_eq_ok, List.forall₂_cons_left_iff]
    constructor
    · rintro ⟨y, hy, h⟩
      obtain ⟨rest, hrest, h⟩ := bind_eq_ok.mp h
      cases h
      exact ⟨y, rest, hy, ih.mp hrest, rfl⟩
    · rintro ⟨y, rest, hy, hrest, rfl⟩
      exact ⟨y, hy, bind_eq_ok.mpr ⟨rest, ih.mpr hrest, rfl⟩⟩

/-- What every step of a fold keeps, a fold that succeeds keeps. -/
theorem foldlM_keeps {α β ε : Type} {P : β → Prop} {f : β → α → Except ε β}
    (keeps : ∀ {b a b'}, P b → f b a = .ok b' → P b') {xs : List α} {b b' : β} (start : P b)
    (h : xs.foldlM f b = .ok b') : P b' := by
  induction xs generalizing b with
  | nil => cases h; exact start
  | cons x xs ih =>
    rw [List.foldlM_cons] at h
    obtain ⟨next, hnext, hrest⟩ := bind_eq_ok.mp h
    exact ih (keeps start hnext) hrest

namespace Cells

/-- The entry of a cell, if it has one. Reference: `GrammarTable::action`. -/
def cell? (cells : Cells) (state : StateId) (symbol : SymbolId) : Option Action :=
  (cells.rows[state]?.getD []).find? symbol

/-- All entries have a property that may depend on the symbol of their cell. -/
def Entries (P : SymbolId → Action → Prop) (cells : Cells) : Prop :=
  ∀ state symbol action, cells.cell? state symbol = some action → P symbol action

/-- Rows that are added are empty. -/
theorem getD_grow (rows : List Row) (state other : StateId) :
    (grow rows state)[other]?.getD [] = rows[other]?.getD [] := by
  unfold grow
  by_cases hother : other < rows.length
  · rw [List.getElem?_append_left hother]
  · rw [List.getElem?_append_right (Nat.le_of_not_lt hother), List.getElem?_replicate,
      List.getElem?_eq_none (Nat.le_of_not_lt hother)]
    split <;> rfl

/-- Rows are there up to the state for which they were added. -/
theorem lt_length_grow (rows : List Row) (state : Nat) : state < (grow rows state).length := by
  unfold grow
  rw [List.length_append, List.length_replicate]
  omega

/-- A cell that was written has the entry written; the others keep theirs. -/
theorem cell?_set (cells : Cells) (state other : StateId) (symbol target : SymbolId)
    (action : Action) :
    (cells.set state symbol action).cell? other target =
      if other = state ∧ target = symbol then some action else cells.cell? other target := by
  unfold cell? set
  dsimp only
  rw [List.getElem?_modify, ← getD_grow cells.rows state other]
  by_cases hother : other = state
  · subst hother
    rw [List.getElem?_eq_getElem (lt_length_grow cells.rows other)]
    simp only [if_pos, true_and, Option.map_eq_map, Option.map_some, Option.getD_some]
    rw [Row.find?_insert]
  · have hne : state ≠ other := fun h => hother h.symm
    simp [hother, hne]

/-- Writing an entry that has the property keeps it. -/
theorem Entries.set {P : SymbolId → Action → Prop} {cells : Cells} (h : cells.Entries P)
    (state : StateId) {symbol : SymbolId} {action : Action} (new : P symbol action) :
    (cells.set state symbol action).Entries P := by
  intro other target found hfound
  rw [cell?_set] at hfound
  split at hfound
  · next heq => cases hfound; rw [heq.2]; exact new
  · exact h other target found hfound

/-- Rows that are added keep the property. -/
theorem Entries.grow {P : SymbolId → Action → Prop} {cells cells' : Cells} (h : cells.Entries P)
    (state : StateId) (rows : cells'.rows = Cells.grow cells.rows state) : cells'.Entries P := by
  intro other target found hfound
  unfold cell? at hfound
  rw [rows, getD_grow] at hfound
  exact h other target found hfound

/-- What may stand in the cell of a symbol, where the first `terminals` symbols are terminals and that
many productions were declared: an acceptance at the end of the input alone, a reduction by one of the
productions, a goto for a nonterminal. -/
structure Admits (terminals productions : Nat) (symbol : SymbolId) (action : Action) : Prop where
  accept : action = .accept → symbol = SymbolId.endOfInput
  reduce (number : ProductionId) : action = .reduce number → number ≤ productions
  goto (target : StateId) : action = .goto target → terminals ≤ symbol

/-- Cells with admissible entries, and defaults by productions that were declared. -/
structure Lawful (terminals productions : Nat) (cells : Cells) : Prop where
  entries : cells.Entries (Admits terminals productions)
  defaults (state : StateId) (number : ProductionId) :
    (state, number) ∈ cells.defaults → number ≤ productions

/-- A production number that passes its check was declared. -/
theorem checkProduction_le {count : Nat} {number checked : ProductionId}
    (h : checkProduction count number = .ok checked) : checked ≤ count := by
  unfold checkProduction at h
  split at h
  · cases h
  · next hknown => cases h; exact Nat.le_of_not_lt fun hlt => hknown (.inr hlt)

/-- A symbol that passes for a nonterminal is numbered behind the terminals. -/
theorem terminalCount_le_resolveNonterminal {symbols : Symbols} {fault : String → GrammarError}
    {name : String} {id : SymbolId} (h : symbols.resolveNonterminal fault name = .ok id) :
    symbols.terminalCount ≤ id := by
  obtain ⟨found, -, h⟩ := bind_eq_ok.mp h
  split at h
  · cases h
  · next hbehind => cases h; exact Nat.le_of_not_lt hbehind

/-- A declaration keeps the cells lawful: names are resolved and production numbers are checked
before an entry is written. Reference: `GrammarTableBuilder::build`. -/
theorem declare_lawful {symbols : Symbols} {count : Nat} {cells cells' : Cells}
    {declaration : Declaration} (h : cells.Lawful symbols.terminalCount count)
    (declared : declare symbols count cells declaration = .ok cells') :
    cells'.Lawful symbols.terminalCount count := by
  cases declaration with
  | terminal name => cases declared; exact h
  | nonterminal name => cases declared; exact h
  | describe name text => cases declared; exact h
  | production lhs length => cases declared; exact h
  | deriveDefaults enabled => cases declared; exact h
  | accept state =>
    cases declared
    exact ⟨h.entries.set state ⟨fun _ => rfl, nofun, nofun⟩, h.defaults⟩
  | shift state symbol target =>
    obtain ⟨id, -, hset⟩ := bind_eq_ok.mp declared
    cases hset
    exact ⟨h.entries.set state ⟨nofun, nofun, nofun⟩, h.defaults⟩
  | reduce state symbol number =>
    obtain ⟨id, -, hset⟩ := bind_eq_ok.mp declared
    obtain ⟨checked, hchecked, hset⟩ := bind_eq_ok.mp hset
    cases hset
    refine ⟨h.entries.set state ⟨nofun, ?_, nofun⟩, h.defaults⟩
    intro number heq
    cases heq
    exact checkProduction_le hchecked
  | goto state symbol target =>
    obtain ⟨id, hid, hset⟩ := bind_eq_ok.mp declared
    cases hset
    have hbehind := terminalCount_le_resolveNonterminal hid
    exact ⟨h.entries.set state ⟨nofun, nofun, fun _ _ => hbehind⟩, h.defaults⟩
  | conflict state symbol actions =>
    obtain ⟨id, -, hset⟩ := bind_eq_ok.mp declared
    obtain ⟨resolved, -, hset⟩ := bind_eq_ok.mp hset
    cases hset
    exact ⟨h.entries.set state ⟨nofun, nofun, nofun⟩, h.defaults⟩
  | defaultReduce state number =>
    obtain ⟨checked, hchecked, hgrow⟩ := bind_eq_ok.mp declared
    cases hgrow
    refine ⟨h.entries.grow state rfl, ?_⟩
    intro other number hmem
    rcases List.mem_cons.mp hmem with heq | hmem
    · cases heq
      exact checkProduction_le hchecked
    · exact h.defaults other number hmem

/-- Before the first declaration there is no cell. -/
theorem lawful_empty (terminals productions : Nat) : ({} : Cells).Lawful terminals productions := by
  refine ⟨?_, nofun⟩
  intro state symbol action hfound
  unfold cell? at hfound
  rw [List.getElem?_nil] at hfound
  cases hfound

/-- The production of a uniform row stands in one of its cells. -/
theorem find?_of_uniformReduction {row : Row} {number : ProductionId}
    (h : uniformReduction? row = some number) : ∃ symbol, row.find? symbol = some (.reduce number) := by
  unfold uniformReduction? at h
  split at h
  · next symbol first rest =>
    split at h
    · cases h
      exact ⟨symbol, if_pos rfl⟩
    · cases h
  · cases h

/-- Defaults that are derived from the rows are lawful. -/
theorem Lawful.derive {terminals productions : Nat} {cells : Cells}
    (h : cells.Lawful terminals productions) : cells.derive.Lawful terminals productions := by
  refine ⟨h.entries, ?_⟩
  intro state number hmem
  rcases List.mem_append.mp hmem with hdeclared | hderived
  · exact h.defaults state number hdeclared
  · obtain ⟨⟨row, place⟩, hrow, hmap⟩ := List.mem_filterMap.mp hderived
    obtain ⟨found, huniform, heq⟩ := Option.map_eq_some_iff.mp hmap
    cases heq
    obtain ⟨symbol, hfind⟩ := find?_of_uniformReduction huniform
    have hcell : cells.cell? state symbol = some (.reduce number) := by
      unfold cell?
      rw [List.mk_mem_zipIdx_iff_getElem?.mp hrow]
      exact hfind
    exact (h.entries state symbol _ hcell).reduce number rfl

end Cells

/-- Symbols that begin with the three reserved ones, all of them terminals. -/
structure Symbols.Reserved (symbols : Symbols) : Prop where
  names : 3 ≤ symbols.names.length
  terminals : 3 ≤ symbols.terminalCount

/-- A symbol more is one name more. -/
theorem Symbols.add_ok {symbols symbols' : Symbols} {name : String}
    (h : symbols.add name = .ok symbols') :
    symbols' = { symbols with names := symbols.names ++ [name] } := by
  unfold Symbols.add at h
  split at h
  · cases h
  · cases h; rfl

/-- A declaration keeps the reserved symbols. -/
theorem Symbols.declare_reserved {symbols symbols' : Symbols} {declaration : Declaration}
    (h : symbols.Reserved) (declared : symbols.declare declaration = .ok symbols') :
    symbols'.Reserved := by
  have hlonger (name : String) : 3 ≤ (symbols.names ++ [name]).length := by
    have hnames := h.names
    rw [List.length_append]
    omega
  cases declaration with
  | terminal name =>
    simp only [Symbols.declare] at declared
    split at declared
    · cases declared
    · obtain ⟨added, hadd, heq⟩ := bind_eq_ok.mp declared
      cases heq
      rw [Symbols.add_ok hadd]
      exact ⟨hlonger name, hlonger name⟩
  | nonterminal name =>
    rw [Symbols.add_ok declared]
    exact ⟨hlonger name, h.terminals⟩
  | _ => cases declared; exact h

namespace Table

/-- In a built table the error token is a terminal. -/
theorem build_error {declarations : List Declaration} {table : Table}
    (built : build declarations = .ok table) : table.isTerminal SymbolId.error = true := by
  unfold build at built
  obtain ⟨symbols, hsymbols, built⟩ := bind_eq_ok.mp built
  obtain ⟨productions, -, built⟩ := bind_eq_ok.mp built
  obtain ⟨cells, -, built⟩ := bind_eq_ok.mp built
  obtain ⟨descriptions, -, built⟩ := bind_eq_ok.mp built
  have hreserved : symbols.Reserved := by
    have hstart : ({} : Symbols).Reserved := ⟨Nat.le_refl 3, Nat.le_refl 3⟩
    exact foldlM_keeps Symbols.declare_reserved hstart hsymbols
  cases built
  have hlt : SymbolId.error < symbols.terminalCount := hreserved.terminals
  exact Bool.and_eq_true_iff.mpr ⟨rfl, decide_eq_true hlt⟩

/-- A built table has lawful cells, whatever the declarations are. Reference:
`GrammarTableBuilder::build`. -/
theorem build_lawful {declarations : List Declaration} {table : Table}
    (built : build declarations = .ok table) :
    ∃ (cells : Cells) (productions : Nat), cells.Lawful table.terminalCount productions ∧
      table.rows = cells.rows ∧ table.defaults = cells.defaults ∧
      table.productions.length = productions + 1 := by
  unfold build at built
  obtain ⟨symbols, -, built⟩ := bind_eq_ok.mp built
  obtain ⟨productions, hproductions, built⟩ := bind_eq_ok.mp built
  obtain ⟨cells, hcells, built⟩ := bind_eq_ok.mp built
  obtain ⟨descriptions, -, built⟩ := bind_eq_ok.mp built
  have hlawful := foldlM_keeps Cells.declare_lawful (Cells.lawful_empty _ _) hcells
  cases built
  have hlength := (mapM_eq_ok_iff.mp hproductions).length_eq
  refine ⟨_, _, ?_, rfl, rfl, congrArg Nat.succ hlength.symm⟩
  dsimp only
  split
  · exact hlawful.derive
  · exact hlawful

/-- An entry of a built table is admissible. -/
theorem build_admits {declarations : List Declaration} {table : Table}
    (built : build declarations = .ok table) {state : StateId} {symbol : SymbolId} {action : Action}
    (h : table.action state symbol = action) (written : action ≠ .error) :
    ∃ productions, Cells.Admits table.terminalCount productions symbol action ∧
      table.productions.length = productions + 1 := by
  obtain ⟨cells, productions, hlawful, hrows, -, hlength⟩ := build_lawful built
  refine ⟨productions, ?_, hlength⟩
  unfold Table.action row at h
  rw [hrows] at h
  cases hentry : (cells.rows[state]?.getD []).find? symbol with
  | none => rw [hentry] at h; exact absurd h.symm written
  | some found =>
    rw [hentry, Option.getD_some] at h
    subst h
    exact hlawful.entries state symbol found hentry

/-- A built table accepts at the end of the input alone. -/
theorem build_accept {declarations : List Declaration} {table : Table}
    (built : build declarations = .ok table) {state : StateId} {symbol : SymbolId}
    (h : table.action state symbol = .accept) : symbol = SymbolId.endOfInput := by
  obtain ⟨_, hadmits, -⟩ := build_admits built h nofun
  exact hadmits.accept rfl

/-- A built table has no goto for a terminal. -/
theorem build_goto {declarations : List Declaration} {table : Table}
    (built : build declarations = .ok table) {state target : StateId} {symbol : SymbolId}
    (h : table.action state symbol = .goto target) : table.isTerminal symbol = false := by
  obtain ⟨_, hadmits, -⟩ := build_admits built h nofun
  have hbehind : ¬symbol < table.terminalCount := Nat.not_lt.mpr (hadmits.goto target rfl)
  simp [isTerminal, hbehind]

/-- Whether a state reduces by a production: in one of its cells, or by default. -/
def Reduces (table : Table) (state : StateId) (number : ProductionId) : Prop :=
  (∃ symbol, table.action state symbol = .reduce number) ∨
    table.defaultReduction? state = some number

/-- A built table reduces by productions that it has. -/
theorem build_production {declarations : List Declaration} {table : Table}
    (built : build declarations = .ok table) {state : StateId} {number : ProductionId}
    (h : table.Reduces state number) : ∃ production, table.production? number = some production := by
  have hlt : number < table.productions.length := by
    rcases h with ⟨symbol, hentry⟩ | hdefault
    · obtain ⟨productions, hadmits, hlength⟩ := build_admits built hentry nofun
      rw [hlength]
      exact Nat.lt_succ_of_le (hadmits.reduce number rfl)
    · obtain ⟨cells, productions, hlawful, -, hdefaults, hlength⟩ := build_lawful built
      unfold defaultReduction? at hdefault
      rw [hdefaults] at hdefault
      obtain ⟨before, after, heq, -⟩ := List.lookup_eq_some_iff.mp hdefault
      have hmem : (state, number) ∈ cells.defaults := by
        rw [heq]
        exact List.mem_append_right _ List.mem_cons_self
      rw [hlength]
      exact Nat.lt_succ_of_le (hlawful.defaults state number hmem)
  exact ⟨_, List.getElem?_eq_getElem hlt⟩

end Table

end ShiftReduce
