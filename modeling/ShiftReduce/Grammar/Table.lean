import ShiftReduce.Grammar.Symbol

/-!
# Parse tables

A table holds the names of the symbols, the productions, a row of cells for each state, the states
that reduce without a look at the input, and the cells in which a conflict was left. Rows are sorted
by symbol; `Row.find?_insert` is the law of writing a cell.
-/

namespace ShiftReduce

/-- The cells of a state that have an entry, in increasing order of their symbols. Reference: the
elements of `GrammarTable::states`. -/
abbrev Row := List (SymbolId × Action)

namespace Row

/-- The row with an entry written to a cell. The order is kept, and an entry that was there is
replaced. -/
def insert (symbol : SymbolId) (action : Action) : Row → Row
  | [] => [(symbol, action)]
  | (s, a) :: rest =>
    if symbol < s then (symbol, action) :: (s, a) :: rest
    else if symbol = s then (symbol, action) :: rest
    else (s, a) :: insert symbol action rest

/-- The entry of a cell, if there is one. -/
def find? (symbol : SymbolId) : Row → Option Action
  | [] => none
  | (s, a) :: rest => if symbol = s then some a else find? symbol rest

/-- Writing a cell changes that cell alone. -/
theorem find?_insert (row : Row) (symbol other : SymbolId) (action : Action) :
    find? other (row.insert symbol action) =
      if other = symbol then some action else find? other row := by
  induction row with
  | nil => simp [insert, find?]
  | cons cell rest ih =>
    obtain ⟨s, a⟩ := cell
    unfold insert
    split
    · simp [find?]
    · split
      · subst symbol; simp only [find?]; split <;> rfl
      · simp only [find?, ih]
        split
        · rename_i h; subst h; rw [if_neg (Ne.symm ‹_›)]
        · rfl

/-- An entry that is found is one of the row's. -/
theorem mem_of_find? {row : Row} {symbol : SymbolId} {action : Action}
    (h : row.find? symbol = some action) : (symbol, action) ∈ row := by
  induction row with
  | nil => cases h
  | cons cell rest ih =>
    obtain ⟨s, a⟩ := cell
    unfold find? at h
    split at h
    · next hsymbol => cases h; rw [hsymbol]; exact List.mem_cons_self
    · exact List.mem_cons_of_mem _ (ih h)

end Row

/-- A parse table. The names stand in the order of their numbers, and so do productions, rows and
conflicts. Reference: `GrammarTable`. -/
structure Table where
  names : List String
  terminalCount : Nat
  productions : List Production
  rows : List Row
  defaults : List (StateId × ProductionId)
  conflicts : List (List Action)
  descriptions : List (SymbolId × String)
deriving Repr

namespace Table

/-- The cells of a state; a state that is not in the table has none. Reference: `GrammarTable::row`.
-/
def row (table : Table) (state : StateId) : Row := table.rows[state]?.getD []

/-- The entry of a cell, `error` where there is none. Reference: `GrammarTable::action`. -/
def action (table : Table) (state : StateId) (symbol : SymbolId) : Action :=
  ((table.row state).find? symbol).getD .error

/-- The production by which a state reduces without a look at the input. Reference:
`GrammarTable::default_action`. -/
def defaultReduction? (table : Table) (state : StateId) : Option ProductionId :=
  table.defaults.lookup state

/-- Whether the table has a state of this number. Reference: `GrammarTable::has_state`. -/
def hasState (table : Table) (state : StateId) : Bool := state < table.rows.length

/-- The production of a number, the augmented one included. Reference: `GrammarTable::production`.
-/
def production? (table : Table) (number : ProductionId) : Option Production :=
  table.productions[number]?

/-- The actions of a cell in which a conflict was left. Reference: `GrammarTable::lookup_ambig`. -/
def conflict (table : Table) (number : ConflictId) : List Action := table.conflicts[number]?.getD []

/-- The number of a symbol, if the grammar knows its name. Reference: `GrammarTable::symbol_id`. -/
def symbolId? (table : Table) (name : String) : Option SymbolId := table.names.idxOf? name

/-- The name of a symbol, if its number was given out. Reference: `GrammarTable::symbol_name`. -/
def symbolName? (table : Table) (symbol : SymbolId) : Option String := table.names[symbol]?

/-- Terminals are numbered before nonterminals; the augmented start symbol is none of them.
Reference: `GrammarTable::is_terminal`. -/
def isTerminal (table : Table) (symbol : SymbolId) : Bool :=
  symbol != SymbolId.accept && symbol < table.terminalCount

/-- The registered description of a symbol, the last one that was declared. Reference:
`GrammarTable::description`. -/
def description? (table : Table) (symbol : SymbolId) : Option String :=
  table.descriptions.lookup symbol

end Table

end ShiftReduce
