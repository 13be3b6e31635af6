import Mathlib.Data.List.Induction
import ShiftReduce.Proofs.Grammar.Rows

/-!
# What a table shows of its declarations

A cell shows the last entry that was given for it (`Cells.show_foldl`), a state reduces by the last
default that was declared for it (`Cells.lookup_defaults_foldl`), and a derived default is the reduction
that fills a row (`Cells.lookup_defaults_derive`). So what can be looked up in a built table is told by
its declarations (`Table.Shows`), and declarations have a table exactly if they are consistent
(`Table.build_specified`).

The steps, in the order of the module:

* what a declaration says of a cell or of a default (`Declaration.cell?`, `Declaration.Gives`,
  `Declaration.entriesAt`, `Declaration.defaultsAt`);
* cells: a declaration leaves a cell as it was or writes its entry there (`Cells.Wrote`,
  `Cells.wrote`), so that a fold over declarations shows the last entry (`Cells.Show`,
  `Cells.Show.write`);
* defaults: a declared one is found before a derived one, which stands for a whole row
  (`Table.filledBy_iff`);
* the table: all that is shown of consistent declarations (`Table.described_shows`), and by
  `Table.build_eq_ok` and `Table.build_mixed` of whatever can be built.

Tables are described by names here and by numbers where they are built. A name has one place among
the symbols since names are distinct, and this is all that leads from the one to the other.
-/

namespace ShiftReduce

/-! ## The last entry of a cell -/

namespace Declaration

/-- The cell for which a declaration gives an entry, by the name of its symbol; to accept is an
entry for the end of the input. -/
def cell? : Declaration → Option (StateId × String)
  | .shift state symbol _ | .reduce state symbol _ | .goto state symbol _ | .conflict state symbol _ =>
    some (state, symbol)
  | .accept state => some (state, "$end")
  | _ => none

/-- The entries that declarations give for a cell, in their order. The last one counts. -/
def entriesAt (declarations : List Declaration) (state : StateId) (name : String) : List Declaration :=
  declarations.filter (·.cell? = some (state, name))

/-- What an entry puts into its cell. A conflict puts there the number under which its actions are to be
found; `found` says which actions a number stands for. -/
def Gives (found : ConflictId → List Action → Prop) : Declaration → Action → Prop
  | .shift _ _ target, action => action = .shift target
  | .reduce _ _ number, action => action = .reduce number
  | .goto _ _ target, action => action = .goto target
  | .accept _, action => action = .accept
  | .conflict _ _ actions, action =>
    ∃ number, action = .ambiguous number ∧ found number (actions.map (·.action))
  | _, _ => False

/-- An entry gives the same if what is found under a number is still found. -/
theorem Gives.mono {found found' : ConflictId → List Action → Prop} {declaration : Declaration}
    {action : Action} (h : declaration.Gives found action)
    (still : ∀ number actions, found number actions → found' number actions) :
    declaration.Gives found' action := by
  cases declaration with
  | conflict state symbol actions =>
    obtain ⟨number, haction, hfound⟩ := h
    exact ⟨number, haction, still _ _ hfound⟩
  | _ => exact h

/-- No entry is an error. -/
theorem Gives.ne_error {found : ConflictId → List Action → Prop} {declaration : Declaration}
    {action : Action} (h : declaration.Gives found action) : action ≠ .error := by
  rintro rfl
  cases declaration with
  | conflict state symbol actions =>
    obtain ⟨number, haction, -⟩ := h
    cases haction
  | shift | reduce | goto | accept => cases h
  | _ => exact h

/-- The defaults that declarations give for a state, in their order. The last one counts. -/
def defaultsAt (declarations : List Declaration) (state : StateId) : List ProductionId :=
  declarations.filterMap fun
    | .defaultReduce other number => if other = state then some number else none
    | _ => none

end Declaration

namespace Cells

open Declaration

/-- What an entry of a cell stands for among the conflicts: these actions are found under its
number. Reference: `GrammarTable::lookup_ambig`. -/
def Found (cells : Cells) (number : ConflictId) (actions : List Action) : Prop :=
  cells.conflicts[number]? = some actions

variable {names : List String} {cells cells' : Cells} {declaration : Declaration}

/-- What was found among the conflicts before a declaration is still found there behind it. -/
theorem Found.write {number : ConflictId} {actions : List Action} (h : cells.Found number actions)
    (names : List String) (declaration : Declaration) :
    (cells.write names declaration).Found number actions := by
  cases declaration with
  | conflict state symbol others =>
    have hlt := (List.getElem?_eq_some_iff.mp h).1
    exact (List.getElem?_append_left hlt).trans h
  | _ => exact h

/-- A cell that a declaration leaves as it was, or that holds its entry: then it is the declaration's. -/
inductive Wrote (names : List String) (cells cells' : Cells) (declaration : Declaration)
    (state : StateId) (symbol : SymbolId) : Prop
  | entry (name : String) (action : Action) (cell : declaration.cell? = some (state, name))
      (place : names.idxOf name = symbol) (holds : cells'.cell? state symbol = some action)
      (gives : declaration.Gives cells'.Found action)
  | same (other : ∀ name, declaration.cell? = some (state, name) → names.idxOf name ≠ symbol)
      (kept : cells'.cell? state symbol = cells.cell? state symbol)

/-- An entry is written to the cell of its symbol. -/
theorem wrote_of_set {state : StateId} {name : String} (action : Action)
    (cell : declaration.cell? = some (state, name))
    (rows : cells'.rows = (cells.set state (names.idxOf name) action).rows)
    (gives : declaration.Gives cells'.Found action) (other : StateId) (symbol : SymbolId) :
    Wrote names cells cells' declaration other symbol := by
  have hcell : cells'.cell? other symbol =
      if other = state ∧ symbol = names.idxOf name then some action else cells.cell? other symbol := by
    rw [← cell?_set, Cells.cell?, rows, ← Cells.cell?]
  by_cases hplace : other = state ∧ symbol = names.idxOf name
  · obtain ⟨rfl, rfl⟩ := hplace
    exact .entry name action cell rfl (hcell.trans (if_pos ⟨rfl, rfl⟩)) gives
  · refine .same (fun found hfound heq => hplace ?_) (hcell.trans (if_neg hplace))
    rw [cell] at hfound
    cases hfound
    exact ⟨rfl, heq.symm⟩

/-- A declaration writes its entry to its cell, and to no other cell. -/
theorem wrote (endOfInput : names.idxOf "$end" = SymbolId.endOfInput) (cells : Cells)
    (declaration : Declaration) (state : StateId) (symbol : SymbolId) :
    Wrote names cells (cells.write names declaration) declaration state symbol := by
  cases declaration with
  | shift _ _ target => apply wrote_of_set (.shift target) <;> rfl
  | reduce _ _ number => apply wrote_of_set (.reduce number) <;> rfl
  | goto _ _ target => apply wrote_of_set (.goto target) <;> rfl
  | accept other =>
    apply wrote_of_set .accept
    · rfl
    · rw [endOfInput]
      rfl
    · rfl
  | conflict other name actions =>
    apply wrote_of_set (.ambiguous cells.conflicts.length)
    · rfl
    · rfl
    · exact ⟨_, rfl, List.getElem?_concat_length⟩
  | defaultReduce other number =>
    refine .same nofun ?_
    unfold Cells.cell?
    exact congrArg (Row.find? symbol) (getD_grow cells.rows other state)
  | _ => exact .same nofun rfl

/-- Cells that show the last entry of each symbol, and nothing that no symbol has. -/
structure Show (names : List String) (declarations : List Declaration) (cells : Cells) : Prop where
  last (state : StateId) (name : String) : name ∈ names →
    Option.Rel (·.Gives cells.Found) (entriesAt declarations state name).getLast?
      (cells.cell? state (names.idxOf name))
  beyond (state : StateId) (symbol : SymbolId) : names.length ≤ symbol → cells.cell? state symbol = none

/-- One more declaration is shown by the cells behind it. A name has one place, so an entry for one
symbol is not one for another; and the actions of an earlier conflict are still found, since numbers
of conflicts are not given twice (`Found.write`). -/
theorem Show.write {declarations : List Declaration} (h : cells.Show names declarations)
    (endOfInput : names.idxOf "$end" = SymbolId.endOfInput)
    (known : ∀ state name, declaration.cell? = some (state, name) → name ∈ names) :
    (cells.write names declaration).Show names (declarations ++ [declaration]) := by
  constructor
  · intro state name hname
    rw [entriesAt, List.filter_append, ← entriesAt]
    cases wrote endOfInput cells declaration state (names.idxOf name) with
    | entry other action hcell hplace hholds hgives =>
      have heq : other = name := (List.idxOf_inj (known state other hcell)).mp hplace
      rw [List.filter_cons_of_pos (by simp [hcell, heq]), List.filter_nil, List.getLast?_concat, hholds]
      exact .some hgives
    | same hother hkept =>
      have hnot : declaration.cell? ≠ some (state, name) := fun hcell => hother name hcell rfl
      rw [List.filter_cons_of_neg (by simpa using hnot), List.filter_nil, List.append_nil, hkept]
      have hlast := h.last state name hname
      revert hlast
      generalize (entriesAt declarations state name).getLast? = last
      generalize cells.cell? state (names.idxOf name) = shown
      rintro (hgives | -)
      · exact .some (hgives.mono fun _ _ hfound => hfound.write names declaration)
      · exact .none
  · intro state symbol hlength
    cases wrote endOfInput cells declaration state symbol with
    | entry name action hcell hplace hholds hgives =>
      have hlt := List.idxOf_lt_length_of_mem (known state name hcell)
      exact absurd (hplace ▸ hlt) (Nat.not_lt.mpr hlength)
    | same hother hkept => exact hkept.trans (h.beyond state symbol hlength)

/-- Declarations are shown by the cells that they write. By induction on the declarations from their
end, with `Show` for the invariant. -/
theorem show_foldl (endOfInput : names.idxOf "$end" = SymbolId.endOfInput)
    (declarations : List Declaration)
    (known : ∀ declaration ∈ declarations, ∀ state name,
      declaration.cell? = some (state, name) → name ∈ names) :
    (declarations.foldl (Cells.write names) {}).Show names declarations := by
  induction declarations using List.reverseRecOn with
  | nil => exact ⟨fun _ _ _ => .none, fun _ _ _ => rfl⟩
  | append_singleton declarations declaration ih =>
    rw [List.foldl_append]
    refine (ih fun earlier hearlier => known earlier (List.mem_append_left _ hearlier)).write endOfInput ?_
    exact known declaration (List.mem_append_right _ List.mem_cons_self)

/-! ## Defaults -/

/-- The default of a state is the last that was declared for it. -/
theorem lookup_defaults_foldl (names : List String) (declarations : List Declaration) (state : StateId) :
    (declarations.foldl (Cells.write names) {}).defaults.lookup state =
      (defaultsAt declarations state).getLast? := by
  induction declarations using List.reverseRecOn with
  | nil => rfl
  | append_singleton declarations declaration ih =>
    rw [List.foldl_append, List.foldl_cons, List.foldl_nil, defaultsAt, List.filterMap_append,
      ← defaultsAt, List.getLast?_append, ← ih]
    cases declaration with
    | defaultReduce other number =>
      simp only [Cells.write, List.lookup_cons, List.filterMap_cons, List.filterMap_nil]
      by_cases hother : other = state
      · simp [hother]
      · simp [hother, beq_false_of_ne (Ne.symm hother)]
    | _ => rfl

/-- The defaults that rows give, listed from the state `first` on. The induction is on the rows,
with the number of the first one left open. -/
theorem lookup_uniformReductions (rows : List Row) (first state : Nat) :
    ((rows.zipIdx first).filterMap fun (row, state) =>
        (uniformReduction? row).map fun number => (state, number)).lookup state =
      if first ≤ state then (rows[state - first]?).bind uniformReduction? else none := by
  induction rows generalizing first with
  | nil => simp
  | cons row rows ih =>
    have hhead : ([(row, first)].filterMap fun (row, state) =>
        (uniformReduction? row).map fun number => (state, number)).lookup state =
          if state = first then uniformReduction? row else none := by
      cases hrow : uniformReduction? row with
      | none => simp [hrow]
      | some number =>
        by_cases hstate : state = first
        · simp [hrow, hstate]
        · simp [hrow, hstate, List.lookup_cons, beq_false_of_ne hstate]
    rw [List.zipIdx_cons, ← List.singleton_append, List.filterMap_append, List.lookup_append, ih, hhead]
    by_cases hstate : state = first
    · rw [if_pos hstate, if_neg (by omega), if_pos (by omega), Option.or_none, hstate, Nat.sub_self]
      rfl
    · rw [if_neg hstate, Option.none_or]
      by_cases hbehind : first ≤ state
      · have hplace : state - first = state - (first + 1) + 1 := by omega
        rw [if_pos hbehind, if_pos (by omega), hplace]
        rfl
      · rw [if_neg hbehind, if_neg (by omega)]

/-- A state without a declared default has the derived one. -/
theorem lookup_defaults_derive (cells : Cells) (state : StateId) :
    cells.derive.defaults.lookup state =
      (cells.defaults.lookup state).or (uniformReduction? (cells.rows[state]?.getD [])) := by
  rw [derive, List.lookup_append, lookup_uniformReductions, if_pos (Nat.zero_le state), Nat.sub_zero]
  cases cells.rows[state]? <;> rfl

/-- No cell holds an error. -/
theorem Show.ne_error {declarations : List Declaration} (h : cells.Show names declarations)
    (distinct : names.Nodup) {state : StateId} {symbol : SymbolId} {action : Action}
    (holds : cells.cell? state symbol = some action) : action ≠ .error := by
  rcases Nat.lt_or_ge symbol names.length with hlt | hge
  · have hlast := h.last state names[symbol] (List.getElem_mem hlt)
    rw [distinct.idxOf_getElem symbol hlt, holds] at hlast
    generalize (entriesAt declarations state names[symbol]).getLast? = last at hlast
    cases hlast with
    | some hgives => exact hgives.ne_error
  · rw [h.beyond state symbol hge] at holds
    cases holds

end Cells

/-! ## Built tables -/

namespace Table

/-- A production whose reduction is in some of the cells of a state, and in all that are not empty. -/
def FilledBy (table : Table) (state : StateId) (number : ProductionId) : Prop :=
  (∃ symbol, table.action state symbol = .reduce number) ∧
    ∀ symbol, table.action state symbol ≠ .error → table.action state symbol = .reduce number

open Declaration in
/-- A table that shows what declarations say, lookup by lookup. Reference: the lookups of
`GrammarTable`. -/
structure Shows (table : Table) (declarations : List Declaration) : Prop where
  /-- Symbols are numbered without gaps, the reserved ones first, in the order of their registration. -/
  symbolName : ∀ symbol, table.symbolName? symbol = (namesOf declarations)[symbol]?
  /-- A name has the number under which it is found. -/
  symbolId : ∀ name symbol, table.symbolId? name = some symbol ↔ table.symbolName? symbol = some name
  /-- The terminals are the reserved ones and those that were registered as such. -/
  terminal : ∀ symbol name, table.symbolName? symbol = some name →
    (table.isTerminal symbol = true ↔ name = "$end" ∨ name = "error" ∨ .terminal name ∈ declarations)
  /-- A terminal has a smaller number than a nonterminal. -/
  terminalsFirst : ∀ symbol other name, table.isTerminal symbol = true →
    table.symbolName? other = some name → .nonterminal name ∈ declarations → symbol < other
  /-- A cell holds what the last of its entries gives; a conflict is found under its number. -/
  entry : ∀ state symbol name declaration, table.symbolName? symbol = some name →
    (entriesAt declarations state name).getLast? = some declaration →
    declaration.Gives (table.conflict · = ·) (table.action state symbol)
  /-- A cell for which no entry is given is an error. -/
  missing : ∀ state symbol,
    (∀ name, table.symbolName? symbol = some name → entriesAt declarations state name = []) →
    table.action state symbol = .error
  /-- A state reduces by the last default that is declared for it. -/
  declaredDefault : ∀ state number, (defaultsAt declarations state).getLast? = some number →
    table.defaultReduction? state = some number
  /-- A state without a declared default reduces by the production that fills it, if this is to be
  derived. -/
  derivedDefault : ∀ state, defaultsAt declarations state = [] → ∀ number,
    table.defaultReduction? state = some number ↔
      (declarations.filterMap (·.derives?)).getLast? = some true ∧ table.FilledBy state number

end Table

namespace Consistent

variable {declarations : List Declaration}

/-- The end of the input has its reserved number. -/
theorem idxOf_endOfInput (declarations : List Declaration) :
    (namesOf declarations).idxOf "$end" = SymbolId.endOfInput := by
  simp [namesOf, reservedNames, SymbolId.endOfInput]

/-- Names of nonterminals are names of symbols. -/
theorem mem_names_of_nonterminal (h : Consistent declarations) {name : String}
    (hname : name ∈ declarations.filterMap (·.nonterminal?)) : name ∈ namesOf declarations :=
  ((mem_nonterminals_of_distinct h.distinct h.terminalsFirst name).mp hname).1

/-- The symbol of a cell for which there is an entry is known. -/
theorem known (h : Consistent declarations) {declaration : Declaration}
    (hmem : declaration ∈ declarations) {state : StateId} {name : String}
    (hcell : declaration.cell? = some (state, name)) : name ∈ namesOf declarations := by
  have hrefers := h.entries declaration hmem
  cases declaration with
  | shift => cases hcell; exact hrefers
  | reduce | conflict => cases hcell; exact hrefers.1
  | goto => cases hcell; exact h.mem_names_of_nonterminal hrefers
  | accept => cases hcell; exact List.mem_append_left _ (by decide)
  | _ => cases hcell

/-- The cells of consistent declarations show their last entries. -/
theorem show_written (h : Consistent declarations) :
    (Cells.written declarations).Show (namesOf declarations) declarations :=
  Cells.show_foldl (idxOf_endOfInput declarations) declarations
    fun _ hmem _ _ hcell => h.known hmem hcell

/-- A name has one place. -/
theorem idxOf_eq_of_getElem? (h : Consistent declarations) {symbol : Nat} {name : String}
    (hname : (namesOf declarations)[symbol]? = some name) :
    (namesOf declarations).idxOf name = symbol := by
  obtain ⟨hlt, rfl⟩ := List.getElem?_eq_some_iff.mp hname
  exact h.distinct.idxOf_getElem symbol hlt

/-- A name is found under its number. -/
theorem idxOf?_eq_some_iff (h : Consistent declarations) (name : String) (symbol : Nat) :
    (namesOf declarations).idxOf? name = some symbol ↔ (namesOf declarations)[symbol]? = some name := by
  constructor
  · intro hplace
    obtain ⟨hlt, heq, -⟩ := List.idxOf?_eq_some_iff.mp hplace
    exact List.getElem?_eq_some_iff.mpr ⟨hlt, heq⟩
  · intro hname
    obtain ⟨hlt, heq⟩ := List.getElem?_eq_some_iff.mp hname
    refine List.idxOf?_eq_some_iff.mpr ⟨hlt, heq, fun other hother hsame => ?_⟩
    exact Nat.ne_of_lt hother (h.distinct.getElem_inj_iff.mp (hsame.trans heq.symm))

end Consistent

namespace Table

variable {declarations : List Declaration}

theorem described_conflicts (declarations : List Declaration) :
    (described declarations).conflicts = (Cells.written declarations).conflicts := by
  unfold described
  dsimp only
  split <;> rfl

/-- The entry of a cell is the one that was written, if there is one. -/
theorem described_action (declarations : List Declaration) (state : StateId) (symbol : SymbolId) :
    (described declarations).action state symbol =
      ((Cells.written declarations).cell? state symbol).getD .error := by
  rw [action, row, described_rows, Cells.cell?]

/-- The default of a state is the last one declared, or else the one derived from its row. -/
theorem described_default (declarations : List Declaration) (state : StateId) :
    (described declarations).defaultReduction? state =
      (Declaration.defaultsAt declarations state).getLast?.or
        (if (declarations.filterMap (·.derives?)).getLast? = some true then
          Cells.uniformReduction? ((described declarations).row state)
        else none) := by
  rw [← Cells.lookup_defaults_foldl (namesOf declarations), row, described_rows]
  unfold described defaultReduction?
  dsimp only
  cases (declarations.filterMap (·.derives?)).getLast? with
  | none => exact Option.or_none.symm
  | some derives =>
    cases derives with
    | false => exact Option.or_none.symm
    | true => exact Cells.lookup_defaults_derive (Cells.written declarations) state

/-- A row is filled by a production if it is one reduction throughout. The row is in order and holds
no error, so that what is found for a symbol is the entry for it. -/
theorem filledBy_iff (h : Consistent declarations) (state : StateId) (number : ProductionId) :
    (described declarations).FilledBy state number ↔
      Cells.uniformReduction? ((described declarations).row state) = some number := by
  have hentry {symbol : SymbolId} {entry : Action}
      (hfound : ((described declarations).row state).find? symbol = some entry) : entry ≠ .error := by
    rw [row, described_rows] at hfound
    exact h.show_written.ne_error h.distinct hfound
  rw [Cells.uniformReduction?_eq_some_iff (described_ordered declarations state)]
  unfold FilledBy action
  constructor
  · rintro ⟨⟨symbol, hsome⟩, hall⟩
    constructor
    · refine ⟨symbol, ?_⟩
      cases hfound : ((described declarations).row state).find? symbol with
      | none => rw [hfound] at hsome; cases hsome
      | some entry => rw [hfound] at hsome; exact congrArg some hsome
    · intro other entry hfound
      have hother := hall other
      rw [hfound] at hother
      exact hother (hentry hfound)
  · rintro ⟨⟨symbol, hsome⟩, hall⟩
    refine ⟨⟨symbol, by rw [hsome]; rfl⟩, fun other hne => ?_⟩
    cases hfound : ((described declarations).row state).find? other with
    | none => rw [hfound] at hne; exact absurd rfl hne
    | some entry => exact hall other entry hfound

/-- The terminals of consistent declarations are the reserved ones and those that were registered.
Names are numbered in the order of registration, and terminals are registered before nonterminals;
so the terminals are the symbols with numbers below their count, but for the start symbol, which is
no name of theirs. -/
theorem described_terminal (h : Consistent declarations) {symbol : SymbolId} {name : String}
    (hname : (namesOf declarations)[symbol]? = some name) :
    (described declarations).isTerminal symbol = true ↔
      name = "$end" ∨ name = "error" ∨ .terminal name ∈ declarations := by
  -- Behind the start symbol come the terminals, and behind them the nonterminals.
  have hmem : .terminal name ∈ declarations ↔ name ∈ declarations.filterMap (·.terminal?) := by
    constructor
    · intro hterminal
      exact List.mem_filterMap.mpr ⟨_, hterminal, rfl⟩
    · intro hterminal
      obtain ⟨declaration, hdeclaration, heq⟩ := List.mem_filterMap.mp hterminal
      cases declaration <;> cases heq
      exact hdeclaration
  have hnames : namesOf declarations = "$accept" ::
      (("$end" :: "error" :: declarations.filterMap (·.terminal?)) ++
        declarations.filterMap (·.nonterminal?)) := by
    rw [namesOf, symbols_eq_append h.terminalsFirst]
    rfl
  have hcount : (described declarations).terminalCount =
      ("$end" :: "error" :: declarations.filterMap (·.terminal?)).length + 1 := Nat.add_comm 3 _
  have distinct := h.distinct
  rw [hnames] at distinct hname
  rw [isTerminal, hcount, hmem, ← List.mem_cons, ← List.mem_cons]
  generalize "$end" :: "error" :: declarations.filterMap (·.terminal?) = terminals at *
  obtain ⟨hstart, distinct⟩ := List.nodup_cons.mp distinct
  cases symbol with
  | zero =>
    cases hname
    have hnot : "$accept" ∉ terminals := fun hterminal => hstart (List.mem_append_left _ hterminal)
    simp [hnot, SymbolId.accept]
  | succ place =>
    rw [List.getElem?_cons_succ] at hname
    have hplace : (place + 1 != SymbolId.accept && decide (place + 1 < terminals.length + 1)) = true ↔
        place < terminals.length := by
      simp [SymbolId.accept]
    rw [hplace]
    constructor
    · intro hlt
      rw [List.getElem?_append_left hlt] at hname
      exact List.mem_of_getElem? hname
    · intro hterminal
      refine Nat.lt_of_not_le fun hge => ?_
      rw [List.getElem?_append_right hge] at hname
      exact (List.nodup_append.mp distinct).2.2 name hterminal name (List.mem_of_getElem? hname) rfl

/-- The table of consistent declarations shows what they say. Its fields are those of `Shows`, each
with a lemma of its own above. -/
theorem described_shows (h : Consistent declarations) : (described declarations).Shows declarations where
  symbolName _ := rfl
  symbolId := h.idxOf?_eq_some_iff
  terminal _ _ hname := described_terminal h hname
  terminalsFirst symbol other name hterminal hother hname := by
    have hplace := h.idxOf_eq_of_getElem? hother
    have hmem : name ∈ declarations.filterMap (·.nonterminal?) :=
      List.mem_filterMap.mpr ⟨_, hname, rfl⟩
    have hbehind := ((mem_nonterminals_of_distinct h.distinct h.terminalsFirst name).mp hmem).2
    have hlt : symbol < (described declarations).terminalCount :=
      of_decide_eq_true (Bool.and_eq_true_iff.mp hterminal).2
    exact Nat.lt_of_lt_of_le hlt (hplace ▸ hbehind)
  entry state symbol name declaration hname hlast := by
    have hshown := h.show_written.last state name (List.mem_of_getElem? hname)
    rw [hlast, h.idxOf_eq_of_getElem? hname] at hshown
    rw [described_action]
    generalize (Cells.written declarations).cell? state symbol = shown at hshown
    cases hshown with
    | some hgives =>
      refine hgives.mono fun number actions hfound => ?_
      rw [conflict, described_conflicts, hfound]
      rfl
  missing state symbol hnone := by
    rw [described_action]
    cases hname : (namesOf declarations)[symbol]? with
    | none =>
      rw [h.show_written.beyond state symbol (List.getElem?_eq_none_iff.mp hname)]
      rfl
    | some name =>
      have hshown := h.show_written.last state name (List.mem_of_getElem? hname)
      rw [hnone name hname, h.idxOf_eq_of_getElem? hname] at hshown
      generalize (Cells.written declarations).cell? state symbol = shown at hshown
      cases hshown with
      | none => rfl
  declaredDefault state number hlast := by
    rw [described_default, hlast]
    rfl
  derivedDefault state hnone number := by
    rw [described_default, hnone, List.getLast?_nil, Option.none_or, filledBy_iff h]
    split
    · next hderives => simp only [hderives, true_and]
    · next hnot => simp only [hnot, false_and, reduceCtorEq]

/-- Declarations have a table exactly if they are consistent. Declarations of different kinds can be
mixed in any order without a change of the result. A table shows what the declarations say from
which it was built. Reference: `GrammarTableBuilder::build`. -/
theorem build_specified (declarations : List Declaration) :
    ((∃ table, build declarations = .ok table) ↔ Consistent declarations) ∧
    (∀ others : List Declaration,
      (∀ kind, declarations.filter (·.kind = kind) = others.filter (·.kind = kind)) →
      build declarations = build others) ∧
    ∀ table, build declarations = .ok table → table.Shows declarations := by
  refine ⟨⟨?_, ?_⟩, ?_, ?_⟩
  · rintro ⟨table, built⟩
    exact (build_eq_ok.mp built).1
  · intro h
    exact ⟨described declarations, build_eq_ok.mpr ⟨h, rfl⟩⟩
  · intro others same
    exact build_mixed same
  · intro table built
    obtain ⟨h, rfl⟩ := build_eq_ok.mp built
    exact described_shows h

/-- Declarations of a grammar with a conflict, in an order in which nothing is registered before its
use. -/
def conflicting : List Declaration :=
  [.deriveDefaults true, .shift 0 "x" 1, .conflict 0 "x" [.shift 1, .reduce 1], .goto 0 "S" 2,
    .reduce 1 "$end" 1, .accept 2, .production "S" 1, .terminal "x", .nonterminal "S"]

theorem consistent_conflicting : Consistent conflicting where
  distinct := by decide
  terminalsFirst := by decide
  productions := by simp [conflicting, Declaration.nonterminal?]
  entries := by
    simp [conflicting, Declaration.RefersTo, Declaration.nonterminal?, Declaration.production?, namesOf,
      Declaration.symbol?, reservedNames]
  descriptions := by simp [conflicting]

/-- The conflict takes the place of the shift that was declared for its cell, and is found under its
number. The row of state 1, a single reduction, is its default. -/
theorem build_conflicting :
    ∃ table, build conflicting = .ok table ∧
      (∃ number, table.action 0 3 = .ambiguous number ∧
        table.conflict number = [.shift 1, .reduce 1]) ∧
      table.action 0 4 = .goto 2 ∧ table.defaultReduction? 1 = some 1 := by
  obtain ⟨hconsistent, -, hshows⟩ := build_specified conflicting
  obtain ⟨table, built⟩ := hconsistent.mpr consistent_conflicting
  have shows := hshows table built
  refine ⟨table, built, ?_, ?_, ?_⟩
  · exact shows.entry 0 3 "x" (.conflict 0 "x" [.shift 1, .reduce 1]) (shows.symbolName 3) rfl
  · exact shows.entry 0 4 "S" (.goto 0 "S" 2) (shows.symbolName 4) rfl
  · have hreduces {symbol : SymbolId} (hname : table.symbolName? symbol = some "$end") :
        table.action 1 symbol = .reduce 1 :=
      shows.entry 1 symbol "$end" (.reduce 1 "$end" 1) hname rfl
    refine (shows.derivedDefault 1 rfl 1).mpr ⟨rfl, ⟨1, hreduces (shows.symbolName 1)⟩, ?_⟩
    intro symbol hne
    refine hreduces (Decidable.byContradiction fun hother => hne (shows.missing 1 symbol ?_))
    intro name hname
    have hname' : "$end" ≠ name := fun heq => hother (heq ▸ hname)
    simp [Declaration.entriesAt, conflicting, Declaration.cell?, hname']

end Table

end ShiftReduce
