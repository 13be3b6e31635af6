import ShiftReduce.Grammar.Table
import ShiftReduce.Grammar.Error

/-!
# Building a table from declarations

A table is built from a list of declarations. Symbols come first whatever the order of the list: they
are numbered in the order of their declarations, and the first fault among them ends the build. Names
and production numbers are then resolved, productions before cells and cells before descriptions.
-/

namespace ShiftReduce

/-- An action that a conflict left in a cell, its production not yet checked. Reference:
`EntryAction`. -/
inductive ConflictAction
  | shift (target : StateId)
  | reduce (production : ProductionId)
deriving Repr, DecidableEq

/-- One declaration of a grammar. The last one given for a cell, a default or a description wins.
Reference: the methods of `GrammarTableBuilder` and its `Entry`. -/
inductive Declaration
  | terminal (name : String)
  | nonterminal (name : String)
  | describe (name text : String)
  | production (lhs : String) (length : Nat)
  | shift (state : StateId) (symbol : String) (target : StateId)
  | reduce (state : StateId) (symbol : String) (production : ProductionId)
  | goto (state : StateId) (symbol : String) (target : StateId)
  | accept (state : StateId)
  | conflict (state : StateId) (symbol : String) (actions : List ConflictAction)
  | defaultReduce (state : StateId) (production : ProductionId)
  | deriveDefaults (enabled : Bool)
deriving Repr, DecidableEq

/-- The symbols of a grammar, and how many of them are terminals. The three reserved ones are there
from the start. Reference: `GrammarTableBuilder::new`. -/
structure Symbols where
  names : List String := ["$accept", "$end", "error"]
  terminalCount : Nat := 3
deriving Repr, DecidableEq

namespace Symbols

/-- One more symbol, with the next number. Reference: `GrammarTableBuilder::add_symbol`. -/
def add (symbols : Symbols) (name : String) : Except GrammarError Symbols :=
  if name ∈ symbols.names then .error (.duplicateSymbol name)
  else .ok { symbols with names := symbols.names ++ [name] }

/-- The symbols after a declaration. A terminal cannot follow a nonterminal, and this is found
before a name that is taken. Reference: `GrammarTableBuilder::terminal` and
`GrammarTableBuilder::nonterminal`. -/
def declare (symbols : Symbols) : Declaration → Except GrammarError Symbols
  | .terminal name => do
    if symbols.terminalCount < symbols.names.length then throw (.terminalAfterNonterminal name)
    let added ← symbols.add name
    return { added with terminalCount := added.names.length }
  | .nonterminal name => symbols.add name
  | _ => .ok symbols

/-- The symbols that a list of declarations declares, or the first fault among them. Reference: the
`error` that `GrammarTableBuilder::build` starts with. -/
def ofDeclarations (declarations : List Declaration) : Except GrammarError Symbols :=
  declarations.foldlM declare {}

/-- The number of a name that was declared. Reference: `GrammarTableBuilder::resolve`. -/
def resolve (symbols : Symbols) (name : String) : Except GrammarError SymbolId :=
  match symbols.names.idxOf? name with
  | some id => .ok id
  | none => .error (.unknownSymbol name)

/-- The number of a name that must not be a terminal's. Left-hand sides and gotos ask for it, each
with a fault of its own. Reference: `GrammarTableBuilder::build`. -/
def resolveNonterminal (symbols : Symbols) (fault : String → GrammarError) (name : String) :
    Except GrammarError SymbolId := do
  let id ← symbols.resolve name
  if id < symbols.terminalCount then throw (fault name)
  return id

end Symbols

namespace Declaration

/-- The production that a declaration adds: the name on its left and the length of its right-hand
side. Reference: `GrammarTableBuilder::production`. -/
def production? : Declaration → Option (String × Nat)
  | .production lhs length => some (lhs, length)
  | _ => none

/-- The description that a declaration adds to a terminal. Reference:
`GrammarTableBuilder::describe`. -/
def description? : Declaration → Option (String × String)
  | .describe name text => some (name, text)
  | _ => none

/-- What a declaration says about deriving default reductions. Reference:
`GrammarTableBuilder::derive_default_actions`. -/
def derives? : Declaration → Option Bool
  | .deriveDefaults enabled => some enabled
  | _ => none

end Declaration

/-- The part of a table that its cells make up: the rows, the states that reduce by default and the
cells with a conflict. Reference: the loop over the entries in `GrammarTableBuilder::build`. -/
structure Cells where
  rows : List Row := []
  defaults : List (StateId × ProductionId) := []
  conflicts : List (List Action) := []
deriving Repr

namespace Cells

/-- The rows up to a state, missing ones empty. A declaration that names a state makes it exist.
Reference: `row` in `GrammarTableBuilder::build`. -/
def grow (rows : List Row) (state : StateId) : List Row :=
  rows ++ List.replicate (state + 1 - rows.length) []

/-- An entry written to a cell, in the place of one that was there. Reference: `row` in
`GrammarTableBuilder::build`. -/
def set (cells : Cells) (state : StateId) (symbol : SymbolId) (action : Action) : Cells :=
  { cells with rows := (grow cells.rows state).modify state (·.insert symbol action) }

/-- A production number that was declared, `count` being the number of productions; number 0 cannot
be named. Reference: `GrammarTableBuilder::check_prod`. -/
def checkProduction (count : Nat) (number : ProductionId) : Except GrammarError ProductionId :=
  if number = 0 ∨ count < number then .error (.unknownProduction number) else .ok number

/-- An action of a conflict, its production checked. Reference: `GrammarTableBuilder::build`. -/
def resolveConflict (count : Nat) : ConflictAction → Except GrammarError Action
  | .shift target => .ok (.shift target)
  | .reduce number => (checkProduction count number).map .reduce

/-- The cells after a declaration. A name is resolved before a production number is checked.
Reference: the loop over the entries in `GrammarTableBuilder::build`. -/
def declare (symbols : Symbols) (count : Nat) (cells : Cells) :
    Declaration → Except GrammarError Cells
  | .shift state symbol target => do
    let id ← symbols.resolve symbol
    return cells.set state id (.shift target)
  | .reduce state symbol number => do
    let id ← symbols.resolve symbol
    let number ← checkProduction count number
    return cells.set state id (.reduce number)
  | .goto state symbol target => do
    let id ← symbols.resolveNonterminal .gotoOnTerminal symbol
    return cells.set state id (.goto target)
  | .accept state => .ok (cells.set state SymbolId.endOfInput .accept)
  | .conflict state symbol actions => do
    let id ← symbols.resolve symbol
    let actions ← actions.mapM (resolveConflict count)
    return { cells.set state id (.ambiguous cells.conflicts.length) with
      conflicts := cells.conflicts ++ [actions] }
  | .defaultReduce state number => do
    let number ← checkProduction count number
    return { cells with
      rows := grow cells.rows state
      defaults := (state, number) :: cells.defaults }
  | _ => .ok cells

/-- The production of a row that holds one reduction in all of its cells. Reference: the derived
defaults in `GrammarTableBuilder::build`. -/
def uniformReduction? : Row → Option ProductionId
  | (_, .reduce number) :: rest =>
    if rest.all (·.2 == .reduce number) then some number else none
  | _ => none

/-- The default reductions of the rows that hold one reduction throughout. They yield to declared
ones. Reference: the derived defaults in `GrammarTableBuilder::build`. -/
def derive (cells : Cells) : Cells :=
  { cells with
    defaults := cells.defaults ++ cells.rows.zipIdx.filterMap fun (row, state) =>
      (uniformReduction? row).map fun number => (state, number) }

end Cells

namespace Table

/-- The table that a list of declarations describes, or the first fault found: symbols are judged
first, then productions, cells and descriptions. Reference: `GrammarTableBuilder::build`. -/
def build (declarations : List Declaration) : Except GrammarError Table := do
  let symbols ← Symbols.ofDeclarations declarations
  let declared := declarations.filterMap (·.production?)
  let productions ← declared.mapM fun (lhs, length) => do
    let lhs ← symbols.resolveNonterminal .terminalProduction lhs
    return ({ lhs, length } : Production)
  let cells ← declarations.foldlM (Cells.declare symbols declared.length) {}
  let derives := (declarations.filterMap (·.derives?)).getLast?.getD false
  let cells := if derives then cells.derive else cells
  let descriptions ← (declarations.filterMap (·.description?)).mapM fun (name, text) => do
    let id ← symbols.resolve name
    return (id, text)
  return {
    names := symbols.names
    terminalCount := symbols.terminalCount
    productions := ⟨SymbolId.accept, 1⟩ :: productions
    rows := cells.rows
    defaults := cells.defaults
    conflicts := cells.conflicts
    descriptions := descriptions.reverse }

end Table

end ShiftReduce
