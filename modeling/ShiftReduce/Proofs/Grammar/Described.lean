import ShiftReduce.Proofs.Grammar.Consistent

/-!
# The table that declarations describe

The table of consistent declarations is a function of them that asks nothing any more
(`Table.described`): each entry is written to its cell in turn (`Cells.write`). Declarations that are not
consistent have no table (`Table.build_eq_ok`). Declarations of different kinds do not wait for each
other: in whatever order they are mixed, the result is the same, a fault included (`Table.build_mixed`).

What a declaration is about is its kind (`Declaration.Kind`): symbols, productions, entries,
descriptions, or whether defaults are derived. Within a kind the order matters, as the number of a
symbol or the entry that wins depends on it; between kinds it does not, since each part of the
building reads the declarations of one kind only (`foldlM_filter_eq`, `filterMap_filter_eq`).
-/

namespace ShiftReduce

/-- Elements that a fold passes over can be left out. -/
theorem foldlM_filter_eq {α β ε : Type} {f : β → α → Except ε β} {p : α → Bool}
    (idle : ∀ b x, p x = false → f b x = .ok b) (xs : List α) (b : β) :
    (xs.filter p).foldlM f b = xs.foldlM f b := by
  rw [List.foldlM_filter]
  congr 1
  funext b x
  cases hx : p x with
  | true => rfl
  | false => exact (idle b x hx).symm

/-- Elements that a reading passes over can be left out. -/
theorem filterMap_filter_eq {α β : Type} {f : α → Option β} {p : α → Bool}
    (idle : ∀ x, p x = false → f x = none) (xs : List α) :
    (xs.filter p).filterMap f = xs.filterMap f := by
  rw [List.filterMap_filter]
  congr 1
  funext x
  cases hx : p x with
  | true => rfl
  | false => exact (idle x hx).symm

namespace Declaration

/-- What a declaration is about. Declarations of different kinds do not depend on each other's
place. -/
inductive Kind
  | symbol
  | production
  | entry
  | description
  | derivation
deriving Repr, DecidableEq

/-- The kind of a declaration. Terminals and nonterminals are of one kind, for their order matters,
and so are all entries. -/
def kind : Declaration → Kind
  | .terminal _ | .nonterminal _ => .symbol
  | .production _ _ => .production
  | .shift _ _ _ | .reduce _ _ _ | .goto _ _ _ | .accept _ | .conflict _ _ _ | .defaultReduce _ _ => .entry
  | .describe _ _ => .description
  | .deriveDefaults _ => .derivation

end Declaration

/-! ## Cells -/

/-- The entry that an action of a conflict stands for, once its production is known to be declared.
-/
def ConflictAction.action : ConflictAction → Action
  | .shift target => .shift target
  | .reduce number => .reduce number

namespace Cells

/-- A production number is known from one on up to the number of productions. -/
theorem checkProduction_eq_ok {count : Nat} {number checked : ProductionId} :
    checkProduction count number = .ok checked ↔ (1 ≤ number ∧ number ≤ count) ∧ checked = number := by
  unfold checkProduction
  split
  · next hunknown =>
    constructor
    · intro h
      cases h
    · rintro ⟨⟨hpos, hle⟩, -⟩
      rcases hunknown with rfl | hlt
      · exact absurd hpos (Nat.not_succ_le_zero 0)
      · exact absurd hlt (Nat.not_lt.mpr hle)
  · next hknown =>
    obtain ⟨hne, hle⟩ := not_or.mp hknown
    have hcount : 1 ≤ number ∧ number ≤ count := ⟨Nat.pos_of_ne_zero hne, Nat.le_of_not_lt hle⟩
    simp only [hcount, Except.ok.injEq, and_self, true_and]
    exact eq_comm

/-- An action of a conflict is known if its production is. -/
theorem resolveConflict_eq_ok {count : Nat} (conflictAction : ConflictAction) (action : Action) :
    resolveConflict count conflictAction = .ok action ↔
      (∀ number, .reduce number = conflictAction → 1 ≤ number ∧ number ≤ count) ∧
        action = conflictAction.action := by
  cases conflictAction with
  | shift target => simp [resolveConflict, ConflictAction.action, eq_comm]
  | reduce number =>
    simp only [resolveConflict]
    constructor
    · intro h
      cases hchecked : checkProduction count number with
      | error fault => rw [hchecked] at h; cases h
      | ok checked =>
        rw [hchecked] at h
        cases h
        obtain ⟨hknown, rfl⟩ := checkProduction_eq_ok.mp hchecked
        exact ⟨fun other heq => by cases heq; exact hknown, rfl⟩
    · rintro ⟨hknown, rfl⟩
      rw [checkProduction_eq_ok.mpr ⟨hknown number rfl, rfl⟩]
      rfl

/-- The cells after a declaration that refers to what is there, without a test. Reference: the loop
over the entries in `GrammarTableBuilder::build`. -/
def write (names : List String) (cells : Cells) : Declaration → Cells
  | .shift state symbol target => cells.set state (names.idxOf symbol) (.shift target)
  | .reduce state symbol number => cells.set state (names.idxOf symbol) (.reduce number)
  | .goto state symbol target => cells.set state (names.idxOf symbol) (.goto target)
  | .accept state => cells.set state SymbolId.endOfInput .accept
  | .conflict state symbol actions =>
    { cells.set state (names.idxOf symbol) (.ambiguous cells.conflicts.length) with
      conflicts := cells.conflicts ++ [actions.map (·.action)] }
  | .defaultReduce state number =>
    { cells with
      rows := grow cells.rows state
      defaults := (state, number) :: cells.defaults }
  | _ => cells

/-- The cells that declarations write, one after the other, from empty cells on. -/
def written (declarations : List Declaration) : Cells :=
  declarations.foldl (write (namesOf declarations)) {}

/-- A declaration that refers to what is there writes its entry. There is a case for each kind of
entry: what it names is resolved or refused, and what is resolved is what `Cells.write` puts into
the cell. -/
theorem declare_eq_ok {symbols : Symbols} {nonterminals : List String} {count : Nat}
    (behind : ∀ name, name ∈ nonterminals ↔
      name ∈ symbols.names ∧ symbols.terminalCount ≤ symbols.names.idxOf name)
    (cells : Cells) (declaration : Declaration) (cells' : Cells) :
    declare symbols count cells declaration = .ok cells' ↔
      declaration.RefersTo symbols.names nonterminals count ∧
        cells' = cells.write symbols.names declaration := by
  cases declaration with
  | shift state symbol target =>
    simp only [declare, bind_eq_ok, Symbols.resolve_eq_ok, Declaration.RefersTo, write]
    constructor
    · rintro ⟨id, ⟨hsymbol, rfl⟩, h⟩
      cases h
      exact ⟨hsymbol, rfl⟩
    · rintro ⟨hsymbol, rfl⟩
      exact ⟨_, ⟨hsymbol, rfl⟩, rfl⟩
  | reduce state symbol number =>
    simp only [declare, bind_eq_ok, Symbols.resolve_eq_ok, checkProduction_eq_ok,
      Declaration.RefersTo, write]
    constructor
    · rintro ⟨id, ⟨hsymbol, rfl⟩, checked, ⟨hnumber, rfl⟩, h⟩
      cases h
      exact ⟨⟨hsymbol, hnumber⟩, rfl⟩
    · rintro ⟨⟨hsymbol, hnumber⟩, rfl⟩
      exact ⟨_, ⟨hsymbol, rfl⟩, _, ⟨hnumber, rfl⟩, rfl⟩
  | goto state symbol target =>
    simp only [declare, bind_eq_ok, Symbols.resolveNonterminal_eq_ok, ← behind,
      Declaration.RefersTo, write]
    constructor
    · rintro ⟨id, ⟨hsymbol, rfl⟩, h⟩
      cases h
      exact ⟨hsymbol, rfl⟩
    · rintro ⟨hsymbol, rfl⟩
      exact ⟨_, ⟨hsymbol, rfl⟩, rfl⟩
  | conflict state symbol actions =>
    simp only [declare, bind_eq_ok, Symbols.resolve_eq_ok, mapM_eq_ok resolveConflict_eq_ok,
      Declaration.RefersTo, write]
    have hknown : (∀ action ∈ actions, ∀ number, .reduce number = action → 1 ≤ number ∧ number ≤ count) ↔
        ∀ number, .reduce number ∈ actions → 1 ≤ number ∧ number ≤ count :=
      ⟨fun h number hmem => h _ hmem number rfl, fun h action hmem number heq => h number (heq ▸ hmem)⟩
    rw [hknown]
    constructor
    · rintro ⟨id, ⟨hsymbol, rfl⟩, resolved, ⟨hactions, rfl⟩, h⟩
      cases h
      exact ⟨⟨hsymbol, hactions⟩, rfl⟩
    · rintro ⟨⟨hsymbol, hactions⟩, rfl⟩
      exact ⟨_, ⟨hsymbol, rfl⟩, _, ⟨hactions, rfl⟩, rfl⟩
  | defaultReduce state number =>
    simp only [declare, bind_eq_ok, checkProduction_eq_ok, Declaration.RefersTo, write]
    constructor
    · rintro ⟨checked, ⟨hnumber, rfl⟩, h⟩
      cases h
      exact ⟨hnumber, rfl⟩
    · rintro ⟨hnumber, rfl⟩
      exact ⟨_, ⟨hnumber, rfl⟩, rfl⟩
  | _ => simp [declare, Declaration.RefersTo, write, eq_comm]

end Cells

/-! ## Tables -/

namespace Table

/-- The table of declarations that are consistent, without a test. Reference:
`GrammarTableBuilder::build`. -/
def described (declarations : List Declaration) : Table :=
  let names := namesOf declarations
  let derives := (declarations.filterMap (·.derives?)).getLast?.getD false
  let cells := if derives then (Cells.written declarations).derive else Cells.written declarations
  { names
    terminalCount := 3 + (declarations.filterMap (·.terminal?)).length
    productions := ⟨SymbolId.accept, 1⟩ :: (declarations.filterMap (·.production?)).map
      fun (lhs, length) => ⟨names.idxOf lhs, length⟩
    rows := cells.rows
    defaults := cells.defaults
    conflicts := cells.conflicts
    descriptions := ((declarations.filterMap (·.description?)).map
      fun (name, text) => (names.idxOf name, text)).reverse }

/-- The left side of a production is resolved if it is a nonterminal's. -/
theorem resolveProduction_eq_ok {symbols : Symbols} {nonterminals : List String}
    (behind : ∀ name, name ∈ nonterminals ↔
      name ∈ symbols.names ∧ symbols.terminalCount ≤ symbols.names.idxOf name)
    (declared : String × Nat) (production : Production) :
    (match declared with
      | (lhs, length) => do
        let lhs ← symbols.resolveNonterminal .terminalProduction lhs
        return ({ lhs, length } : Production)) = .ok production ↔
      declared.1 ∈ nonterminals ∧ production = ⟨symbols.names.idxOf declared.1, declared.2⟩ := by
  simp only [bind_eq_ok, Symbols.resolveNonterminal_eq_ok, ← behind]
  constructor
  · rintro ⟨id, ⟨hlhs, rfl⟩, h⟩
    cases h
    exact ⟨hlhs, rfl⟩
  · rintro ⟨hlhs, rfl⟩
    exact ⟨_, ⟨hlhs, rfl⟩, rfl⟩

/-- A description is resolved if it is one of a registered symbol. -/
theorem resolveDescription_eq_ok {symbols : Symbols} (declared : String × String)
    (description : SymbolId × String) :
    (match declared with
      | (name, text) => do
        let id ← symbols.resolve name
        return (id, text)) = .ok description ↔
      declared.1 ∈ symbols.names ∧ description = (symbols.names.idxOf declared.1, declared.2) := by
  simp only [bind_eq_ok, Symbols.resolve_eq_ok]
  constructor
  · rintro ⟨id, ⟨hname, rfl⟩, h⟩
    cases h
    exact ⟨hname, rfl⟩
  · rintro ⟨hname, rfl⟩
    exact ⟨_, ⟨hname, rfl⟩, rfl⟩

/-- Declarations have a table if they are consistent, and it is the one that they describe. Each of
the four parts of the building is a computation that only tests what it reads: it succeeds where the
tests do (`mapM_eq_ok`, `foldlM_eq_ok`), and has the result of a total function then. -/
theorem build_eq_ok {declarations : List Declaration} {table : Table} :
    build declarations = .ok table ↔ Consistent declarations ∧ table = described declarations := by
  simp only [build, bind_eq_ok, Symbols.ofDeclarations_eq_ok]
  constructor
  · rintro ⟨symbols, ⟨⟨distinct, terminalsFirst⟩, rfl⟩, productions, hproductions, cells, hcells,
      descriptions, hdescriptions, h⟩
    have hbehind := mem_nonterminals_of_distinct distinct terminalsFirst
    obtain ⟨hlhs, rfl⟩ := (mapM_eq_ok (resolveProduction_eq_ok hbehind)).mp hproductions
    obtain ⟨hentries, rfl⟩ := (foldlM_eq_ok (Cells.declare_eq_ok hbehind)).mp hcells
    obtain ⟨hdescribed, rfl⟩ := (mapM_eq_ok resolveDescription_eq_ok).mp hdescriptions
    cases h
    refine ⟨⟨distinct, terminalsFirst, ?_, hentries, ?_⟩, rfl⟩
    · intro lhs length hmem
      exact hlhs (lhs, length) (List.mem_filterMap.mpr ⟨_, hmem, rfl⟩)
    · intro name text hmem
      exact hdescribed (name, text) (List.mem_filterMap.mpr ⟨_, hmem, rfl⟩)
  · rintro ⟨h, rfl⟩
    have hbehind := mem_nonterminals_of_distinct h.distinct h.terminalsFirst
    refine ⟨_, ⟨⟨h.distinct, h.terminalsFirst⟩, rfl⟩,
      _, (mapM_eq_ok (resolveProduction_eq_ok hbehind)).mpr ⟨?_, rfl⟩,
      _, (foldlM_eq_ok (Cells.declare_eq_ok hbehind)).mpr ⟨h.entries, rfl⟩,
      _, (mapM_eq_ok resolveDescription_eq_ok).mpr ⟨?_, rfl⟩, rfl⟩
    · intro declared hmem
      obtain ⟨declaration, hdeclaration, heq⟩ := List.mem_filterMap.mp hmem
      cases declaration <;> cases heq
      exact h.productions _ _ hdeclaration
    · intro declared hmem
      obtain ⟨declaration, hdeclaration, heq⟩ := List.mem_filterMap.mp hmem
      cases declaration <;> cases heq
      exact h.descriptions _ _ hdeclaration

/-- Declarations of different kinds can be mixed in any order: the table is the same, and so is the
fault. Every part of the building reads the declarations of one kind and passes over the others, and
so do the faults: which of them is reported does not depend on the mixture either. -/
theorem build_mixed {declarations others : List Declaration}
    (same : ∀ kind, declarations.filter (·.kind = kind) = others.filter (·.kind = kind)) :
    build declarations = build others := by
  have hsymbols (declarations : List Declaration) :
      (declarations.filter (·.kind = .symbol)).foldlM Symbols.declare {} =
        Symbols.ofDeclarations declarations := by
    refine foldlM_filter_eq (fun _ declaration h => ?_) declarations _
    cases declaration with
    | terminal | nonterminal => cases h
    | _ => rfl
  have hcells (symbols : Symbols) (count : Nat) (declarations : List Declaration) :
      (declarations.filter (·.kind = .entry)).foldlM (Cells.declare symbols count) {} =
        declarations.foldlM (Cells.declare symbols count) {} := by
    refine foldlM_filter_eq (fun _ declaration h => ?_) declarations _
    cases declaration with
    | shift | reduce | goto | accept | conflict | defaultReduce => cases h
    | _ => rfl
  have hproductions (declarations : List Declaration) :
      (declarations.filter (·.kind = .production)).filterMap (·.production?) =
        declarations.filterMap (·.production?) := by
    refine filterMap_filter_eq (fun declaration h => ?_) declarations
    cases declaration with
    | production => cases h
    | _ => rfl
  have hderives (declarations : List Declaration) :
      (declarations.filter (·.kind = .derivation)).filterMap (·.derives?) =
        declarations.filterMap (·.derives?) := by
    refine filterMap_filter_eq (fun declaration h => ?_) declarations
    cases declaration with
    | deriveDefaults => cases h
    | _ => rfl
  have hdescriptions (declarations : List Declaration) :
      (declarations.filter (·.kind = .description)).filterMap (·.description?) =
        declarations.filterMap (·.description?) := by
    refine filterMap_filter_eq (fun declaration h => ?_) declarations
    cases declaration with
    | describe => cases h
    | _ => rfl
  simp only [build, ← hsymbols declarations, ← hcells _ _ declarations, ← hproductions declarations,
    ← hderives declarations, ← hdescriptions declarations, same]
  simp only [hsymbols, hcells, hproductions, hderives, hdescriptions]

end Table

end ShiftReduce
