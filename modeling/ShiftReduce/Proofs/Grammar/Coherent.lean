import ShiftReduce.Proofs.Grammar.Built

/-!
# Coherent tables

The shifts and gotos of a table are the edges of an automaton, and a parse stack lies along a walk from
its start (`Table.Walk`). A table is coherent (`Table.Coherent`) if no walk leaves the table, no cell is
left undecided, and every reduction finds on the walk what it takes off the stack, and a goto below.
The walks of an automaton without cycles are finitely many, and can be checked one by one
(`Table.coherent_of_walks`).
-/

namespace ShiftReduce

/-- The state that an action enters, be it for a terminal or for a nonterminal. -/
def Action.target? : Action → Option StateId
  | .shift target | .goto target => some target
  | _ => none

/-- The production that an action reduces by, if it is a reduction. -/
def Action.production? : Action → Option ProductionId
  | .reduce number => some number
  | _ => none

namespace Table

/-- The walks from the start of the automaton, as the states that they enter, last one first. -/
inductive Walk (table : Table) : List StateId → Prop
  | start : Walk table [0]
  | go {state next : StateId} {below : List StateId} {symbol : SymbolId}
      (walk : Walk table (state :: below))
      (edge : (table.action state symbol).target? = some next) : Walk table (next :: state :: below)

/-- Whether a walk is as long as the right-hand side of a production, and the state that many edges
back has a goto for its left-hand side. -/
def Carries (table : Table) (walk : List StateId) (production : Production) : Prop :=
  ∃ source target, walk[production.length]? = some source ∧
    table.action source production.lhs = .goto target

/-- A table whose automaton is whole: it has a start and no undecided cell, its edges enter states that
it has, and its reductions find what they need on every walk. -/
structure Coherent (table : Table) : Prop where
  start : table.hasState 0 = true
  decided (state : StateId) (symbol : SymbolId) (number : ConflictId) :
    table.action state symbol ≠ .ambiguous number
  closed (state next : StateId) (symbol : SymbolId) :
    (table.action state symbol).target? = some next → table.hasState next = true
  reducible (state : StateId) (below : List StateId) (number : ProductionId)
    (production : Production) : table.Walk (state :: below) → table.Reduces state number →
      table.production? number = some production → table.Carries (state :: below) production

variable {table : Table} {state next : StateId} {below walk : List StateId}

/-- A walk in a table whose edges stay in it ends in one of its states. -/
theorem Coherent.hasState (h : table.Coherent) (walked : table.Walk (state :: below)) :
    table.hasState state = true := by
  cases walked with
  | start => exact h.start
  | go _ hedge => exact h.closed _ _ _ hedge

/-- A walk as long as a right-hand side has more states than that has symbols. -/
theorem Carries.length_lt {production : Production} (h : table.Carries walk production) :
    production.length < walk.length := by
  obtain ⟨source, target, hsource, -⟩ := h
  exact (List.getElem?_eq_some_iff.mp hsource).1

/-! ## Checking walks -/

/-- An entry other than that of an empty cell stands in the row of its state. -/
theorem mem_row {symbol : SymbolId} {action : Action} (h : table.action state symbol = action)
    (written : action ≠ .error) : (symbol, action) ∈ table.row state := by
  unfold Table.action at h
  cases hfind : (table.row state).find? symbol with
  | none => rw [hfind] at h; exact absurd h.symm written
  | some found =>
    rw [hfind] at h
    have heq : found = action := h
    rw [← heq]
    exact Row.mem_of_find? hfind

/-- The states that the edges of a state enter: those of its shifts and of its gotos. -/
def successors (table : Table) (state : StateId) : List StateId :=
  (table.row state).filterMap (·.2.target?)

/-- The productions that a state reduces by, its default included. -/
def reductions (table : Table) (state : StateId) : List ProductionId :=
  (table.row state).filterMap (·.2.production?) ++ (table.defaultReduction? state).toList

/-- An edge enters a successor. -/
theorem mem_successors {symbol : SymbolId} (h : (table.action state symbol).target? = some next) :
    next ∈ table.successors state := by
  have hwritten : table.action state symbol ≠ .error := by
    intro herror
    rw [herror] at h
    cases h
  exact List.mem_filterMap.mpr ⟨_, mem_row rfl hwritten, h⟩

/-- What a state reduces by is among its reductions. -/
theorem mem_reductions {number : ProductionId} (h : table.Reduces state number) :
    number ∈ table.reductions state := by
  rcases h with ⟨symbol, hentry⟩ | hdefault
  · have hmem : number ∈ (table.row state).filterMap (·.2.production?) :=
      List.mem_filterMap.mpr ⟨_, mem_row hentry nofun, rfl⟩
    exact List.mem_append_left _ hmem
  · rw [reductions, hdefault]
    exact List.mem_append_right _ List.mem_cons_self

/-- Whether a walk carries the reductions of its last state, and all walks that go on from it are
listed. -/
def followed (table : Table) (walks : List (List StateId)) (walk : List StateId) : Bool :=
  let state := walk.headD 0
  (table.successors state).all (fun next => walks.contains (next :: walk)) &&
    (table.reductions state).all fun number => (table.production? number).all fun production =>
      walk[production.length]?.any fun source =>
        (table.action source production.lhs matches .goto _)

/-- Whether an action is decided, and does not leave the table. -/
def settled (table : Table) : Action → Bool
  | .ambiguous _ => false
  | .shift target | .goto target => table.hasState target
  | _ => true

/-- Whether all entries of a table are settled, and a list holds all its walks. -/
def coherentAlong (table : Table) (walks : List (List StateId)) : Bool :=
  table.hasState 0 && walks.contains [0] && walks.all (table.followed walks) &&
    table.rows.all fun row => row.all fun cell => table.settled cell.2

/-- Walks do not leave a list in which all of them go on. -/
theorem Walk.mem {walks : List (List StateId)} (h : table.Walk walk) (start : [0] ∈ walks)
    (followed : ∀ walk ∈ walks, table.followed walks walk = true) : walk ∈ walks := by
  induction h with
  | start => exact start
  | @go state next below symbol _ hedge ih =>
    obtain ⟨hnext, -⟩ := Bool.and_eq_true_iff.mp (followed _ ih)
    have hlisted := List.all_eq_true.mp hnext next (mem_successors hedge)
    exact List.contains_iff_mem.mp hlisted

/-- A table is coherent if its walks can be listed, and the check of each succeeds. The list has to
hold the start and, with each walk, the longer ones; a walk that is not listed cannot be taken then.
What is checked of each is that its reductions find their children on it and a goto below them. -/
theorem coherent_of_walks {walks : List (List StateId)} (h : table.coherentAlong walks = true) :
    table.Coherent := by
  unfold coherentAlong at h
  simp only [Bool.and_eq_true, List.all_eq_true, List.contains_iff_mem] at h
  obtain ⟨⟨⟨hstart, hfirst⟩, hfollowed⟩, hcells⟩ := h
  have hsettled (state : StateId) (symbol : SymbolId) :
      table.settled (table.action state symbol) = true := by
    by_cases hwritten : table.action state symbol = .error
    · rw [hwritten]
      rfl
    · have hmem := mem_row rfl hwritten
      unfold Table.row at hmem
      cases hrow : table.rows[state]? with
      | none => rw [hrow] at hmem; cases hmem
      | some row =>
        rw [hrow] at hmem
        exact hcells row (List.mem_of_getElem? hrow) _ hmem
  refine ⟨hstart, ?_, ?_, ?_⟩
  · intro state symbol number hentry
    have hambiguous := hsettled state symbol
    rw [hentry] at hambiguous
    cases hambiguous
  · intro state next symbol hedge
    have hknown := hsettled state symbol
    cases hentry : table.action state symbol with
    | shift target => rw [hentry] at hedge hknown; cases hedge; exact hknown
    | goto target => rw [hentry] at hedge hknown; cases hedge; exact hknown
    | _ => rw [hentry] at hedge; cases hedge
  · intro state below number production hwalk hreduces hproduction
    have hlisted := hwalk.mem hfirst hfollowed
    obtain ⟨-, hcarries⟩ := Bool.and_eq_true_iff.mp (hfollowed _ hlisted)
    have hcarries := List.all_eq_true.mp hcarries number (mem_reductions hreduces)
    rw [hproduction] at hcarries
    obtain ⟨source, hsource, hgoto⟩ := (Option.any_eq_true ..).mp hcarries
    refine ⟨source, ?_⟩
    split at hgoto
    · next target hentry => exact ⟨target, hsource, hentry⟩
    · cases hgoto

end Table

end ShiftReduce
