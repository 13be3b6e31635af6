import ShiftReduce.Proofs.Parser.Episode
import ShiftReduce.Proofs.Parser.Step

/-!
# The stack is a path of the automaton

The slots of a parse stack are a walk through the automaton: the lowest slot has the start state, and
every other one was entered from the slot below it by a shift or a goto (`IsPath`). Cutting a stack
back leaves a path, so reductions and recoveries keep it; a token is held back only while an error
token is ahead (`Session.OnPath`). `Engine.stacks_are_paths` says so of every session between two
steps, and of the stacks that the actions see; `Stack.Traces` is what it means for the four views.
-/

namespace ShiftReduce

section
variable {V : Type}

/-- A stack whose slots were entered from below, the first one from the start. -/
inductive IsPath (table : Table) : Stack V → Prop
  | bottom {value : V} {location : Location} :
      IsPath table [⟨SymbolId.accept, 0, value, location⟩]
  | enter {slot below : Slot V} {rest : Stack V} (path : IsPath table (below :: rest))
      (edge : table.action below.state slot.symbol = .shift slot.state ∨
        table.action below.state slot.symbol = .goto slot.state) :
      IsPath table (slot :: below :: rest)

/-- The four views of a stack have one length, begin with the start, and go on along the entries of the
table. -/
structure Stack.Traces (table : Table) (stack : Stack V) : Prop where
  nonempty : 1 ≤ stack.symbols.length
  states_length : stack.states.length = stack.symbols.length
  values_length : stack.values.length = stack.symbols.length
  locations_length : stack.locations.length = stack.symbols.length
  first_symbol : stack.symbols[0]? = some SymbolId.accept
  first_state : stack.states[0]? = some 0
  edge (i : Nat) (below state : StateId) (symbol : SymbolId) :
    stack.states[i]? = some below → stack.symbols[i + 1]? = some symbol →
      stack.states[i + 1]? = some state →
        table.action below symbol = .shift state ∨ table.action below symbol = .goto state

/-- The state on top of a stack is the last one of its view. -/
theorem Stack.states_getLast? (stack : Stack V) : stack.states.getLast? = stack.topState? := by
  cases stack with
  | nil => rfl
  | cons slot rest => rw [Stack.states_cons, List.getLast?_concat]; rfl

namespace IsPath

variable {table : Table} {stack : Stack V}

/-- A path has a state on top. -/
theorem topState (h : IsPath table stack) : ∃ state, stack.topState? = some state := by
  cases h with
  | bottom => exact ⟨0, rfl⟩
  | @enter slot _ _ _ _ => exact ⟨slot.state, rfl⟩

/-- A path goes on from the state on top. -/
theorem push {state : StateId} (h : IsPath table stack) (slot : Slot V)
    (top : stack.topState? = some state)
    (edge : table.action state slot.symbol = .shift slot.state ∨
      table.action state slot.symbol = .goto slot.state) : IsPath table (slot :: stack) := by
  cases stack with
  | nil => cases top
  | cons below rest =>
    cases top
    exact h.enter edge

/-- A path that is cut back above its lowest slot is a path. -/
theorem drop {n : Nat} (h : IsPath table stack) (hn : n < stack.length) :
    IsPath table (stack.drop n) := by
  induction h generalizing n with
  | bottom =>
    have hzero : n = 0 := by
      rw [List.length_singleton] at hn
      omega
    subst hzero
    exact .bottom
  | enter hpath hedge ih =>
    cases n with
    | zero => exact hpath.enter hedge
    | succ n => exact ih (Nat.lt_of_succ_lt_succ hn)

/-- The views of a path. Symbols, states, values and locations are the four lists that the source
keeps; they have one length, and between the states lie the symbols of the other slots. -/
theorem traces (h : IsPath table stack) : stack.Traces table := by
  induction h with
  | bottom =>
    refine ⟨Nat.le_refl 1, rfl, rfl, rfl, rfl, rfl, ?_⟩
    intro i below state symbol _ hsymbol _
    cases hsymbol
  | @enter slot below rest _ hedge ih =>
    have hlen : (Stack.states (below :: rest)).length = rest.length + 1 := by
      simp [Stack.states, Stack.slots]
    have hpos : 0 < rest.length + 1 := Nat.succ_pos _
    refine ⟨?_, ?_, ?_, ?_, ?_, ?_, ?_⟩
    · simp
    · simp [Stack.states, Stack.symbols, Stack.slots]
    · simp [Stack.values, Stack.symbols, Stack.slots]
    · simp [Stack.locations, Stack.symbols, Stack.slots]
    · rw [Stack.symbols_cons, List.getElem?_append_left ih.nonempty, ih.first_symbol]
    · rw [Stack.states_cons, List.getElem?_append_left (hlen ▸ hpos), ih.first_state]
    · intro i source state symbol hsource hsymbol hstate
      rw [Stack.states_cons] at hsource hstate
      rw [Stack.symbols_cons] at hsymbol
      by_cases hlast : i < rest.length
      · have hsucc : i + 1 < (Stack.states (below :: rest)).length := by omega
        have hsucc' : i + 1 < (Stack.symbols (below :: rest)).length := by
          rw [← ih.states_length]
          exact hsucc
        rw [List.getElem?_append_left hsucc] at hstate
        rw [List.getElem?_append_left hsucc'] at hsymbol
        rw [List.getElem?_append_left (by omega)] at hsource
        exact ih.edge i source state symbol hsource hsymbol hstate
      · have hlength : i + 1 < (Stack.states (below :: rest) ++ [slot.state]).length :=
          (List.getElem?_eq_some_iff.mp hstate).1
        rw [List.length_append, List.length_singleton, hlen] at hlength
        have hi : i = rest.length := by omega
        have hbelow : (Stack.states rest).length = i := by
          simp [Stack.states, Stack.slots, hi]
        have hstates : (Stack.states (below :: rest)).length = i + 1 := by rw [hlen, hi]
        have hsymbols : (Stack.symbols (below :: rest)).length = i + 1 := by
          rw [← ih.states_length, hstates]
        rw [List.getElem?_append_left (by omega), Stack.states_cons, ← hbelow,
          List.getElem?_concat_length] at hsource
        rw [← hstates, List.getElem?_concat_length] at hstate
        rw [← hsymbols, List.getElem?_concat_length] at hsymbol
        cases hsource
        cases hstate
        cases hsymbol
        exact hedge

end IsPath

/-- What an event shows of the stack is a path, and an error is found in the state on top of it. -/
def ParserEvent.OnPath (table : Table) : ParserEvent V → Prop
  | .reduced stack _ => IsPath table stack
  | .reported info => IsPath table info.stack ∧ info.stack.topState? = some info.state
  | _ => True

/-- The invariant of a parse: the stack is a path, a token is held back only behind an error token, and
the journal shows paths alone. -/
structure Session.OnPath {σ : Type} (table : Table) (s : Session σ V) : Prop where
  path : IsPath table s.stack
  held : ∀ held ∈ s.held, held.symbol ≠ SymbolId.error ∧
    ∃ token ∈ s.lookahead, token.symbol = SymbolId.error
  journal : ∀ event ∈ landmarks s.journal, event.OnPath table

end

section
variable {σ V ε : Type} {e : Engine σ V ε} {s s' : Session σ V}

namespace Engine

/-- Nothing is held back where no token is ahead. -/
theorem held_of_absent (path : s.OnPath e.table) (absent : s.lookahead = none) : s.held = none := by
  cases hheld : s.held with
  | none => rfl
  | some held =>
    obtain ⟨-, token, hahead, -⟩ := path.held held hheld
    rw [absent] at hahead
    cases hahead

/-! ## What a move keeps -/

/-- A lexical error is reported on the stack as it stands. -/
theorem onPath_ofUnrecognized {table : Table} {stack : Stack V} (h : IsPath table stack)
    (info : Unrecognized) :
    (ParserEvent.reported (.ofUnrecognized table stack info)).OnPath table := by
  obtain ⟨state, htop⟩ := h.topState
  refine ⟨h, ?_⟩
  show stack.topState? = some (stack.topState?.getD 0)
  rw [htop]
  rfl

/-- A look ahead keeps the stack; no token is held back where none is ahead. -/
theorem Looks.onPath (h : Looks e s s') (hs : s.OnPath e.table) : s'.OnPath e.table := by
  cases h with
  | mk habsent hfetch =>
    have hfree : ∀ held ∈ s.held, False := by
      rw [held_of_absent hs habsent]
      exact nofun
    cases hfetch with
    | read hnew =>
      refine ⟨hs.path, fun held h => (hfree held h).elim, ?_⟩
      rw [hnew]
      exact List.forall_mem_cons.mpr ⟨trivial, hs.journal⟩
    | @stuck _ _ info _ _ hnew =>
      refine ⟨hs.path, fun held h => (hfree held h).elim, ?_⟩
      rw [hnew]
      have hlexical := onPath_ofUnrecognized hs.path info
      exact List.forall_mem_cons.mpr ⟨trivial, List.forall_mem_cons.mpr ⟨hlexical, hs.journal⟩⟩

/-- A shift enters a slot from the state that chose it. -/
theorem Shifts.onPath (h : Shifts e s s') (hs : s.OnPath e.table) : s'.OnPath e.table := by
  have hpush : ∀ {state target : StateId} {token : Token} (value : V),
      Chooses e s state (.shift target) → s.lookahead = some token →
        IsPath e.table (⟨token.symbol, target, value, token.location⟩ :: s.stack) := by
    intro state target token value hchosen hahead
    obtain ⟨token', hahead', hentry⟩ := hchosen.token nofun
    rw [hahead] at hahead'
    cases hahead'
    exact hs.path.push _ hchosen.top (.inl hentry)
  cases h with
  | plain hchosen hahead _ _ _ hnew =>
    refine ⟨hpush _ hchosen hahead, nofun, ?_⟩
    rw [hnew]
    exact List.forall_mem_cons.mpr ⟨trivial, hs.journal⟩
  | lexed hchosen hahead _ _ _ _ hnew =>
    refine ⟨hpush _ hchosen hahead, nofun, ?_⟩
    rw [hnew]
    exact List.forall_mem_cons.mpr ⟨trivial, hs.journal⟩
  | synthetic hchosen hahead _ _ hnew =>
    refine ⟨hpush _ hchosen hahead, nofun, ?_⟩
    rw [hnew]
    exact List.forall_mem_cons.mpr ⟨trivial, hs.journal⟩

/-- A reduction cuts a path back and enters the left-hand side from there. -/
theorem Reduces.onPath [Inhabited V] (h : Reduces e s s') (hs : s.OnPath e.table) :
    s'.OnPath e.table := by
  cases h with
  | mk _ _ henough _ huncovered hentry hnew =>
    refine ⟨(hs.path.drop henough).push _ huncovered (.inr hentry), hs.held, ?_⟩
    rw [hnew]
    exact List.forall_mem_cons.mpr ⟨hs.path, hs.journal⟩

/-- A token thrown away is not held back any more. -/
theorem Discards.onPath (h : Discards e s s') (hs : s.OnPath e.table) : s'.OnPath e.table := by
  cases h with
  | mk _ _ _ _ hnew =>
    refine ⟨hs.path, nofun, ?_⟩
    rw [hnew]
    exact List.forall_mem_cons.mpr ⟨trivial, hs.journal⟩

/-- The journal of a settled error shows paths. -/
theorem Settles.onPath {token : Token} (h : Settles e s token s') (hs : s.OnPath e.table) :
    ∀ event ∈ landmarks s'.journal, event.OnPath e.table := by
  cases h with
  | silent _ _ _ hnew => rw [hnew]; exact hs.journal
  | reported hchosen _ _ hnew =>
    rw [hnew]
    exact List.forall_mem_cons.mpr ⟨⟨hs.path, hchosen.top⟩, hs.journal⟩
  | refetched _ _ => exact hs.journal

/-- A recovery cuts a path back above its lowest slot, and puts an error token ahead. -/
theorem Resumes.onPath (h : Resumes e s s') (hs : s.OnPath e.table) : s'.OnPath e.table := by
  cases h with
  | @mk token depth s₁ _ hsettled hnearest _ =>
    have hlt : depth < s.stack.length := (List.findIdx?_eq_some_iff_findIdx_eq.mp hnearest).1
    obtain ⟨location, -, hahead⟩ := e.resumption_ahead depth token s₁
    refine ⟨?_, ?_, ?_⟩
    · rw [resumption_stack, hsettled.keeps.1]
      exact hs.path.drop hlt
    · intro held hheld
      rw [resumption_held] at hheld
      split at hheld
      · cases hheld
      · next hplain => cases hheld; exact ⟨hplain, _, hahead, rfl⟩
    · rw [landmarks_resumption]
      exact List.forall_mem_cons.mpr ⟨trivial, hsettled.onPath hs⟩

/-- Every move keeps the invariant. -/
theorem Move.onPath [Inhabited V] (h : Move e s s') (hs : s.OnPath e.table) :
    s'.OnPath e.table := by
  cases h with
  | remark hnew => exact ⟨hs.path, hs.held, by rw [hnew]; exact hs.journal⟩
  | look h => exact h.onPath hs
  | shift h => exact h.onPath hs
  | reduce h => exact h.onPath hs
  | discard h => exact h.onPath hs
  | resume h => exact h.onPath hs

/-- Any number of moves keep the invariant. -/
theorem Moves.onPath [Inhabited V] (h : Moves e s s') (hs : s.OnPath e.table) :
    s'.OnPath e.table := by
  induction h with
  | refl => exact hs
  | tail _ hmove ih => exact hmove.onPath ih

/-- What every move of a parse keeps, any number of them keep. -/
theorem Moves.keeps [Inhabited V] {P : Session σ V → Prop}
    (keeps : ∀ {s s'}, Move e s s' → s.OnPath e.table → P s → P s') (h : Moves e s s')
    (path : s.OnPath e.table) (start : P s) : P s' := by
  induction h with
  | refl => exact start
  | tail hmoves hmove ih => exact keeps hmove (Moves.onPath hmoves path) ih

/-- What the last step adds to the journal shows paths. -/
theorem Ends.onPath {events : List (ParserEvent V)} (h : Ends e s events)
    (hs : s.OnPath e.table) : ∀ event ∈ events, event.OnPath e.table := by
  cases h with
  | silent => exact hs.journal
  | reduction _ _ _ => exact List.forall_mem_cons.mpr ⟨hs.path, hs.journal⟩
  | @lexical info _ =>
    exact List.forall_mem_cons.mpr ⟨onPath_ofUnrecognized hs.path info, hs.journal⟩
  | unexpected hchosen _ _ _ =>
    exact List.forall_mem_cons.mpr ⟨⟨hs.path, hchosen.top⟩, hs.journal⟩
  | halted htop _ => exact List.forall_mem_cons.mpr ⟨⟨hs.path, htop⟩, hs.journal⟩
  | haltedAfter _ hsettled htop _ =>
    exact List.forall_mem_cons.mpr ⟨⟨hs.path, htop⟩, hsettled.onPath hs⟩

/-! ## The stacks of a run -/

section
variable [Inhabited V]

/-- A parse starts with the lowest slot alone. -/
theorem onPath_reset (c : Config σ V) (input : String) :
    (c.reset input).session.OnPath e.table where
  path := .bottom
  held := nofun
  journal := nofun

/-- Between any two steps of a parse, and wherever an action of a production or a verdict on an
error is asked for, the stack is a path of the automaton; a token is held back only behind an error
token. Reference: `ParseStacks`, at the rounds of `Parser::run` and the calls of a `ParserDriver`.
-/
theorem stacks_are_paths (e : Engine σ V ε) (c : Config σ V) (input : String) :
    (∀ c', e.Steps (c.reset input) c' →
      c'.session.stack.Traces e.table ∧
        ∀ held ∈ c'.session.held, ∃ token ∈ c'.session.lookahead,
          token.symbol = SymbolId.error) ∧
    ∀ fuel, ∀ event ∈ (e.run fuel (c.reset input)).config.session.events,
      (∀ stack reduction, event = .reduced stack reduction → stack.Traces e.table) ∧
        ∀ info, event = .reported info →
          info.stack.Traces e.table ∧ info.stack.states.getLast? = some info.state := by
  have hstart : (c.reset input).session.OnPath e.table := onPath_reset c input
  refine ⟨?_, ?_⟩
  · intro c' hsteps
    have hs := hsteps.moves.onPath hstart
    exact ⟨hs.path.traces, fun held hheld => (hs.held held hheld).2⟩
  · intro fuel event hevent
    obtain ⟨s, hmoves, hends⟩ := e.run_ends fuel (c.reset input)
    have hjournal := hends.onPath (hmoves.onPath hstart)
    have hmem : event.isLandmark = true → event.OnPath e.table := fun hlandmark =>
      hjournal event (List.mem_filter.mpr ⟨List.mem_reverse.mp hevent, hlandmark⟩)
    refine ⟨?_, ?_⟩
    · rintro stack reduction rfl
      have hpath : IsPath e.table stack := hmem rfl
      exact hpath.traces
    · rintro info rfl
      obtain ⟨hpath, htop⟩ : (ParserEvent.reported info).OnPath e.table := hmem rfl
      exact ⟨hpath.traces, info.stack.states_getLast?.trans htop⟩

end

end Engine

end

end ShiftReduce
