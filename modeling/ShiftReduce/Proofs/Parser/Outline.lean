import ShiftReduce.Proofs.Parser.Discarding

/-!
# Outlines of a parse

How a parse goes on is decided by little of its configuration: the symbols, states and values on the
stack, the symbols and texts of the tokens ahead, and two numbers for the recoveries. An outline is
that much of a configuration, with the tokens that the lexer is going to supply. From an outline a parse
leads to its end within so many steps (`Outline.Leads`), and each law of this module says so of one kind
of step: it is enough that the outline behind the step leads there. Following a parse is then following
its outlines, without regard to what the engine records and counts.

The laws come in two kinds. Those of fitting configurations (`Outline.Fits`) say what a function of
the engine does to a configuration that an outline is of, and those of leading (`Outline.Leads`) put
them together to a step. Where a step of the parser needs the next token it is supplied by the
outline, so that a lexer enters only by what it supplies (`Engine.Supplies`).
-/

namespace ShiftReduce

section
variable {σ V ε : Type}

/-- What decides how a parse goes on: the stack, the token ahead and the one held back, the numbers that
recoveries leave, and the tokens that are still to come. -/
structure Outline (V : Type) where
  stack : List (SymbolId × StateId × V)
  ahead : Option (SymbolId × String)
  held : Option (SymbolId × String)
  recovering : Nat
  endHeight : Option Nat
  rest : List (SymbolId × String)

/-- Actions that give a token a value by its symbol and text, and a production a value, or a fault, by the
values of the children; the verdict on errors is the standard one. -/
structure Actions.Computes [Inhabited V] (actions : Actions σ V ε) (token : SymbolId × String → V)
    (production : ProductionId → List V → Except ε V) : Prop where
  token : ∀ t user, (actions.tokenValue t user).1 = token t.bare
  production : ∀ reduction user,
    (actions.reduce reduction user).1.map
        (fun yield => yield.value.getD (reduction.values.head?.getD default)) =
      production reduction.production reduction.values
  judge : ∀ info user, (actions.judge info user).1 = none

namespace Engine

/-- A lexer from which a parse fetches tokens of these symbols and texts, whatever its session. -/
def Supplies (e : Engine σ V ε) : List (SymbolId × String) → Lexer → Prop
  | [], _ => True
  | bare :: rest, lexer => ∀ s, ∃ token c,
    e.fetch ⟨lexer, s⟩ = .ok (token, c) ∧ token.bare = bare ∧ Supplies e rest c.lexer

variable [Inhabited V] {e : Engine σ V ε} {c c' : Config σ V} {n : Nat} {Q : Stop V ε → Prop}

/-- A parse that, with so many steps allowed or more, ends as a property says. -/
def StopsWithin (e : Engine σ V ε) (n : Nat) (c : Config σ V) (Q : Stop V ε → Prop) : Prop :=
  ∀ fuel, n ≤ fuel → Q (e.run fuel c).stop

/-- A step goes on. -/
theorem StopsWithin.step (goes : e.step c = .ok c') (h : e.StopsWithin n c' Q) :
    e.StopsWithin (n + 1) c Q := by
  intro fuel hfuel
  cases fuel with
  | zero => cases hfuel
  | succ fuel =>
    rw [run, goes]
    exact h fuel (Nat.le_of_succ_le_succ hfuel)

/-- A step ends the parse. -/
theorem stopsWithin_of_halt {halt : Halt σ V ε} (ends : e.step c = .error halt) (h : Q halt.stop) :
    e.StopsWithin (n + 1) c Q := by
  intro fuel hfuel
  cases fuel with
  | zero => cases hfuel
  | succ fuel =>
    rw [run, ends]
    exact h

/-- Parses that take the same step end alike. -/
theorem StopsWithin.same (same : e.step c = e.step c') (h : e.StopsWithin n c' Q) :
    e.StopsWithin n c Q := by
  intro fuel hfuel
  have hstop : (e.run fuel c).stop = (e.run fuel c').stop := by
    cases fuel with
    | zero => rfl
    | succ fuel => rw [run, run, same]
  rw [hstop]
  exact h fuel hfuel

end Engine

namespace Outline

variable {e : Engine σ V ε} {o : Outline V} {c : Config σ V} {state : StateId} {action : Action}

/-- A configuration that an outline is of: stack, tokens and counters agree, but for places, and the
lexer supplies the tokens to come. -/
structure Fits (e : Engine σ V ε) (o : Outline V) (c : Config σ V) : Prop where
  stack : c.session.stack.map Slot.bare = o.stack
  ahead : c.session.lookahead.map Token.bare = o.ahead
  held : c.session.held.map Token.bare = o.held
  recovering : c.session.recovering = o.recovering
  endHeight : c.session.endHeight = o.endHeight
  supplies : e.Supplies o.rest c.lexer

/-- The state on top of the stack of an outline. -/
def topState? (o : Outline V) : Option StateId := o.stack.head?.map (·.2.1)

/-- How many slots lie above the nearest state that can take an error. -/
def depth? (table : Table) (o : Outline V) : Option Nat :=
  o.stack.findIdx? fun slot => table.action slot.2.1 SymbolId.error != .error

/-- The outline behind a recovery from an error at a token. Reference: the end of `Parser::recover`.
-/
def resumed (quiet depth : Nat) (bare : SymbolId × String) (o : Outline V) : Outline V :=
  { o with
    stack := o.stack.drop depth
    ahead := some (SymbolId.error, bare.2)
    held := if bare.1 = SymbolId.error then none else some bare
    recovering := quiet
    endHeight :=
      if bare.1 = SymbolId.endOfInput then some (o.stack.length - depth) else o.endHeight }

/-- The action of the state on top: its default reduction, or its entry for the token ahead. -/
inductive Takes (table : Table) (o : Outline V) : StateId → Action → Prop
  | byDefault {state : StateId} {number : ProductionId} (top : o.topState? = some state)
      (known : table.hasState state = true)
      (reduction : table.defaultReduction? state = some number) : Takes table o state (.reduce number)
  | byToken {state : StateId} {bare : SymbolId × String} {action : Action}
      (top : o.topState? = some state) (known : table.hasState state = true)
      (free : table.defaultReduction? state = none) (ahead : o.ahead = some bare)
      (entry : table.action state bare.1 = action) : Takes table o state action

/-- Where a parse leads from an outline, within so many steps, whatever the configuration is that it
is of. -/
def Leads [Inhabited V] (e : Engine σ V ε) (n : Nat) (o : Outline V) (Q : Stop V ε → Prop) : Prop :=
  ∀ c, o.Fits e c → e.StopsWithin n c Q

/-! ## Fitting configurations -/

/-- An event in the journal is no part of an outline. -/
theorem Fits.note (h : o.Fits e c) (event : ParserEvent V) : o.Fits e (c.note event) :=
  ⟨h.stack, h.ahead, h.held, h.recovering, h.endHeight, h.supplies⟩

theorem Fits.topState (h : o.Fits e c) : c.session.stack.topState? = o.topState? := by
  unfold topState? Stack.topState?
  rw [← h.stack, List.head?_map, Option.map_map]
  rfl

theorem Fits.length (h : o.Fits e c) : c.session.stack.length = o.stack.length := by
  rw [← h.stack, List.length_map]

theorem Fits.depth (h : o.Fits e c) : e.recoveryDepth? c.session.stack = o.depth? e.table := by
  unfold depth? Engine.recoveryDepth?
  rw [← h.stack, List.findIdx?_map]
  rfl

/-- The token ahead of a configuration. -/
theorem Fits.token (h : o.Fits e c) {bare : SymbolId × String} (ahead : o.ahead = some bare) :
    ∃ token, c.session.lookahead = some token ∧ token.bare = bare := by
  have hahead := h.ahead
  rw [ahead] at hahead
  exact Option.map_eq_some_iff.mp hahead

theorem Fits.none_held (h : o.Fits e c) (own : o.held = none) : c.session.held = none := by
  have hheld := h.held
  rw [own] at hheld
  exact Option.map_eq_none_iff.mp hheld

/-- The lexer supplies the next token. -/
theorem Fits.fetch (h : o.Fits e c) {bare : SymbolId × String} {rest : List (SymbolId × String)}
    (coming : o.rest = bare :: rest) :
    ∃ t c₁, e.fetch c = .ok (t, c₁) ∧ t.bare = bare ∧ Fits e { o with rest } c₁ := by
  have hsupplies := h.supplies
  rw [coming] at hsupplies
  obtain ⟨t, c₁, hfetch, hbare, hrest⟩ := hsupplies c.session
  have hfetched : e.fetch c = .ok (t, c₁) := hfetch
  refine ⟨t, c₁, hfetched, hbare, ?_⟩
  obtain ⟨lexer, s⟩ := c₁
  cases Engine.fetch_ok hfetched <;>
    exact ⟨h.stack, h.ahead, h.held, h.recovering, h.endHeight, hrest⟩

variable [Inhabited V]

/-- A step performs the action that an outline takes. -/
theorem Fits.step (h : o.Fits e c) (takes : o.Takes e.table state action) :
    e.step c =
      e.perform state (c.note (.atState c.session.stack c.session.lookahead)) action := by
  cases takes with
  | byDefault top known reduction =>
    exact Engine.step_chosen (h.topState.trans top) known (Engine.chooseAction_default reduction _)
  | byToken top known free ahead entry =>
    obtain ⟨token, hahead, rfl⟩ := h.token ahead
    subst entry
    exact Engine.step_chosen (h.topState.trans top) known (Engine.chooseAction_ahead free hahead)

/-! ## Shifts -/

variable {bare : SymbolId × String}
variable {token : SymbolId × String → V} {production : ProductionId → List V → Except ε V}

/-- The outline behind the shift of the token ahead. An error token of the lexer's own starts a recovery
where none is under way; any other token counts for the one that is. -/
def shifted (quiet : Nat) (target : StateId) (bare : SymbolId × String) (value : V) (o : Outline V) :
    Outline V :=
  { o with
    stack := (bare.1, target, value) :: o.stack
    ahead := none
    recovering := if bare.1 = SymbolId.error ∧ o.recovering = 0 then quiet else o.recovering - 1 }

omit [Inhabited V] in
/-- What consuming a token changes in the outline of a session. -/
theorem afterShift_outline (e : Engine σ V ε) (lexed : Bool) (t : Token) (s : Session σ V) :
    let s' := e.afterShift lexed t s
    s'.stack = s.stack ∧ s'.lookahead = s.lookahead ∧ s'.held = s.held ∧
      s'.recovering = (if lexed then e.quietCount else s.recovering - 1) ∧
      s'.endHeight = s.endHeight := by
  cases lexed with
  | true => exact ⟨rfl, rfl, rfl, rfl, rfl⟩
  | false =>
    obtain ⟨journal, hafter, -⟩ := e.afterShift_plain t s
    rw [hafter]
    exact ⟨rfl, rfl, rfl, rfl, rfl⟩

/-- The token ahead is shifted. This is the shift of a token of the lexer's own, with none held
back. -/
theorem Fits.shift (h : o.Fits e c) (computes : e.actions.Computes token production)
    (ahead : o.ahead = some bare) (own : o.held = none) (target : StateId) :
    ∃ c', e.shift target c = .ok c' ∧ (o.shifted e.quietCount target bare (token bare)).Fits e c' := by
  obtain ⟨t, hahead, rfl⟩ := h.token ahead
  have hown := h.none_held own
  have hlexed : (t.symbol == SymbolId.error && (none : Option Token).isNone &&
      c.session.recovering == 0) = decide (t.bare.1 = SymbolId.error ∧ o.recovering = 0) := by
    rw [h.recovering]
    simp only [Option.isNone_none, Bool.and_true, Bool.decide_and, beq_eq_decide]
    rfl
  unfold Engine.shift
  simp only [hahead, hown, hlexed, Option.isSome_none, Bool.false_eq_true, if_false]
  refine ⟨_, rfl, ?_, ?_, ?_, ?_, ?_, h.supplies⟩
  · rw [(afterShift_outline e _ _ _).1]
    exact congr (congrArg List.cons (congrArg (fun value => (t.symbol, target, value))
      (computes.token t c.session.user))) h.stack
  · rw [(afterShift_outline e _ _ _).2.1]
    rfl
  · rw [(afterShift_outline e _ _ _).2.2.1]
    exact own.symm
  · rw [(afterShift_outline e _ _ _).2.2.2.1]
    simp only [decide_eq_true_eq, shifted, ← h.recovering]
    rfl
  · rw [(afterShift_outline e _ _ _).2.2.2.2]
    exact h.endHeight

/-- The outline behind the shift of an error token that a recovery made: the token held back is ahead. -/
def shiftedError (target : StateId) (bare : SymbolId × String) (value : V) (o : Outline V) :
    Outline V :=
  { o with
    stack := (bare.1, target, value) :: o.stack
    ahead := o.held
    held := none }

/-- An error token is shifted that a recovery made. -/
theorem Fits.shiftError (h : o.Fits e c) (computes : e.actions.Computes token production)
    (ahead : o.ahead = some bare) (behind : o.held.isSome = true) (target : StateId) :
    ∃ c', e.shift target c = .ok c' ∧ (o.shiftedError target bare (token bare)).Fits e c' := by
  obtain ⟨t, hahead, rfl⟩ := h.token ahead
  have hbehind : c.session.held.isSome = true := by
    rw [← h.held, Option.isSome_map] at behind
    exact behind
  unfold Engine.shift
  simp only [hahead, hbehind, if_true]
  refine ⟨_, rfl, ?_, h.held, rfl, h.recovering, h.endHeight, h.supplies⟩
  exact congr (congrArg List.cons (congrArg (fun value => (t.symbol, target, value))
    (computes.token t c.session.user))) h.stack

/-! ## Reductions -/

/-- The values of the top slots, from the bottom up, as a reduction sees them. -/
def values (o : Outline V) (n : Nat) : List V := ((o.stack.take n).map (·.2.2)).reverse

omit [Inhabited V] in
/-- A reduction sees the values of its children. -/
theorem Fits.values (h : o.Fits e c) (number : ProductionId) (p : Production) :
    (Engine.reductionOf c.session number p).values = o.values p.length := by
  unfold Engine.reductionOf Reduction.values Outline.values
  dsimp only
  rw [← h.stack, List.map_reverse, ← List.map_take, List.map_map]
  rfl

/-- A production's action fails. -/
theorem Fits.fault (h : o.Fits e c) (computes : e.actions.Computes token production)
    {number : ProductionId} {p : Production} {fault : ε}
    (found : e.table.production? number = some p) (enough : p.length < o.stack.length)
    (value : production number (o.values p.length) = .error fault) :
    ∃ halt, e.reduce number c = .error halt ∧
      halt.stop = .failed (.action (.production number) fault) := by
  have hheight : ¬ c.session.stack.length ≤ p.length := by
    rw [h.length]
    exact Nat.not_le.mpr enough
  have hcalled := (computes.production (Engine.reductionOf c.session number p) c.session.user).trans
    ((congrArg (production number) (h.values number p)).trans value)
  generalize hr : Engine.reductionOf c.session number p = reduction at hcalled
  have huser : (c.note (.reduced c.session.stack reduction)).session.user = c.session.user := rfl
  unfold Engine.reduce
  simp only [found, if_neg hheight, hr, huser]
  generalize e.actions.reduce reduction c.session.user = acted at hcalled ⊢
  obtain ⟨_ | yield, user⟩ := acted
  · cases hcalled
    exact ⟨_, rfl, rfl⟩
  · cases hcalled

omit [Inhabited V] in
/-- The left-hand side of a production takes its place on the stack. -/
theorem Fits.goto (h : o.Fits e c) {below target : StateId} {lhs : SymbolId}
    (top : o.topState? = some below) (entry : e.table.action below lhs = .goto target) (value : V)
    (location : Location) :
    ∃ c', e.goto lhs value location c = .ok c' ∧
      Fits e { o with stack := (lhs, target, value) :: o.stack } c' := by
  have htop := h.topState.trans top
  unfold Engine.goto
  simp only [htop, entry]
  refine ⟨_, rfl, ?_, h.ahead, h.held, h.recovering, h.endHeight, h.supplies⟩
  exact congrArg (List.cons (lhs, target, value)) h.stack

/-- The outline behind a reduction, with the left-hand side in the place of the children. Reference:
`Parser::reduce`. -/
def reduced (p : Production) (target : StateId) (value : V) (o : Outline V) : Outline V :=
  { o with stack := (p.lhs, target, value) :: o.stack.drop p.length }

/-- A production is reduced. What the action computes depends on the production and the values
alone, and the places of the slots are no part of the outline. -/
theorem Fits.reduce (h : o.Fits e c) (computes : e.actions.Computes token production)
    {number : ProductionId} {p : Production} {v : V} {below target : StateId}
    (found : e.table.production? number = some p) (enough : p.length < o.stack.length)
    (value : production number (o.values p.length) = .ok v)
    (uncovered : (o.stack.drop p.length).head?.map (·.2.1) = some below)
    (entry : e.table.action below p.lhs = .goto target) :
    ∃ c', e.reduce number c = .ok c' ∧ (o.reduced p target v).Fits e c' := by
  have hheight : ¬ c.session.stack.length ≤ p.length := by
    rw [h.length]
    exact Nat.not_le.mpr enough
  have hcalled := (computes.production (Engine.reductionOf c.session number p) c.session.user).trans
    ((congrArg (production number) (h.values number p)).trans value)
  generalize hr : Engine.reductionOf c.session number p = reduction at hcalled
  have huser : (c.note (.reduced c.session.stack reduction)).session.user = c.session.user := rfl
  unfold Engine.reduce
  simp only [found, if_neg hheight, hr, huser]
  generalize e.actions.reduce reduction c.session.user = acted at hcalled ⊢
  obtain ⟨_ | yield, user⟩ := acted
  · cases hcalled
  · have hvalue : yield.value.getD (reduction.values.head?.getD default) = v := Except.ok.inj hcalled
    have hpopped : Fits e { o with stack := o.stack.drop p.length }
        ((c.note (.reduced c.session.stack reduction)).update fun session =>
          { session with user, stack := session.stack.drop p.length }) := by
      refine ⟨?_, h.ahead, h.held, h.recovering, h.endHeight, h.supplies⟩
      rw [← h.stack, ← List.map_drop]
      rfl
    dsimp only
    rw [hvalue]
    cases yield.remark with
    | none => exact hpopped.goto uncovered entry v _
    | some text => exact (hpopped.note _).goto uncovered entry v _

/-! ## Recoveries -/

omit [Inhabited V] in
/-- The token at fault is the one ahead, if none is held back. -/
theorem Fits.takeOffending (h : o.Fits e c) (ahead : o.ahead = some bare) (own : o.held = none) :
    ∃ t c₁, Engine.takeOffending (ε := ε) c = .ok (t, c₁) ∧ t.bare = bare ∧
      Fits e { o with ahead := none } c₁ := by
  obtain ⟨t, hahead, rfl⟩ := h.token ahead
  have hown : c.session.held.getD t = t := by
    rw [h.none_held own]
    rfl
  unfold Engine.takeOffending
  simp only [hahead]
  split
  · exact ⟨_, _, rfl, congrArg Token.bare hown, h.stack, rfl, own.symm, h.recovering, h.endHeight,
      h.supplies⟩
  · exact ⟨_, _, rfl, rfl, h.stack, rfl, h.held, h.recovering, h.endHeight, h.supplies⟩

omit [Inhabited V] in
/-- Behind a verdict nothing of an outline has changed. -/
theorem Fits.judge (h : o.Fits e c) (info : ErrorInfo V) :
    o.Fits e { c with session := (e.judge info c.session).2 } := by
  obtain ⟨user, journal, hs, -⟩ := e.judge_session info c.session
  rw [hs]
  exact ⟨h.stack, h.ahead, h.held, h.recovering, h.endHeight, h.supplies⟩

/-- The standard verdict on an error. -/
theorem judge_standard (computes : e.actions.Computes token production) (info : ErrorInfo V)
    (s : Session σ V) : (e.judge info s).1 = standardVerdict info := by
  rw [e.judge_verdict, Actions.verdict, computes.judge]
  rfl

/-- A report that a recovery can follow lets the parse go on, and is no part of an outline. Of an
error token of the lexer's no report is made here, and that shows as little. -/
theorem Fits.report (h : o.Fits e c) (computes : e.actions.Computes token production)
    (state : StateId) (t : Token) (depth : Nat) :
    ∃ c₁, e.reportToken state (some depth) t c = .ok c₁ ∧ o.Fits e c₁ := by
  have hcleared : ∀ c : Config σ V, o.Fits e c →
      o.Fits e (c.update fun session => { session with record := {} }) :=
    fun c h => ⟨h.stack, h.ahead, h.held, h.recovering, h.endHeight, h.supplies⟩
  unfold Engine.reportToken
  split
  · exact ⟨_, rfl, hcleared c h⟩
  · dsimp only
    generalize hinfo : ErrorInfo.ofToken e.table c.session.stack (.unexpected c.lexer.showPosition)
      (some depth).isSome state t = info
    generalize hs : (c.session.count fun stats => { stats with errors := stats.errors + 1 }).note
      (.detected state (some depth)) = s
    have hfits : o.Fits e { c with session := s } := by
      rw [← hs]
      exact ⟨h.stack, h.ahead, h.held, h.recovering, h.endHeight, h.supplies⟩
    have hresumes : (e.judge info s).1 = .resume := by
      rw [judge_standard computes, ← hinfo]
      rfl
    have hjudged := hfits.judge info
    generalize e.judge info s = judged at hresumes hjudged
    obtain ⟨verdict, s'⟩ := judged
    cases hresumes
    exact ⟨_, rfl, hcleared _ hjudged⟩

/-- The end of a parse by a report that no recovery follows. -/
theorem halt_stop (computes : e.actions.Computes token production) (cause : ErrorCause)
    (syntactic : cause.kind = .syntactic) (state : StateId) (t : Token) (c : Config σ V) :
    ∃ info, (e.halt cause state t c).stop = .failed (.syntactic info) := by
  unfold Engine.halt
  dsimp only
  generalize hinfo : ErrorInfo.ofToken e.table c.session.stack cause false state t = info
  generalize (c.session.count fun stats => { stats with errors := stats.errors + 1 }).note
    (.halted info) = s
  have hkind : info.kind = .syntactic := by
    rw [← hinfo]
    exact syntactic
  have hraises : (e.judge info s).1 = .raise (.syntactic info) := by
    have hverdict := judge_standard computes info s
    have hraised : standardVerdict (ε := ε) info = .raise (.ofInfo info) := by
      rw [← hinfo]
      rfl
    rw [hverdict, hraised, ParseError.ofInfo, hkind]
  generalize e.judge info s = judged at hraises
  obtain ⟨verdict, s'⟩ := judged
  cases hraises
  exact ⟨info, rfl⟩

/-- The first half of a recovery, unless the token at fault is thrown away. -/
theorem Fits.settle (h : o.Fits e c) (computes : e.actions.Computes token production)
    (ahead : o.ahead = some bare) (own : o.held = none) (begun : o.recovering ≠ e.quietCount)
    {depth : Nat} (nearest : o.depth? e.table = some depth) (state : StateId) :
    ∃ t c₁, e.settle state c = .ok (t, c₁) ∧ t.bare = bare ∧ Fits e { o with ahead := none } c₁ := by
  obtain ⟨t, c₁, htaken, hbare, hfits⟩ := h.takeOffending ahead own
  have hbegun : c₁.session.recovering ≠ e.quietCount := by
    rw [hfits.recovering]
    exact begun
  have hnearest : e.recoveryDepth? c₁.session.stack = some depth := hfits.depth.trans nearest
  simp only [Engine.settle, htaken, bind, Except.bind, pure, Except.pure, hnearest, if_neg hbegun]
  split
  · obtain ⟨c₂, hreport, hfits₂⟩ := hfits.report computes state t depth
    rw [hreport]
    exact ⟨t, c₂, rfl, hbare, hfits₂⟩
  · exact ⟨t, c₁, rfl, hbare, hfits⟩

omit [Inhabited V] in
/-- The first half of a recovery right behind another one: the token at fault is thrown away, and the
next one fetched. -/
theorem Fits.settleDiscarding (h : o.Fits e c) (ahead : o.ahead = some bare) (own : o.held = none)
    (full : o.recovering = e.quietCount) (input : bare.1 ≠ SymbolId.endOfInput)
    {next : SymbolId × String} {rest : List (SymbolId × String)} (coming : o.rest = next :: rest)
    (state : StateId) :
    ∃ t c₁, e.settle state c = .ok (t, c₁) ∧ t.bare = next ∧
      Fits e { o with ahead := none, rest } c₁ := by
  obtain ⟨t, c₁, htaken, rfl, hfits⟩ := h.takeOffending ahead own
  have hinput : t.symbol ≠ SymbolId.endOfInput := input
  rw [Engine.settle_discards state htaken (hfits.recovering.trans full), Engine.discardToken,
    if_neg hinput]
  have hdiscarded : Fits e { o with ahead := none } (c₁.update fun session =>
      ({ session with record := session.record.discard t }.count fun stats =>
        { stats with discarded := stats.discarded + 1 }).note (.discarded t)) :=
    ⟨hfits.stack, hfits.ahead, hfits.held, hfits.recovering, hfits.endHeight, hfits.supplies⟩
  exact hdiscarded.fetch coming

omit [Inhabited V] in
/-- The second half of a recovery. The stack is cut back to the nearest state that can take an
error, and the error token put ahead, with the token at fault held back. -/
theorem Fits.retry (h : o.Fits e c) (depth : Nat) {t : Token}
    (lower : t.symbol = SymbolId.endOfInput → o.endHeight = none) (state : StateId) :
    ∃ c', e.retry state (some depth) t c = .ok c' ∧
      (o.resumed e.quietCount depth t.bare).Fits e c' := by
  have hchecked : ∃ c₁, e.checkHeight state t (c.session.stack.length - depth) c = .ok c₁ ∧
      Fits e { o with endHeight := (o.resumed e.quietCount depth t.bare).endHeight } c₁ := by
    have hbare : t.bare.1 = t.symbol := rfl
    unfold Engine.checkHeight resumed
    by_cases hend : t.symbol = SymbolId.endOfInput
    · have hheight : c.session.endHeight = none := h.endHeight.trans (lower hend)
      simp only [hend, hheight, hbare, ne_eq, not_true, if_false, if_true, Option.any_none,
        Bool.false_eq_true]
      refine ⟨_, rfl, h.stack, h.ahead, h.held, h.recovering, ?_, h.supplies⟩
      exact congrArg (fun height => some (height - depth)) h.length
    · simp only [hend, hbare, ne_eq, not_false_iff, if_true, if_false]
      exact ⟨c, rfl, h⟩
  obtain ⟨c₁, hcheck, hfits⟩ := hchecked
  simp only [Engine.retry, hcheck, bind, Except.bind, pure, Except.pure]
  refine ⟨_, rfl, ?_, rfl, ?_, rfl, hfits.endHeight, hfits.supplies⟩
  · show (c₁.session.stack.drop depth).map Slot.bare = o.stack.drop depth
    rw [List.map_drop, hfits.stack]
  · show (if t.symbol = SymbolId.error then none else some t).map Token.bare = _
    unfold resumed
    split
    · next herror => exact (if_pos herror).symm
    · next herror => exact (if_neg herror).symm

/-! ## Laws -/

variable {n : Nat} {Q : Stop V ε → Prop}

/-- More steps may be allowed than it takes. -/
theorem Leads.mono {m : Nat} (h : o.Leads e n Q) (le : n ≤ m) : o.Leads e m Q :=
  fun c hfits fuel hfuel => h c hfits fuel (Nat.le_trans le hfuel)

/-- A state that asks for a token gets the next one. -/
theorem Leads.look {rest : List (SymbolId × String)} (top : o.topState? = some state)
    (known : e.table.hasState state = true) (free : e.table.defaultReduction? state = none)
    (ahead : o.ahead = none) (coming : o.rest = bare :: rest)
    (next : Leads e n { o with ahead := some bare, rest } Q) : o.Leads e n Q := by
  intro c h
  have habsent : c.session.lookahead = none := by
    have hahead := h.ahead
    rw [ahead] at hahead
    exact Option.map_eq_none_iff.mp hahead
  obtain ⟨t, c₁, hfetch, rfl, hfetched⟩ := h.fetch coming
  generalize hc₂ : c₁.update (fun session => { session with lookahead := some t }) = c₂
  have hfits : Fits e { o with ahead := some t.bare, rest } c₂ := by
    rw [← hc₂]
    exact ⟨hfetched.stack, rfl, hfetched.held, hfetched.recovering, hfetched.endHeight,
      hfetched.supplies⟩
  refine (next c₂ hfits).same ?_
  have hchosen : e.chooseAction state c = .ok (e.table.action state t.symbol, c₂) := by
    simp only [Engine.chooseAction, free, habsent, hfetch, bind, Except.bind, pure, Except.pure, hc₂]
  rw [Engine.step_chosen (h.topState.trans top) known hchosen,
    hfits.step (.byToken top known free rfl rfl)]
  rfl

/-- A step that goes on leads where the outline behind it does. -/
theorem Leads.step {o' : Outline V} (next : o'.Leads e n Q) (takes : o.Takes e.table state action)
    (performs : ∀ c, o.Fits e c → ∃ c', e.perform state c action = .ok c' ∧ o'.Fits e c') :
    o.Leads e (n + 1) Q := by
  intro c h
  obtain ⟨c', hperform, hfits⟩ := performs _ (h.note (.atState c.session.stack c.session.lookahead))
  exact (next c' hfits).step ((h.step takes).trans hperform)

/-- A step that ends the parse. -/
theorem leads_of_stop (takes : o.Takes e.table state action)
    (performs : ∀ c, o.Fits e c → ∃ halt, e.perform state c action = .error halt ∧ Q halt.stop) :
    o.Leads e (n + 1) Q := by
  intro c h
  obtain ⟨halt, hperform, hstop⟩ := performs _ (h.note (.atState c.session.stack c.session.lookahead))
  exact Engine.stopsWithin_of_halt ((h.step takes).trans hperform) hstop

/-- The token ahead is shifted. -/
theorem Leads.shift {target : StateId} (computes : e.actions.Computes token production)
    (takes : o.Takes e.table state (.shift target)) (ahead : o.ahead = some bare)
    (own : o.held = none) (next : (o.shifted e.quietCount target bare (token bare)).Leads e n Q) :
    o.Leads e (n + 1) Q :=
  next.step takes fun _ h => (h.note _).shift computes ahead own target

/-- Behind an error token that a recovery made, the token held back is ahead again. -/
theorem Leads.shiftError {target : StateId} (computes : e.actions.Computes token production)
    (takes : o.Takes e.table state (.shift target)) (ahead : o.ahead = some bare)
    (behind : o.held.isSome = true)
    (next : (o.shiftedError target bare (token bare)).Leads e n Q) : o.Leads e (n + 1) Q :=
  next.step takes fun _ h => (h.note _).shiftError computes ahead behind target

/-- A production is reduced. -/
theorem Leads.reduce {number : ProductionId} {p : Production} {v : V} {below target : StateId}
    (computes : e.actions.Computes token production) (takes : o.Takes e.table state (.reduce number))
    (found : e.table.production? number = some p) (enough : p.length < o.stack.length)
    (value : production number (o.values p.length) = .ok v)
    (uncovered : (o.stack.drop p.length).head?.map (·.2.1) = some below)
    (entry : e.table.action below p.lhs = .goto target)
    (next : (o.reduced p target v).Leads e n Q) : o.Leads e (n + 1) Q :=
  next.step takes fun _ h => (h.note _).reduce computes found enough value uncovered entry

/-- A production's action fails. -/
theorem leads_of_fault {number : ProductionId} {p : Production} {fault : ε}
    (computes : e.actions.Computes token production) (takes : o.Takes e.table state (.reduce number))
    (found : e.table.production? number = some p) (enough : p.length < o.stack.length)
    (value : production number (o.values p.length) = .error fault)
    (holds : Q (.failed (.action (.production number) fault))) : o.Leads e (n + 1) Q :=
  leads_of_stop takes fun _ h =>
    let ⟨halt, hreduce, hstop⟩ := (h.note _).fault computes found enough value
    ⟨halt, hreduce, hstop ▸ holds⟩

/-- The input is accepted, with the value on top of the stack. -/
theorem leads_of_accept {slot : SymbolId × StateId × V} {rest : List (SymbolId × StateId × V)}
    (takes : o.Takes e.table state .accept) (top : o.stack = slot :: rest)
    (holds : Q (.accepted slot.2.2)) : o.Leads e (n + 1) Q := by
  refine leads_of_stop takes fun c h => ?_
  have hstack := h.stack
  rw [top] at hstack
  obtain ⟨first, others, hsplit, rfl, -⟩ := List.map_eq_cons_iff.mp hstack
  have htake : (c.note .accepting).session.stack.takeTop? =
      (some first.value, { first with value := default } :: others) := by
    show c.session.stack.takeTop? = _
    rw [hsplit]
    rfl
  simp only [Engine.perform, htake]
  exact ⟨_, rfl, holds⟩

/-- The stack is cut back behind an error, and an error token put ahead. -/
theorem Leads.recover {depth : Nat} (computes : e.actions.Computes token production)
    (takes : o.Takes e.table state .error) (ahead : o.ahead = some bare) (own : o.held = none)
    (begun : o.recovering ≠ e.quietCount) (nearest : o.depth? e.table = some depth)
    (lower : bare.1 = SymbolId.endOfInput → o.endHeight = none)
    (next : (o.resumed e.quietCount depth bare).Leads e n Q) : o.Leads e (n + 1) Q := by
  refine next.step takes fun c h => ?_
  obtain ⟨t, c₁, hsettle, rfl, hfits⟩ := h.settle computes ahead own begun nearest state
  show ∃ c', e.recover state c = _ ∧ _
  rw [Engine.recover_eq, hsettle, h.depth.trans nearest]
  exact hfits.retry depth lower state

/-- A token that does not fit behind an error is thrown away, and the recovery made again for the next
one. -/
theorem Leads.discard {depth : Nat} {coming : SymbolId × String} {rest : List (SymbolId × String)}
    (takes : o.Takes e.table state .error) (ahead : o.ahead = some bare) (own : o.held = none)
    (full : o.recovering = e.quietCount) (input : bare.1 ≠ SymbolId.endOfInput)
    (next : o.rest = coming :: rest) (nearest : o.depth? e.table = some depth)
    (lower : o.endHeight = none)
    (leads : (resumed e.quietCount depth coming { o with rest }).Leads e n Q) :
    o.Leads e (n + 1) Q := by
  refine leads.step takes fun c h => ?_
  obtain ⟨t, c₁, hsettle, rfl, hfits⟩ := h.settleDiscarding ahead own full input next state
  show ∃ c', e.recover state c = _ ∧ _
  rw [Engine.recover_eq, hsettle, h.depth.trans nearest]
  exact hfits.retry depth (fun _ => lower) state

/-- The end of the input does not fit behind an error. -/
theorem leads_of_halt (computes : e.actions.Computes token production)
    (takes : o.Takes e.table state .error) (ahead : o.ahead = some bare) (own : o.held = none)
    (full : o.recovering = e.quietCount) (ends : bare.1 = SymbolId.endOfInput)
    (holds : ∀ info, Q (.failed (.syntactic info))) : o.Leads e (n + 1) Q := by
  refine leads_of_stop takes fun c h => ?_
  obtain ⟨t, c₁, htaken, rfl, hfits⟩ := h.takeOffending ahead own
  have hend : t.symbol = SymbolId.endOfInput := ends
  obtain ⟨info, hstop⟩ := halt_stop computes .haltedRecovering rfl state t c₁
  refine ⟨e.halt .haltedRecovering state t c₁, ?_, hstop ▸ holds info⟩
  show e.recover state c = _
  rw [Engine.recover_eq, Engine.settle_discards state htaken (hfits.recovering.trans full),
    Engine.discardToken, if_pos hend]
  rfl

end Outline

end

end ShiftReduce
