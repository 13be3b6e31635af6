import ShiftReduce.Proofs.Grammar.Coherent
import ShiftReduce.Proofs.Parser.Bound

/-!
# Internal faults

A parse ends by an internal fault where its table does not fit it (`Misfits`), where the lexer made no
progress, or where a verdict on an error is one. A built table leaves only some of the misfits, and a
coherent one leaves none, provided that the tokens of the lexer are terminals
(`Engine.coherent_tables_fit`): the stack is a walk through the automaton, so every reduction finds its
right-hand side and its goto, and no state lies outside of the table.

The steps, in the order of the module:

* which ends are no internal faults (`Halt.Regular`), and which functions of the engine end a parse
  by no others;
* the lexer's faults: they come where a parse asks for a token (`Engine.Asks`);
* the table's faults: one misfit for each of them (`Engine.Misfits`), some of which the building of
  tables rules out (`InternalFault.ruledOut`);
* coherent tables have no misfits (`Engine.Misfits.elim`), and runs end as their last step does
  (`Engine.run_internal`).
-/

namespace ShiftReduce

section
variable {σ V ε : Type} {e : Engine σ V ε} {s s' : Session σ V} {c c' : Config σ V}

/-- Only an empty stack has no state on top. -/
theorem Stack.topState?_eq_none {stack : Stack V} : stack.topState? = none ↔ stack = [] := by
  unfold Stack.topState?
  rw [Option.map_eq_none_iff, List.head?_eq_none_iff]

/-- A stack from which no value can be taken has no state on top. -/
theorem Stack.topState?_of_takeTop? [Inhabited V] {stack rest : Stack V}
    (h : stack.takeTop? = (none, rest)) : stack.topState? = none := by
  cases stack with
  | nil => rfl
  | cons slot below => cases h

/-- The states of a path are a walk through the automaton. -/
theorem IsPath.walk {table : Table} {stack : Stack V} (h : IsPath table stack) :
    table.Walk (stack.map (·.state)) := by
  induction h with
  | bottom => exact .start
  | @enter slot below _ _ hedge ih =>
    have henters : (table.action below.state slot.symbol).target? = some slot.state := by
      rcases hedge with hshift | hgoto
      · rw [hshift]; rfl
      · rw [hgoto]; rfl
    exact ih.go henters

/-- The states of a path are a walk that ends in the state on top. -/
theorem IsPath.walk_of_topState {table : Table} {stack : Stack V} {state : StateId}
    (h : IsPath table stack) (top : stack.topState? = some state) :
    ∃ below, stack.map (·.state) = state :: below ∧ table.Walk (state :: below) := by
  have hwalk := h.walk
  cases stack with
  | nil => cases top
  | cons slot below => cases top; exact ⟨_, rfl, hwalk⟩

/-- Whether the building of tables rules a fault out, so that no parse over a built table ends by
it. -/
def InternalFault.ruledOut : InternalFault → Bool
  | .emptyStack | .shiftWithoutLookahead | .errorWithoutLookahead | .acceptOnEmptyStack
  | .unknownProduction _ => true
  | _ => false

/-- The parse after a token was thrown away, before the next one is fetched. Reference:
`Parser::recover`. -/
def Config.discarding (c : Config σ V) (token : Token) : Config σ V :=
  c.update fun session =>
    ({ session with record := session.record.discard token }.count fun stats =>
      { stats with discarded := stats.discarded + 1 }).note (.discarded token)

/-- An end of a parse that is not an internal fault. Reference: `ParseError::Internal`. -/
def Halt.Regular (halt : Halt σ V ε) : Prop := ∀ fault, halt.stop ≠ .failed (.internal fault)

namespace Engine

/-- The verdicts of the actions on errors are not internal faults: an action could raise one of its
own. -/
def Loyal (e : Engine σ V ε) : Prop :=
  ∀ info user fault, (e.actions.judge info user).1 ≠ some (.raise (.internal fault))

/-! ## Ends that are not faults -/

/-- The verdict on an error is not an internal fault. Reference: `ParserDriver::parse_error`. -/
theorem judge_ne_internal (loyal : e.Loyal) (info : ErrorInfo V) (s : Session σ V)
    (fault : InternalFault) : (e.judge info s).1 ≠ .raise (.internal fault) := by
  intro hraise
  unfold judge at hraise
  dsimp only at hraise
  split at hraise
  · next verdict user heq =>
    have hverdict : verdict = .raise (.internal fault) := hraise
    rw [hverdict] at heq
    exact loyal _ _ _ (congrArg (·.1) heq)
  · unfold standardVerdict ParseError.ofInfo at hraise
    split at hraise
    · cases hraise
    · split at hraise <;> cases hraise

/-- The answer to a lexer that is stuck is not an internal fault. Reference: `Routed::lex_error`. -/
theorem answerStuck_ne_internal (loyal : e.Loyal) (info : Unrecognized) (s : Session σ V)
    (fault : InternalFault) : (e.answerStuck info s).1 ≠ .error (.failed (.internal fault)) := by
  intro hinternal
  unfold answerStuck at hinternal
  dsimp only at hinternal
  split at hinternal
  · split at hinternal <;> cases hinternal
  · cases hinternal
  · next heq =>
    cases hinternal
    exact judge_ne_internal loyal _ _ fault (congrArg (·.1) heq)

/-- A report that no recovery follows is not an internal fault. Reference: `Parser::halt`. -/
theorem halt_regular (loyal : e.Loyal) (cause : ErrorCause) (state : StateId) (token : Token)
    (c : Config σ V) : (e.halt cause state token c).Regular := by
  intro fault hstop
  unfold halt at hstop
  dsimp only at hstop
  split at hstop
  · cases hstop
  · cases hstop
  · next heq =>
    cases hstop
    exact judge_ne_internal loyal _ _ fault (congrArg (·.1) heq)

/-- A report of an unexpected token does not end a parse by an internal fault. Reference:
`Parser::recover`. -/
theorem reportToken_regular (loyal : e.Loyal) {state : StateId} {depth : Option Nat} {token : Token}
    {halt : Halt σ V ε} (h : e.reportToken state depth token c = .error halt) : halt.Regular := by
  intro fault hstop
  unfold reportToken at h
  split at h
  · cases h
  · dsimp only at h
    split at h
    · cases h; cases hstop
    · next heq =>
      cases h
      cases hstop
      exact judge_ne_internal loyal _ _ fault (congrArg (·.1) heq)
    · split at h
      · cases h; cases hstop
      · cases h

/-- The second half of a recovery does not end a parse by an internal fault. Reference: the second
half of `Parser::recover`. -/
theorem retry_regular (loyal : e.Loyal) {state : StateId} {depth : Option Nat} {token : Token}
    {halt : Halt σ V ε} (h : e.retry state depth token c = .error halt) : halt.Regular := by
  unfold retry at h
  split at h
  · cases h; exact halt_regular loyal _ _ _ _
  · next depth =>
    simp only [bind, Except.bind, pure, Except.pure] at h
    split at h
    · next heq =>
      cases h
      rw [checkHeight_error heq]
      exact halt_regular loyal _ _ _ _
    · cases h

/-! ## Faults of the lexer -/

/-- A search for a token ends by an internal fault only where a rule of the lexer makes no progress.
Reference: `Parser::fetch`. -/
theorem fetch_internal (loyal : e.Loyal) {halt : Halt σ V ε} {fault : InternalFault}
    (h : e.fetch c = .error halt) (stop : halt.stop = .failed (.internal fault)) :
    ∃ rule offset, fault = .noProgress rule offset ∧
      e.lexerHost.Faults (.noProgress rule offset) := by
  have hend := e.lex_ends c
  unfold fetch at h
  split at h
  · cases h
  · next reason lexer session heq =>
    rw [heq] at hend
    cases h
    have hreason : reason = .failed (.internal fault) := stop
    subst hreason
    generalize hlexed : Lexed.failed (Stop.failed (ParseError.internal fault)) = lexed at hend
    cases hend with
    | token _ => cases hlexed
    | answered _ _ => cases hlexed
    | @faulty t reason _ hfaults =>
      cases reason with
      | action rule cause => cases hlexed
      | noProgress rule offset => cases hlexed; exact ⟨rule, offset, rfl, hfaults⟩
    | refused _ hstuck =>
      cases hlexed
      have hanswer := answerStuck_of_stuck hstuck
      exact absurd (congrArg (·.1) hanswer) (answerStuck_ne_internal loyal _ _ _)
    | exhausted _ => cases hlexed
  · cases h; cases stop

/-- The first half of a recovery ends a parse by an internal fault only where the lexer does, behind
a token thrown away. Reference: the first half of `Parser::recover`. -/
theorem settle_internal (loyal : e.Loyal) {state : StateId} {halt : Halt σ V ε}
    {fault : InternalFault} (chosen : Chooses e c.session state .error)
    (h : e.settle state c = .error halt) (stop : halt.stop = .failed (.internal fault)) :
    ∃ token c₁, takeOffending (ε := ε) c = .ok (token, c₁) ∧ c₁.session.recovering = e.quietCount ∧
      token.symbol ≠ SymbolId.endOfInput ∧ e.fetch (c₁.discarding token) = .error halt := by
  unfold settle at h
  cases htake : takeOffending c with
  | error halt => exact absurd htake (takeOffending_ne_error chosen)
  | ok r =>
    obtain ⟨token, c₁⟩ := r
    rw [htake] at h
    simp only [bind, Except.bind, pure, Except.pure] at h
    split at h
    · cases hreport : e.reportToken state (e.recoveryDepth? c₁.session.stack) token c₁ with
      | ok c₂ => rw [hreport] at h; cases h
      | error halt' =>
        rw [hreport] at h
        cases h
        exact absurd stop (reportToken_regular loyal hreport fault)
    · split at h
      · next hfull =>
        unfold discardToken at h
        split at h
        · cases h
          exact absurd stop (halt_regular loyal _ _ _ _ fault)
        · next hinput => exact ⟨token, c₁, rfl, hfull, hinput, h⟩
      · cases h

/-- A recovery ends a parse by an internal fault only where the lexer does. Reference:
`Parser::recover`. -/
theorem recover_internal (loyal : e.Loyal) {state : StateId} {halt : Halt σ V ε}
    {fault : InternalFault} (chosen : Chooses e c.session state .error)
    (h : e.recover state c = .error halt) (stop : halt.stop = .failed (.internal fault)) :
    ∃ token c₁, takeOffending (ε := ε) c = .ok (token, c₁) ∧ c₁.session.recovering = e.quietCount ∧
      token.symbol ≠ SymbolId.endOfInput ∧ e.fetch (c₁.discarding token) = .error halt := by
  rw [recover_eq] at h
  cases hsettle : e.settle state c with
  | error halt' =>
    rw [hsettle] at h
    cases h
    exact settle_internal loyal chosen hsettle stop
  | ok r =>
    rw [hsettle] at h
    exact absurd stop (retry_regular loyal h fault)

/-- Where the next step of a parse asks its lexer for a token: a state looks ahead, or a token is thrown
away and another one takes its place. -/
inductive Asks (e : Engine σ V ε) (c : Config σ V) : Config σ V → Prop
  | ahead {state : StateId} (top : c.session.stack.topState? = some state)
      (known : e.table.hasState state = true) (free : e.table.defaultReduction? state = none)
      (absent : c.session.lookahead = none) : Asks e c c
  | replacing {state : StateId} {token : Token} {c₁ c₂ : Config σ V}
      (top : c.session.stack.topState? = some state) (known : e.table.hasState state = true)
      (chosen : e.chooseAction state c = .ok (.error, c₁))
      (offending : takeOffending (ε := ε)
        (c₁.note (.atState c₁.session.stack c₁.session.lookahead)) = .ok (token, c₂))
      (full : c₂.session.recovering = e.quietCount) (input : token.symbol ≠ SymbolId.endOfInput) :
      Asks e c (c₂.discarding token)

/-- Where a parse asks its lexer for a token, in any of its steps. -/
def Asked [Inhabited V] (e : Engine σ V ε) (c c' : Config σ V) : Prop :=
  ∃ c₁, Steps e c c₁ ∧ Asks e c₁ c'

/-! ## Misfits -/

/-- How a table does not fit a session whose next action is due. -/
inductive Misfits (e : Engine σ V ε) (s : Session σ V) : InternalFault → Prop
  | emptyStack (empty : s.stack.topState? = none) : Misfits e s .emptyStack
  | unknownState {state : StateId} (top : s.stack.topState? = some state)
      (unknown : e.table.hasState state = false) : Misfits e s (.unknownState state)
  | ambiguous {state : StateId} {number : ConflictId} (chosen : Chooses e s state (.ambiguous number)) :
      Misfits e s (.ambiguous state (e.table.conflict number))
  | gotoOnLookahead {state target : StateId} (chosen : Chooses e s state (.goto target)) :
      Misfits e s (.gotoOnLookahead state)
  | unknownProduction {state : StateId} {number : ProductionId}
      (chosen : Chooses e s state (.reduce number))
      (unknown : e.table.production? number = none) : Misfits e s (.unknownProduction number)
  | stackTooLow {state : StateId} {number : ProductionId} {production : Production}
      (chosen : Chooses e s state (.reduce number))
      (found : e.table.production? number = some production)
      (low : s.stack.length ≤ production.length) :
      Misfits e s (.stackTooLow number production.length (s.stack.length - 1))
  | noGoto {state below : StateId} {number : ProductionId} {production : Production} {name : String}
      (chosen : Chooses e s state (.reduce number))
      (found : e.table.production? number = some production)
      (uncovered : Stack.topState? (s.stack.drop production.length) = some below)
      (missing : ∀ target, e.table.action below production.lhs ≠ .goto target) :
      Misfits e s (.noGoto name below (e.table.action below production.lhs))

section
variable [Inhabited V]

/-- A reduction ends a parse by an internal fault only where the table does not fit. There are three
such misfits: a production that the table does not have, a stack that is too low for it, and a state
below it without a goto. Reference: `Parser::reduce`. -/
theorem reduce_internal {state : StateId} {number : ProductionId} {halt : Halt σ V ε}
    {fault : InternalFault} (chosen : Chooses e c.session state (.reduce number))
    (h : e.reduce number c = .error halt) (stop : halt.stop = .failed (.internal fault)) :
    Misfits e c.session fault := by
  unfold reduce at h
  split at h
  · next hunknown => cases h; cases stop; exact .unknownProduction chosen hunknown
  · next production hfound =>
    dsimp only at h
    split at h
    · next hlow => cases h; cases stop; exact .stackTooLow chosen hfound hlow
    · next henough =>
      split at h
      · cases h; cases stop
      · next yield user hcalled =>
        unfold goto at h
        split at h
        · next hempty =>
          -- What is left of a stack that is higher than the right-hand side is not empty.
          have hnil : c.session.stack.drop production.length = [] := by
            cases hremark : yield.remark <;> rw [hremark] at hempty <;>
              exact Stack.topState?_eq_none.mp hempty
          exact absurd (List.drop_eq_nil_iff.mp hnil) henough
        · next below hbelow =>
          have huncovered : Stack.topState? (c.session.stack.drop production.length) = some below := by
            cases hremark : yield.remark <;> rw [hremark] at hbelow <;> exact hbelow
          split at h
          · cases h
          · next hmissing => cases h; cases stop; exact .noGoto chosen hfound huncovered hmissing

/-- A step ends a parse by an internal fault where the lexer does, or where the table does not fit
the session in which the step acts. Reference: one round of `Parser::run`. -/
theorem step_internal (loyal : e.Loyal) {halt : Halt σ V ε} {fault : InternalFault}
    (h : e.step c = .error halt) (stop : halt.stop = .failed (.internal fault)) :
    (∃ c', Asks e c c' ∧ e.fetch c' = .error halt) ∨
      ∃ s, Arrives e c.session s ∧ Misfits e s fault ∧
        fetchedTokens (landmarks halt.config.session.journal) = fetchedTokens (landmarks s.journal) := by
  unfold step at h
  split at h
  · next hempty => cases h; cases stop; exact .inr ⟨_, .here rfl, .emptyStack hempty, rfl⟩
  · next state htop =>
    split at h
    · next hknown =>
      cases hchoose : e.chooseAction state c with
      | error halt' =>
        rw [hchoose] at h
        cases h
        obtain ⟨habsent, hfree, hfetch⟩ := chooseAction_error hchoose
        exact .inl ⟨c, .ahead htop hknown hfree habsent, hfetch⟩
      | ok r =>
        obtain ⟨action, c₁⟩ := r
        rw [hchoose] at h
        simp only [bind, Except.bind] at h
        obtain ⟨hchoice, hchosen⟩ := chooseAction_ok htop hknown hchoose
        have hchosen := hchosen.note (.atState c₁.session.stack c₁.session.lookahead)
        have harrives : Arrives e c.session
            (c₁.note (.atState c₁.session.stack c₁.session.lookahead)).session :=
          (arrives_of_choice hchoice).note rfl
        cases action with
        | shift target => exact absurd h (shift_ne_error (hchosen.note _))
        | reduce number =>
          obtain ⟨hends, -⟩ := reduce_error (hchosen.note _) h
          have hmisfits := reduce_internal (hchosen.note _) h stop
          exact .inr ⟨_, harrives.note rfl, hmisfits, hends.fetchedTokens⟩
        | accept =>
          unfold perform at h
          dsimp only at h
          split at h
          · cases h; cases stop
          · next hempty =>
            have htop := hchosen.top
            have hnone := Stack.topState?_of_takeTop? hempty
            exact absurd (htop.symm.trans hnone) nofun
        | error =>
          obtain ⟨token, c₂, htake, hfull, hinput, hfetch⟩ := recover_internal loyal hchosen h stop
          exact .inl ⟨_, .replacing htop hknown hchoose htake hfull hinput, hfetch⟩
        | ambiguous number => cases h; cases stop; exact .inr ⟨_, harrives, .ambiguous hchosen, rfl⟩
        | goto target => cases h; cases stop; exact .inr ⟨_, harrives, .gotoOnLookahead hchosen, rfl⟩
    · next hunknown =>
      cases h
      cases stop
      exact .inr ⟨_, .here rfl, .unknownState htop (Bool.not_eq_true _ ▸ hunknown), rfl⟩

end

/-! ## Tables that fit -/

/-- A reduction that is chosen is one of its state. -/
theorem Chooses.reduces {state : StateId} {action : Action} {number : ProductionId}
    (h : Chooses e s state action) (reduction : action = .reduce number) :
    e.table.Reduces state number := by
  cases h with
  | byDefault _ _ hdefault => cases reduction; exact .inr hdefault
  | byToken _ _ _ _ => exact .inl ⟨_, reduction⟩

/-- A token ahead that is not an error token has the symbol of one that was fetched. -/
theorem symbol_of_lookahead {token : Token} (path : s.OnPath e.table) (accounted : s.Accounted)
    (ahead : s.lookahead = some token) : token.symbol = SymbolId.error ∨
      ∃ fetched ∈ fetchedTokens (landmarks s.journal), fetched.symbol = token.symbol := by
  cases hheld : s.held with
  | some held =>
    obtain ⟨-, token', hmem, hsymbol⟩ := path.held held hheld
    rw [ahead] at hmem
    cases hmem
    exact .inl hsymbol
  | none =>
    have haccount := accounted.account
    unfold Session.pending at haccount
    rw [hheld, ahead] at haccount
    generalize fetchedTokens (landmarks s.journal) = fetched at haccount
    cases haccount with
    | cons _ hdelivers =>
      refine .inr ⟨_, List.mem_cons_self, ?_⟩
      cases hdelivers <;> rfl

/-- A misfit of a built table is none of those that it rules out. -/
theorem Misfits.not_ruledOut {declarations : List Declaration} {fault : InternalFault}
    (h : Misfits e s fault) (built : Table.build declarations = .ok e.table)
    (path : s.OnPath e.table) : fault.ruledOut = false := by
  cases h with
  | emptyStack hempty =>
    obtain ⟨state, htop⟩ := path.path.topState
    exact absurd (htop.symm.trans hempty) nofun
  | unknownProduction hchosen hunknown =>
    obtain ⟨production, hfound⟩ := Table.build_production built (hchosen.reduces rfl)
    exact absurd (hfound.symm.trans hunknown) nofun
  | unknownState _ _ => rfl
  | ambiguous _ => rfl
  | gotoOnLookahead _ => rfl
  | stackTooLow _ _ _ => rfl
  | noGoto _ _ _ _ => rfl

/-- A token ahead is a terminal, if all that were fetched are. -/
theorem isTerminal_of_lookahead {declarations : List Declaration} {token : Token}
    (built : Table.build declarations = .ok e.table) (path : s.OnPath e.table)
    (accounted : s.Accounted)
    (terminals : ∀ token ∈ fetchedTokens (landmarks s.journal),
      e.table.isTerminal token.symbol = true)
    (ahead : s.lookahead = some token) : e.table.isTerminal token.symbol = true := by
  rcases symbol_of_lookahead path accounted ahead with herror | ⟨fetched, hmem, hsymbol⟩
  · rw [herror]
    exact Table.build_error built
  · rw [← hsymbol]
    exact terminals fetched hmem

/-- A coherent table fits every session whose tokens are terminals. The stack is a walk through the
automaton from its start, so a state on top is one of the table, and a reduction finds its children
on the walk and a goto below them. -/
theorem Misfits.elim {declarations : List Declaration} {fault : InternalFault}
    (h : Misfits e s fault) (built : Table.build declarations = .ok e.table)
    (coherent : e.table.Coherent) (path : s.OnPath e.table) (accounted : s.Accounted)
    (terminals : ∀ token ∈ fetchedTokens (landmarks s.journal),
      e.table.isTerminal token.symbol = true) : False := by
  have hopen : fault.ruledOut = false := h.not_ruledOut built path
  have hcarries : ∀ {state : StateId} {number : ProductionId} {production : Production},
      Chooses e s state (.reduce number) → e.table.production? number = some production →
        e.table.Carries (s.stack.map (·.state)) production := by
    intro state number production hchosen hfound
    obtain ⟨below, hstates, hwalk⟩ := path.path.walk_of_topState hchosen.top
    rw [hstates]
    exact coherent.reducible _ _ _ _ hwalk (hchosen.reduces rfl) hfound
  cases h with
  | emptyStack _ => cases hopen
  | unknownProduction _ _ => cases hopen
  | unknownState htop hunknown =>
    obtain ⟨below, -, hwalk⟩ := path.path.walk_of_topState htop
    exact absurd (coherent.hasState hwalk) (by rw [hunknown]; nofun)
  | ambiguous hchosen =>
    obtain ⟨token, -, hentry⟩ := hchosen.token nofun
    exact coherent.decided _ _ _ hentry
  | gotoOnLookahead hchosen =>
    obtain ⟨token, hahead, hentry⟩ := hchosen.token nofun
    have hnonterminal := Table.build_goto built hentry
    have hterminal := isTerminal_of_lookahead built path accounted terminals hahead
    exact absurd (hterminal.symm.trans hnonterminal) nofun
  | stackTooLow hchosen hfound hlow =>
    have hlength := (hcarries hchosen hfound).length_lt
    rw [List.length_map] at hlength
    exact absurd hlength (Nat.not_lt.mpr hlow)
  | noGoto hchosen hfound huncovered hmissing =>
    obtain ⟨source, target, hsource, hgoto⟩ := hcarries hchosen hfound
    unfold Stack.topState? at huncovered
    rw [List.getElem?_map] at hsource
    rw [List.head?_drop] at huncovered
    have heq := Option.some.inj (huncovered.symm.trans hsource)
    rw [heq] at hmissing
    exact hmissing target hgoto

/-! ## Parses -/

variable [Inhabited V]

/-- A run that ends by an internal fault does so in its last step. Reference: `Parser::run`. -/
theorem run_internal {fuel : Nat} {fault : InternalFault}
    (h : (e.run fuel c).stop = .failed (.internal fault)) :
    ∃ c', Steps e c c' ∧ e.step c' = .error (e.run fuel c) := by
  obtain ⟨c', hsteps, hend⟩ := e.run_cases fuel c
  refine ⟨c', hsteps, ?_⟩
  rcases hend with hexhausted | hstep
  · rw [hexhausted] at h; cases h
  · exact hstep

/-- What ends a parse by an internal fault: its lexer does, where the parse asks for a token, or the
table does not fit a session that is on a path and accounts for its tokens. Reference:
`Parser::parse`. -/
theorem parse_internal (loyal : e.Loyal) {fuel : Nat} {input : String} {fault : InternalFault}
    (h : (e.parse fuel input c).1 = .failed (.internal fault)) :
    (∃ c' halt, e.Asked (c.reset input) c' ∧ e.fetch c' = .error halt ∧
      halt.stop = .failed (.internal fault)) ∨
    ∃ s, s.OnPath e.table ∧ s.Accounted ∧ Misfits e s fault ∧
      fetchedTokens (landmarks s.journal) =
        fetchedTokens (e.parse fuel input c).2.session.journal := by
  have hstop : (e.run fuel (c.reset input)).stop = .failed (.internal fault) := by
    unfold parse Outcome.ofStop at h
    dsimp only at h
    split at h <;> cases h
    assumption
  obtain ⟨c', hsteps, hstep⟩ := run_internal hstop
  rcases step_internal loyal hstep hstop with ⟨c₁, hasks, hfetch⟩ | ⟨s, harrives, hmisfits, hsame⟩
  · exact .inl ⟨c₁, _, ⟨c', hsteps, hasks⟩, hfetch, hstop⟩
  · have hmoves := hsteps.moves.trans harrives.moves
    have hstart : (c.reset input).session.OnPath e.table := onPath_reset c input
    have haccounted := Moves.keeps Move.accounted hmoves hstart (accounted_reset c input).1
    refine .inr ⟨s, Moves.onPath hmoves hstart, haccounted, hmisfits, ?_⟩
    rw [← hsame, fetchedTokens_landmarks]
    rfl

/-- A parse over a built table whose verdicts are not internal faults ends by none that the building
of tables rules out. If the table is coherent, all tokens of the lexer are terminals and the lexer
makes progress wherever the parse asks it for a token, then the parse ends by no internal fault at
all. Reference: `ParseError::Internal`. -/
theorem coherent_tables_fit {declarations : List Declaration}
    (built : Table.build declarations = .ok e.table) (loyal : e.Loyal) (fuel : Nat) (input : String)
    (c : Config σ V) :
    (∀ fault, (e.parse fuel input c).1 = .failed (.internal fault) → fault.ruledOut = false) ∧
    (e.table.Coherent →
      (∀ token ∈ fetchedTokens (e.parse fuel input c).2.session.journal,
        e.table.isTerminal token.symbol = true) →
      (∀ c' halt rule offset, e.Asked (c.reset input) c' → e.fetch c' = .error halt →
        halt.stop ≠ .failed (.internal (.noProgress rule offset))) →
      ∀ fault, (e.parse fuel input c).1 ≠ .failed (.internal fault)) := by
  refine ⟨?_, ?_⟩
  · intro fault hparse
    rcases parse_internal loyal hparse with
      ⟨c', halt, -, hfetch, hstop⟩ | ⟨s, hpath, -, hmisfits, -⟩
    · obtain ⟨rule, offset, rfl, -⟩ := fetch_internal loyal hfetch hstop
      rfl
    · exact hmisfits.not_ruledOut built hpath
  · intro coherent terminals progress fault hparse
    rcases parse_internal loyal hparse with
      ⟨c', halt, hasked, hfetch, hstop⟩ | ⟨s, hpath, haccounted, hmisfits, hsame⟩
    · obtain ⟨rule, offset, rfl, -⟩ := fetch_internal loyal hfetch hstop
      exact progress c' halt rule offset hasked hfetch hstop
    · exact hmisfits.elim built coherent hpath haccounted (hsame ▸ terminals)

end Engine

end

/-! ## A coherent automaton -/

namespace Calculator

/-- The calculator's automaton has no cycles, and its table is coherent. -/
theorem coherent_table : tolerant.table.Coherent := by
  have hwalks : tolerant.table.coherentAlong
      [[0], [1, 0], [2, 1, 0], [3, 1, 0], [4, 1, 0], [5, 1, 0], [6, 2, 1, 0], [7, 5, 1, 0],
        [8, 5, 1, 0], [9, 5, 1, 0], [10, 8, 5, 1, 0], [11, 9, 5, 1, 0]] = true := by
    decide +kernel
  exact Table.coherent_of_walks hwalks

/-- The engine of a calculator that takes blanks and comments for errors. -/
def strictEngine : Engine Context Value Fault :=
  { tolerant.engine 16 with
    actions := { actions with
      rule rule lexer context :=
        match ruleAction rule lexer context with
        | (.ok none, lexer, context) => (.ok (some SymbolId.error), lexer, context)
        | answer => answer } }

/-- A rule that skips nothing makes progress. -/
theorem strictEngine_progress (rule : RuleId) (lexer : Lexer) (s : Session Context Value) :
    (strictEngine.lexerHost.action rule lexer s).1 ≠ .ok none := by
  intro hskips
  have hrule : (strictEngine.actions.rule rule lexer s.user).1 = .ok none := hskips
  unfold strictEngine at hrule
  dsimp only at hrule
  split at hrule
  · cases hrule
  · next hanswer => exact hanswer _ _ (Prod.ext hrule rfl)

/-- Four lines of which three have errors: the calculator's table is coherent, all tokens are terminals
and no rule skips its match, so no internal fault ends the parse, over all its eight recoveries. -/
theorem no_fault_in_four_lines :
    let parsed := strictEngine.parse 500 "1+; 2;+3 4;5-6;" tolerant.config
    Table.build declarations = .ok strictEngine.table ∧ strictEngine.Loyal ∧
    strictEngine.table.Coherent ∧
    (∀ token ∈ fetchedTokens parsed.2.session.journal,
      strictEngine.table.isTerminal token.symbol = true) ∧
    (recoveries parsed.2.session.journal).length = 8 ∧
    (∀ fault, parsed.1 = .failed (.internal fault) → fault.ruledOut = false) ∧
    ∀ fault, parsed.1 ≠ .failed (.internal fault) := by
  have hbuilt : Table.build declarations = .ok strictEngine.table := build_table new_tolerant
  have hloyal : strictEngine.Loyal := fun _ _ _ => nofun
  have hterminals : ∀ token ∈
      fetchedTokens (strictEngine.parse 500 "1+; 2;+3 4;5-6;" tolerant.config).2.session.journal,
      strictEngine.table.isTerminal token.symbol = true := by
    decide +kernel
  obtain ⟨hruled, hfits⟩ :=
    Engine.coherent_tables_fit hbuilt hloyal 500 "1+; 2;+3 4;5-6;" tolerant.config
  refine ⟨hbuilt, hloyal, coherent_table, hterminals, by decide +kernel, hruled, ?_⟩
  refine hfits coherent_table hterminals ?_
  intro c halt rule offset _ hfetch hstop
  obtain ⟨_, _, hsame, hfaults⟩ := Engine.fetch_internal hloyal hfetch hstop
  cases hsame
  cases hfaults with
  | idle hskips => exact strictEngine_progress _ _ _ hskips

end Calculator

end ShiftReduce
