import ShiftReduce.Parser.Engine
import ShiftReduce.Proofs.Lexer.Counts
import ShiftReduce.Proofs.Parser.Recovery

/-!
# Views of a parse

Two parses that differ in the state of their actions, and in what was counted before, may do the same:
the second one has a view of the first one's state, and counts on from earlier counts (`View`). If its
actions follow those of the first one (`Actions.Follows`), each function of the engine gives the view of
what it gives for the first parse; so the view of a parse is a parse (`Engine.parse_under`).
-/

namespace ShiftReduce

/-- Counts that go on from earlier ones. -/
instance : Add ParserStats where
  add base stats :=
    ⟨base.tokens + stats.tokens, base.shifts + stats.shifts, base.reductions + stats.reductions,
      base.errors + stats.errors, base.recoveries + stats.recoveries, base.discarded + stats.discarded⟩

/-- Counts that go on from nothing are what they are. -/
theorem ParserStats.zero_add (stats : ParserStats) : ({} : ParserStats) + stats = stats := by
  show ParserStats.mk (0 + _) (0 + _) (0 + _) (0 + _) (0 + _) (0 + _) = _
  simp only [Nat.zero_add]

/-- How a parse is seen: what is seen of the state of its actions, and the counts of its lexer and its
own that it goes on from. -/
structure View (σ σ' : Type) where
  user : σ → σ'
  lexed : LexerStats := {}
  parsed : ParserStats := {}

section
variable {σ σ' V ε α β : Type}

/-- A session as it is seen: its user's state through the view, its counts behind earlier ones, all
else as it is. -/
def Session.under (s : Session σ V) (v : View σ σ') : Session σ' V :=
  { user := v.user s.user
    stack := s.stack
    record := s.record
    lookahead := s.lookahead
    held := s.held
    consumed := s.consumed
    recovering := s.recovering
    endHeight := s.endHeight
    stats := v.parsed + s.stats
    journal := s.journal }

/-- A parse as it is seen, its lexer counting from earlier counts as well. -/
def Config.under (c : Config σ V) (v : View σ σ') : Config σ' V :=
  ⟨c.lexer.countedFrom v.lexed, c.session.under v⟩

/-- The end of a parse as it is seen; a view does not change how it ends. -/
def Halt.under (halt : Halt σ V ε) (v : View σ σ') : Halt σ' V ε := ⟨halt.stop, halt.config.under v⟩

/-- Actions that do, for the view of a state, what others do for the state. -/
structure Actions.Follows (actions' : Actions σ' V ε) (actions : Actions σ V ε) (v : View σ σ') :
    Prop where
  rule : ∀ rule lexer user, actions'.rule rule (lexer.countedFrom v.lexed) (v.user user) =
    Lexer.outcomeFrom v.lexed v.user (actions.rule rule lexer user)
  tokenValue : ∀ token user,
    actions'.tokenValue token (v.user user) = Prod.map id v.user (actions.tokenValue token user)
  reduce : ∀ reduction user,
    actions'.reduce reduction (v.user user) = Prod.map id v.user (actions.reduce reduction user)
  judge : ∀ info user,
    actions'.judge info (v.user user) = Prod.map id v.user (actions.judge info user)

namespace Engine

/-- The engine with other actions, over the same table. -/
def withActions (e : Engine σ V ε) (actions : Actions σ' V ε) : Engine σ' V ε :=
  ⟨e.table, actions, e.discardCount, e.scanLimit⟩

/-- The result of a computation as it is seen, where `g` says how a success is. -/
def resultUnder (v : View σ σ') (g : α → β) : Except (Halt σ V ε) α → Except (Halt σ' V ε) β
  | .ok a => .ok (g a)
  | .error halt => .error (halt.under v)

/-- Computations one after the other are seen one after the other. -/
theorem bind_resultUnder {γ δ : Type} {v : View σ σ'} {g : α → β} {g' : γ → δ}
    (x : Except (Halt σ V ε) α) {f : α → Except (Halt σ V ε) γ} {f' : β → Except (Halt σ' V ε) δ}
    (h : ∀ a, f' (g a) = resultUnder v g' (f a)) :
    resultUnder v g x >>= f' = resultUnder v g' (x >>= f) := by
  cases x with
  | ok a => exact h a
  | error halt => rfl

section
variable {e : Engine σ V ε} {actions' : Actions σ' V ε} {v : View σ σ'}

@[simp] theorem withActions_table : (e.withActions actions').table = e.table := rfl

@[simp] theorem withActions_actions : (e.withActions actions').actions = actions' := rfl

@[simp] theorem user_under (c : Config σ V) : (c.under v).session.user = v.user c.session.user := rfl

@[simp] theorem stack_under (c : Config σ V) : (c.under v).session.stack = c.session.stack := rfl

@[simp] theorem lookahead_under (c : Config σ V) :
    (c.under v).session.lookahead = c.session.lookahead := rfl

@[simp] theorem held_under (c : Config σ V) : (c.under v).session.held = c.session.held := rfl

@[simp] theorem recovering_under (c : Config σ V) :
    (c.under v).session.recovering = c.session.recovering := rfl

@[simp] theorem endHeight_under (c : Config σ V) :
    (c.under v).session.endHeight = c.session.endHeight := rfl

/-! ## Errors and tokens -/

/-- A verdict is the same for the view. -/
theorem judge_under (h : actions'.Follows e.actions v) (info : ErrorInfo V) (s : Session σ V) :
    (e.withActions actions').judge info (s.under v) = Prod.map id (·.under v) (e.judge info s) := by
  unfold judge
  dsimp only [withActions, Session.note, Session.under]
  rw [h.judge]
  generalize e.actions.judge info s.user = judged
  obtain ⟨_ | verdict, user⟩ := judged
  · cases info.recoverable <;> rfl
  · rfl

/-- A lexer that is stuck gets the same answer for the view. -/
theorem answerStuck_under (h : actions'.Follows e.actions v) (info : Unrecognized)
    (s : Session σ V) :
    (e.withActions actions').answerStuck info (s.under v) =
      Prod.map id (·.under v) (e.answerStuck info s) := by
  have hjudge : (e.withActions actions').judge
      (.ofUnrecognized (e.withActions actions').table (s.under v).stack info)
      ((s.under v).count fun stats => { stats with errors := stats.errors + 1 }) = _ :=
    judge_under h (.ofUnrecognized e.table s.stack info)
      (s.count fun stats => { stats with errors := stats.errors + 1 })
  unfold answerStuck
  dsimp only
  rw [hjudge]
  generalize e.judge (.ofUnrecognized e.table s.stack info) _ = judged
  obtain ⟨_ | value | error, s'⟩ := judged <;> rfl

/-- The host of the lexer does the same for the view. -/
theorem lexerHost_follows (h : actions'.Follows e.actions v) :
    (e.withActions actions').lexerHost.Follows e.lexerHost v.lexed (·.under v) where
  action rule lexer s := by
    have hrule : (e.withActions actions').actions.rule rule (lexer.countedFrom v.lexed)
        (s.under v).user = _ := h.rule rule lexer s.user
    rw [lexerHost_action, lexerHost_action, hrule]
    rfl
  stuck info lexer s := by
    rw [lexerHost_stuck, lexerHost_stuck, answerStuck_under h]
    rfl
  fail fault := rfl
  note event s := rfl

/-- The same token is fetched for the view. -/
theorem fetch_under (h : actions'.Follows e.actions v) (c : Config σ V) :
    (e.withActions actions').fetch (c.under v) =
      resultUnder v (Prod.map id (·.under v)) (e.fetch c) := by
  have hlex : (c.under v).lexer.lex (e.withActions actions').lexerHost
      (e.withActions actions').scanLimit (c.under v).session = _ :=
    Lexer.lex_countedFrom (lexerHost_follows h) e.scanLimit c.lexer c.session
  unfold fetch
  rw [hlex]
  generalize c.lexer.lex e.lexerHost e.scanLimit c.session = lexed
  obtain ⟨_ | _ | _, lexer, s⟩ := lexed <;> rfl

/-! ## Actions of the automaton -/

/-- The same action is chosen for the view. -/
theorem chooseAction_under (h : actions'.Follows e.actions v) (state : StateId) (c : Config σ V) :
    (e.withActions actions').chooseAction state (c.under v) =
      resultUnder v (Prod.map id (·.under v)) (e.chooseAction state c) := by
  simp only [chooseAction, fetch_under h, withActions_table, lookahead_under]
  cases e.table.defaultReduction? state with
  | some production => rfl
  | none =>
    cases c.session.lookahead with
    | some token => rfl
    | none => exact bind_resultUnder _ fun _ => rfl

variable (actions') in
/-- What follows a shift is the same for the view. -/
theorem afterShift_under (lexed : Bool) (token : Token) (s : Session σ V) :
    (e.withActions actions').afterShift lexed token (s.under v) =
      (e.afterShift lexed token s).under v := by
  unfold afterShift
  cases lexed with
  | true => rfl
  | false =>
    show (if s.recovering = 1 then _ else _) = _
    dsimp only
    split <;> rfl

/-- A shift is the same for the view. -/
theorem shift_under (h : actions'.Follows e.actions v) (target : StateId) (c : Config σ V) :
    (e.withActions actions').shift target (c.under v) =
      resultUnder v (·.under v) (e.shift target c) := by
  simp only [shift, lookahead_under, held_under, withActions_actions, user_under, h.tokenValue]
  cases c.session.lookahead with
  | none => rfl
  | some token =>
    refine congrArg Except.ok (congrArg (Config.mk _) ?_)
    split
    · rfl
    · refine Eq.trans ?_ (afterShift_under actions' _ _ _)
      rfl

variable (actions') in
/-- The state below a reduction is the same for the view. -/
theorem goto_under (lhs : SymbolId) (value : V) (location : Location) (c : Config σ V) :
    (e.withActions actions').goto lhs value location (c.under v) =
      resultUnder v (·.under v) (e.goto lhs value location c) := by
  simp only [goto, stack_under, withActions_table]
  cases c.session.stack.topState? with
  | none => rfl
  | some state =>
    dsimp only
    generalize e.table.action state lhs = action
    cases action <;> rfl

/-- A reduction is the same for the view. -/
theorem reduce_under [Inhabited V] (h : actions'.Follows e.actions v) (number : ProductionId)
    (c : Config σ V) :
    (e.withActions actions').reduce number (c.under v) =
      resultUnder v (·.under v) (e.reduce number c) := by
  have hreduction : ∀ production, reductionOf (c.under v).session number production =
      reductionOf c.session number production := fun _ => rfl
  have huser : ∀ (c : Config σ V) event, (c.note event).session.user = c.session.user := fun _ _ => rfl
  have huser' : ∀ (c : Config σ' V) event, (c.note event).session.user = c.session.user := fun _ _ => rfl
  simp only [reduce, stack_under, withActions_table, withActions_actions, hreduction, huser, huser',
    user_under, h.reduce]
  cases e.table.production? number with
  | none => rfl
  | some production =>
    dsimp only
    split
    · rfl
    · generalize e.actions.reduce (reductionOf c.session number production) c.session.user = reduced
      obtain ⟨fault | yield, user⟩ := reduced
      · rfl
      · dsimp only [Prod.map, id]
        refine Eq.trans ?_ (goto_under actions' _ _ _ _)
        cases yield.remark <;> rfl

/-! ## Recovery -/

/-- An error that cannot be recovered from ends the view in the same way. -/
theorem halt_under (h : actions'.Follows e.actions v) (cause : ErrorCause) (state : StateId)
    (token : Token) (c : Config σ V) :
    (e.withActions actions').halt cause state token (c.under v) =
      (e.halt cause state token c).under v := by
  have hjudge : (e.withActions actions').judge
      (.ofToken (e.withActions actions').table (c.under v).session.stack cause false state token)
      (((c.under v).session.count fun stats => { stats with errors := stats.errors + 1 }).note
        (.halted (.ofToken (e.withActions actions').table (c.under v).session.stack cause false state
          token))) = _ :=
    judge_under h (.ofToken e.table c.session.stack cause false state token)
      ((c.session.count fun stats => { stats with errors := stats.errors + 1 }).note
        (.halted (.ofToken e.table c.session.stack cause false state token)))
  unfold halt
  dsimp only
  rw [hjudge]
  generalize e.judge (.ofToken e.table c.session.stack cause false state token) _ = judged
  obtain ⟨_ | value | error, s⟩ := judged <;> rfl

/-- An unexpected token is reported alike for the view. -/
theorem reportToken_under (h : actions'.Follows e.actions v) (state : StateId) (depth : Option Nat)
    (token : Token) (c : Config σ V) :
    (e.withActions actions').reportToken state depth token (c.under v) =
      resultUnder v (·.under v) (e.reportToken state depth token c) := by
  unfold reportToken
  by_cases hsymbol : token.symbol = SymbolId.error
  · simp only [if_pos hsymbol]
    rfl
  · have hjudge : (e.withActions actions').judge
        (.ofToken (e.withActions actions').table (c.under v).session.stack
          (.unexpected (c.under v).lexer.showPosition) depth.isSome state token)
        (((c.under v).session.count fun stats => { stats with errors := stats.errors + 1 }).note
          (.detected state depth)) = _ :=
      judge_under h
        (.ofToken e.table c.session.stack (.unexpected c.lexer.showPosition) depth.isSome state token)
        ((c.session.count fun stats => { stats with errors := stats.errors + 1 }).note
          (.detected state depth))
    simp only [if_neg hsymbol]
    rw [hjudge]
    generalize e.judge (.ofToken e.table c.session.stack _ depth.isSome state token) _ = judged
    obtain ⟨_ | value | error, s⟩ := judged
    · cases depth <;> rfl
    · rfl
    · rfl

/-- A token is thrown away alike for the view. -/
theorem discardToken_under (h : actions'.Follows e.actions v) (state : StateId) (token : Token)
    (c : Config σ V) :
    (e.withActions actions').discardToken state token (c.under v) =
      resultUnder v (Prod.map id (·.under v)) (e.discardToken state token c) := by
  unfold discardToken
  rw [halt_under h]
  split
  · rfl
  · exact fetch_under h (c.update fun session =>
      ({ session with record := session.record.discard token }.count fun stats =>
        { stats with discarded := stats.discarded + 1 }).note (.discarded token))

/-- The height of the stack is checked alike for the view. -/
theorem checkHeight_under (h : actions'.Follows e.actions v) (state : StateId) (token : Token)
    (height : Nat) (c : Config σ V) :
    (e.withActions actions').checkHeight state token height (c.under v) =
      resultUnder v (·.under v) (e.checkHeight state token height c) := by
  simp only [checkHeight, halt_under h, endHeight_under]
  split
  · rfl
  · split <;> rfl

/-- The token at fault is the same for the view. -/
theorem takeOffending_under (c : Config σ V) :
    takeOffending (ε := ε) (c.under v) =
      resultUnder v (Prod.map id (·.under v)) (takeOffending c) := by
  simp only [takeOffending, lookahead_under]
  cases c.session.lookahead with
  | none => rfl
  | some token => dsimp only; split <;> rfl

/-- An error is settled alike for the view. -/
theorem settle_under (h : actions'.Follows e.actions v) (state : StateId) (c : Config σ V) :
    (e.withActions actions').settle state (c.under v) =
      resultUnder v (Prod.map id (·.under v)) (e.settle state c) := by
  unfold settle
  rw [takeOffending_under]
  refine bind_resultUnder _ fun taken => ?_
  obtain ⟨token, c⟩ := taken
  simp only [Prod.map, id, recovering_under, stack_under, reportToken_under h, discardToken_under h]
  show (if c.session.recovering = 0 then
      (resultUnder v (·.under v)
        (e.reportToken state (e.recoveryDepth? c.session.stack) token c)).map fun c => (token, c)
    else if c.session.recovering = e.quietCount then
      resultUnder v (Prod.map id (·.under v)) (e.discardToken state token c)
    else pure (token, c.under v)) = _
  split
  · cases e.reportToken state (e.recoveryDepth? c.session.stack) token c <;> rfl
  · split <;> rfl

/-- The second half of a recovery is the same for the view. -/
theorem retry_under (h : actions'.Follows e.actions v) (state : StateId) (depth : Option Nat)
    (token : Token) (c : Config σ V) :
    (e.withActions actions').retry state depth token (c.under v) =
      resultUnder v (·.under v) (e.retry state depth token c) := by
  cases depth with
  | none => exact congrArg Except.error (halt_under h _ _ _ _)
  | some depth =>
    simp only [retry, stack_under, checkHeight_under h]
    exact bind_resultUnder _ fun _ => rfl

/-- A recovery is the same for the view. -/
theorem recover_under (h : actions'.Follows e.actions v) (state : StateId) (c : Config σ V) :
    (e.withActions actions').recover state (c.under v) =
      resultUnder v (·.under v) (e.recover state c) := by
  rw [recover_eq, recover_eq, settle_under h]
  exact bind_resultUnder _ fun settled => retry_under h _ _ _ _

/-! ## Runs -/

section
variable [Inhabited V]

/-- An action is performed alike for the view. -/
theorem perform_under (h : actions'.Follows e.actions v) (state : StateId) (c : Config σ V)
    (action : Action) :
    (e.withActions actions').perform state (c.under v) action =
      resultUnder v (·.under v) (e.perform state c action) := by
  cases action with
  | shift target => exact shift_under h target (c.note (.shifting target))
  | reduce number => exact reduce_under h number (c.note (.reducing number))
  | error => exact recover_under h state c
  | ambiguous number => rfl
  | goto target => rfl
  | accept =>
    have hstack : ∀ (c : Config σ V) event, (c.note event).session.stack = c.session.stack := fun _ _ => rfl
    have hstack' : ∀ (c : Config σ' V) event, (c.note event).session.stack = c.session.stack :=
      fun _ _ => rfl
    simp only [perform, hstack, hstack', stack_under]
    generalize c.session.stack.takeTop? = taken
    obtain ⟨_ | value, stack⟩ := taken <;> rfl

/-- A step is the same for the view. -/
theorem step_under (h : actions'.Follows e.actions v) (c : Config σ V) :
    (e.withActions actions').step (c.under v) = resultUnder v (·.under v) (e.step c) := by
  simp only [step, stack_under, withActions_table, chooseAction_under h]
  cases c.session.stack.topState? with
  | none => rfl
  | some state =>
    dsimp only
    split
    · exact bind_resultUnder _ fun chosen =>
        perform_under h state (chosen.2.note (.atState chosen.2.session.stack chosen.2.session.lookahead))
          chosen.1
    · rfl

/-- The view of a run is a run. -/
theorem run_under (h : actions'.Follows e.actions v) (fuel : Nat) (c : Config σ V) :
    (e.withActions actions').run fuel (c.under v) = (e.run fuel c).under v := by
  induction fuel generalizing c with
  | zero => rfl
  | succ fuel ih =>
    simp only [run, step_under h]
    cases e.step c with
    | ok c' => exact ih c'
    | error halt => rfl

/-- The view of a parse is a parse with the same outcome: what counts is the start. -/
theorem parse_under (h : actions'.Follows e.actions v) (fuel : Nat) {input : String}
    {c : Config σ V} {c' : Config σ' V} (start : c'.reset input = (c.reset input).under v) :
    (e.withActions actions').parse fuel input c' =
      Prod.map id (·.under v) (e.parse fuel input c) := by
  simp only [parse, start, run_under h]
  rfl

end

end

end Engine

end

end ShiftReduce
