import ShiftReduce.Proofs.Calculator.Fetching

/-!
# The calculator's parser goes from scene to scene

A configuration of the parser shows a scene (`Calculator.Scene.Shows`), and what a step of it does is told
by that scene alone: it goes on to a configuration that shows another scene, which the machine of scenes
goes to, or it ends the parse as the scene says (`Calculator.Scene.Shows.step`). Each function of the engine
has a law of its own on the way there.

The order of the module is that of the engine: reductions (`Calculator.Scene.Shows.reduce`,
`Calculator.Scene.Shows.fault`), shifts of a token of the lexer's and of one that a recovery made
(`Calculator.Scene.Shows.shift`, `Calculator.Scene.Shows.shiftMade`), the parts of a recovery from
the report to the new error token (`Calculator.Scene.Shows.report`, `Calculator.Scene.Shows.settle`,
`Calculator.Scene.Shows.retry`), the look ahead (`Calculator.Scene.Shows.look`), and from these the
step. Where the parser looks ahead it takes its step from the scene behind the look, so a turn may
be two moves of the machine (`Calculator.Scene.Turn`).
-/

namespace ShiftReduce

namespace Engine

/-- What a reduction changes of a configuration: the stack, the journal and the counts, and the
state of the actions as the action of the production has it. Reference: `Parser::reduce`. -/
theorem reduce_frame {σ V ε : Type} [Inhabited V] {e : Engine σ V ε} {c c' : Config σ V}
    {number : ProductionId} (h : e.reduce number c = .ok c') :
    c'.lexer = c.lexer ∧ ∃ production stack journal stats,
      c'.session = { c.session with
        user := (e.actions.reduce (reductionOf c.session number production) c.session.user).2
        stack, journal, stats } := by
  unfold reduce at h
  split at h
  · cases h
  · next production hfound =>
    dsimp only at h
    split at h
    · cases h
    · generalize hcalled : e.actions.reduce (reductionOf c.session number production)
        (c.note (.reduced c.session.stack (reductionOf c.session number production))).session.user =
          called at h
      obtain ⟨_ | yield, user⟩ := called
      · cases h
      · have huser : (e.actions.reduce (reductionOf c.session number production) c.session.user).2 =
            user := congrArg Prod.snd hcalled
        unfold goto at h
        dsimp only at h
        split at h
        · cases h
        · split at h
          · cases h
            refine ⟨?_, production, ?_⟩
            · cases yield.remark <;> rfl
            · rw [huser]
              cases yield.remark <;> exact ⟨_, _, _, rfl⟩
          · cases h

end Engine

namespace Calculator

/-- What is ahead in a session, and what is held back. The place of an error token that a recovery
made is not told. -/
inductive Ahead.Shows : Ahead → Session Context Value → Prop
  | none {s : Session Context Value} (absent : s.lookahead = .none) (own : s.held = .none) :
      Shows .none s
  | token {t : Token} {s : Session Context Value} (ahead : s.lookahead = some t)
      (own : s.held = .none) : Shows (.token t) s
  | made {text : String} {held : Option Token} {t : Token} {s : Session Context Value}
      (ahead : s.lookahead = some t) (is : t.bare = (SymbolId.error, text)) (behind : s.held = held) :
      Shows (.made text held) s

/-- What is ahead is a matter of two fields. -/
theorem Ahead.Shows.same {ahead : Ahead} {s s' : Session Context Value} (h : ahead.Shows s)
    (lookahead : s'.lookahead = s.lookahead) (held : s'.held = s.held) : ahead.Shows s' := by
  cases h with
  | none absent own => exact .none (lookahead.trans absent) (held.trans own)
  | token ahead own => exact .token (lookahead.trans ahead) (held.trans own)
  | made ahead is behind => exact .made (lookahead.trans ahead) is (held.trans behind)

namespace Scene

/-- A configuration that shows a scene, with the lexer in front of what comes. -/
structure Shows (options : LexerOptions) (source : List Char) (limit : Nat) (x : Scene)
    (c : Config Context Value) : Prop where
  stack : c.session.stack.map Slot.bare = x.stage.stack
  ahead : x.ahead.Shows c.session
  recovering : c.session.recovering = x.recovering
  offending : c.session.record.offending = x.offending
  discarded : c.session.record.discarded = x.discarded
  skipped : c.session.user.skipped = x.skipped
  lexer : x.coming ≠ [] → ∃ cs, InFront options source limit x.seen cs c.lexer ∧ reading cs = x.coming

variable {options : LexerOptions} {source : List Char} {discardCount limit : Nat} {x y : Scene}
  {c c' : Config Context Value} {t : Token} {next : Stage} {number : ProductionId}
  {good : SymbolId × String → Prop}

/-- A configuration shows what another one shows that differs in nothing to be seen. -/
theorem Shows.same (h : x.Shows options source limit c) (lexer : c'.lexer = c.lexer)
    (same : ShowsAs c.session c'.session) : x.Shows options source limit c' where
  stack := same.stack ▸ h.stack
  ahead := h.ahead.same same.lookahead same.held
  recovering := same.recovering.trans h.recovering
  offending := same.record ▸ h.offending
  discarded := same.record ▸ h.discarded
  skipped := same.skipped.trans h.skipped
  lexer := lexer ▸ h.lexer

/-- The same, of two sessions beside one lexer. -/
theorem Shows.beside {lexer : Lexer} {s s' : Session Context Value} (same : ShowsAs s s')
    (h : x.Shows options source limit ⟨lexer, s⟩) : x.Shows options source limit ⟨lexer, s'⟩ :=
  h.same rfl same

/-- An event in the journal shows nothing. -/
theorem Shows.note (h : x.Shows options source limit c) (event : ParserEvent Value) :
    x.Shows options source limit (c.note event) :=
  h.same rfl ⟨rfl, rfl, rfl, rfl, rfl, rfl⟩

/-- What decides how a parse goes on from a scene, but for the tokens that come. -/
theorem Shows.fits (discardCount : Nat) (h : x.Shows options source limit c) :
    Outline.Fits (evaluator discardCount limit)
      ⟨x.stage.stack, c.session.lookahead.map Token.bare, c.session.held.map Token.bare,
        x.recovering, c.session.endHeight, []⟩ c :=
  ⟨h.stack, rfl, rfl, h.recovering, rfl, trivial⟩

/-- The state on top of the stack is that of the stage. -/
theorem Shows.topState (h : x.Shows options source limit c) :
    c.session.stack.topState? = some x.stage.state :=
  (h.fits 0).topState

/-! ## Reductions -/

/-- The action of a production leaves a text for a line with an error. -/
theorem skipped_productionAction (reduction : Reduction Value) (context : Context) :
    (productionAction reduction context).2.skipped =
      if reduction.production = Production.lineError then
        context.skipped ++ [(reduction.recovery.map (·.text)).getD ""]
      else context.skipped := by
  unfold productionAction
  split <;> rfl

/-- A reduction goes on as its production says. The action sees the values on the stack only, but
for the record of a recovery, whose text it leaves behind a line with an error. -/
theorem Shows.reduce (discardCount : Nat) (h : x.Shows options source limit c)
    {production : Production} {below : StateId}
    (reduces : x.stage.ReducesBy number (.ok next) production below) :
    ∃ c', (evaluator discardCount limit).reduce number c = .ok c' ∧
      (x.reduced number next).Shows options source limit c' := by
  obtain ⟨hentry, hstack⟩ := reduces.behind next rfl
  obtain ⟨c', hreduce, hfits⟩ := (h.fits discardCount).reduce actions_compute
    reduces.found reduces.enough reduces.value reduces.uncovered hentry
  obtain ⟨hlexer, production', stack, journal, stats, hsession⟩ := Engine.reduce_frame hreduce
  have hskipped : c'.session.user.skipped = (x.reduced number next).skipped := by
    rw [hsession]
    refine (skipped_productionAction _ _).trans ?_
    unfold Scene.reduced loss recorded
    rw [← h.skipped, ← h.recovering, ← h.offending, ← h.discarded]
    show (if number = _ then _ ++ [((if _ then none else some _ : Option (Recovery Value)).map _).getD ""]
      else _) = _
    split
    · split <;> rfl
    · rfl
  have hstack' := hfits.stack.trans hstack.symm
  obtain ⟨lexer', s'⟩ := c'
  dsimp only at hlexer hsession
  subst hlexer hsession
  refine ⟨_, hreduce, hstack', ?_, h.recovering, h.offending, h.discarded, hskipped, h.lexer⟩
  exact h.ahead.same rfl rfl

/-- Where the action of the production fails, the parse ends with the fault. -/
theorem Shows.fault (discardCount : Nat) (h : x.Shows options source limit c) {fault : Fault}
    {production : Production} {below : StateId}
    (reduces : x.stage.ReducesBy number (.error fault) production below) :
    ∃ halt, (evaluator discardCount limit).reduce number c = .error halt ∧
      halt.stop = .failed (.action (.production number) fault) :=
  (h.fits discardCount).fault actions_compute reduces.found reduces.enough reduces.value

/-! ## Shifts -/

/-- What consuming a token shows. -/
theorem showsAs_afterShift (e : Engine Context Value Fault) (lexed : Bool) (t : Token)
    (s : Session Context Value) :
    ShowsAs { s with recovering := if lexed then e.quietCount else s.recovering - 1 }
      (e.afterShift lexed t s) := by
  cases lexed with
  | true => exact ⟨rfl, rfl, rfl, rfl, rfl, rfl⟩
  | false =>
    obtain ⟨journal, hafter, -⟩ := e.afterShift_plain t s
    rw [hafter]
    exact ⟨rfl, rfl, rfl, rfl, rfl, rfl⟩

/-- A token of the lexer's is shifted. If it is an error token of the lexer's and no recovery is
under way, it begins one; any other token counts down the one that is under way. -/
theorem Shows.shift (discardCount : Nat) (h : x.Shows options source limit c) (ahead : x.ahead = .token t)
    (meets : x.stage.meets t.bare = .shifts next) :
    ∃ c', (evaluator discardCount limit).shift next.state c = .ok c' ∧
      (x.shifted (evaluator discardCount limit).quietCount t next).Shows options source limit c' := by
  have hahead := h.ahead
  rw [ahead] at hahead
  cases hahead with
  | token hlookahead hown =>
    have hstack : (⟨t.symbol, next.state, .text t.text, t.location⟩ :: c.session.stack).map Slot.bare =
        next.stack := by
      rw [Stage.stack_of_shifts meets, ← h.stack]
      rfl
    have hlexed : (t.symbol == SymbolId.error && (none : Option Token).isNone &&
        c.session.recovering == 0) = decide (t.symbol = SymbolId.error ∧ x.recovering = 0) := by
      rw [h.recovering]
      simp only [Option.isNone_none, Bool.and_true, Bool.decide_and, beq_eq_decide]
    unfold Engine.shift
    simp only [hlookahead, hown, hlexed, Option.isSome_none, Bool.false_eq_true, if_false]
    refine ⟨_, rfl, Shows.beside (showsAs_afterShift _ _ _ _) ?_⟩
    unfold shifted
    split
    · next hstarts =>
      rw [decide_eq_true hstarts]
      exact ⟨hstack, .none rfl rfl, rfl, rfl, rfl, h.skipped, h.lexer⟩
    · next hgoes =>
      rw [decide_eq_false hgoes]
      exact ⟨hstack, .none rfl rfl, congrArg (· - 1) h.recovering, h.offending, h.discarded, h.skipped,
        h.lexer⟩

/-- An error token that a recovery made is shifted. The token that was held back for it is ahead
again, and the count of the recovery stays as it was. Where none was held back, the shift is counted
like that of another token. -/
theorem Shows.shiftMade (discardCount : Nat) (h : x.Shows options source limit c) {text : String}
    {held : Option Token}
    (ahead : x.ahead = .made text held) (recovering : x.recovering ≠ 0)
    (meets : x.stage.meets (SymbolId.error, text) = .shifts next) :
    ∃ c', (evaluator discardCount limit).shift next.state c = .ok c' ∧
      (x.shiftedMade held next).Shows options source limit c' := by
  have hahead := h.ahead
  rw [ahead] at hahead
  cases hahead with
  | @made _ _ t _ hlookahead his hheld =>
    obtain ⟨hsymbol, htext⟩ := Prod.mk.inj his
    have hstack : (⟨t.symbol, next.state, .text t.text, t.location⟩ :: c.session.stack).map Slot.bare =
        next.stack := by
      rw [Stage.stack_of_shifts meets, ← h.stack, ← hsymbol, ← htext]
      rfl
    have hlexed : (t.symbol == SymbolId.error && held.isNone && c.session.recovering == 0) = false := by
      rw [h.recovering, beq_eq_false_iff_ne.mpr recovering, Bool.and_false]
    unfold Engine.shift
    simp only [hlookahead, hheld, hlexed, Bool.false_eq_true, if_false]
    cases held with
    | some back =>
      exact ⟨_, rfl, hstack, .token rfl rfl, h.recovering, h.offending, h.discarded, h.skipped, h.lexer⟩
    | none =>
      simp only [Option.isSome_none, Bool.false_eq_true, if_false]
      refine ⟨_, rfl, Shows.beside (showsAs_afterShift _ _ _ _) ?_⟩
      exact ⟨hstack, .none rfl rfl, congrArg (· - 1) h.recovering, h.offending, h.discarded, h.skipped,
        h.lexer⟩

/-! ## Recoveries -/

theorem cleared_stage (x : Scene) : x.cleared.stage = x.stage := by
  unfold cleared
  split <;> rfl

/-- The token at fault is taken out of the session. -/
theorem Shows.takeOffending (h : x.Shows options source limit c) (ahead : x.ahead = .token t) :
    ∃ c₁, Engine.takeOffending (ε := Fault) c = .ok (t, c₁) ∧
      Shows options source limit { x with ahead := .none } c₁ := by
  have hahead := h.ahead
  rw [ahead] at hahead
  cases hahead with
  | token hlookahead hown =>
    have hself : c.session.held.getD t = t := by
      rw [hown]
      rfl
    unfold Engine.takeOffending
    simp only [hlookahead]
    split
    · exact ⟨_, congrArg (fun token => Except.ok (token, _)) hself, h.stack, .none rfl rfl, h.recovering,
        h.offending, h.discarded, h.skipped, h.lexer⟩
    · exact ⟨_, rfl, h.stack, .none rfl hown, h.recovering, h.offending, h.discarded, h.skipped, h.lexer⟩

/-- A report that a recovery can follow clears the record. No report is made of an error token of the
lexer's, which was reported when it was fetched; what is to be seen is the same either way, for the
calculator's own verdict goes on. -/
theorem Shows.report (discardCount : Nat) (h : x.Shows options source limit c) (state : StateId)
    (depth : Nat) (t : Token) :
    ∃ c₁, (evaluator discardCount limit).reportToken state (some depth) t c = .ok c₁ ∧
      Shows options source limit { x with offending := none, discarded := [] } c₁ := by
  have hcleared : ∀ {c : Config Context Value}, x.Shows options source limit c →
      Shows options source limit { x with offending := none, discarded := [] }
        (c.update fun session => { session with record := {} }) :=
    fun h => ⟨h.stack, h.ahead.same rfl rfl, h.recovering, rfl, rfl, h.skipped, h.lexer⟩
  unfold Engine.reportToken
  split
  · exact ⟨_, rfl, hcleared h⟩
  · dsimp only
    generalize hinfo : ErrorInfo.ofToken (evaluator discardCount limit).table c.session.stack
      (.unexpected c.lexer.showPosition) (some depth).isSome state t = info
    generalize hs : (c.session.count fun stats => { stats with errors := stats.errors + 1 }).note
      (.detected state (some depth)) = s
    have hsame : ShowsAs c.session s := by
      rw [← hs]
      exact ⟨rfl, rfl, rfl, rfl, rfl, rfl⟩
    have hresumes : ((evaluator discardCount limit).judge info s).1 = .resume := by
      rw [Outline.judge_standard (e := evaluator discardCount limit) actions_compute, ← hinfo]
      rfl
    have hjudged := showsAs_judge (e := evaluator discardCount limit) rfl info s
    generalize (evaluator discardCount limit).judge info s = judged at hresumes hjudged
    obtain ⟨verdict, s'⟩ := judged
    cases hresumes
    exact ⟨_, rfl, hcleared (Shows.beside hjudged (Shows.beside hsame h))⟩

/-- Unless the token at fault is thrown away, the record is cleared for a new recovery, and kept for one
that is made again. -/
theorem Shows.settle (h : x.Shows options source limit c) (ahead : x.ahead = .token t)
    (begun : x.recovering ≠ (evaluator discardCount limit).quietCount) {depth : Nat}
    (nearest : (evaluator discardCount limit).recoveryDepth? c.session.stack = some depth)
    (state : StateId) :
    ∃ c₁, (evaluator discardCount limit).settle state c = .ok (t, c₁) ∧
      Shows options source limit { x.cleared with ahead := .none } c₁ := by
  obtain ⟨c₁, htaken, hshows⟩ := h.takeOffending ahead
  have hstack : c₁.session.stack = c.session.stack := by
    obtain ⟨-, held, rfl⟩ := Engine.takeOffending_ok htaken
    rfl
  have hrecovering : c₁.session.recovering = x.recovering := hshows.recovering
  simp only [Engine.settle, htaken, bind, Except.bind, pure, Except.pure, hrecovering, if_neg begun,
    hstack, nearest]
  unfold cleared
  split
  · obtain ⟨c₂, hreport, hcleared⟩ := hshows.report discardCount state depth t
    rw [hreport]
    exact ⟨c₂, rfl, hcleared⟩
  · exact ⟨c₁, rfl, hshows⟩

/-- The stack is cut back and an error token put ahead. At the end of the input the parse may halt, where
that has been done before. -/
theorem Shows.retry (discardCount : Nat)
    (h : Shows options source limit { x with ahead := .none } c) {depth : Nat}
    (base : x.stage.stack.drop depth = x.stage.base.stack) (state : StateId) (t : Token) :
    (∃ c', (evaluator discardCount limit).retry state (some depth) t c = .ok c' ∧
      (x.retried (evaluator discardCount limit).quietCount t).Shows options source limit c') ∨
    ∃ halt info, (evaluator discardCount limit).retry state (some depth) t c = .error halt ∧
      halt.stop = .failed (.syntactic info) := by
  cases hcheck : (evaluator discardCount limit).checkHeight state t (c.session.stack.length - depth) c with
  | error halt =>
    obtain ⟨info, hstop⟩ := Outline.halt_stop (e := evaluator discardCount limit) actions_compute
      .haltedRecovering rfl state t c
    rw [← Engine.checkHeight_error hcheck] at hstop
    refine .inr ⟨halt, info, ?_, hstop⟩
    simp only [Engine.retry, hcheck, bind, Except.bind]
  | ok c₁ =>
    obtain ⟨-, hsession⟩ := Engine.checkHeight_ok hcheck
    have hlexer : c₁.lexer = c.lexer := by
      unfold Engine.checkHeight at hcheck
      split at hcheck
      · cases hcheck
        rfl
      · split at hcheck <;> cases hcheck
        rfl
    have hshows : Shows options source limit { x with ahead := .none } c₁ :=
      h.same hlexer (by rw [hsession]; exact ⟨rfl, rfl, rfl, rfl, rfl, rfl⟩)
    refine .inl ⟨c₁.update ((evaluator discardCount limit).popAndRetry depth t), ?_, ?_⟩
    · simp only [Engine.retry, hcheck, bind, Except.bind, pure, Except.pure]
    · refine ⟨?_, ?_, rfl, ?_, hshows.discarded, hshows.skipped, hshows.lexer⟩
      · show (c₁.session.stack.drop depth).map Slot.bare = x.stage.base.stack
        rw [List.map_drop, hshows.stack]
        exact base
      · have hmade : Ahead.Shows (.made t.text (if t.symbol = SymbolId.error then none else some t))
            ((evaluator discardCount limit).popAndRetry depth t c₁.session) := .made rfl rfl rfl
        exact hmade
      · show some (c₁.session.record.offending.getD t) = some (x.offending.getD t)
        rw [hshows.offending]

/-- The token of the next lexeme is fetched, unless the lexer finds none. -/
theorem Shows.fetch (discardCount : Nat) (h : x.Shows options source limit c) {lexeme : Found}
    {others : List Found}
    (coming : x.coming = lexeme :: others) :
    (∃ t c', (evaluator discardCount limit).fetch c = .ok (t, c') ∧
      x.Finds options.trackPosition lexeme.lexeme t ∧ (x.found t others).Shows options source limit c') ∨
    ∃ halt, (evaluator discardCount limit).fetch c = .error halt ∧ Unsupplied halt.stop := by
  obtain ⟨cs, hfront, hreading⟩ := h.lexer (coming ▸ List.cons_ne_nil _ _)
  obtain ⟨lexeme', others', hreading', hfetch⟩ :=
    fetch_finds (e := evaluator discardCount limit) rfl hfront
  obtain ⟨rfl, rfl⟩ := List.cons.inj (hreading'.symm.trans (hreading.trans coming))
  obtain ⟨t, c', hfetched, hbare, hshows, hfresh, hahead⟩ | hfails := hfetch
  · refine .inl ⟨t, c', hfetched, ⟨hbare, hfresh⟩, ?_⟩
    have hsame := Shows.beside hshows h
    exact ⟨hsame.stack, hsame.ahead, hsame.recovering, hsame.offending, hsame.discarded, hsame.skipped,
      hahead⟩
  · exact .inr hfails

/-- A parser between two tokens looks ahead, and goes on as it does with the token ahead. This is
why a look ahead is not a step of its own: the state that asked for the token is asked again, with
the token ahead, and takes the same step. -/
theorem Shows.look (discardCount : Nat) (h : x.Shows options source limit c)
    (waits : x.stage.reduction? = none) (absent : x.ahead = .none) {lexeme : Found} {others : List Found}
    (coming : x.coming = lexeme :: others) :
    (∃ t c₂, (evaluator discardCount limit).step c = (evaluator discardCount limit).step c₂ ∧
      x.Finds options.trackPosition lexeme.lexeme t ∧
      Shows options source limit { x.found t others with ahead := .token t } c₂) ∨
    ∃ halt, (evaluator discardCount limit).step c = .error halt ∧ Unsupplied halt.stop := by
  have hahead := h.ahead
  rw [absent] at hahead
  cases hahead with
  | none hlookahead hown =>
    have hfree := Stage.waits waits
    have hknown : (evaluator discardCount limit).table.hasState x.stage.state = true := x.stage.hasState
    obtain ⟨t, c₁, hfetch, hfinds, hshows⟩ | ⟨halt, hfetch, hunsupplied⟩ :=
      h.fetch discardCount coming
    · generalize hc₂ : c₁.update (fun session => { session with lookahead := some t }) = c₂
      have hheld : c₁.session.held = none := by
        have hahead := hshows.ahead
        rw [show (x.found t others).ahead = .none from absent] at hahead
        cases hahead
        assumption
      have hshows₂ : Shows options source limit { x.found t others with ahead := .token t } c₂ := by
        rw [← hc₂]
        exact ⟨hshows.stack, .token rfl hheld, hshows.recovering, hshows.offending, hshows.discarded,
          hshows.skipped, hshows.lexer⟩
      refine .inl ⟨t, c₂, ?_, hfinds, hshows₂⟩
      have hchosen : (evaluator discardCount limit).chooseAction x.stage.state c =
          .ok (grammarTable.action x.stage.state t.symbol, c₂) := by
        rw [Engine.chooseAction_fetch hfree hlookahead, hfetch, ← hc₂]
        rfl
      have hchosen₂ : (evaluator discardCount limit).chooseAction x.stage.state c₂ =
          .ok (grammarTable.action x.stage.state t.symbol, c₂) := by
        refine Engine.chooseAction_ahead hfree ?_
        rw [← hc₂]
        rfl
      have htop : c₂.session.stack.topState? = some x.stage.state := hshows₂.topState
      rw [Engine.step_chosen h.topState hknown hchosen, Engine.step_chosen htop hknown hchosen₂]
    · have hstep : (evaluator discardCount limit).step c = .error halt := by
        have hchosen : (evaluator discardCount limit).chooseAction x.stage.state c = .error halt := by
          rw [Engine.chooseAction_fetch hfree hlookahead, hfetch]
          rfl
        unfold Engine.step
        simp only [h.topState, hknown, hchosen, if_true, bind, Except.bind]
      exact .inr ⟨halt, hstep, hunsupplied⟩

/-! ## Steps -/

/-- A stage that is reduced by default takes that reduction. -/
theorem Shows.step_reduction (h : x.Shows options source limit c) {result : Except Fault Stage}
    (reduction : x.stage.reduction? = some (number, result)) :
    (evaluator discardCount limit).step c = (evaluator discardCount limit).perform x.stage.state
      (c.note (.atState c.session.stack c.session.lookahead)) (.reduce number) := by
  have hdefault := (Stage.reduces reduction).1
  exact Engine.step_chosen h.topState x.stage.hasState (Engine.chooseAction_default hdefault c)

/-- The token ahead has the symbol and the text that are shown. -/
theorem Shows.lookahead (h : x.Shows options source limit c) {bare : SymbolId × String}
    (ahead : x.ahead.bare? = some bare) : ∃ t, c.session.lookahead = some t ∧ t.bare = bare := by
  have hahead := h.ahead
  generalize x.ahead = shown at ahead hahead
  cases hahead with
  | none => cases ahead
  | token hlookahead _ => exact ⟨_, hlookahead, Option.some.inj ahead⟩
  | made hlookahead is _ => exact ⟨_, hlookahead, is.trans (Option.some.inj ahead)⟩

/-- Any other stage does what it meets the token ahead with. -/
theorem Shows.step_meeting (h : x.Shows options source limit c) (waits : x.stage.reduction? = none)
    {bare : SymbolId × String} (ahead : x.ahead.bare? = some bare)
    (terminal : bare.1 < grammarTable.terminalCount) :
    (evaluator discardCount limit).step c = (evaluator discardCount limit).perform x.stage.state
      (c.note (.atState c.session.stack c.session.lookahead)) (x.stage.meets bare).action := by
  obtain ⟨t, hlookahead, rfl⟩ := h.lookahead ahead
  rw [← Stage.meets_action waits terminal]
  exact Engine.step_chosen h.topState x.stage.hasState
    (Engine.chooseAction_ahead (Stage.waits waits) hlookahead)

/-- What a step from a scene comes to: some moves of the machine, or the end of the parse behind
some. -/
inductive Turn (quiet : Nat) (options : LexerOptions) (source : List Char) (limit : Nat) (x : Scene) :
    Except (Halt Context Value Fault) (Config Context Value) → Prop
  | goes {y : Scene} {c : Config Context Value}
      (reaches : Relation.TransGen (Goes quiet options.trackPosition) x y)
      (shows : y.Shows options source limit c) : Turn quiet options source limit x (.ok c)
  | ends {y : Scene} {halt : Halt Context Value Fault}
      (reaches : Relation.ReflTransGen (Goes quiet options.trackPosition) x y)
      (ends : y.Ends halt.stop halt.config.session.user) : Turn quiet options source limit x (.error halt)

/-- A step that begins with a look ahead goes on as from the scene behind that. -/
theorem Turn.look {quiet : Nat} {result : Except (Halt Context Value Fault) (Config Context Value)}
    (goes : Goes quiet options.trackPosition x y) (h : Turn quiet options source limit y result) :
    Turn quiet options source limit x result := by
  cases h with
  | goes reaches shows => exact .goes (.head goes reaches) shows
  | ends reaches ends => exact .ends (.head goes reaches) ends

/-- A token is thrown away. -/
theorem Shows.thrown (h : Shows options source limit { x with ahead := .none } c) (t : Token) :
    Shows options source limit { x.thrown t with ahead := .none }
      (c.update fun session =>
        ({ session with record := session.record.discard t }.count fun stats =>
          { stats with discarded := stats.discarded + 1 }).note (.discarded t)) := by
  refine ⟨h.stack, h.ahead.same rfl rfl, h.recovering, h.offending, ?_, h.skipped, h.lexer⟩
  have hoffending : c.session.record.offending = x.offending := h.offending
  have hdiscarded : c.session.record.discarded = x.discarded := h.discarded
  show (if c.session.record.offending = some t then c.session.record.discarded
    else c.session.record.discarded ++ [t]) = _
  rw [hoffending, hdiscarded]
  rfl

/-- A recovery from a token that does not fit. The stack is cut back to the base of the stage. Right
behind another recovery the token is thrown away and the next one fetched instead; at the end of the
input that ends the parse. -/
theorem Shows.recover (h : x.Shows options source limit c)
    (fit : x.Fit (evaluator discardCount limit).quietCount good) (waits : x.stage.reduction? = none)
    (ahead : x.ahead = .token t) (misfit : x.stage.meets t.bare = .misfits) (state : StateId) :
    Turn (evaluator discardCount limit).quietCount options source limit x
      ((evaluator discardCount limit).recover state c) := by
  obtain ⟨depth, hnearest, hbase⟩ := Stage.depth_base waits
  have hdepth : (evaluator discardCount limit).recoveryDepth? c.session.stack = some depth :=
    (h.fits discardCount).depth.trans hnearest
  rw [Engine.recover_eq, hdepth]
  by_cases hfull : x.recovering = (evaluator discardCount limit).quietCount
  · obtain ⟨c₁, htaken, hshows⟩ := h.takeOffending ahead
    rw [Engine.settle_discards state htaken (hshows.recovering.trans hfull), Engine.discardToken]
    by_cases hend : t.symbol = SymbolId.endOfInput
    · rw [if_pos hend]
      obtain ⟨info, hstop⟩ := Outline.halt_stop (e := evaluator discardCount limit) actions_compute
        .haltedRecovering rfl state t c₁
      refine .ends .refl ?_
      rw [hstop]
      exact .unfinished
    · rw [if_neg hend]
      obtain ⟨-, hrest⟩ := fit.inside ahead hend
      cases hcoming : x.coming with
      | nil =>
        rw [hcoming] at hrest
        cases hrest
      | cons lexeme others =>
        obtain ⟨next, c₂, hfetch, hfinds, hfound⟩ | ⟨halt, hfetch, hunsupplied⟩ :=
          (hshows.thrown t).fetch discardCount hcoming
        · have hgoes : Goes (evaluator discardCount limit).quietCount options.trackPosition x _ :=
            .discard waits ahead misfit hfull hend hcoming ⟨hfinds.bare, hfinds.fresh⟩
          rw [hfetch]
          obtain ⟨c', hretry, hshows'⟩ | ⟨halt, info, hretry, hstop⟩ :=
            Shows.retry (x := (x.thrown t).found next others) discardCount hfound
              hbase state next
          · show Turn _ _ _ _ _ ((evaluator discardCount limit).retry state (some depth) next c₂)
            rw [hretry]
            exact .goes (.single hgoes) hshows'
          · show Turn _ _ _ _ _ ((evaluator discardCount limit).retry state (some depth) next c₂)
            rw [hretry]
            refine .ends (y := x) .refl ?_
            rw [hstop]
            exact .unfinished
        · rw [hfetch]
          exact .ends (y := x) .refl (.unsupplied hunsupplied)
  · obtain ⟨c₁, hsettle, hshows⟩ := h.settle ahead hfull hdepth state
    rw [hsettle]
    show Turn _ _ _ _ _ ((evaluator discardCount limit).retry state (some depth) t c₁)
    obtain ⟨c', hretry, hshows'⟩ | ⟨halt, info, hretry, hstop⟩ :=
      hshows.retry discardCount (by rw [cleared_stage]; exact hbase) state t
    · rw [hretry]
      exact .goes (.single (.recover waits ahead misfit hfull)) hshows'
    · rw [hretry]
      refine .ends (y := x) .refl ?_
      rw [hstop]
      exact .unfinished

/-- The token ahead is a terminal. -/
theorem Fit.terminal {quiet : Nat} (fit : x.Fit quiet good)
    (terminal : ∀ bare, good bare → bare.1 < grammarTable.terminalCount) {bare : SymbolId × String}
    (ahead : x.ahead.bare? = some bare) : bare.1 < grammarTable.terminalCount := by
  cases hahead : x.ahead with
  | none =>
    rw [hahead] at ahead
    cases ahead
  | token t =>
    rw [hahead] at ahead
    obtain rfl := Option.some.inj ahead
    by_cases hend : t.symbol = SymbolId.endOfInput
    · show t.symbol < _
      rw [hend]
      exact show 1 < 7 by decide
    · exact terminal _ (fit.inside hahead hend).1
  | made text held =>
    rw [hahead] at ahead
    obtain rfl := Option.some.inj ahead
    exact show 2 < 7 by decide

/-- A stage that is not reduced by default meets the token ahead. There is a case for each meeting:
a list is opened, a token is shifted, the lines are accepted, or a recovery begins. An error token
that a recovery made always fits, since the recovery stopped at a base. -/
theorem Shows.meet (h : x.Shows options source limit c)
    (fit : x.Fit (evaluator discardCount limit).quietCount good)
    (terminal : ∀ bare, good bare → bare.1 < grammarTable.terminalCount)
    (waits : x.stage.reduction? = none) {bare : SymbolId × String} (ahead : x.ahead.bare? = some bare) :
    Turn (evaluator discardCount limit).quietCount options source limit x
      ((evaluator discardCount limit).step c) := by
  rw [h.step_meeting waits ahead (fit.terminal terminal ahead)]
  have hnoted := h.note (.atState c.session.stack c.session.lookahead)
  cases hmeets : x.stage.meets bare with
  | opens =>
    have hreduces := Stage.opening_reduces
    rw [← Stage.eq_opening hmeets] at hreduces
    obtain ⟨c', hreduce, hshows⟩ := (hnoted.note (.reducing Production.listEmpty)).reduce
      discardCount hreduces
    show Turn _ _ _ _ _ ((evaluator discardCount limit).reduce Production.listEmpty _)
    rw [hreduce]
    exact .goes (.single (.begin ahead hmeets)) hshows
  | shifts next =>
    have hnoted' := hnoted.note (.shifting next.state)
    show Turn _ _ _ _ _ ((evaluator discardCount limit).shift next.state _)
    cases hahead : x.ahead with
    | none =>
      rw [hahead] at ahead
      cases ahead
    | token t =>
      rw [hahead] at ahead
      obtain rfl := Option.some.inj ahead
      obtain ⟨c', hshift, hshows⟩ := hnoted'.shift discardCount hahead hmeets
      rw [hshift]
      exact .goes (.single (.shift hahead hmeets)) hshows
    | made text held =>
      rw [hahead] at ahead
      obtain rfl := Option.some.inj ahead
      have hover : x.recovering ≠ 0 := by
        have hquiet := (evaluator discardCount limit).quietCount_pos
        have hfull := (fit.retries text held hahead).2
        omega
      obtain ⟨c', hshift, hshows⟩ :=
        hnoted'.shiftMade discardCount hahead hover hmeets
      rw [hshift]
      exact .goes (.single (.shiftMade hahead hmeets)) hshows
  | accepts lines =>
    have hstack := h.stack
    rw [Stage.eq_start hmeets] at hstack
    obtain ⟨first, others, hsplit, hfirst, -⟩ := List.map_eq_cons_iff.mp hstack
    have hvalue : first.value = .lines lines := congrArg (·.2.2) hfirst
    have htake : ((c.note (.atState c.session.stack c.session.lookahead)).note
        .accepting).session.stack.takeTop? =
        (some first.value, { first with value := default } :: others) := by
      show c.session.stack.takeTop? = _
      rw [hsplit]
      rfl
    show Turn _ _ _ _ _ ((evaluator discardCount limit).perform _ _ .accept)
    simp only [Engine.perform, htake]
    refine .ends (y := x) .refl ?_
    rw [hvalue]
    exact .accept ahead hmeets h.skipped
  | misfits =>
    cases hahead : x.ahead with
    | none =>
      rw [hahead] at ahead
      cases ahead
    | token t =>
      rw [hahead] at ahead
      obtain rfl := Option.some.inj ahead
      exact hnoted.recover fit waits hahead hmeets x.stage.state
    | made text held =>
      rw [hahead] at ahead
      obtain rfl := Option.some.inj ahead
      rw [← (fit.retries text held hahead).1] at hmeets
      exact absurd hmeets x.stage.base_meets_error

/-- **A step is told by the scene.** It goes on to a configuration that shows another scene, to which the
machine goes, or it ends the parse as the scene says. -/
theorem Shows.step (h : x.Shows options source limit c)
    (fit : x.Fit (evaluator discardCount limit).quietCount good)
    (terminal : ∀ bare, good bare → bare.1 < grammarTable.terminalCount) :
    Turn (evaluator discardCount limit).quietCount options source limit x
      ((evaluator discardCount limit).step c) := by
  cases hreduction : x.stage.reduction? with
  | some reduction =>
    obtain ⟨number, result⟩ := reduction
    obtain ⟨-, production, below, hreduces⟩ := Stage.reduces hreduction
    rw [h.step_reduction hreduction]
    have hnoted := (h.note (.atState c.session.stack c.session.lookahead)).note (.reducing number)
    show Turn _ _ _ _ _ ((evaluator discardCount limit).reduce number _)
    cases result with
    | ok next =>
      obtain ⟨c', hreduce, hshows⟩ := hnoted.reduce discardCount hreduces
      rw [hreduce]
      exact .goes (.single (.reduce hreduction)) hshows
    | error fault =>
      obtain ⟨halt, hreduce, hstop⟩ := hnoted.fault discardCount hreduces
      rw [hreduce]
      refine .ends (y := x) .refl ?_
      rw [hstop]
      exact .fault hreduction
  | none =>
    cases hbare : x.ahead.bare? with
    | some bare => exact h.meet fit terminal hreduction hbare
    | none =>
      have habsent : x.ahead = .none := by
        cases hahead : x.ahead with
        | none => rfl
        | token | made => rw [hahead] at hbare; cases hbare
      have hunread := fit.unread
      unfold unread at hunread
      rw [habsent] at hunread
      cases hcoming : x.coming with
      | nil =>
        rw [hcoming] at hunread
        cases hunread
      | cons lexeme others =>
        obtain ⟨t, c₂, hstep, hfinds, hshows⟩ | ⟨halt, hstep, hunsupplied⟩ :=
          h.look discardCount hreduction habsent hcoming
        · have hgoes : Goes (evaluator discardCount limit).quietCount options.trackPosition x _ :=
            .look hreduction habsent hcoming hfinds
          rw [hstep]
          exact .look hgoes (hshows.meet (fit.goes hgoes) terminal hreduction rfl)
        · rw [hstep]
          exact .ends (y := x) .refl (.unsupplied hunsupplied)

end Scene

end Calculator

end ShiftReduce
