import ShiftReduce.Proofs.Grammar.Derived
import ShiftReduce.Proofs.Parser.Separation

/-!
# Derived defaults and correct parses

A state that reduces by default does not look ahead, so a parser with derived defaults fetches some
tokens later than the parser without. It trails the other one (`Engine.Trails`): they are level, or the
one without has the next token ahead, and the other would fetch just that token now. A parse that
accepts its input and never recovers is therefore the same under derived defaults, step by step
(`Engine.derived_defaults_keep_parses`).

The one answer that depends on when a token is fetched is the verdict on unrecognized input, which is
handed the stack. It has to be the lexer's, or a correct parse may be another one under derived defaults
(`Calculator.verdicts_spoil_derived_defaults`).

Reductions are alike for both parses wherever the second one is (`Engine.reduce_paired`); shifts and
the acceptance are alike where the two are level (`Engine.shift_level`, `Engine.accept_level`),
which they are whenever the state asks for the token ahead (`Engine.Trails.catchUp`).
-/

namespace ShiftReduce

section
variable {σ V ε α β : Type}

namespace Engine

/-- The engine with the default reductions that the rows of its table give. -/
def withDerived (e : Engine σ V ε) : Engine σ V ε := { e with table := e.table.withDerived }

/-- Its table is the one with derived defaults. -/
@[simp] theorem withDerived_table (e : Engine σ V ε) : e.withDerived.table = e.table.withDerived := rfl

/-- The search for a token is the same. -/
@[simp] theorem withDerived_fetch (e : Engine σ V ε) : e.withDerived.fetch = e.fetch := rfl

/-! ## Trailing -/

/-- Two sessions of which nothing differs but the tokens ahead, the counts and what the parser's side
does not see. -/
structure Paired (parsing : σ → β) (s s' : Session σ V) : Prop where
  frame : ∃ user journal lookahead stats, s' = { s with user, journal, lookahead, stats }
  view : parsing s.user = parsing s'.user
  work : workEvents s.journal = workEvents s'.journal

/-- Two configurations at the same place of the input, with paired sessions and the same token
ahead. -/
structure Level (lexing : σ → α) (parsing : σ → β) (c c' : Config σ V) : Prop where
  paired : Paired parsing c.session c'.session
  lexer : c.lexer = c'.lexer
  view : lexing c.session.user = lexing c'.session.user
  lookahead : c.session.lookahead = c'.session.lookahead
  stats : c.session.stats = c'.session.stats

/-- Two configurations of which the first has fetched a token that the second one has not: a fetch would
give it to the second one now. -/
structure Behind (e : Engine σ V ε) (lexing : σ → α) (parsing : σ → β) (token : Token) (errors : Nat)
    (c c' : Config σ V) : Prop where
  paired : Paired parsing c.session c'.session
  gives : e.Gives lexing parsing c'.lexer (lexing c'.session.user) token c.lexer
    (lexing c.session.user) errors
  ahead : c.session.lookahead = some token
  absent : c'.session.lookahead = none
  stats : c.session.stats = { c'.session.stats with
    tokens := c'.session.stats.tokens + 1
    errors := c'.session.stats.errors + errors }

/-- Two configurations of which the second one may still have to fetch the token ahead. -/
def Trails (e : Engine σ V ε) (lexing : σ → α) (parsing : σ → β) (c c' : Config σ V) : Prop :=
  Level lexing parsing c c' ∨ ∃ token errors, e.Behind lexing parsing token errors c c'

/-- A configuration after a reduction: the input was left alone, and one more reduction is counted.
Reference: `Parser::reduce`. -/
structure Reduced (lexing : σ → α) (c c' : Config σ V) : Prop where
  lexer : c'.lexer = c.lexer
  view : lexing c'.session.user = lexing c.session.user
  lookahead : c'.session.lookahead = c.session.lookahead
  stats : c'.session.stats = { c.session.stats with reductions := c.session.stats.reductions + 1 }

section
variable {e : Engine σ V ε} {lexing : σ → α} {parsing : σ → β} {c c' c₁ c₁' : Config σ V}

/-- A parse trails another one after the same reduction. -/
theorem Trails.reduced (h : e.Trails lexing parsing c c')
    (paired : Paired parsing c₁.session c₁'.session) (first : Reduced lexing c c₁)
    (second : Reduced lexing c' c₁') : e.Trails lexing parsing c₁ c₁' := by
  rcases h with hlevel | ⟨token, errors, hbehind⟩
  · exact .inl {
      paired
      lexer := by rw [first.lexer, second.lexer, hlevel.lexer]
      view := by rw [first.view, second.view, hlevel.view]
      lookahead := by rw [first.lookahead, second.lookahead, hlevel.lookahead]
      stats := by rw [first.stats, second.stats, hlevel.stats] }
  · refine .inr ⟨token, errors, {
      paired
      gives := by rw [first.lexer, second.lexer, first.view, second.view]; exact hbehind.gives
      ahead := by rw [first.lookahead, hbehind.ahead]
      absent := by rw [second.lookahead, hbehind.absent]
      stats := by rw [first.stats, second.stats, hbehind.stats] }⟩

/-! ## Reductions and shifts -/

/-- Paired sessions go on alike below a left-hand side. -/
theorem goto_paired (lexing : σ → α) (parsing : σ → β) (lhs : SymbolId) (value : V)
    (location : Location) (h : Paired parsing c.session c'.session) :
    ExceptsAlike (fun _ _ => True)
      (fun c₁ c₁' => Paired parsing c₁.session c₁'.session ∧ Reduced lexing c c₁ ∧
        Reduced lexing c' c₁')
      (e.goto lhs value location c) (e.goto lhs value location c') := by
  obtain ⟨lexer, s⟩ := c
  obtain ⟨lexer', s'⟩ := c'
  obtain ⟨⟨user', journal', lookahead', stats', hframe⟩, hview, hwork⟩ := h
  dsimp only at hframe hview hwork
  subst hframe
  unfold goto
  dsimp only
  cases s.stack.topState? with
  | none => exact .error trivial
  | some state =>
    dsimp only
    cases e.table.action state lhs with
    | goto target =>
      exact .ok ⟨⟨⟨_, _, _, _, rfl⟩, hview, hwork⟩, ⟨rfl, rfl, rfl, rfl⟩, ⟨rfl, rfl, rfl, rfl⟩⟩
    | _ => exact .error trivial

/-- Paired sessions reduce alike, and the input is left alone. The action of the production sees the
parser's side only, so it yields the same and leaves the lexer's side alone. -/
theorem reduce_paired [Inhabited V] (apart : e.actions.Apart lexing parsing) (number : ProductionId)
    (h : Paired parsing c.session c'.session) :
    ExceptsAlike (fun _ _ => True)
      (fun c₁ c₁' => Paired parsing c₁.session c₁'.session ∧ Reduced lexing c c₁ ∧
        Reduced lexing c' c₁')
      (e.reduce number c) (e.reduce number c') := by
  obtain ⟨lexer, s⟩ := c
  obtain ⟨lexer', s'⟩ := c'
  obtain ⟨⟨user', journal', lookahead', stats', hframe⟩, hview, hwork⟩ := h
  dsimp only at hframe hview hwork
  subst hframe
  unfold reduce
  dsimp only
  cases e.table.production? number with
  | none => exact .error trivial
  | some production =>
    dsimp only
    split
    · exact .error trivial
    · obtain ⟨hresult, hviews⟩ := apart.reduce (reductionOf s number production) hview
      have hkept := apart.reduce_lexing (reductionOf s number production) s.user
      have hkept' := apart.reduce_lexing (reductionOf s number production) user'
      rw [show reductionOf { s with
        user := user', journal := journal', lookahead := lookahead', stats := stats' } number
          production = reductionOf s number production from rfl]
      dsimp only [Config.note, Config.update, Session.note]
      generalize e.actions.reduce (reductionOf s number production) s.user = first
        at hresult hviews hkept ⊢
      generalize e.actions.reduce (reductionOf s number production) user' = second
        at hresult hviews hkept' ⊢
      obtain ⟨result, user₁⟩ := first
      obtain ⟨result', user₁'⟩ := second
      dsimp only at hresult hviews hkept hkept'
      subst hresult
      cases result with
      | error fault => exact .error trivial
      | ok yield =>
        dsimp only
        have hreduced := congrArg (List.cons (.reduced s.stack (reductionOf s number production)))
          hwork
        cases yield.remark
        all_goals
          refine ExceptsAlike.imp (goto_paired lexing parsing production.lhs _ _ ?_) ?_
          · exact ⟨⟨_, _, _, _, rfl⟩, hviews, hreduced⟩
          · rintro c₁ c₁' ⟨hpaired, hfirst, hsecond⟩
            exact ⟨hpaired,
              ⟨hfirst.lexer, hfirst.view.trans hkept, hfirst.lookahead, hfirst.stats⟩,
              ⟨hsecond.lexer, hsecond.view.trans hkept', hsecond.lookahead, hsecond.stats⟩⟩

/-- A shift counts alike for level parses. -/
theorem Level.afterShift (e : Engine σ V ε) (lexed : Bool) (token : Token) {lexer : Lexer}
    {s s' : Session σ V} (h : Level lexing parsing ⟨lexer, s⟩ ⟨lexer, s'⟩) :
    Level lexing parsing ⟨lexer, e.afterShift lexed token s⟩
      ⟨lexer, e.afterShift lexed token s'⟩ := by
  obtain ⟨⟨⟨user', journal', lookahead', stats', hframe⟩, hparsing, hwork⟩, -, hlexing,
    hlookahead, hstats⟩ := h
  dsimp only at hframe hparsing hwork hlexing hlookahead hstats
  subst hframe
  dsimp only at hparsing hwork hlexing hlookahead hstats
  subst hlookahead hstats
  cases lexed with
  | true => exact ⟨⟨⟨_, _, _, _, rfl⟩, hparsing, hwork⟩, rfl, hlexing, rfl, rfl⟩
  | false =>
    simp only [Engine.afterShift]
    by_cases hlast : s.recovering = 1
    · rw [if_pos hlast, if_pos hlast]
      exact ⟨⟨⟨_, _, _, _, rfl⟩, hparsing, hwork⟩, rfl, hlexing, rfl, rfl⟩
    · rw [if_neg hlast, if_neg hlast]
      exact ⟨⟨⟨_, _, _, _, rfl⟩, hparsing, hwork⟩, rfl, hlexing, rfl, rfl⟩

/-- Level parses shift alike. The value of a token may depend on the parser's side, which is the
same for both. -/
theorem shift_level (apart : e.actions.Apart lexing parsing) (target : StateId)
    (h : Level lexing parsing c c') :
    ExceptsAlike (fun _ _ => True) (Level lexing parsing) (e.shift target c)
      (e.shift target c') := by
  obtain ⟨lexer, s⟩ := c
  obtain ⟨lexer', s'⟩ := c'
  obtain ⟨⟨⟨user', journal', lookahead', stats', hframe⟩, hparsing, hwork⟩, hlexer, hlexing,
    hlookahead, hstats⟩ := h
  dsimp only at hframe hparsing hwork hlexer hlexing hlookahead hstats
  subst hframe
  dsimp only at hparsing hwork hlexing hlookahead hstats
  subst hlexer hlookahead hstats
  unfold shift
  dsimp only
  cases s.lookahead with
  | none => exact .error trivial
  | some token =>
    obtain ⟨hvalue, hviews⟩ := apart.tokenValue token hparsing
    have hkept := apart.tokenValue_lexing token s.user
    have hkept' := apart.tokenValue_lexing token user'
    have hlexing' := hkept.trans (hlexing.trans hkept'.symm)
    have hshifted (event : ParserEvent V) := congrArg (List.cons event) hwork
    dsimp only
    rw [hvalue]
    refine .ok ?_
    cases s.held with
    | some held =>
      exact ⟨⟨⟨_, _, _, _, rfl⟩, hviews, hshifted (.shifted token true)⟩, rfl, hlexing', rfl, rfl⟩
    | none =>
      refine Level.afterShift e _ token ?_
      exact ⟨⟨⟨_, _, _, _, rfl⟩, hviews, hshifted (.shifted token false)⟩, rfl, hlexing', rfl, rfl⟩

/-! ## Looking ahead -/

/-- Of two level parses, one that looks ahead leaves the other behind. -/
theorem fetch_behind (apart : e.actions.Apart lexing parsing) {token : Token}
    (h : Level lexing parsing c c') (absent : c.session.lookahead = none)
    (fetched : e.fetch c = .ok (token, c₁)) (judged : e.Judged lexing parsing c₁.session) :
    ∃ errors, e.Behind lexing parsing token errors
      (c₁.update fun session => { session with lookahead := some token }) c' := by
  obtain ⟨errors, hsearched, hgives⟩ := fetch_gives apart fetched judged
  obtain ⟨lexer', s'⟩ := c'
  obtain ⟨after, t⟩ := c₁
  obtain ⟨⟨⟨user', journal', lookahead', stats', hframe⟩, hparsing, hwork⟩, hlexer, hlexing,
    hlookahead, hstats⟩ := h
  dsimp only at hframe hparsing hwork hlexer hlexing hlookahead hstats hsearched hgives
  rw [hlexer, hlexing] at hgives
  cases hsearched with
  | mk hview hquiet =>
    refine ⟨errors, {
      paired := ⟨⟨user', journal', lookahead', stats', hframe⟩, hview.trans hparsing,
        hquiet.trans hwork⟩
      gives := hgives
      ahead := rfl
      absent := hlookahead.symm.trans absent
      stats := ?_ }⟩
    rw [← hstats]
    rfl

/-- A parse that is behind catches up by looking ahead. -/
theorem Behind.fetch {token : Token} {errors : Nat}
    (h : e.Behind lexing parsing token errors c c') :
    ∃ c₁', e.fetch c' = .ok (token, c₁') ∧ Level lexing parsing c
      (c₁'.update fun session => { session with lookahead := some token }) := by
  obtain ⟨t, hfetch, hviews, hsearched⟩ := h.gives c'.session rfl
  refine ⟨_, hfetch, ?_⟩
  obtain ⟨⟨⟨user', journal', lookahead', stats', hframe⟩, hparsing, hwork⟩, -, hahead, -, hstats⟩ := h
  cases hsearched with
  | mk hview hquiet =>
    exact {
      paired := ⟨⟨_, _, _, _, by rw [hframe]; rfl⟩, hparsing.trans hview.symm, hwork.trans hquiet.symm⟩
      lexer := rfl
      view := hviews.symm
      lookahead := hahead
      stats := hstats }

/-- A parse that needs the token ahead to choose its action is trailed as before once it has it. If
it had to be fetched, the other parse is behind from here on; if it was ahead already, nothing
changes between the two. -/
theorem Trails.ahead (h : e.Trails lexing parsing c c') (apart : e.actions.Apart lexing parsing)
    {state : StateId} {action : Action} (free : e.table.defaultReduction? state = none)
    (chosen : e.chooseAction state c = .ok (action, c₁))
    (judged : e.Judged lexing parsing c₁.session) :
    ∃ token, c₁.session.lookahead = some token ∧ action = e.table.action state token.symbol ∧
      e.Trails lexing parsing c₁ c' := by
  unfold chooseAction at chosen
  rw [free] at chosen
  dsimp only at chosen
  cases hahead : c.session.lookahead with
  | some token =>
    rw [hahead] at chosen
    cases chosen
    exact ⟨token, hahead, rfl, h⟩
  | none =>
    rw [hahead] at chosen
    rcases h with hlevel | ⟨token, errors, hbehind⟩
    · cases hfetch : e.fetch c with
      | error halt => rw [hfetch] at chosen; cases chosen
      | ok r =>
        rw [hfetch] at chosen
        cases chosen
        obtain ⟨errors, hbehind⟩ := fetch_behind apart hlevel hahead hfetch judged
        exact ⟨r.1, rfl, rfl, .inr ⟨r.1, errors, hbehind⟩⟩
    · rw [hbehind.ahead] at hahead; cases hahead

/-- A parse that trails another one is level with it once it has the token ahead, too. -/
theorem Trails.catchUp (h : e.Trails lexing parsing c c') {state : StateId} {token : Token}
    (ahead : c.session.lookahead = some token)
    (free : e.table.withDerived.defaultReduction? state = none) :
    ∃ c₁', e.withDerived.chooseAction state c' = .ok (e.table.action state token.symbol, c₁') ∧
      Level lexing parsing c c₁' := by
  unfold chooseAction
  rw [withDerived_table, withDerived_fetch, free]
  dsimp only
  rcases h with hlevel | ⟨token', errors, hbehind⟩
  · rw [← hlevel.lookahead, ahead]
    exact ⟨c', rfl, hlevel⟩
  · obtain ⟨c₁', hfetch, hlevel⟩ := hbehind.fetch
    cases hbehind.ahead.symm.trans ahead
    rw [hbehind.absent, hfetch]
    exact ⟨_, rfl, hlevel⟩

/-- With derived defaults a parse chooses the same action as without, unless that is to recover. It may
not have looked ahead for a reduction; for any other action the two parses are level. -/
theorem chooseAction_trails (apart : e.actions.Apart lexing parsing) {state : StateId}
    {action : Action} (h : e.Trails lexing parsing c c')
    (chosen : e.chooseAction state c = .ok (action, c₁)) (fit : action ≠ .error)
    (judged : e.Judged lexing parsing c₁.session) :
    ∃ c₁', e.withDerived.chooseAction state c' = .ok (action, c₁') ∧
      e.Trails lexing parsing c₁ c₁' ∧
      ((∀ number, action ≠ .reduce number) → Level lexing parsing c₁ c₁') := by
  rcases e.table.defaultReduction?_withDerived state with hsame | ⟨hnone, number, hderived, hrow⟩
  · cases hdefault : e.table.defaultReduction? state with
    | some number =>
      unfold chooseAction at chosen ⊢
      rw [hdefault] at chosen
      rw [withDerived_table, hsame, hdefault]
      cases chosen
      exact ⟨c', rfl, h, fun hother => absurd rfl (hother number)⟩
    | none =>
      -- Neither parser has a default here: both have the token ahead to choose by.
      obtain ⟨token, hahead, haction, htrails⟩ := h.ahead apart hdefault chosen judged
      obtain ⟨c₁', hchosen', hlevel⟩ := htrails.catchUp hahead (hsame.trans hdefault)
      exact ⟨c₁', haction ▸ hchosen', .inl hlevel, fun _ => hlevel⟩
  · obtain ⟨token, -, haction, htrails⟩ := h.ahead apart hnone chosen judged
    -- The row is one reduction throughout: that is the action, whatever the token.
    have hreduce := hrow token.symbol (haction ▸ fit)
    refine ⟨c', ?_, htrails, fun hother => absurd (haction.trans hreduce) (hother number)⟩
    unfold chooseAction
    rw [withDerived_table, hderived, haction, hreduce]

/-! ## Steps and runs -/

/-- A recovery that was not made by the end was not made on the way. -/
theorem recoveries_of_suffix {journal later : List (ParserEvent V)}
    (suffix : landmarks journal <:+ landmarks later) (h : recoveries later = []) :
    recoveries journal = [] := by
  have hrecoveries : recoveries (landmarks journal) <:+ recoveries (landmarks later) :=
    suffix.filterMap _
  rw [recoveries_landmarks, recoveries_landmarks, h] at hrecoveries
  exact List.suffix_nil.mp hrecoveries

/-- A recovery is seen in the journal. -/
theorem recoveries_ne_nil {state : StateId} (chosen : Chooses e c.session state .error)
    (recovered : e.recover state c = .ok c₁) : recoveries c₁.session.journal ≠ [] := by
  obtain ⟨s, -, hresumes⟩ := recover_ok chosen recovered
  generalize c₁.session = t at hresumes
  cases hresumes with
  | mk => exact List.cons_ne_nil _ _

/-- Two ends of parses with the same result, after the same shifts and reductions, with the same
counts. -/
structure SameEnd (halt halt' : Halt σ V ε) : Prop where
  stop : halt'.stop = halt.stop
  lexer : halt'.config.lexer = halt.config.lexer
  work : workEvents halt'.config.session.journal = workEvents halt.config.session.journal
  stats : halt'.config.session.stats = halt.config.session.stats

/-- A parse and the one that trails it are paired. -/
theorem Trails.paired (h : e.Trails lexing parsing c c') :
    Paired parsing c.session c'.session := by
  rcases h with hlevel | ⟨_, _, hbehind⟩
  · exact hlevel.paired
  · exact hbehind.paired

/-- Paired sessions have the same stack. -/
theorem Paired.stack {s s' : Session σ V} (h : Paired parsing s s') : s'.stack = s.stack := by
  obtain ⟨_, _, _, _, rfl⟩ := h.frame
  rfl

/-- Events that are neither shifts nor reductions make no difference. -/
theorem Paired.note {s s' : Session σ V} (h : Paired parsing s s') {event event' : ParserEvent V}
    (idle : workEvents [event] = []) (idle' : workEvents [event'] = []) :
    Paired parsing (s.note event) (s'.note event') := by
  obtain ⟨⟨user, journal, lookahead, stats, rfl⟩, hview, hwork⟩ := h
  refine ⟨⟨_, _, _, _, rfl⟩, hview, ?_⟩
  have hcons (event : ParserEvent V) (journal : List (ParserEvent V)) :
      workEvents (event :: journal) = workEvents [event] ++ workEvents journal :=
    List.filter_append [event] journal
  dsimp only [Session.note] at hwork ⊢
  rw [hcons event, hcons event', idle, idle', hwork]

theorem Level.note (h : Level lexing parsing c c') (event event' : ParserEvent V)
    (idle : workEvents [event] = []) (idle' : workEvents [event'] = []) :
    Level lexing parsing (c.note event) (c'.note event') :=
  { h with paired := h.paired.note idle idle' }

theorem Trails.note (h : e.Trails lexing parsing c c') (event event' : ParserEvent V)
    (idle : workEvents [event] = []) (idle' : workEvents [event'] = []) :
    e.Trails lexing parsing (c.note event) (c'.note event') := by
  rcases h with hlevel | ⟨token, errors, hbehind⟩
  · exact .inl (hlevel.note event event' idle idle')
  · exact .inr ⟨token, errors, { hbehind with paired := hbehind.paired.note idle idle' }⟩

section
variable [Inhabited V]

/-- With derived defaults a parse shifts and reduces as without. A reduction does not ask for the
token ahead, so it may be done by a parse that is behind; for a shift the two have to be level. -/
theorem perform_trails (apart : e.actions.Apart lexing parsing) {state : StateId} {action : Action}
    (h : e.Trails lexing parsing c c')
    (level : (∀ number, action ≠ .reduce number) → Level lexing parsing c c')
    (fit : action ≠ .error) (performed : e.perform state c action = .ok c₁) :
    ∃ c₁', e.withDerived.perform state c' action = .ok c₁' ∧ e.Trails lexing parsing c₁ c₁' := by
  cases action with
  | shift target =>
    have hshifts := shift_level (e := e) apart target
      ((level nofun).note (.shifting target) (.shifting target) rfl rfl)
    rw [show e.shift target (c.note (.shifting target)) = .ok c₁ from performed] at hshifts
    generalize hsecond : e.shift target (c'.note (.shifting target)) = second at hshifts
    cases hshifts with
    | ok hlevel => exact ⟨_, hsecond, .inl hlevel⟩
  | reduce number =>
    have hnoted := h.note (.reducing number) (.reducing number) rfl rfl
    have hreduces := reduce_paired apart number hnoted.paired
    rw [show e.reduce number (c.note (.reducing number)) = .ok c₁ from performed] at hreduces
    generalize hsecond : e.reduce number (c'.note (.reducing number)) = second at hreduces
    cases hreduces with
    | ok hreduced => exact ⟨_, hsecond, hnoted.reduced hreduced.1 hreduced.2.1 hreduced.2.2⟩
  | accept =>
    unfold perform at performed
    dsimp only at performed
    split at performed <;> cases performed
  | error => exact absurd rfl fit
  | ambiguous number => cases performed
  | goto target => cases performed

/-- Level parses accept alike. -/
theorem accept_level {state : StateId} {halt : Halt σ V ε} {value : V}
    (h : Level lexing parsing c c') (performed : e.perform state c .accept = .error halt)
    (accepted : halt.stop = .accepted value) :
    ∃ halt', e.withDerived.perform state c' .accept = .error halt' ∧ SameEnd halt halt' := by
  obtain ⟨lexer, s⟩ := c
  obtain ⟨lexer', s'⟩ := c'
  obtain ⟨⟨⟨user', journal', lookahead', stats', hframe⟩, -, hwork⟩, hlexer, -, -, hstats⟩ := h
  dsimp only at hframe hwork hlexer hstats
  subst hframe
  unfold perform at performed ⊢
  dsimp only [Config.note, Config.update, Session.note] at performed ⊢
  cases hstack : s.stack with
  | nil => rw [hstack] at performed; cases performed; cases accepted
  | cons slot rest =>
    rw [hstack] at performed
    cases performed
    exact ⟨_, rfl, rfl, hlexer.symm, hwork.symm, hstats.symm⟩

/-- A step of a parse that does not recover is one of the parse that trails it. -/
theorem step_trails (apart : e.actions.Apart lexing parsing) (h : e.Trails lexing parsing c c')
    (stepped : e.step c = .ok c₁) (unrecovered : recoveries c₁.session.journal = [])
    (judged : e.Judged lexing parsing c₁.session) :
    ∃ c₁', e.withDerived.step c' = .ok c₁' ∧ e.Trails lexing parsing c₁ c₁' := by
  rcases e.step_chooses c with ⟨halt, hfails, -⟩ | ⟨state, action, cₐ, htop, hknown, hchoose⟩
  · rw [hfails] at stepped; cases stepped
  · rw [step_chosen htop hknown hchoose] at stepped
    have hchosen := (chooseAction_ok htop hknown hchoose).2.note
      (.atState cₐ.session.stack cₐ.session.lookahead)
    have hfit : action ≠ .error := by
      rintro rfl
      exact recoveries_ne_nil hchosen stepped unrecovered
    have hsuffix := perform_suffix hchosen
    rw [stepped] at hsuffix
    obtain ⟨cₐ', hchoose', htrails, hlevel⟩ :=
      chooseAction_trails apart h hchoose hfit (judged.mono hsuffix)
    rw [step_chosen (e := e.withDerived) (h.paired.stack ▸ htop) hknown hchoose']
    exact perform_trails apart
      (htrails.note _ (.atState cₐ'.session.stack cₐ'.session.lookahead) rfl rfl)
      (fun hother => (hlevel hother).note _ _ rfl rfl) hfit stepped

/-- Only the action to accept accepts. -/
theorem accept_of_perform {state : StateId} {action : Action} {halt : Halt σ V ε} {value : V}
    (chosen : Chooses e c.session state action) (performed : e.perform state c action = .error halt)
    (accepted : halt.stop = .accepted value) : action = .accept := by
  cases action with
  | accept => rfl
  | shift target => exact absurd performed (shift_ne_error (chosen.note _))
  | reduce number => exact absurd accepted ((reduce_error (chosen.note _) performed).2 value)
  | error =>
    obtain ⟨-, -, -, hstop⟩ := recover_error chosen performed
    exact absurd accepted (hstop value)
  | ambiguous number => cases performed; cases accepted
  | goto target => cases performed; cases accepted

/-- The step that accepts the input is one of the parse that trails it. -/
theorem step_accepts (apart : e.actions.Apart lexing parsing) {halt : Halt σ V ε} {value : V}
    (h : e.Trails lexing parsing c c') (stepped : e.step c = .error halt)
    (accepted : halt.stop = .accepted value) (judged : e.Judged lexing parsing halt.config.session) :
    ∃ halt', e.withDerived.step c' = .error halt' ∧ SameEnd halt halt' := by
  rcases e.step_chooses c with ⟨halt', hfails, hstop⟩ | ⟨state, action, cₐ, htop, hknown, hchoose⟩
  · rw [hfails] at stepped
    cases stepped
    exact absurd accepted (hstop value)
  · rw [step_chosen htop hknown hchoose] at stepped
    have hchosen := (chooseAction_ok htop hknown hchoose).2.note
      (.atState cₐ.session.stack cₐ.session.lookahead)
    have hsuffix := perform_suffix hchosen
    rw [stepped] at hsuffix
    obtain rfl : action = .accept := accept_of_perform hchosen stepped accepted
    obtain ⟨cₐ', hchoose', -, hlevel⟩ :=
      chooseAction_trails apart h hchoose nofun (judged.mono hsuffix)
    rw [step_chosen (e := e.withDerived) (h.paired.stack ▸ htop) hknown hchoose']
    exact accept_level (e := e)
      ((hlevel nofun).note _ (.atState cₐ'.session.stack cₐ'.session.lookahead) rfl rfl)
      stepped accepted

/-- A parse that accepts its input without a recovery, and whose verdicts on unrecognized input, if
there are any, are the lexer's. -/
structure Correct (e : Engine σ V ε) (lexing : σ → α) (parsing : σ → β) (halt : Halt σ V ε) :
    Prop where
  accepted : ∃ value, halt.stop = .accepted value
  unrecovered : recoveries halt.config.session.journal = []
  judged : e.Judged lexing parsing halt.config.session

/-- A parse with derived defaults trails the parse without, as long as that is correct. -/
theorem trails_simulation (apart : e.actions.Apart lexing parsing) :
    Simulation e e.withDerived (e.Trails lexing parsing) (e.Correct lexing parsing) SameEnd where
  go {c c' c₁ fuel} h hstep correct :=
    step_trails apart h hstep (recoveries_of_suffix (e.run_suffix fuel c₁) correct.unrecovered)
      (correct.judged.mono (e.run_suffix fuel c₁))
  stop h hstep correct := by
    obtain ⟨value, haccepted⟩ := correct.accepted
    exact step_accepts apart h hstep haccepted correct.judged
  out _ correct := by
    obtain ⟨value, haccepted⟩ := correct.accepted
    cases haccepted

/-- Derived defaults keep correct parses: if a parse with a table that is built without them accepts
its input and does not recover, then the table with them can be built, and the parse with it accepts
with the same value, after the same shifts and reductions with all that is handed to the actions,
and with the same counts. The lexer's side of the actions and the parser's are to be apart. If the
parse came to unrecognized input, the verdict on it is the lexer's: it is handed the stack, too, and
with derived defaults more of the stack may have been reduced by then. Reference:
`GrammarTableBuilder::derive_default_actions`. -/
theorem derived_defaults_keep_parses {declarations : List Declaration}
    (built : Table.build (declarations ++ [.deriveDefaults false]) = .ok e.table)
    (apart : e.actions.Apart lexing parsing) {fuel : Nat} {input : String} {c : Config σ V}
    {value : V} (accepted : (e.run fuel (c.reset input)).stop = .accepted value)
    (unrecovered : recoveries (e.run fuel (c.reset input)).config.session.journal = [])
    (verdicts : (∃ info, .reported info ∈ (e.run fuel (c.reset input)).config.session.journal) →
      e.VerdictsApart lexing parsing) :
    ∃ derived, Table.build (declarations ++ [.deriveDefaults true]) = .ok derived ∧
      let first := e.run fuel (c.reset input)
      let second := { e with table := derived }.run fuel (c.reset input)
      second.stop = .accepted value ∧
      workEvents second.config.session.journal = workEvents first.config.session.journal ∧
      second.config.session.stats = first.config.session.stats := by
  have hstart : e.Trails lexing parsing (c.reset input) (c.reset input) :=
    .inl ⟨⟨⟨_, _, _, _, rfl⟩, rfl, rfl⟩, rfl, rfl, rfl, rfl⟩
  have hend := (trails_simulation apart).run hstart ⟨⟨value, accepted⟩, unrecovered, verdicts⟩
  exact ⟨e.table.withDerived, Table.build_withDerived built, hend.stop.trans accepted, hend.work,
    hend.stats⟩

end

end

end Engine

end

/-! ## The calculator -/

namespace Calculator

/-- What is noted of a parse but for the number of comments, which is the lexer's. -/
def noted (context : Context) : List Diagnostic × List String := (context.diagnostics, context.skipped)

/-- The rules of the calculator's lexer count comments at most. -/
theorem noted_ruleAction (rule : RuleId) (lexer : Lexer) (context : Context) :
    noted (ruleAction rule lexer context).2.2 = noted context := by
  unfold ruleAction
  split
  all_goals first
    | rfl
    | (split <;> rfl)

/-- The rules of the calculator's lexer count comments, and its productions list what was skipped. -/
theorem actions_apart : actions.Apart (·.comments) (·.skipped) where
  rule := rules_see_comments
  rule_parsing rule lexer user := congrArg (·.2) (noted_ruleAction rule lexer user)
  tokenValue token user user' h := ⟨rfl, h⟩
  tokenValue_lexing token user := rfl
  reduce reduction user user' h := by
    simp only [actions, productionAction]
    split
    · exact ⟨rfl, by rw [h]⟩
    · exact ⟨rfl, h⟩
  reduce_lexing reduction user := by
    simp only [actions, productionAction]
    split <;> rfl

/-- What the calculator notes of an error is seen by neither side, and it goes on after unrecognized
input whatever is on the stack. -/
theorem verdicts_apart (calculator : Calculator) (length : Nat) :
    (calculator.engine length).VerdictsApart (·.comments) (·.skipped) where
  resume info stack stack' user user' _ h := by
    have hrecoverable : info.recoverable = true := by
      cases hinfo : info.recoverable with
      | true => rfl
      | false => cases (if_neg (Bool.eq_false_iff.mp hinfo)).symm.trans h
    exact if_pos hrecoverable
  lexing info stack stack' user user' h := h
  parsing info stack user := rfl

/-- The terminals that may follow the left-hand side of a production, for which the looking
calculator reduces. -/
def followers : ProductionId → List String
  | Production.exprAdd | Production.exprSub | Production.exprNumber => ["';'", "'+'", "'-'"]
  | _ => ["$end", "error", "NUM"]

/-- The calculator's grammar with the entries that its default reductions stand for. -/
def lookingDeclarations : List Declaration :=
  declarations.flatMap fun
    | .defaultReduce state number =>
      (followers number).map fun symbol => .reduce state symbol number
    | declaration => [declaration]

/-- The calculator that looks ahead before each reduction: its table has cells where the other one
has defaults. -/
def looking : Calculator :=
  { tolerant with
    table := (Table.build (lookingDeclarations ++ [.deriveDefaults false])).toOption.get
      (by decide +kernel) }

/-- An input with a line that the lexer does not recognize: with derived defaults, too, the first line
is reduced and the second one is skipped. -/
theorem same_parse_of_skipped_line :
    accepted? looking "1;#;" = some (.lines [some 1, none]) ∧
    recoveries (evaluation looking "1;#;").config.session.journal = [] ∧
    ∃ derived, Table.build (lookingDeclarations ++ [.deriveDefaults true]) = .ok derived ∧
      let first := evaluation looking "1;#;"
      let second := evaluation { looking with table := derived } "1;#;"
      second.stop = .accepted (.lines [some 1, none]) ∧
      workEvents second.config.session.journal = workEvents first.config.session.journal ∧
      second.config.session.stats = first.config.session.stats := by
  have haccepted : accepted? looking "1;#;" = some (.lines [some 1, none]) := by decide +kernel
  have hunrecovered : recoveries (evaluation looking "1;#;").config.session.journal = [] := by
    decide +kernel
  have hbuilt : Table.build (lookingDeclarations ++ [.deriveDefaults false]) = .ok looking.table :=
    eq_ok_get (by decide +kernel)
  exact ⟨haccepted, hunrecovered,
    Engine.derived_defaults_keep_parses (e := looking.engine 4) hbuilt actions_apart
      (evaluation_stop haccepted) hunrecovered fun _ => verdicts_apart looking 4⟩

/-! ## Verdicts on the parser's side

A verdict on unrecognized input that belongs to the parser's side, as the actions of productions do, is
asked for at another time under derived defaults: more of the stack may have been reduced. -/

/-- A computation over a context that neither sees nor changes the number of comments. -/
def LeavesComments {α : Type} (f : Context → α × Context) : Prop :=
  ∀ context comments, f { context with comments } = ((f context).1, { (f context).2 with comments })

section
variable {α : Type} {f : Context → α × Context}

theorem LeavesComments.noted (h : LeavesComments f) {context context' : Context}
    (same : noted context = noted context') :
    (f context).1 = (f context').1 ∧ Calculator.noted (f context).2 = Calculator.noted (f context').2 := by
  obtain ⟨diagnostics, comments, skipped⟩ := context
  obtain ⟨diagnostics', comments', skipped'⟩ := context'
  cases same
  have hsame := h ⟨diagnostics, comments, skipped⟩ comments'
  dsimp only at hsame
  rw [hsame]
  exact ⟨rfl, rfl⟩

theorem LeavesComments.comments (h : LeavesComments f) (context : Context) :
    (f context).2.comments = context.comments :=
  congrArg (·.2.comments) (h context context.comments)

end

/-- The actions of the calculator with other ones for productions and errors. -/
def actionsWith (reduce : Reduction Value → Context → Except Fault (Yield Value) × Context)
    (judge : ErrorInfo Value → Context → Option (Verdict Value Fault) × Context) :
    Actions Context Value Fault :=
  { actions with reduce, judge }

/-- Their sides are apart if the actions of productions leave the number of comments alone. -/
theorem actionsWith_apart {reduce : Reduction Value → Context → Except Fault (Yield Value) × Context}
    {judge : ErrorInfo Value → Context → Option (Verdict Value Fault) × Context}
    (reduces : ∀ reduction, LeavesComments (reduce reduction)) :
    (actionsWith reduce judge).Apart (·.comments) noted where
  rule := rules_see_comments
  rule_parsing := noted_ruleAction
  tokenValue _ _ _ h := ⟨rfl, h⟩
  tokenValue_lexing _ _ := rfl
  reduce reduction _ _ h := (reduces reduction).noted h
  reduce_lexing reduction user := (reduces reduction).comments user

theorem productionAction_leavesComments (reduction : Reduction Value) :
    LeavesComments (productionAction reduction) := by
  intro context comments
  unfold productionAction
  split <;> rfl

/-- Ends a parse at an error that is found behind no more than two slots. -/
def judgeByStack (info : ErrorInfo Value) (context : Context) :
    Option (Verdict Value Fault) × Context :=
  (if info.stack.length ≤ 2 then some (.answer .nothing) else none, context)

/-- Gives a line the number of errors so far for its value. -/
def reduceByErrors (reduction : Reduction Value) (context : Context) :
    Except Fault (Yield Value) × Context :=
  if reduction.production = Production.lineExpr then
    (.ok { value := some (.number context.diagnostics.length) }, context)
  else productionAction reduction context

theorem reduceByErrors_leavesComments (reduction : Reduction Value) :
    LeavesComments (reduceByErrors reduction) := by
  intro context comments
  unfold reduceByErrors
  split
  · rfl
  · exact productionAction_leavesComments reduction context comments

/-- Notes a text for each line with a sum, where the verdict on unrecognized input can read it. -/
def reduceNoting (reduction : Reduction Value) (context : Context) :
    Except Fault (Yield Value) × Context :=
  let (result, context) := productionAction reduction context
  (result,
    if reduction.production = Production.lineExpr then
      { context with skipped := context.skipped ++ ["line"] }
    else context)

theorem reduceNoting_leavesComments (reduction : Reduction Value) :
    LeavesComments (reduceNoting reduction) := by
  intro context comments
  unfold reduceNoting
  rw [productionAction_leavesComments]
  dsimp only
  split <;> rfl

/-- Ends a parse at an error that is found behind a line whose text is noted. -/
def judgeByNotes (_ : ErrorInfo Value) (context : Context) : Option (Verdict Value Fault) × Context :=
  (if context.skipped.isEmpty then none else some (.answer .nothing), context)

/-- The value that a parse ends with, and whether the input was accepted. -/
def ending? : Stop Value Fault → Option (Value × Bool)
  | .accepted value => some (value, true)
  | .answered value => some (value, false)
  | .failed _ | .exhausted => none

/-- The table of the calculator that looks ahead, with derived defaults. Reference:
`GrammarTableBuilder::derive_default_actions`. -/
def derivedTable : Table :=
  (Table.build (lookingDeclarations ++ [.deriveDefaults true])).toOption.get (by decide +kernel)

/-- The parse of a line and of a second one that the lexer does not recognize, with a table. -/
def parseWith (actions : Actions Context Value Fault) (table : Table) : Halt Context Value Fault :=
  { looking.engine 4 with table, actions }.run (stepLimit 4) (looking.config.reset "1;#;")

/-- Actions whose sides are apart, the verdicts being on the parser's side, with which the parse is correct
and ends in another way under derived defaults. -/
structure Spoils (reduce : Reduction Value → Context → Except Fault (Yield Value) × Context)
    (judge : ErrorInfo Value → Context → Option (Verdict Value Fault) × Context)
    (kept : Value) (changed : Value × Bool) : Prop where
  apart : (actionsWith reduce judge).Apart (·.comments) noted
  judges : ∀ info, LeavesComments (judge info)
  accepted : ending? (parseWith (actionsWith reduce judge) looking.table).stop = some (kept, true)
  unrecovered :
    recoveries (parseWith (actionsWith reduce judge) looking.table).config.session.journal = []
  changed : ending? (parseWith (actionsWith reduce judge) derivedTable).stop = some changed

/-- The verdict on unrecognized input may not depend on the stack, nor on what productions note, nor
may productions see what it notes: in each of these ways a correct parse is another one with derived
defaults, though the lexer's side and the parser's are apart. Reference: `Routed::lex_error`, which
fills in the stacks. -/
theorem verdicts_spoil_derived_defaults :
    Table.build (lookingDeclarations ++ [.deriveDefaults false]) = .ok looking.table ∧
    Table.build (lookingDeclarations ++ [.deriveDefaults true]) = .ok derivedTable ∧
    Spoils productionAction judgeByStack (.lines [some 1, none]) (.nothing, false) ∧
    Spoils reduceByErrors actions.judge (.lines [some 1, none]) (.lines [some 0, none], true) ∧
    Spoils reduceNoting judgeByNotes (.lines [some 1, none]) (.nothing, false) := by
  refine ⟨eq_ok_get (by decide +kernel), eq_ok_get _,
    ⟨actionsWith_apart productionAction_leavesComments, fun _ _ _ => rfl, ?_, ?_, ?_⟩,
    ⟨actionsWith_apart reduceByErrors_leavesComments, fun _ _ _ => rfl, ?_, ?_, ?_⟩,
    ⟨actionsWith_apart reduceNoting_leavesComments, fun _ _ _ => rfl, ?_, ?_, ?_⟩⟩
  all_goals decide +kernel

end Calculator

end ShiftReduce
