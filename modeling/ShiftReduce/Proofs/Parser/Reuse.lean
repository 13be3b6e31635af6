import ShiftReduce.Proofs.Parser.Calls
import ShiftReduce.Proofs.Parser.Invariant
import ShiftReduce.Proofs.Calculator.Construction

/-!
# Parsers that are used again

A parser is used for one input after the other. A parse starts from a clean state, whatever the parses
before it have left behind in the lexer and the session; what goes on are the counts and the lexer's
rules. Actions whose answers depend on neither what was counted before nor anything else that they keep
to themselves (`Actions.Reusable`) therefore make the same of an input in a parser that was used as in
one that is new (`Engine.used_as_new`).
-/

namespace ShiftReduce

/-! ## The rules of a lexer stay -/

section
variable {τ ε φ : Type}

/-- A host whose actions and answers leave a lexer its rules. Reference: `Lexer::data`, which no
method replaces. -/
structure LexerHost.KeepsRules (host : LexerHost τ ε φ) : Prop where
  action : ∀ rule lexer t, (host.action rule lexer t).2.1.rules = lexer.rules
  stuck : ∀ info lexer t, (host.stuck info lexer t).2.1.rules = lexer.rules

namespace Lexer

variable {host : LexerHost τ ε φ}

theorem input_rules (lexer : Lexer) : lexer.input.2.rules = lexer.rules := by
  unfold input
  split <;> rfl

theorem afterReject_rules (lexer saved : Lexer) : (lexer.afterReject saved).rules = lexer.rules := by
  unfold afterReject
  dsimp only
  split <;> rfl

theorem reopen_rules (lexer : Lexer) : lexer.reopen.rules = lexer.rules := by
  unfold reopen
  split <;> rfl

theorem fire_rules (keeps : host.KeepsRules) (lexer : Lexer) (t : τ) (rule : RuleId) (length : Nat) :
    (lexer.fire host t rule length).2.1.rules = lexer.rules := by
  have hacted := keeps.action rule (lexer.consume length)
    (host.note (.matched ((lexer.consume length).topCondition 0) rule
      (((lexer.consume length).rules.rules[rule]?.map (·.source)).getD "")
      (lexer.consume length).matchedText) t)
  simp only [fire]
  generalize host.action rule (lexer.consume length) _ = acted at hacted ⊢
  obtain ⟨_ | emitted, after, t'⟩ := acted
  · exact hacted
  · dsimp only at hacted ⊢
    split
    · exact (afterReject_rules after lexer).trans hacted
    · cases emitted with
      | some symbol => exact (reopen_rules after).trans hacted
      | none =>
        dsimp only
        split <;> exact (reopen_rules after).trans hacted

theorem tryAll_rules (keeps : host.KeepsRules) (candidates : List Candidate) (lexer : Lexer) (t : τ) :
    (tryAll host candidates lexer t).2.1.rules = lexer.rules := by
  induction candidates generalizing lexer t with
  | nil =>
    simp only [tryAll, unmatched]
    split <;> rfl
  | cons candidate others ih =>
    have hfired := fire_rules keeps lexer t candidate.1 candidate.2
    simp only [tryAll]
    generalize lexer.fire host t candidate.1 candidate.2 = fired at hfired ⊢
    obtain ⟨trial, next, t'⟩ := fired
    cases trial with
    | token token => exact hfired
    | skip => exact hfired
    | failed reason => exact hfired
    | rejected =>
      dsimp only
      split
      · exact (ih next t').trans hfired
      · exact hfired

theorem scan_rules (keeps : host.KeepsRules) (lexer : Lexer) (t : τ) :
    (lexer.scan host t).2.1.rules = lexer.rules := by
  unfold scan
  split
  · rfl
  · exact tryAll_rules keeps _ lexer.beginScan.activate.2 t

theorem resolve_rules (keeps : host.KeepsRules) (lexer : Lexer) (t : τ) (info : Unrecognized) :
    (lexer.resolve host t info).2.1.rules = lexer.rules := by
  have hanswered := keeps.stuck info lexer (host.note (.unrecognized lexer.offset) t)
  unfold resolve
  dsimp only
  split
  · exact (input_rules _).trans hanswered
  · exact hanswered

/-- A search for a token leaves a lexer its rules. Reference: `Lexer::lex`. -/
theorem lex_rules (keeps : host.KeepsRules) (limit : Nat) (lexer : Lexer) (t : τ) :
    (lexer.lex host limit t).2.1.rules = lexer.rules := by
  induction limit generalizing lexer t with
  | zero => rfl
  | succ limit ih =>
    have hscanned := scan_rules keeps lexer t
    simp only [lex]
    generalize lexer.scan host t = scanned at hscanned ⊢
    obtain ⟨scan, next, t'⟩ := scanned
    cases scan with
    | token token => exact hscanned
    | failed reason => exact hscanned
    | skip => exact (ih next t').trans hscanned
    | stuck info =>
      have hresolved := (resolve_rules keeps next t' info).trans hscanned
      dsimp only
      generalize next.resolve host t' info = resolved at hresolved ⊢
      obtain ⟨_ | _ | symbol, after, t''⟩ := resolved
      · exact hresolved
      · exact (ih after t'').trans hresolved
      · exact hresolved

end Lexer

end

/-! ## Uses of a parser -/

section
variable {σ V ε : Type}

/-- Actions that can be used for one input after the other: the actions of lexer rules do not read what
the lexer has counted, and leave it its rules. -/
structure Actions.Reusable (actions : Actions σ V ε) : Prop where
  counts : ∀ base rule lexer user, actions.rule rule (lexer.countedFrom base) user =
    Lexer.outcomeFrom base id (actions.rule rule lexer user)
  rules : ∀ rule lexer user, (actions.rule rule lexer user).2.1.rules = lexer.rules

/-- A use of a parser: the input, the state in which the actions start, and how many steps and scans for
a token are allowed. -/
structure ParserUse (σ : Type) where
  input : String
  user : σ
  steps : Nat
  scans : Nat

/-- A parser as it is made, with nothing parsed yet. Reference: `Parser::new`. -/
def Config.fresh (rules : LexerRules) (user : σ) : Config σ V := ⟨.new rules, { user }⟩

/-- The call with another lexer, whose counts go on from earlier ones. -/
def ActionCall.countedFrom (base : LexerStats) : ActionCall V → ActionCall V
  | .rule number seen => .rule number (seen.countedFrom base)
  | call => call

/-- The parser with the state in which the actions of a use start. -/
def Config.startedFor (c : Config σ V) (use : ParserUse σ) : Config σ V :=
  c.update fun session => { session with user := use.user }

/-- A parse that continues earlier counts, seen with them and otherwise as it is. -/
def View.counting (c : Config σ V) : View σ σ :=
  { user := id, lexed := c.lexer.stats, parsed := c.session.stats }

/-- A recorded parse that continues earlier counts, seen with them in each call as well. -/
def View.countingCalls (c : Config σ V) :
    View (σ × List (σ × ActionCall V)) (σ × List (σ × ActionCall V)) :=
  { user := Prod.map id (List.map (Prod.map id (·.countedFrom c.lexer.stats)))
    lexed := c.lexer.stats
    parsed := c.session.stats }

/-- Actions that can be used again do the same when earlier counts go on. -/
theorem Actions.Reusable.follows {actions : Actions σ V ε} (h : actions.Reusable) (c : Config σ V) :
    actions.Follows actions (View.counting c) where
  rule rule lexer user := h.counts c.lexer.stats rule lexer user
  tokenValue _ _ := rfl
  reduce _ _ := rfl
  judge _ _ := rfl

/-- Actions that can be used again record the same calls when earlier counts go on. -/
theorem Actions.Reusable.recorded_follows {actions : Actions σ V ε} (h : actions.Reusable)
    (c : Config σ V) : actions.recorded.Follows actions.recorded (View.countingCalls c) where
  rule rule lexer s := by
    simp only [recorded, View.countingCalls, Prod.map, id, h.counts]
    rfl
  tokenValue _ _ := rfl
  reduce _ _ := rfl
  judge _ _ := rfl

/-- A parser that was used starts an input as a new one does, counts aside. -/
theorem Config.reset_used [Inhabited V] {rules : LexerRules} {user : σ} {used : Config σ V}
    (governed : used.lexer.rules = rules) (use : ParserUse σ) :
    (used.startedFor use).reset use.input =
      (((fresh rules user).startedFor use).reset use.input).under (View.counting used) := by
  subst governed
  rfl

/-- A recording of a parser that was used starts an input as that of a new one does, counts aside. -/
theorem Config.reset_used_recorded [Inhabited V] {rules : LexerRules} {user : σ} {used : Config σ V}
    (governed : used.lexer.rules = rules) (use : ParserUse σ) :
    (used.startedFor use).recorded.reset use.input =
      (((fresh rules user).startedFor use).recorded.reset use.input).under
        (View.countingCalls used) := by
  subst governed
  rfl

namespace Engine

/-- The engine for a use, with the scans that the use allows for a token. -/
def allowing (e : Engine σ V ε) (use : ParserUse σ) : Engine σ V ε :=
  { e with scanLimit := use.scans }

variable [Inhabited V]

/-- Uses a parser for one input, with whatever was done to its lexer and its actions' state before.
Reference: `Parser::parse`, `Parser::lexer_mut` and `Parser::driver_mut`. -/
def use (e : Engine σ V ε) (use : ParserUse σ) (c : Config σ V) :
    Outcome V (ParseError V ε) × Config σ V :=
  (e.allowing use).parse use.steps use.input (c.startedFor use)

/-- The calls of the actions that a use of a parser makes. -/
def callsOf (e : Engine σ V ε) (use : ParserUse σ) (c : Config σ V) : List (σ × ActionCall V) :=
  (e.allowing use).calls use.steps use.input (c.startedFor use)

/-- A parser after any number of uses, however each of them ended. -/
def useAll (e : Engine σ V ε) (history : List (ParserUse σ)) (c : Config σ V) : Config σ V :=
  history.foldl (fun c use => (e.use use c).2) c

omit [Inhabited V] in
/-- The host of a parser's lexer leaves it its rules. Reference: `Routed`. -/
theorem lexerHost_keepsRules {e : Engine σ V ε} (h : e.actions.Reusable) :
    e.lexerHost.KeepsRules where
  action rule lexer s := h.rules rule lexer s.user
  stuck _ _ _ := rfl

omit [Inhabited V] in
/-- The rules of its lexer are an invariant of a parse. -/
theorem rules_invariant {e : Engine σ V ε} (h : e.actions.Reusable) (rules : LexerRules) :
    e.Invariant (fun lexer _ => lexer.rules = rules) (fun _ lexer _ => lexer.rules = rules) where
  ends _ _ _ kept := kept
  tokenValue _ _ _ kept := kept
  reduce _ _ _ kept := kept
  judge _ _ _ kept := kept
  resume _ _ _ kept _ _ := kept
  fetch {c} kept := by
    have hlexed := Lexer.lex_rules (lexerHost_keepsRules h) e.scanLimit c.lexer c.session
    unfold fetch
    generalize c.lexer.lex e.lexerHost e.scanLimit c.session = lexed at hlexed ⊢
    obtain ⟨_ | _ | _, lexer, s⟩ := lexed <;> exact hlexed.trans kept

/-- A use of a parser leaves its lexer the rules. -/
theorem use_rules {e : Engine σ V ε} (h : e.actions.Reusable) (use : ParserUse σ) (c : Config σ V) :
    (e.use use c).2.lexer.rules = c.lexer.rules := by
  have hinvariant : (e.allowing use).Invariant (fun lexer _ => lexer.rules = c.lexer.rules)
      (fun _ lexer _ => lexer.rules = c.lexer.rules) :=
    rules_invariant (e := e.allowing use) h _
  exact hinvariant.run (c := (c.startedFor use).reset use.input) use.steps rfl

/-- Any number of uses leave the lexer of a parser its rules. -/
theorem useAll_rules {e : Engine σ V ε} (h : e.actions.Reusable) (history : List (ParserUse σ))
    (c : Config σ V) : (e.useAll history c).lexer.rules = c.lexer.rules := by
  induction history generalizing c with
  | nil => rfl
  | cons use history ih => exact (ih _).trans (use_rules h use c)

/-- **A parser that was used is as good as a new one.** Whatever was parsed before and however it
ended, an input comes to the same outcome, the same state of the actions, the same events and the
same calls of the actions as in a new parser, but for what the lexer has counted; the counts grow by
the same amounts. Nothing is left on the stack, in the record or ahead. Reference: `Parser::parse`,
by `Parser::reset` and `Parser::cleanup`. -/
theorem used_as_new {e : Engine σ V ε} (reusable : e.actions.Reusable) (rules : LexerRules)
    (user : σ) (history : List (ParserUse σ)) (use : ParserUse σ) :
    let fresh : Config σ V := .fresh rules user
    let used := e.useAll history fresh
    let first := e.use use fresh
    let again := e.use use used
    again.1 = first.1 ∧
    again.2.session.user = first.2.session.user ∧
    again.2.session.events = first.2.session.events ∧
    e.callsOf use used =
      (e.callsOf use fresh).map (Prod.map id (·.countedFrom used.lexer.stats)) ∧
    again.2.session.stats = used.session.stats + first.2.session.stats ∧
    again.2.lexer = first.2.lexer.countedFrom used.lexer.stats ∧
    again.2.session.stack = [] ∧ again.2.session.record = {} ∧
    again.2.session.lookahead = none ∧ again.2.session.held = none := by
  intro fresh used first again
  have hrules : used.lexer.rules = rules := useAll_rules reusable history fresh
  have hagain : again = Prod.map id (·.under (View.counting used)) first :=
    parse_under (e := e.allowing use) (reusable.follows used) use.steps
      (Config.reset_used hrules use)
  have hcalls : (e.allowing use).recorded.parse use.steps use.input (used.startedFor use).recorded =
      Prod.map id (·.under (View.countingCalls used))
        ((e.allowing use).recorded.parse use.steps use.input (fresh.startedFor use).recorded) :=
    parse_under (e := (e.allowing use).recorded) (reusable.recorded_follows used) use.steps
      (Config.reset_used_recorded hrules use)
  refine ⟨?_, ?_, ?_, ?_, ?_, ?_, rfl, rfl, rfl, rfl⟩
  · rw [hagain]; rfl
  · rw [hagain]; rfl
  · rw [hagain]; rfl
  · unfold callsOf calls
    rw [hcalls, List.map_reverse]
    rfl
  · rw [hagain]; rfl
  · rw [hagain]; rfl

end Engine

end

/-! ## The calculator is used again -/

namespace Calculator

/-- The calculator's actions can be used again: its rules change the lexer by entering and leaving
comments alone. -/
theorem actions_reusable : actions.Reusable where
  counts base rule lexer context := by
    have hpush : (lexer.countedFrom base).pushCondition commentCondition =
        (lexer.pushCondition commentCondition).map (·.countedFrom base) :=
      Lexer.perform_countedFrom (.push commentCondition) lexer base
    have hpop : (lexer.countedFrom base).popCondition.2 = lexer.popCondition.2.countedFrom base :=
      Except.ok.inj (Lexer.perform_countedFrom .pop lexer base)
    simp only [actions, ruleAction]
    split
    case h_4 =>
      rw [hpush]
      cases lexer.pushCondition commentCondition <;> rfl
    case h_5 => rw [hpop]; rfl
    all_goals rfl
  rules rule lexer context := by
    simp only [actions, ruleAction]
    split
    case h_4 =>
      split
      · next after heq =>
        have hperformed : lexer.perform (.push commentCondition) = .ok after := heq
        exact Lexer.perform_rules hperformed
      · rfl
    case h_5 =>
      have hperformed : lexer.perform .pop = .ok lexer.popCondition.2 := rfl
      exact Lexer.perform_rules hperformed
    all_goals rfl

/-- A history of two inputs: after an error at the end of the first one, the second one ends within a
comment. -/
def history : List (ParserUse Context) :=
  [⟨"1 2;\n3", {}, 1000, 20⟩, ⟨"4 + /* 5", { comments := 4 }, 1000, 20⟩]

/-- The calculator makes the same of a sum after errors, and with its lexer left in a comment. -/
theorem sum_after_history :
    let fresh : Config Context Value := .fresh tolerant.config.lexer.rules {}
    let used := (tolerant.engine 8).useAll history fresh
    (used.lexer.conditions = [commentCondition, initialCondition] ∧ used.session.stats.errors = 2) ∧
      ((tolerant.engine 8).use ⟨"1 + 2;", {}, 1000, 20⟩ used).1 =
        ((tolerant.engine 8).use ⟨"1 + 2;", {}, 1000, 20⟩ fresh).1 :=
  ⟨by decide +kernel, (Engine.used_as_new actions_reusable _ _ history _).1⟩

end Calculator

end ShiftReduce
