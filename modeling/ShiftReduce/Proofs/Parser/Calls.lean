import ShiftReduce.Proofs.Parser.View

/-!
# The calls of a parser's actions

Actions that also write down the calls they get (`Actions.recorded`) answer them as they would without.
Their state with the list of calls left out is a view of a parse, so the parse with the recording
actions has the outcome of the parse itself (`Engine.parse_recorded`), and the calls it writes down are
those that the parse makes (`Engine.calls`).
-/

namespace ShiftReduce

/-- A call of a parser's actions, with what they get to see beside their state. -/
inductive ActionCall (V : Type)
  | rule (rule : RuleId) (seen : Lexer)
  | tokenValue (token : Token)
  | reduce (reduction : Reduction V)
  | judge (info : ErrorInfo V)

section
variable {σ V ε : Type}

/-- Actions that keep a list of the calls they get beside their state: each call with the state in which
it was made, last one first. -/
def Actions.recorded (actions : Actions σ V ε) : Actions (σ × List (σ × ActionCall V)) V ε where
  rule rule lexer s :=
    let (answer, after, user) := actions.rule rule lexer s.1
    (answer, after, user, (s.1, .rule rule lexer) :: s.2)
  tokenValue token s :=
    let (value, user) := actions.tokenValue token s.1
    (value, user, (s.1, .tokenValue token) :: s.2)
  reduce reduction s :=
    let (answer, user) := actions.reduce reduction s.1
    (answer, user, (s.1, .reduce reduction) :: s.2)
  judge info s :=
    let (verdict, user) := actions.judge info s.1
    (verdict, user, (s.1, .judge info) :: s.2)

/-- A parse about to be recorded: no calls of the actions were made yet. -/
def Config.recorded (c : Config σ V) : Config (σ × List (σ × ActionCall V)) V :=
  ⟨c.lexer, { c.session with user := (c.session.user, []) }⟩

/-- What is seen of a recorded parse without the calls that were written down. -/
def View.unrecorded : View (σ × List (σ × ActionCall V)) σ where
  user := Prod.fst

/-- The start of a recorded parse is seen as the start of the parse itself. -/
theorem Config.reset_recorded [Inhabited V] (c : Config σ V) (input : String) :
    c.reset input = (c.recorded.reset input).under View.unrecorded := by
  have hlexed : (c.lexer.setInput input).countedFrom {} = c.lexer.setInput input :=
    Lexer.countedFrom_zero _
  have hparsed : ({} : ParserStats) + c.session.stats = c.session.stats := ParserStats.zero_add _
  simp only [reset, recorded, under, Session.under, View.unrecorded, hlexed, hparsed]

/-- Actions do for a recorded state without its calls what the recording actions do. -/
theorem Actions.follows_recorded (actions : Actions σ V ε) :
    actions.Follows actions.recorded View.unrecorded where
  rule rule lexer s := by
    simp only [recorded, View.unrecorded, Lexer.outcomeFrom, Lexer.countedFrom_zero]
  tokenValue token s := rfl
  reduce reduction s := rfl
  judge info s := rfl

namespace Engine

/-- The engine with recording actions: each call is written down with the state that it was made in.
-/
def recorded (e : Engine σ V ε) : Engine (σ × List (σ × ActionCall V)) V ε :=
  e.withActions e.actions.recorded

variable [Inhabited V]

/-- The calls that a parse makes of its actions in order, each with the state in which it is made. -/
def calls (e : Engine σ V ε) (fuel : Nat) (input : String) (c : Config σ V) :
    List (σ × ActionCall V) :=
  (e.recorded.parse fuel input c.recorded).2.session.user.2.reverse

/-- A parse is its recorded parse without the calls. -/
theorem parse_recorded (e : Engine σ V ε) (fuel : Nat) (input : String) (c : Config σ V) :
    e.parse fuel input c =
      Prod.map id (·.under View.unrecorded) (e.recorded.parse fuel input c.recorded) := by
  have hfollows : e.actions.Follows e.recorded.actions View.unrecorded :=
    e.actions.follows_recorded
  exact parse_under hfollows fuel (c.reset_recorded input)

/-- Recording does not change the outcome of a parse. -/
theorem parse_recorded_outcome (e : Engine σ V ε) (fuel : Nat) (input : String) (c : Config σ V) :
    (e.recorded.parse fuel input c.recorded).1 = (e.parse fuel input c).1 := by
  rw [e.parse_recorded fuel input c]
  rfl

end Engine

end

end ShiftReduce
