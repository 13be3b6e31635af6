import ShiftReduce.Proofs.Calculator.Answering

/-!
# The calculator's parser as a machine

What the calculator's parser does next is told by little: the stage of the line on top of its stack
(`Calculator.Stage`), the token ahead, how long it has been since the last recovery, and what the record
of that recovery holds (`Calculator.Scene`). `Calculator.Scene.Goes` says what it does, case by case: it
reduces, it meets the token ahead, or it looks for one. The stages are tied to the table of the grammar
by three laws: a stage reduces by default (`Calculator.Stage.reduces`) or meets the token ahead
(`Calculator.Stage.meets_action`), and an error cuts it back to its base (`Calculator.Stage.depth_base`).

A scene is fit if a parse can come to it (`Calculator.Scene.Fit`); steps lead from fit scenes to fit
ones (`Calculator.Scene.Fit.goes`). The machine leaves out what does not decide how a parse goes on:
locations, the journal, the counts, and the state of the lexer but for the lexemes to come.
-/

namespace ShiftReduce.Calculator

/-! ## Stages -/

/-- How far a line has been read behind the past ones, with the values that stand on the stack for it. -/
inductive Stage
  /-- The start of the input, where there is no list of lines yet. -/
  | opening
  /-- The start of a line. -/
  | start (past : Lines)
  /-- Behind an error. -/
  | broken (past : Lines) (text : String)
  /-- Behind the semicolon of a line with an error. -/
  | dropped (past : Lines) (text semicolon : String)
  /-- Behind the first number of a line. -/
  | first (past : Lines) (text : String)
  /-- Behind a sum. -/
  | sum (past : Lines) (n : Int)
  /-- Behind the semicolon of a sum. -/
  | summed (past : Lines) (n : Int) (semicolon : String)
  /-- Behind a sign. -/
  | signed (past : Lines) (n : Int) (op : Operator) (sign : String)
  /-- Behind the number of an operation. -/
  | operand (past : Lines) (n : Int) (op : Operator) (sign text : String)
  /-- Behind a line. -/
  | line (past : Lines) (result : Option Int)
deriving DecidableEq

/-- The value of a line: its number, or nothing for a line that was skipped. Reference:
`CalcParserDriver::reduce`. -/
def lineValue : Option Int → Value
  | some n => .number n
  | none => .nothing

/-- The number of a text, or the fault that its reduction fails with. Reference:
`CalcValue::number`. -/
def readNumber (text : String) : Except Fault Int := (Integer.read text).mapError .number

/-- The result of an operation with the number of a text. Reference: `CalcParserDriver::arith`. -/
def combine (n : Int) (op : Operator) (text : String) : Except Fault Int := do
  let m ← readNumber text
  match op.result? n m with
  | some result => return result
  | none => throw (.overflow op n m)

/-- What a token ahead does at a stage that looks at it. -/
inductive Meeting
  /-- A list without lines is opened before it. -/
  | opens
  | shifts (stage : Stage)
  | accepts (lines : Lines)
  | misfits

namespace Stage

/-- The slot on top of the stack at a stage, but for its location. -/
def slot : Stage → SymbolId × StateId × Value
  | opening => bottom
  | start past => listSlot past
  | broken _ text => errorSlot text
  | dropped _ _ semicolon => (Terminal.semicolon, 6, .text semicolon)
  | first _ text => (Terminal.number, 3, .text text)
  | sum _ n => sumSlot n
  | summed _ _ semicolon => (Terminal.semicolon, 7, .text semicolon)
  | signed _ _ op text => signSlot op text
  | operand _ _ op _ text => (Terminal.number, operandState op, .text text)
  | line _ result => (8, 4, lineValue result)

/-- The slots below the top one, top slot first: the line so far, the list and the bottom. -/
def under : Stage → List (SymbolId × StateId × Value)
  | opening => []
  | start _ => [bottom]
  | broken past _ | first past _ | sum past _ | line past _ => [listSlot past, bottom]
  | dropped past text _ => [errorSlot text, listSlot past, bottom]
  | summed past n _ | signed past n _ _ => [sumSlot n, listSlot past, bottom]
  | operand past n op text _ => [signSlot op text, sumSlot n, listSlot past, bottom]

/-- The stack of a stage, top slot first. It has five slots at most. -/
def stack (stage : Stage) : List (SymbolId × StateId × Value) := stage.slot :: stage.under

/-- The state on top of the stack, which alone decides about the token ahead. -/
def state (stage : Stage) : StateId := stage.slot.2.1

/-- The values of the top slots, from the bottom up, as a reduction sees them. -/
def values (stage : Stage) (n : Nat) : List Value := ((stage.stack.take n).map (·.2.2)).reverse

/-- The production that a stage is reduced by, whatever comes next, and the stage behind that. -/
def reduction? : Stage → Option (ProductionId × Except Fault Stage)
  | dropped past _ _ => some (Production.lineError, .ok (line past none))
  | first past text => some (Production.exprNumber, (readNumber text).map (sum past))
  | summed past n _ => some (Production.lineExpr, .ok (line past (some n)))
  | operand past n op _ text => some (op.production, (combine n op text).map (sum past))
  | line past result => some (Production.listAppend, .ok (start (past ++ [result])))
  | _ => none

/-- The stage that an error cuts the stack back to: the lines so far, without the line that is
faulty. Reference: `Parser::recovery_depth`. -/
def base : Stage → Stage
  | opening => opening
  | start past | broken past _ | dropped past _ _ | first past _ | sum past _ | summed past _ _
  | signed past _ _ _ | operand past _ _ _ _ | line past _ => start past

/-- What a token ahead of a symbol and a text does at a stage that is not reduced by default. -/
def meets : Stage → SymbolId × String → Meeting
  | opening, (symbol, _) =>
    if symbol = SymbolId.endOfInput ∨ symbol = SymbolId.error ∨ symbol = Terminal.number then .opens
    else .misfits
  | start past, (symbol, text) =>
    if symbol = SymbolId.endOfInput then .accepts past
    else if symbol = SymbolId.error then .shifts (broken past text)
    else if symbol = Terminal.number then .shifts (first past text)
    else .misfits
  | broken past error, (symbol, text) =>
    if symbol = Terminal.semicolon then .shifts (dropped past error text) else .misfits
  | sum past n, (symbol, text) =>
    if symbol = Terminal.semicolon then .shifts (summed past n text)
    else if symbol = Terminal.plusSign then .shifts (signed past n .plus text)
    else if symbol = Terminal.minusSign then .shifts (signed past n .minus text)
    else .misfits
  | signed past n op sign, (symbol, text) =>
    if symbol = Terminal.number then .shifts (operand past n op sign text) else .misfits
  | _, _ => .misfits

end Stage

/-- The entry of the table for what a token does. Reference: `GrammarTable::action`. -/
def Meeting.action : Meeting → Action
  | opens => .reduce Production.listEmpty
  | shifts stage => .shift stage.state
  | accepts _ => .accept
  | misfits => .error

/-! ## The laws of the table -/

namespace Stage

variable {stage : Stage} {number : ProductionId} {result : Except Fault Stage}
  {bare : SymbolId × String}

/-- The states of the stages are those of the table. -/
theorem hasState (stage : Stage) : grammarTable.hasState stage.state = true := by
  cases stage with
  | signed _ _ op _ => cases op <;> rfl
  | operand _ _ op _ _ => cases op <;> rfl
  | _ => rfl

/-- A reduction. What its production makes of the values stands on the stack behind it, in the place of
the slots that it takes. -/
structure ReducesBy (stage : Stage) (number : ProductionId) (result : Except Fault Stage)
    (production : Production) (below : StateId) : Prop where
  found : grammarTable.production? number = some production
  enough : production.length < stage.stack.length
  value : valueOf number (stage.values production.length) = result.map (·.slot.2.2)
  uncovered : (stage.stack.drop production.length).head?.map (·.2.1) = some below
  behind : ∀ next, result = .ok next → grammarTable.action below production.lhs = .goto next.state ∧
    next.stack = (production.lhs, next.state, next.slot.2.2) :: stage.stack.drop production.length

/-- A stage that is reduced by default is so by the table. Reductions of numbers and operations can
fail over a number; lines and lists cannot. The law is checked for each kind of stage on the table
that is written out. -/
theorem reduces (h : stage.reduction? = some (number, result)) :
    grammarTable.defaultReduction? stage.state = some number ∧
      ∃ production below, stage.ReducesBy number result production below := by
  cases stage with
  | dropped past text semicolon =>
    cases h
    refine ⟨rfl, ⟨8, 2⟩, 1, rfl, (by decide : 2 < 4), rfl, rfl, fun _ h => ?_⟩
    cases h
    exact ⟨rfl, rfl⟩
  | first past text =>
    cases h
    refine ⟨rfl, ⟨9, 1⟩, 1, rfl, (by decide : 1 < 3), ?_, rfl, ?_⟩
    · show (readNumber text).map Value.number = ((readNumber text).map (sum past)).map (·.slot.2.2)
      cases readNumber text <;> rfl
    · intro next h
      cases hread : readNumber text <;> rw [hread] at h <;> cases h
      exact ⟨rfl, rfl⟩
  | summed past n semicolon =>
    cases h
    refine ⟨rfl, ⟨8, 2⟩, 1, rfl, (by decide : 2 < 4), rfl, rfl, fun _ h => ?_⟩
    cases h
    exact ⟨rfl, rfl⟩
  | operand past n op sign text =>
    cases h
    have hdefault : grammarTable.defaultReduction? (operandState op) = some op.production ∧
        grammarTable.production? op.production = some ⟨9, 3⟩ := by
      cases op <;> exact ⟨rfl, rfl⟩
    refine ⟨hdefault.1, ⟨9, 3⟩, 1, hdefault.2, (by decide : 3 < 5), ?_, rfl, ?_⟩
    · refine (valueOf_operation n op sign text).trans ?_
      unfold combine readNumber
      cases (Integer.read text).mapError Fault.number with
      | error fault => rfl
      | ok m =>
        simp only [bind, Except.bind]
        cases op.result? n m <;> rfl
    · intro next h
      cases hcombined : combine n op text <;> rw [hcombined] at h <;> cases h
      exact ⟨rfl, rfl⟩
  | line past result =>
    cases h
    refine ⟨rfl, ⟨7, 2⟩, 0, rfl, (by decide : 2 < 3), ?_, rfl, fun _ h => ?_⟩
    · cases result <;> rfl
    · cases h
      exact ⟨rfl, rfl⟩
  | opening | start | broken | sum | signed => cases h

/-- The stage behind a reduction by default that comes to a value. -/
inductive Reduced : Stage → ProductionId → Stage → Prop
  | errorLine (past : Lines) (text semicolon : String) :
      Reduced (dropped past text semicolon) Production.lineError (line past none)
  | number (past : Lines) (text : String) (n : Int) :
      Reduced (first past text) Production.exprNumber (sum past n)
  | sumLine (past : Lines) (n : Int) (semicolon : String) :
      Reduced (summed past n semicolon) Production.lineExpr (line past (some n))
  | operation (past : Lines) (n m : Int) (op : Operator) (sign text : String) :
      Reduced (operand past n op sign text) op.production (sum past m)
  | append (past : Lines) (result : Option Int) :
      Reduced (line past result) Production.listAppend (start (past ++ [result]))

theorem sum_of_map {past : Lines} {next : Stage} {read : Except Fault Int}
    (h : read.map (sum past) = .ok next) : ∃ n, next = sum past n := by
  cases read with
  | error fault => cases h
  | ok n =>
    cases h
    exact ⟨n, rfl⟩

theorem reduced_of_reduction {next : Stage} (h : stage.reduction? = some (number, .ok next)) :
    Reduced stage number next := by
  cases stage with
  | dropped | summed | line =>
    cases h
    constructor
  | first past text =>
    obtain ⟨rfl, hread⟩ := Prod.mk.inj (Option.some.inj h)
    obtain ⟨n, rfl⟩ := sum_of_map hread
    exact .number past text n
  | operand past n op sign text =>
    obtain ⟨rfl, hcombined⟩ := Prod.mk.inj (Option.some.inj h)
    obtain ⟨m, rfl⟩ := sum_of_map hcombined
    exact .operation past n m op sign text
  | opening | start | broken | sum | signed => cases h

/-- At the start of the input a list without lines is opened. -/
theorem opening_reduces : opening.ReducesBy Production.listEmpty (.ok (start [])) ⟨7, 0⟩ 0 where
  found := rfl
  enough := show 0 < 1 by decide
  value := rfl
  uncovered := rfl
  behind _ h := by
    cases h
    exact ⟨rfl, rfl⟩

/-- No other stage is reduced by default. -/
theorem waits (h : stage.reduction? = none) : grammarTable.defaultReduction? stage.state = none := by
  cases stage with
  | signed _ _ op _ => cases op <;> rfl
  | opening | start | broken | sum => rfl
  | dropped | first | summed | operand | line => cases h

/-- What a terminal does at a stage that is not reduced by default is what the table says. -/
theorem meets_action (h : stage.reduction? = none) (terminal : bare.1 < grammarTable.terminalCount) :
    grammarTable.action stage.state bare.1 = (stage.meets bare).action := by
  obtain ⟨symbol, text⟩ := bare
  have hnumbers : ∀ n : Nat, n < 7 → n = 0 ∨ n = 1 ∨ n = 2 ∨ n = 3 ∨ n = 4 ∨ n = 5 ∨ n = 6 := by
    omega
  have hcases := hnumbers symbol terminal
  cases stage with
  | opening | start | broken | sum =>
    rcases hcases with rfl | rfl | rfl | rfl | rfl | rfl | rfl <;> rfl
  | signed _ _ op _ =>
    cases op <;> rcases hcases with rfl | rfl | rfl | rfl | rfl | rfl | rfl <;> rfl
  | dropped | first | summed | operand | line => cases h

/-- Only at the start of the input a list is opened. -/
theorem eq_opening (h : stage.meets bare = .opens) : stage = opening := by
  cases stage with
  | opening => rfl
  | start | broken | sum | signed => simp only [meets] at h; grind
  | dropped | first | summed | operand | line => cases h

/-- The input is accepted at the start of a line, with the lines for a value. -/
theorem eq_start {lines : Lines} (h : stage.meets bare = .accepts lines) : stage = start lines := by
  cases stage with
  | start past => simp only [meets] at h; grind
  | opening | broken | sum | signed => simp only [meets] at h; grind
  | dropped | first | summed | operand | line => cases h

/-- A token that is shifted puts its symbol and its text on the stack. -/
theorem stack_of_shifts {next : Stage} (h : stage.meets bare = .shifts next) :
    next.stack = (bare.1, next.state, .text bare.2) :: stage.stack := by
  cases stage with
  | opening => simp only [meets] at h; grind
  | start past => simp only [meets] at h; grind [stack, slot, under, state, errorSlot]
  | broken past text => simp only [meets] at h; grind [stack, slot, under, state]
  | sum past n =>
    simp only [meets] at h
    grind [stack, slot, under, state, signSlot, signSymbol, signState]
  | signed past n op sign => simp only [meets] at h; grind [stack, slot, under, state]
  | dropped | first | summed | operand | line => cases h

/-- The nearest state that can take an error is that of the base. -/
theorem depth_base (h : stage.reduction? = none) :
    ∃ depth, (stage.stack.findIdx? fun slot => grammarTable.action slot.2.1 SymbolId.error != .error) =
        some depth ∧ stage.stack.drop depth = stage.base.stack := by
  cases stage with
  | opening | start => exact ⟨0, rfl, rfl⟩
  | broken | sum => exact ⟨1, rfl, rfl⟩
  | signed _ _ op _ => cases op <;> exact ⟨2, rfl, rfl⟩
  | dropped | first | summed | operand | line => cases h

/-- A stage that is reduced by default meets no token. -/
theorem waits_of_meets (h : stage.meets bare ≠ .misfits) : stage.reduction? = none := by
  cases stage with
  | opening | start | broken | sum | signed => rfl
  | dropped | first | summed | operand | line => exact absurd rfl h

/-- The end of the input is not shifted. -/
theorem meets_endOfInput {next : Stage} {text : String} :
    stage.meets (SymbolId.endOfInput, text) ≠ .shifts next := by
  intro h
  cases stage <;> cases h

/-- An error is shifted at the start of a line alone. -/
theorem broken_of_shifts {next : Stage} {text : String}
    (h : stage.meets (SymbolId.error, text) = .shifts next) :
    ∃ past, stage = start past ∧ next = broken past text := by
  cases stage <;> cases h
  exact ⟨_, rfl, rfl⟩

/-- The base takes an error, if need be behind a list that is opened for it. -/
theorem base_meets_error (stage : Stage) {text : String} :
    stage.base.meets (SymbolId.error, text) ≠ .misfits := by
  cases stage <;> nofun

/-- A recovery is made at the base again. -/
theorem base_base (stage : Stage) : stage.base.base = stage.base := by
  cases stage <;> rfl

end Stage

/-! ## Scenes -/

/-- What is ahead of the parser: nothing, a token, or an error token that a recovery put there.
Reference: `Parser::lookahead` and `Parser::pre_error`. -/
inductive Ahead
  | none
  /-- A token of the lexer's. -/
  | token (token : Token)
  /-- An error token that a recovery made for a token of some text. That token is held back, unless it is
  an error token of the lexer's. -/
  | made (text : String) (held : Option Token)

namespace Ahead

/-- The symbol and the text of the token ahead, which is all that a step sees of it. -/
def bare? : Ahead → Option (SymbolId × String)
  | none => .none
  | token t => some t.bare
  | made text _ => some (SymbolId.error, text)

/-- The symbol and the text of the lexer's token that is ahead or held back. -/
def unread : Ahead → List (SymbolId × String)
  | none => []
  | token t => [t.bare]
  | made text .none => [(SymbolId.error, text)]
  | made _ (some t) => [t.bare]

end Ahead

/-- What there is to be seen of a parse: how far a line has been read, what is ahead, what the last
recovery has left, and what comes. -/
structure Scene where
  stage : Stage
  ahead : Ahead
  /-- How many tokens are to be shifted before the parser is over the last error. -/
  recovering : Nat
  /-- The token at which the last error was found. -/
  offending : Option Token
  /-- The tokens thrown away after it. -/
  discarded : List Token
  /-- The texts that lines with errors have left. -/
  skipped : List String
  /-- The lexemes that are still to be found. -/
  coming : List Found
  /-- The tokens that were found, last one first. -/
  seen : List Token

namespace Scene

/-- The text of the tokens that the record of the last recovery holds. -/
def recorded (x : Scene) : String :=
  " ".intercalate ((x.offending.toList ++ x.discarded).map (·.text))

/-- What a line with an error leaves: the text of the record, while the parser is not over the error. -/
def loss (x : Scene) : String := if x.recovering = 0 then "" else x.recorded

/-- The scene behind a reduction. That of a line with an error leaves the texts of the record.
Reference: `Parser::reduce` with `CalcParserDriver::reduce`. -/
def reduced (number : ProductionId) (next : Stage) (x : Scene) : Scene :=
  { x with
    stage := next
    skipped := if number = Production.lineError then x.skipped ++ [x.loss] else x.skipped }

/-- The scene behind a token that was found; it is not ahead yet. Reference: `Parser::fetch`. -/
def found (t : Token) (others : List Found) (x : Scene) : Scene :=
  { x with coming := others, seen := t :: x.seen }

/-- The scene behind the shift of a token of the lexer's. An error token starts a recovery, if none is
under way. -/
def shifted (quiet : Nat) (t : Token) (next : Stage) (x : Scene) : Scene :=
  if t.symbol = SymbolId.error ∧ x.recovering = 0 then
    { x with stage := next, ahead := .none, recovering := quiet, offending := some t, discarded := [] }
  else { x with stage := next, ahead := .none, recovering := x.recovering - 1 }

/-- The scene behind the shift of an error token that a recovery made: the token held back is ahead
again. -/
def shiftedMade (held : Option Token) (next : Stage) (x : Scene) : Scene :=
  match held with
  | some t => { x with stage := next, ahead := .token t }
  | none => { x with stage := next, ahead := .none, recovering := x.recovering - 1 }

/-- The scene with the record cleared, if the last error is over. -/
def cleared (x : Scene) : Scene :=
  if x.recovering = 0 then { x with offending := none, discarded := [] } else x

/-- The scene with a token thrown away: it is recorded, but not a second time. Reference:
`RecoveryTrack::discard`. -/
def thrown (t : Token) (x : Scene) : Scene :=
  { x with discarded := if x.offending = some t then x.discarded else x.discarded ++ [t] }

/-- The scene behind a recovery at a token: the line is given up, and an error token is ahead.
Reference: the end of `Parser::recover`. -/
def retried (quiet : Nat) (t : Token) (x : Scene) : Scene :=
  { x with
    stage := x.stage.base
    ahead := .made t.text (if t.symbol = SymbolId.error then none else some t)
    recovering := quiet
    offending := some (x.offending.getD t) }

/-- A token that the lexer finds next. Where positions are tracked, it is none of those found before. -/
structure Finds (tracked : Bool) (x : Scene) (lexeme : Lexeme) (t : Token) : Prop where
  bare : t.bare = lexeme.bare
  fresh : tracked = true → t.symbol ≠ SymbolId.endOfInput → t.symbol ≠ SymbolId.error → t ∉ x.seen

/-- A step from scene to scene, or the look ahead that it begins with. There is one constructor for
each kind of step; what decides between them is the stage, the token ahead, and whether a recovery
was made right before. -/
inductive Goes (quiet : Nat) (tracked : Bool) (x : Scene) : Scene → Prop
  | reduce {number : ProductionId} {next : Stage}
      (reduction : x.stage.reduction? = some (number, .ok next)) :
      Goes quiet tracked x (x.reduced number next)
  | look {lexeme : Found} {others : List Found} {t : Token} (waits : x.stage.reduction? = none)
      (absent : x.ahead = .none) (coming : x.coming = lexeme :: others)
      (finds : x.Finds tracked lexeme.lexeme t) :
      Goes quiet tracked x { x.found t others with ahead := .token t }
  /-- A list without lines is opened. -/
  | begin {bare : SymbolId × String} (ahead : x.ahead.bare? = some bare)
      (meets : x.stage.meets bare = .opens) : Goes quiet tracked x { x with stage := .start [] }
  | shift {t : Token} {next : Stage} (ahead : x.ahead = .token t)
      (meets : x.stage.meets t.bare = .shifts next) : Goes quiet tracked x (x.shifted quiet t next)
  | shiftMade {text : String} {held : Option Token} {next : Stage} (ahead : x.ahead = .made text held)
      (meets : x.stage.meets (SymbolId.error, text) = .shifts next) :
      Goes quiet tracked x (x.shiftedMade held next)
  | recover {t : Token} (waits : x.stage.reduction? = none) (ahead : x.ahead = .token t)
      (misfit : x.stage.meets t.bare = .misfits) (begun : x.recovering ≠ quiet) :
      Goes quiet tracked x (x.cleared.retried quiet t)
  /-- Right behind a recovery a token is thrown away, and the recovery made again for the next one. -/
  | discard {t next : Token} {lexeme : Found} {others : List Found} (waits : x.stage.reduction? = none)
      (ahead : x.ahead = .token t) (misfit : x.stage.meets t.bare = .misfits)
      (full : x.recovering = quiet) (proper : t.symbol ≠ SymbolId.endOfInput)
      (coming : x.coming = lexeme :: others) (finds : x.Finds tracked lexeme.lexeme next) :
      Goes quiet tracked x (((x.thrown t).found next others).retried quiet next)

/-- How a parse ends whose lexer finds no token: at unrecognized input, or in a comment that does
not end. -/
inductive Unsupplied : Stop Value Fault → Prop
  | unrecognized (info : ErrorInfo Value) : Unsupplied (.failed (.lexical info))
  | unclosed (line : Nat) :
      Unsupplied (.failed (.action (.rule Rule.commentEnd) (.unterminatedComment line)))

/-- The last step from a scene, with the context that it leaves. -/
inductive Ends (x : Scene) : Stop Value Fault → Context → Prop
  | accept {bare : SymbolId × String} {lines : Lines} {context : Context}
      (ahead : x.ahead.bare? = some bare) (meets : x.stage.meets bare = .accepts lines)
      (skipped : context.skipped = x.skipped) : Ends x (.accepted (.lines lines)) context
  | fault {number : ProductionId} {fault : Fault} {context : Context}
      (reduction : x.stage.reduction? = some (number, .error fault)) :
      Ends x (.failed (.action (.production number) fault)) context
  /-- At the end of the input nothing is left to recover with. -/
  | unfinished {info : ErrorInfo Value} {context : Context} : Ends x (.failed (.syntactic info)) context
  | unsupplied {stop : Stop Value Fault} {context : Context} (h : Unsupplied stop) : Ends x stop context

/-! ## Scenes of a parse -/

/-- Tokens of some kind, up to the end of the input, which is the last of them. -/
inductive Supplied (good : SymbolId × String → Prop) : List (SymbolId × String) → Prop
  | last : Supplied good [(SymbolId.endOfInput, "")]
  | item {bare : SymbolId × String} {rest : List (SymbolId × String)} (holds : good bare)
      (others : Supplied good rest) : Supplied good (bare :: rest)

/-- A token that is not the last one is of the kind, and others come behind it. -/
theorem Supplied.inside {good : SymbolId × String → Prop} {bare : SymbolId × String}
    {rest : List (SymbolId × String)} (h : Supplied good (bare :: rest))
    (proper : bare ≠ (SymbolId.endOfInput, "")) : good bare ∧ Supplied good rest := by
  cases h with
  | last => exact absurd rfl proper
  | item holds others => exact ⟨holds, others⟩

/-- The symbols and texts of the tokens that are not on the stack yet. -/
def unread (x : Scene) : List (SymbolId × String) :=
  x.ahead.unread ++ x.coming.map (·.lexeme.bare)

/-- A scene that a parse can come to, of an input with tokens of some kind. -/
structure Fit (quiet : Nat) (good : SymbolId × String → Prop) (x : Scene) : Prop where
  settled : ∀ reduction, x.stage.reduction? = some reduction → x.ahead = .none
  retries : ∀ text held, x.ahead = .made text held → x.stage.base = x.stage ∧ x.recovering = quiet
  unread : Supplied good x.unread

variable {quiet : Nat} {tracked : Bool} {good : SymbolId × String → Prop} {x y : Scene}

/-- A token ahead is the first one that is not read yet. -/
theorem unread_of_token {t : Token} (ahead : x.ahead = .token t) :
    x.unread = t.bare :: x.coming.map (·.lexeme.bare) := by
  unfold unread
  rw [ahead]
  rfl

/-- Where nothing is ahead, the next token is. -/
theorem unread_of_coming {lexeme : Found} {others : List Found} {t : Token} (absent : x.ahead = .none)
    (coming : x.coming = lexeme :: others) (finds : x.Finds tracked lexeme.lexeme t) :
    x.unread = t.bare :: others.map (·.lexeme.bare) := by
  unfold unread
  rw [absent, coming, finds.bare]
  rfl

theorem Fit.supplied (h : x.Fit quiet good) {t : Token} (ahead : x.ahead = .token t) :
    Supplied good (t.bare :: x.coming.map (·.lexeme.bare)) :=
  unread_of_token ahead ▸ h.unread

/-- A token ahead that is not the end of the input is of the kind, and others come behind it. -/
theorem Fit.inside (h : x.Fit quiet good) {t : Token} (ahead : x.ahead = .token t)
    (proper : t.symbol ≠ SymbolId.endOfInput) :
    good t.bare ∧ Supplied good (x.coming.map (·.lexeme.bare)) :=
  (h.supplied ahead).inside fun hend => proper (congrArg Prod.fst hend)

/-- A token that is shifted is not the end of the input. -/
theorem proper_of_shifts {t : Token} {next : Stage} (meets : x.stage.meets t.bare = .shifts next) :
    t.symbol ≠ SymbolId.endOfInput := by
  intro hend
  have hbare : t.bare = (SymbolId.endOfInput, t.text) := congrArg (·, t.text) hend
  exact Stage.meets_endOfInput (hbare ▸ meets)

/-- A recovery is made for a token that is still to be read. -/
theorem unread_retried (x : Scene) (t : Token) :
    (x.retried quiet t).unread = t.bare :: x.coming.map (·.lexeme.bare) := by
  unfold unread retried
  dsimp only
  split
  · next herror =>
    show (SymbolId.error, t.text) :: _ = (t.symbol, t.text) :: _
    rw [herror]
    rfl
  · rfl

/-- A recovery leaves a scene that a parse can come to. -/
theorem fit_retried (x : Scene) (t : Token)
    (unread : Supplied good (t.bare :: x.coming.map (·.lexeme.bare))) :
    (x.retried quiet t).Fit quiet good where
  settled reduction h := by
    cases hstage : x.stage <;> rw [retried, hstage] at h <;> cases h
  retries _ _ _ := ⟨x.stage.base_base, rfl⟩
  unread := by
    rw [unread_retried]
    exact unread

/-- A step leads from a scene that a parse can come to to another one. That a scene is fit says what
the steps rely on: where a reduction is due nothing is ahead, an error token that was made is met at
the base of a recovery, and all that is still to be read are tokens of the kind up to the end of the
input. -/
theorem Fit.goes (h : x.Fit quiet good) (goes : Goes quiet tracked x y) : y.Fit quiet good := by
  cases goes with
  | reduce reduction =>
    have habsent := h.settled _ reduction
    refine ⟨fun _ _ => habsent, fun _ _ hmade => ?_, h.unread⟩
    cases habsent.symm.trans hmade
  | look waits absent coming finds =>
    refine ⟨fun _ hreduction => ?_, nofun, ?_⟩
    · cases waits.symm.trans hreduction
    · have hunread := h.unread
      rw [unread_of_coming absent coming finds] at hunread
      exact hunread
  | begin ahead meets =>
    exact ⟨nofun, fun text held hmade => ⟨rfl, (h.retries text held hmade).2⟩, h.unread⟩
  | @shift t next ahead meets =>
    obtain ⟨-, hothers⟩ := h.inside ahead (proper_of_shifts meets)
    unfold shifted
    split <;> exact ⟨fun _ _ => rfl, nofun, hothers⟩
  | @shiftMade text held next ahead meets =>
    have hunread := h.unread
    unfold Scene.unread at hunread
    rw [ahead] at hunread
    obtain ⟨past, -, rfl⟩ := Stage.broken_of_shifts meets
    cases held with
    | some t => exact ⟨nofun, nofun, hunread⟩
    | none =>
      cases hunread with
      | item holds others => exact ⟨fun _ _ => rfl, nofun, others⟩
  | recover waits ahead misfit begun =>
    refine fit_retried _ _ ?_
    unfold cleared
    split <;> exact h.supplied ahead
  | @discard t next lexeme others waits ahead misfit full proper coming finds =>
    obtain ⟨-, hothers⟩ := h.inside ahead proper
    rw [coming, List.map_cons, ← finds.bare] at hothers
    exact fit_retried _ _ hothers

end Scene

end ShiftReduce.Calculator
