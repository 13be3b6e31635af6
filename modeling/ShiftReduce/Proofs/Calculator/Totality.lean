import ShiftReduce.Proofs.Calculator.Turns
import ShiftReduce.Proofs.Parser.Reuse

/-!
# The calculator is total and well typed

Every step of the machine of scenes leaves less to be done (`Calculator.Scene.Fit.weight_lt`), so that a
parse comes to its end within the steps that are allowed for it (`Calculator.Scene.Shows.run`). A scene says
what stands on the stack, and hence of what types the values there are (`Calculator.Stage.typed`). So a
calculator answers any input with lines or with one of the errors that are to be expected, and has a well
typed stack between any two steps on the way (`Calculator.parses_safely`).

Two invariants of scenes carry the result, and neither needs to know what the tokens are worth:
`Calculator.Scene.Fit`, which the weight goes down under, and that the numbers on the stack are
texts of digits (`Calculator.Scene.Fit.numerals`). An action fails over the size of a number only,
since the text of a number that the lexer finds is never a malformed one
(`Calculator.Stage.expected_of_fault`).
-/

namespace ShiftReduce.Calculator

/-! ## Termination -/

namespace Stage

/-- How many reductions by default, or openings of a list, are due at a stage. -/
def weight : Stage → Nat
  | opening | first _ _ | operand _ _ _ _ _ | line _ _ => 1
  | dropped _ _ _ | summed _ _ _ => 2
  | start _ | broken _ _ | sum _ _ | signed _ _ _ _ => 0

variable {stage next : Stage}

theorem weight_le (stage : Stage) : stage.weight ≤ 2 := by
  cases stage <;> simp [weight]

theorem weight_base (stage : Stage) (waits : stage.reduction? = none) :
    stage.base.weight ≤ stage.weight := by
  cases stage with
  | opening | start | broken | sum | signed => simp [base, weight]
  | dropped | first | summed | operand | line => cases waits

/-- A reduction makes a stage lighter. -/
theorem Reduced.weight_lt {number : ProductionId} (h : Reduced stage number next) :
    next.weight < stage.weight := by
  cases h <;> simp [weight]

end Stage

namespace Scene

/-- How many steps what is ahead is good for. Right behind a recovery a token is thrown away, or it is
shifted: it does not lead to another recovery. -/
def pending (quiet : Nat) (x : Scene) : Nat :=
  match x.ahead, x.stage with
  | .none, _ => 0
  | .made _ _, _ => 4
  | .token _, .broken _ _ => if x.recovering = quiet then 3 else 5
  | .token _, _ => 5

/-- How many steps a parse takes from a scene at most: six for each token to come, and those of its
stage and of what is ahead. -/
def weight (quiet : Nat) (x : Scene) : Nat :=
  6 * x.coming.length + x.stage.weight + x.pending quiet

variable {quiet : Nat} {tracked : Bool} {good : SymbolId × String → Prop} {x y : Scene}

theorem pending_token (quiet : Nat) {t : Token} (ahead : x.ahead = .token t) :
    3 ≤ x.pending quiet ∧ x.pending quiet ≤ 5 := by
  unfold pending
  rw [ahead]
  cases x.stage with
  | broken => dsimp only; split <;> omega
  | _ => exact ⟨show 3 ≤ 5 by omega, Nat.le_refl 5⟩

theorem pending_none (ahead : x.ahead = .none) : x.pending quiet = 0 := by
  unfold pending
  rw [ahead]

theorem pending_made {text : String} {held : Option Token} (ahead : x.ahead = .made text held) :
    x.pending quiet = 4 := by
  unfold pending
  rw [ahead]

/-- Every step leaves less to be done, so there are no more steps than the weight of the scene. A
lexeme is worth six steps: a look ahead, a recovery, the shift of the error token, its own shift,
and two reductions or less. A token that is thrown away takes the recovery behind it along, for
which reason a recovery right behind another one counts for less. -/
theorem Fit.weight_lt (fit : x.Fit quiet good) (goes : Goes quiet tracked x y) :
    y.weight quiet < x.weight quiet := by
  unfold weight
  cases goes with
  | @reduce number next reduction =>
    have habsent := fit.settled _ reduction
    have hlighter := (Stage.reduced_of_reduction reduction).weight_lt
    rw [pending_none habsent, pending_none (x := x.reduced number next) habsent]
    show 6 * x.coming.length + next.weight + 0 < _
    omega
  | @look lexeme others t waits absent coming finds =>
    have hpending := pending_token (x := { x.found t others with ahead := .token t }) quiet rfl
    rw [pending_none absent, coming, List.length_cons]
    show 6 * others.length + x.stage.weight + _ < _
    omega
  | @begin bare ahead meets =>
    have hstage := Stage.eq_opening meets
    have hpending : pending quiet { x with stage := .start [] } = x.pending quiet := by
      unfold pending
      rw [hstage]
      cases x.ahead <;> rfl
    rw [hpending, hstage]
    show 6 * x.coming.length + 0 + _ < 6 * x.coming.length + 1 + _
    omega
  | @shift t next ahead meets =>
    have hpending := pending_token quiet ahead
    have hnext := next.weight_le
    have hshifted : (x.shifted quiet t next).weight quiet = 6 * x.coming.length + next.weight := by
      unfold shifted
      split <;> rfl
    unfold weight at hshifted
    omega
  | @shiftMade text held next ahead meets =>
    have hfull := (fit.retries text held ahead).2
    obtain ⟨past, hstage, rfl⟩ := Stage.broken_of_shifts meets
    have hshifted : (x.shiftedMade held (.broken past text)).weight quiet ≤ 6 * x.coming.length + 3 := by
      cases held with
      | none => exact Nat.le_add_right _ 3
      | some t =>
        show _ + (if x.recovering = quiet then 3 else 5) ≤ _
        rw [if_pos hfull]
        exact Nat.le_refl _
    unfold weight at hshifted
    rw [hstage, pending_made ahead]
    show _ < _ + 0 + 4
    omega
  | @recover t waits ahead misfit begun =>
    have hbase := x.stage.weight_base waits
    have hpending : x.pending quiet = 5 := by
      unfold pending
      rw [ahead]
      cases x.stage with
      | broken => exact if_neg begun
      | _ => rfl
    have hrecovered : (x.cleared.retried quiet t).weight quiet =
        6 * x.coming.length + x.stage.base.weight + 4 := by
      unfold cleared
      split <;> rfl
    unfold weight at hrecovered
    omega
  | @discard t next lexeme others waits ahead misfit full proper coming finds =>
    have hbase := x.stage.weight_base waits
    have hpending := pending_token quiet ahead
    rw [coming, List.length_cons]
    show 6 * others.length + x.stage.base.weight + 4 < _
    omega

/-! ## Runs -/

section
variable {options : LexerOptions} {source : List Char} {discardCount limit : Nat}
  {c c' : Config Context Value}

/-- Any number of steps leads from a scene that a parse can come to to another one. -/
theorem Fit.reaches (fit : x.Fit quiet good)
    (reaches : Relation.ReflTransGen (Goes quiet tracked) x y) : y.Fit quiet good := by
  induction reaches with
  | refl => exact fit
  | tail _ goes ih => exact ih.goes goes

/-- Any number of steps leave no more to be done. -/
theorem Fit.weight_le (fit : x.Fit quiet good)
    (reaches : Relation.ReflTransGen (Goes quiet tracked) x y) : y.weight quiet ≤ x.weight quiet := by
  induction reaches with
  | refl => exact Nat.le_refl _
  | tail before goes ih => exact Nat.le_trans (Nat.le_of_lt ((fit.reaches before).weight_lt goes)) ih

/-- Whatever configuration a parse comes to shows a scene that the machine comes to. -/
theorem Shows.steps (h : x.Shows options source limit c)
    (fit : x.Fit (evaluator discardCount limit).quietCount good)
    (terminal : ∀ bare, good bare → bare.1 < grammarTable.terminalCount)
    (steps : Engine.Steps (evaluator discardCount limit) c c') :
    ∃ y, Relation.ReflTransGen (Goes (evaluator discardCount limit).quietCount options.trackPosition) x y ∧
      y.Shows options source limit c' := by
  induction steps with
  | refl => exact ⟨x, .refl, h⟩
  | tail _ step ih =>
    obtain ⟨y, hreaches, hshows⟩ := ih
    have hturn := hshows.step (fit.reaches hreaches) terminal
    rw [step] at hturn
    cases hturn with
    | goes further shows => exact ⟨_, hreaches.trans further.to_reflTransGen, shows⟩

/-- A run with steps enough ends as a scene says that the machine comes to. -/
theorem Shows.run (discardCount : Nat) (h : x.Shows options source limit c)
    (fit : x.Fit (evaluator discardCount limit).quietCount good)
    (terminal : ∀ bare, good bare → bare.1 < grammarTable.terminalCount) {fuel : Nat}
    (enough : x.weight (evaluator discardCount limit).quietCount < fuel) :
    ∃ y, Relation.ReflTransGen (Goes (evaluator discardCount limit).quietCount options.trackPosition) x y ∧
      y.Ends ((evaluator discardCount limit).run fuel c).stop
        ((evaluator discardCount limit).run fuel c).config.session.user := by
  induction fuel generalizing x c with
  | zero => exact absurd enough (Nat.not_lt_zero _)
  | succ fuel ih =>
    have hturn := h.step fit terminal
    rw [Engine.run]
    generalize (evaluator discardCount limit).step c = result at hturn
    cases hturn with
    | goes reaches shows =>
      obtain ⟨first, hgoes, hreaches⟩ := Relation.TransGen.head'_iff.mp reaches
      have hlighter := fit.weight_lt hgoes
      have hle := (fit.goes hgoes).weight_le hreaches
      obtain ⟨y, hreaches', hends⟩ := ih shows ((fit.goes hgoes).reaches hreaches) (by omega)
      exact ⟨y, .trans reaches.to_reflTransGen hreaches', hends⟩
    | ends reaches ends => exact ⟨_, reaches, ends⟩

end

/-! ## Inputs -/

/-- The scene at the start of an input: nothing on the stack but the bottom, and all lexemes to
come. Reference: `Parser::reset`. -/
def opening (input : String) (skipped : List String) : Scene where
  stage := .opening
  ahead := .none
  recovering := 0
  offending := none
  discarded := []
  skipped
  coming := reading input.toList
  seen := []

theorem fit_opening (quiet : Nat) (input : String) (skipped : List String)
    (supplied : Supplied good ((reading input.toList).map (·.lexeme.bare))) :
    (opening input skipped).Fit quiet good :=
  ⟨nofun, nofun, supplied⟩

/-- A parser that is reset to an input shows its start. -/
theorem shows_opening {options : LexerOptions} {c : Config Context Value}
    (reads : Reads options c.lexer.rules) (input : String) :
    (opening input c.session.user.skipped).Shows options input.toList (scanLimit input.length)
      (c.reset input) := by
  refine ⟨rfl, .none rfl rfl, rfl, rfl, rfl, rfl, fun _ => ⟨input.toList, ⟨?_, ?_, ?_⟩, rfl⟩⟩
  · exact at_setInput reads input
  · show input.length < input.length + 8
    omega
  · intro tracked
    have hoptions : c.lexer.options = options := reads.chosen
    have hanchored := (Lexer.anchored_setInput (hoptions ▸ tracked) input).1
    rw [hoptions] at hanchored
    exact ⟨hanchored, nofun⟩

/-- The steps that are allowed for an input are enough. -/
theorem weight_opening (input : String) (skipped : List String) :
    (opening input skipped).weight quiet < stepLimit input.length := by
  have hlength := length_reading input.toList
  have hsize : input.toList.length = input.length := rfl
  show 6 * (reading input.toList).length + 1 + 0 < 64 * (input.length + 8)
  omega

end Scene

section
variable {options : LexerOptions} {compile : PatternCompiler} {calculator : Calculator}

/-- A calculator's engine is an evaluator. -/
theorem engine_eq (built : parseTable = .ok calculator.table) (length : Nat) :
    calculator.engine length = evaluator calculator.discardCount (scanLimit length) := by
  unfold Calculator.engine evaluator
  rw [Except.ok.inj (built.symm.trans parseTable_eq)]

/-- A calculator comes to the end of every input, by the machine of scenes. -/
theorem parse_ends {good : SymbolId × String → Prop} (usual : ReadsPatterns compile)
    (built : parseTable = .ok calculator.table)
    (governed : lexerRules options compile = .ok calculator.config.lexer.rules)
    (terminal : ∀ bare, good bare → bare.1 < grammarTable.terminalCount) (input : String)
    (context : Context)
    (supplied : Scene.Supplied good ((reading input.toList).map (·.lexeme.bare))) :
    ∃ y stop user,
      Relation.ReflTransGen (Scene.Goes (max calculator.discardCount 1) options.trackPosition)
        (.opening input context.skipped) y ∧
      y.Ends stop user ∧ (calculator.parse input context).1 = linesOf (.ofStop stop) ∧
      (calculator.parse input context).2.context = user := by
  have hshows := Scene.shows_opening
    (c := calculator.config.update fun session => { session with user := context })
    (lexerRules_read usual governed) input
  obtain ⟨y, hreaches, hends⟩ := hshows.run calculator.discardCount
    (Scene.fit_opening _ input _ supplied) terminal (Scene.weight_opening input _)
  rw [← engine_eq built] at hends
  exact ⟨y, _, _, hreaches, hends, rfl, rfl⟩

end

/-! ## Types -/

/-- The values that belong to a symbol by its name: lines to a list, a number or nothing to a line, a
number to a sum, and a text of digits to a number. -/
def HasType : String → Value → Prop
  | "list", value => ∃ lines, value = .lines lines
  | "line", value => (∃ n, value = .number n) ∨ value = .nothing
  | "expr", value => ∃ n, value = .number n
  | "NUM", value => ∃ text, value = .text text ∧ IsNumeral text
  | _, _ => True

/-- A value that a slot of a symbol may hold, by the name of the symbol. -/
def Typed (table : Table) (symbol : SymbolId) (value : Value) : Prop :=
  ∀ name, table.symbolName? symbol = some name → HasType name value

theorem typed_of_name {symbol : SymbolId} {value : Value} (name : String)
    (named : grammarTable.symbolName? symbol = some name) (h : HasType name value) :
    Typed grammarTable symbol value := by
  intro other hother
  obtain rfl := Option.some.inj (named.symm.trans hother)
  exact h

namespace Stage

/-- A number that stands on the stack is a text of digits. -/
def Numerals : Stage → Prop
  | first _ text | operand _ _ _ _ text => IsNumeral text
  | _ => True

variable {stage : Stage}

theorem typed_bottom : Typed grammarTable bottom.1 bottom.2.2 := typed_of_name "$accept" rfl trivial

theorem typed_listSlot (lines : Lines) : Typed grammarTable (listSlot lines).1 (listSlot lines).2.2 :=
  typed_of_name "list" rfl ⟨lines, rfl⟩

theorem typed_sumSlot (n : Int) : Typed grammarTable (sumSlot n).1 (sumSlot n).2.2 :=
  typed_of_name "expr" rfl ⟨n, rfl⟩

theorem typed_signSlot (op : Operator) (text : String) :
    Typed grammarTable (signSlot op text).1 (signSlot op text).2.2 := by
  cases op with
  | plus => exact typed_of_name "'+'" rfl trivial
  | minus => exact typed_of_name "'-'" rfl trivial

theorem typed_errorSlot (text : String) :
    Typed grammarTable (errorSlot text).1 (errorSlot text).2.2 := typed_of_name "error" rfl trivial

/-- What stands on the stack at a stage is well typed, if its numbers are. -/
theorem typed (numerals : stage.Numerals) : ∀ slot ∈ stage.stack, Typed grammarTable slot.1 slot.2.2 := by
  have hnumber : ∀ {text}, IsNumeral text → Typed grammarTable Terminal.number (.text text) :=
    fun {text} h => typed_of_name "NUM" rfl ⟨text, rfl, h⟩
  have hsemicolon : ∀ {text}, Typed grammarTable Terminal.semicolon (.text text) :=
    fun {text} => typed_of_name "';'" rfl trivial
  have hline : ∀ result, Typed grammarTable 8 (lineValue result) := fun result => by
    cases result with
    | none => exact typed_of_name "line" rfl (.inr rfl)
    | some n => exact typed_of_name "line" rfl (.inl ⟨n, rfl⟩)
  have hslots := And.intro typed_bottom (And.intro typed_listSlot typed_sumSlot)
  cases stage with
  | first past text => simp [stack, slot, under, hslots, hnumber numerals]
  | operand past n op sign text => simp [stack, slot, under, hslots, typed_signSlot, hnumber numerals]
  | dropped | summed => simp [stack, slot, under, hslots, typed_errorSlot, hsemicolon]
  | line past result => simp [stack, slot, under, hslots, hline]
  | opening | start | sum => simp [stack, slot, under, hslots]
  | broken => simp [stack, slot, under, hslots, typed_errorSlot]
  | signed => simp [stack, slot, under, hslots, typed_signSlot]

/-- A number that is shifted is one that the lexer found. -/
theorem numerals_of_shifts {next : Stage} {bare : SymbolId × String} (h : stage.meets bare = .shifts next)
    (token : IsToken bare) : next.Numerals := by
  have htop : next.slot = (bare.1, next.state, .text bare.2) := (List.cons.inj (stack_of_shifts h)).1
  cases next with
  | first | operand =>
    simp only [slot, Prod.mk.injEq, Value.text.injEq] at htop
    obtain ⟨hsymbol, -, rfl⟩ := htop
    exact token.numeral hsymbol.symm
  | opening | start | broken | dropped | sum | summed | signed | line => trivial

/-- A reduction leaves no text on top of the stack. -/
theorem Reduced.numerals {next : Stage} {number : ProductionId} (h : Reduced stage number next) :
    next.Numerals := by
  cases h <;> trivial

theorem numerals_base (stage : Stage) : stage.base.Numerals := by
  cases stage <;> trivial

end Stage

/-! ## Safety -/

namespace Scene

variable {quiet : Nat} {tracked : Bool} {x y : Scene}

/-- The numbers on the stack stay texts of digits. -/
theorem Fit.numerals (fit : x.Fit quiet IsToken) (numerals : x.stage.Numerals)
    (goes : Goes quiet tracked x y) : y.stage.Numerals := by
  cases goes with
  | reduce reduction => exact (Stage.reduced_of_reduction reduction).numerals
  | look waits absent coming finds => exact numerals
  | begin ahead meets => trivial
  | shift ahead meets =>
    have hnext := Stage.numerals_of_shifts meets (fit.inside ahead (proper_of_shifts meets)).1
    unfold shifted
    split <;> exact hnext
  | @shiftMade text held next ahead meets =>
    obtain ⟨past, -, rfl⟩ := Stage.broken_of_shifts meets
    cases held <;> trivial
  | recover waits ahead misfit begun => exact Stage.numerals_base _
  | discard waits ahead misfit full proper coming finds => exact Stage.numerals_base _

/-- So they do over any number of steps. -/
theorem Fit.numerals_reaches (fit : x.Fit quiet IsToken) (numerals : x.stage.Numerals)
    (reaches : Relation.ReflTransGen (Goes quiet tracked) x y) : y.stage.Numerals := by
  induction reaches with
  | refl => exact numerals
  | tail before goes ih => exact (fit.reaches before).numerals ih goes

end Scene

/-- The outcomes that are to be expected: lines, an error of the input, or a fault of an action over a
number that does not fit or a comment that does not end. -/
inductive Expected : Engine.Outcome Lines (ParseError Value Fault) → Prop
  | lines (lines : Lines) : Expected (.value lines)
  | lexical (info : ErrorInfo Value) : Expected (.failed (.lexical info))
  | syntactic (info : ErrorInfo Value) : Expected (.failed (.syntactic info))
  | number {production : ProductionId} (cause : IntegerFault)
      (reads : production ∈ [Production.exprNumber, Production.exprAdd, Production.exprSub]) :
      Expected (.failed (.action (.production production) (.number cause)))
  | overflow (op : Operator) (lhs rhs : Int) :
      Expected (.failed (.action (.production op.production) (.overflow op lhs rhs)))
  | unclosed (line : Nat) :
      Expected (.failed (.action (.rule Rule.commentEnd) (.unterminatedComment line)))

/-- A text that is no number that fits. -/
theorem fault_of_readNumber {text : String} {fault : Fault} (h : readNumber text = .error fault) :
    ∃ cause, fault = .number cause := by
  unfold readNumber at h
  cases hread : Integer.read text <;> rw [hread] at h <;> cases h
  exact ⟨_, rfl⟩

/-- An operation fails over the text of its number, or its result does not fit. -/
theorem fault_of_combine {n : Int} {op : Operator} {text : String} {fault : Fault}
    (h : combine n op text = .error fault) :
    (∃ cause, fault = .number cause) ∨ ∃ m, fault = .overflow op n m := by
  unfold combine at h
  cases hread : readNumber text with
  | error fault' =>
    rw [hread] at h
    cases h
    exact .inl (fault_of_readNumber hread)
  | ok m =>
    rw [hread] at h
    cases hresult : op.result? n m with
    | none =>
      simp only [bind, Except.bind, hresult] at h
      cases h
      exact .inr ⟨m, rfl⟩
    | some result =>
      simp only [bind, Except.bind, hresult] at h
      cases h

/-- A reduction that fails does so over a number. -/
theorem Stage.expected_of_fault {stage : Stage} {number : ProductionId} {fault : Fault}
    (h : stage.reduction? = some (number, .error fault)) :
    Expected (.failed (.action (.production number) fault)) := by
  have hmap : ∀ {past : Lines} {read : Except Fault Int},
      read.map (Stage.sum past) = .error fault → read = .error fault := by
    intro past read hread
    cases read <;> cases hread
    rfl
  cases stage with
  | first past text =>
    obtain ⟨rfl, hread⟩ := Prod.mk.inj (Option.some.inj h)
    obtain ⟨cause, rfl⟩ := fault_of_readNumber (hmap hread)
    exact .number cause (by simp)
  | operand past n op sign text =>
    obtain ⟨rfl, hcombined⟩ := Prod.mk.inj (Option.some.inj h)
    obtain ⟨cause, rfl⟩ | ⟨m, rfl⟩ := fault_of_combine (hmap hcombined)
    · exact .number cause (by cases op <;> simp [Operator.production])
    · exact .overflow op n m
  | opening | start | broken | dropped | sum | summed | signed | line => cases h

/-- A scene ends a parse with an outcome that is to be expected. -/
theorem Scene.Ends.expected {x : Scene} {stop : Stop Value Fault} {context : Context}
    (h : x.Ends stop context) : Expected (linesOf (.ofStop stop)) := by
  cases h with
  | accept ahead meets skipped => exact .lines _
  | fault reduction => exact Stage.expected_of_fault reduction
  | unfinished => exact .syntactic _
  | unsupplied h =>
    cases h with
    | unrecognized info => exact .lexical info
    | unclosed line => exact .unclosed line

/-- A calculator with these options, made by a compiler of patterns, that may have evaluated inputs. -/
inductive Used (compile : PatternCompiler) (options : Options) : Calculator → Prop
  | new {calculator : Calculator} (made : new options compile = .ok calculator) :
      Used compile options calculator
  | parse {calculator : Calculator} (used : Used compile options calculator) (input : String)
      (context : Context) : Used compile options (calculator.parse input context).2

section
variable {compile : PatternCompiler}

/-- Use leaves a calculator its table and the rules of its lexer. -/
theorem Used.equipped {options : Options} {calculator : Calculator}
    (h : Used compile options calculator) :
    parseTable = .ok calculator.table ∧
      lexerRules options.lexer compile = .ok calculator.config.lexer.rules := by
  induction h with
  | new made => exact ⟨build_table made, (build_rules made).1⟩
  | @parse calculator used input context ih =>
    refine ⟨ih.1, ih.2.trans (congrArg Except.ok ?_)⟩
    have hkept := (Engine.rules_invariant (e := calculator.engine input.length) actions_reusable
      calculator.config.lexer.rules).run
      (c := (calculator.config.update fun session => { session with user := context }).reset input)
      (stepLimit input.length) rfl
    exact hkept.symm

/-- A calculator can be made with any options. -/
theorem exists_new (usual : ReadsPatterns compile) (options : Options) :
    ∃ calculator, new options compile = .ok calculator := by
  obtain ⟨rules, hbuilt, -⟩ := lexerRules_built usual options.lexer
  unfold new
  rw [parseTable_eq, hbuilt]
  exact ⟨_, rfl⟩

/-- **A calculator is total and well typed.** One can be made with any options, by any compiler that
gives its patterns their usual meaning, and whatever it has evaluated before, it comes to one of the
expected outcomes for any input; on the way to it all values on the stack are of the types of their
symbols between any two steps. Reference: `CalcParser::new` and `CalcParser::parse`. -/
theorem parses_safely (usual : ReadsPatterns compile) (options : Options) :
    (∃ calculator, new options compile = .ok calculator) ∧
    ∀ calculator, Used compile options calculator → ∀ input context,
      Expected (calculator.parse input context).1 ∧
      ∀ c, Engine.Steps (calculator.engine input.length)
          ((calculator.config.update fun session => { session with user := context }).reset input) c →
        ∀ slot ∈ c.session.stack, Typed calculator.table slot.symbol slot.value := by
  refine ⟨exists_new usual options, fun calculator used input context => ?_⟩
  obtain ⟨hbuilt, hgoverned⟩ := used.equipped
  have hterminal : ∀ bare, IsToken bare → bare.1 < grammarTable.terminalCount := fun _ h => h.terminal
  constructor
  · obtain ⟨y, stop, user, -, hends, houtcome, -⟩ :=
      parse_ends usual hbuilt hgoverned hterminal input context (supplied_reading input.toList)
    rw [houtcome]
    exact hends.expected
  · intro c hsteps slot hmem
    have hopening := Scene.shows_opening
      (c := calculator.config.update fun session => { session with user := context })
      (lexerRules_read usual hgoverned) input
    have hfit := Scene.fit_opening (max calculator.discardCount 1) input context.skipped
      (supplied_reading input.toList)
    rw [engine_eq hbuilt] at hsteps
    obtain ⟨y, hreaches, hshows⟩ := hopening.steps hfit hterminal hsteps
    have htyped := Stage.typed (hfit.numerals_reaches trivial hreaches) slot.bare
      (hshows.stack ▸ List.mem_map_of_mem hmem)
    rw [Except.ok.inj (hbuilt.symm.trans parseTable_eq)]
    exact htyped

end

/-- The fault of an action that an outcome reports, if it is a failed action. -/
def faultOf? : Engine.Outcome Lines (ParseError Value Fault) → Option Fault
  | .failed (.action _ fault) => some fault
  | _ => none

/-- A sum of two numbers that fit does not fit itself, in a calculator that has evaluated a line with an
error before. -/
theorem overflow_is_expected :
    let used := (tolerant.parse "1 2;" {}).2
    let input := "9223372036854775807+1;"
    Used Pattern.compile { lexer := { errorsRecoverable := true } } used ∧
      faultOf? (used.parse input {}).1 = some (.overflow .plus 9223372036854775807 1) ∧
      Expected (used.parse input {}).1 ∧
      ∀ c, Engine.Steps (used.engine input.length)
          ((used.config.update fun session => { session with user := {} }).reset input) c →
        ∀ slot ∈ c.session.stack, Typed used.table slot.symbol slot.value := by
  intro used input
  have hused : Used Pattern.compile { lexer := { errorsRecoverable := true } } used :=
    .parse (.new new_tolerant) _ _
  exact ⟨hused, by decide +kernel, (parses_safely readsPatterns_compile _).2 used hused input {}⟩

end ShiftReduce.Calculator
