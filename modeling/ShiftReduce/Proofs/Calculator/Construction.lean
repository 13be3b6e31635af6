import ShiftReduce.Calculator.Evaluator
import ShiftReduce.Proofs.Grammar.Built
import ShiftReduce.Proofs.Parser.Simulation

/-!
# Calculators as instances

The laws of parses are stated for all tables and actions. The calculator is an instance of them: its
table is a built one (`Calculator.build_table`), and what its engine runs to is the `evaluation` of an
input. `Calculator.tolerant` is the calculator that goes on after unrecognized input.
-/

namespace ShiftReduce.Calculator

/-- A calculator's table is built from the declarations of its grammar. -/
theorem build_table {options : Options} {compile : PatternCompiler} {calculator : Calculator}
    (h : new options compile = .ok calculator) : Table.build declarations = .ok calculator.table := by
  obtain ⟨table, htable, h⟩ := bind_eq_ok.mp h
  obtain ⟨rules, -, h⟩ := bind_eq_ok.mp h
  cases h
  exact htable

/-- A calculator's lexer has the rules of its language. -/
theorem build_rules {options : Options} {compile : PatternCompiler} {calculator : Calculator}
    (h : new options compile = .ok calculator) :
    lexerRules options.lexer compile = .ok calculator.config.lexer.rules ∧
      calculator.config.lexer = Lexer.new calculator.config.lexer.rules := by
  obtain ⟨table, -, h⟩ := bind_eq_ok.mp h
  obtain ⟨rules, hrules, h⟩ := bind_eq_ok.mp h
  cases h
  exact ⟨hrules, rfl⟩

/-- The end of the evaluation of an input, before anything is cleaned up. -/
def evaluation (calculator : Calculator) (input : String) : Halt Context Value Fault :=
  (calculator.engine input.length).run (stepLimit input.length) (calculator.config.reset input)

/-- The value of an evaluation that accepts its input, for instances that the kernel evaluates. -/
def accepted? (calculator : Calculator) (input : String) : Option Value :=
  match (evaluation calculator input).stop with
  | .accepted value => some value
  | _ => none

/-- An evaluation with a result accepts its input. -/
theorem evaluation_stop {calculator : Calculator} {input : String} {value : Value}
    (h : accepted? calculator input = some value) :
    (evaluation calculator input).stop = .accepted value := by
  unfold accepted? at h
  split at h
  · next heq => cases h; exact heq
  · cases h

/-- The calculator that goes on after unrecognized input. Most instances of the laws of parsers are
about it. Reference: `lexer_errors_are_recoverable`. -/
def tolerant : Calculator :=
  (new { lexer := { errorsRecoverable := true } }).toOption.get (by decide +kernel)

/-- A computation that succeeds has the value that is got from it. -/
theorem eq_ok_get {α ε : Type} {x : Except ε α} (h : x.toOption.isSome = true) :
    x = .ok (x.toOption.get h) := by
  cases x with
  | ok a => rfl
  | error fault => cases h

theorem new_tolerant : new { lexer := { errorsRecoverable := true } } = .ok tolerant :=
  eq_ok_get _

/-- The rules of the calculator's lexer see the number of comments at most. -/
theorem rules_see_comments : actions.RulesSee (·.comments) := by
  intro rule lexer context context' h
  simp only [actions, ruleAction]
  split
  case h_4 =>
    split
    · exact ⟨rfl, congrArg (· + 1) h⟩
    · exact ⟨rfl, h⟩
  all_goals exact ⟨rfl, h⟩

end ShiftReduce.Calculator
