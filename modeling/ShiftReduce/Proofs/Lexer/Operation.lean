import Mathlib.Logic.Relation
import ShiftReduce.Lexer.Scan

/-!
# What actions do to a lexer

An action, or the answer to unrecognized input, changes the lexer by operations that are open to it
(`Operation`), in any number and order (`Lexer.Edits`). The states of a lexer that a program can come
to are those after operations and searches for tokens, whatever the actions are (`Lexer.Reachable`).
-/

namespace ShiftReduce

/-- The operations on a lexer that are open to actions. Accessors are not among them, since they
change nothing. Reference: the public methods of `Lexer` that change it. -/
inductive Operation
  | setInput (input : String)
  | setText (text : String)
  | push (condition : String)
  | pop
  | keepMatch
  | reject
  | unput (text : List Char)
  | less (n : Nat)
  | input

/-- Whether an operation touches the stack of start conditions, even if it leaves the stack as it
was. -/
def Operation.touchesConditions : Operation → Bool
  | .setInput _ | .push _ | .pop => true
  | _ => false

namespace Lexer

/-- The lexer after an operation, or the fault that refuses it. Reference: `Lexer::set_input`,
`Lexer::set_yytext`, `Lexer::push_state`, `Lexer::pop_state`, `Lexer::more`, `Lexer::reject`,
`Lexer::unput`, `Lexer::less` and `Lexer::input`. -/
def perform (lexer : Lexer) : Operation → Except GrammarError Lexer
  | .setInput input => .ok (lexer.setInput input)
  | .setText text => .ok (lexer.setText text)
  | .push condition => lexer.pushCondition condition
  | .pop => .ok lexer.popCondition.2
  | .keepMatch => .ok lexer.keepMatch
  | .reject => lexer.reject
  | .unput text => .ok (lexer.unput text)
  | .less n => .ok (lexer.less n)
  | .input => .ok lexer.input.2

/-- Any number of operations of a kind, none of which fails. This is what an action may do to a
lexer. -/
def Edits (allowed : Operation → Prop) : Lexer → Lexer → Prop :=
  Relation.ReflTransGen fun lexer lexer' =>
    ∃ operation, allowed operation ∧ lexer.perform operation = .ok lexer'

/-- What every operation of a kind keeps, any number of them keep. -/
theorem Edits.keeps {allowed : Operation → Prop} {P : Lexer → Prop} {lexer lexer' : Lexer}
    (h : Edits allowed lexer lexer')
    (keeps : ∀ {lexer lexer' operation}, allowed operation → lexer.perform operation = .ok lexer' →
      P lexer → P lexer') (start : P lexer) : P lexer' := by
  induction h with
  | refl => exact start
  | tail _ hstep ih =>
    obtain ⟨operation, hallowed, hperformed⟩ := hstep
    exact keeps hallowed hperformed ih

/-- Operations of a kind are operations of a wider kind. -/
theorem Edits.mono {allowed allowed' : Operation → Prop} {lexer lexer' : Lexer}
    (h : Edits allowed lexer lexer') (wider : ∀ operation, allowed operation → allowed' operation) :
    Edits allowed' lexer lexer' := by
  induction h with
  | refl => exact .refl
  | tail _ hstep ih =>
    obtain ⟨operation, hallowed, hperformed⟩ := hstep
    exact ih.tail ⟨operation, wider operation hallowed, hperformed⟩

end Lexer

/-- A host whose actions and answers change the lexer by its operations alone. -/
structure LexerHost.Operates {τ ε φ : Type} (host : LexerHost τ ε φ) : Prop where
  action : ∀ rule lexer t, Lexer.Edits (fun _ => True) lexer (host.action rule lexer t).2.1
  stuck : ∀ info lexer t, Lexer.Edits (fun _ => True) lexer (host.stuck info lexer t).2.1

/-- A host whose actions and answers change the lexer by operations of a kind alone. -/
structure LexerHost.Performs {τ ε φ : Type} (host : LexerHost τ ε φ) (allowed : Operation → Prop) :
    Prop where
  action : ∀ rule lexer t, Lexer.Edits allowed lexer (host.action rule lexer t).2.1
  stuck : ∀ info lexer t, Lexer.Edits allowed lexer (host.stuck info lexer t).2.1

/-- The states that a lexer for a set of rules can come to. -/
inductive Lexer.Reachable (rules : LexerRules) : Lexer → Prop
  | new : Reachable rules (Lexer.new rules)
  | perform {lexer lexer' : Lexer} (before : Reachable rules lexer) (operation : Operation)
      (performed : lexer.perform operation = .ok lexer') : Reachable rules lexer'
  | lex {τ ε φ : Type} {lexer : Lexer} (before : Reachable rules lexer) (host : LexerHost τ ε φ)
      (operates : host.Operates) (limit : Nat) (t : τ) :
      Reachable rules (lexer.lex host limit t).2.1

end ShiftReduce
