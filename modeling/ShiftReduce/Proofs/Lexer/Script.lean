import ShiftReduce.Proofs.Lexer.Operation

/-!
# Hosts that follow a script

A script says which operations the action of each rule does, one after the other, and what it emits; and
the same for unrecognized input. It is written down in full, so that a host that follows it
(`Script.host`) does no other operations than those of the script.
-/

namespace ShiftReduce

namespace Lexer

/-- The lexer after some operations. One that fails is left out, and the others follow. -/
def performAll (lexer : Lexer) (operations : List Operation) : Lexer :=
  operations.foldl (fun lexer operation => (lexer.perform operation).toOption.getD lexer) lexer

/-- Some operations, all of a kind, are any number of operations of that kind. -/
theorem edits_performAll {allowed : Operation → Prop} {operations : List Operation}
    (h : ∀ operation ∈ operations, allowed operation) (lexer : Lexer) :
    Edits allowed lexer (lexer.performAll operations) := by
  induction operations generalizing lexer with
  | nil => exact .refl
  | cons operation operations ih =>
    obtain ⟨hfirst, hothers⟩ := List.forall_mem_cons.mp h
    have hrest := ih hothers ((lexer.perform operation).toOption.getD lexer)
    cases hperformed : lexer.perform operation with
    | error fault =>
      rw [hperformed] at hrest
      simpa [performAll, hperformed, Except.toOption] using hrest
    | ok next =>
      rw [hperformed] at hrest
      have hall : lexer.performAll (operation :: operations) = next.performAll operations := by
        simp [performAll, hperformed, Except.toOption]
      rw [hall]
      exact .trans (.single ⟨operation, hfirst, hperformed⟩) hrest

end Lexer

/-- The operations to do and the symbol to emit at each call of a host. Without a symbol the match, or
the unrecognized input, is skipped. -/
structure Script where
  rule : RuleId → List Operation × Option SymbolId
  stuck : List Operation × Option SymbolId := ([], none)

namespace Script

/-- The host that follows a script: each rule has its operations and its answer, and so has
unrecognized input. -/
def host (script : Script) : LexerHost Unit Empty (LexError Empty) where
  action rule lexer t := (.ok (script.rule rule).2, lexer.performAll (script.rule rule).1, t)
  stuck _ lexer t := (.ok script.stuck.2, lexer.performAll script.stuck.1, t)
  fail := .faulty
  note _ t := t

/-- A host that follows a script of operations of a kind does no others. -/
theorem host_performs {script : Script} {allowed : Operation → Prop}
    (rules : ∀ rule, ∀ operation ∈ (script.rule rule).1, allowed operation)
    (stuck : ∀ operation ∈ script.stuck.1, allowed operation) : script.host.Performs allowed where
  action rule lexer _ := Lexer.edits_performAll (rules rule) lexer
  stuck _ lexer _ := Lexer.edits_performAll stuck lexer

/-- A host that follows a script operates on the lexer. -/
theorem host_operates (script : Script) : script.host.Operates where
  action _ lexer _ := Lexer.edits_performAll (fun _ _ => trivial) lexer
  stuck _ lexer _ := Lexer.edits_performAll (fun _ _ => trivial) lexer

end Script

end ShiftReduce
