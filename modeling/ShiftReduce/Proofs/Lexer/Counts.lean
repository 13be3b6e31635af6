import ShiftReduce.Proofs.Lexer.Operation

/-!
# Lexers whose counts go on

A lexer that is used for one input after the other counts on from what it has counted before
(`Lexer.countedFrom`). Apart from that it does what a lexer does whose counts start anew: the same
search for a token comes to the same result and the same lexer, counts aside, if its host does the same
for both (`LexerHost.Follows`, `Lexer.lex_countedFrom`). The state of the second host may be another
view of the first one's.
-/

namespace ShiftReduce

/-- Counts that go on from earlier ones. -/
instance : Add LexerStats where
  add base stats :=
    ⟨base.matched + stats.matched, base.rejects + stats.rejects, base.unputs + stats.unputs,
      base.tokens + stats.tokens⟩

/-- Counts that go on from nothing are what they are. -/
theorem LexerStats.zero_add (stats : LexerStats) : ({} : LexerStats) + stats = stats := by
  show LexerStats.mk (0 + _) (0 + _) (0 + _) (0 + _) = _
  simp only [Nat.zero_add]

section
variable {τ τ' ε φ α : Type}

namespace Lexer

/-- The lexer with its counts going on from earlier ones. Nothing that a lexer does depends on the
counts. -/
def countedFrom (lexer : Lexer) (base : LexerStats) : Lexer :=
  { lexer with stats := base + lexer.stats }

/-- An outcome with the lexer's counts going on from earlier ones, and a view of the state. -/
def outcomeFrom (base : LexerStats) (view : τ → τ') (outcome : α × Lexer × τ) : α × Lexer × τ' :=
  (outcome.1, outcome.2.1.countedFrom base, view outcome.2.2)

theorem countedFrom_zero (lexer : Lexer) : lexer.countedFrom {} = lexer := by
  unfold countedFrom
  rw [LexerStats.zero_add]

end Lexer

/-- A host that does for a lexer, whose counts go on from earlier ones, what another host does for the
lexer with counts of its own. Its state is a view of the other's. -/
structure LexerHost.Follows (host' : LexerHost τ' ε φ) (host : LexerHost τ ε φ) (base : LexerStats)
    (view : τ → τ') : Prop where
  action : ∀ rule lexer t, host'.action rule (lexer.countedFrom base) (view t) =
    Lexer.outcomeFrom base view (host.action rule lexer t)
  stuck : ∀ info lexer t, host'.stuck info (lexer.countedFrom base) (view t) =
    Lexer.outcomeFrom base view (host.stuck info lexer t)
  fail : ∀ fault, host'.fail fault = host.fail fault
  note : ∀ event t, host'.note event (view t) = view (host.note event t)

namespace Lexer

variable {host : LexerHost τ ε φ} {host' : LexerHost τ' ε φ} {base : LexerStats} {view : τ → τ'}

/-! ## Operations -/

theorem input_countedFrom (lexer : Lexer) (base : LexerStats) :
    (lexer.countedFrom base).input.2 = lexer.input.2.countedFrom base := by
  have hrest : (lexer.countedFrom base).rest = lexer.rest := rfl
  simp only [input, hrest]
  split <;> rfl

/-- An operation is the same whatever was counted before. No operation reads the counts; what it
adds to them it adds to either. -/
theorem perform_countedFrom (operation : Operation) (lexer : Lexer) (base : LexerStats) :
    (lexer.countedFrom base).perform operation =
      (lexer.perform operation).map (·.countedFrom base) := by
  cases operation with
  | push condition =>
    show (if (lexer.rules.condition? condition).isNone = true then
      Except.error (GrammarError.unknownCondition condition)
      else Except.ok (({ lexer with
        conditions := condition :: lexer.conditions, active := none } : Lexer).countedFrom base)) = _
    simp only [perform, pushCondition]
    split <;> rfl
  | reject =>
    show (if lexer.options.backtrack = true then
      Except.ok (({ lexer with rejected := true } : Lexer).countedFrom base)
      else Except.error GrammarError.rejectWithoutBacktrack) = _
    simp only [perform, reject]
    split <;> rfl
  | pop =>
    simp only [perform, popCondition, countedFrom]
    split <;> rfl
  | input => exact congrArg Except.ok (input_countedFrom lexer base)
  | setInput input => rfl
  | setText text => rfl
  | keepMatch => rfl
  | unput text => rfl
  | less n => rfl

/-- Operations leave the rules of a lexer alone. -/
theorem perform_rules {operation : Operation} {lexer lexer' : Lexer}
    (performed : lexer.perform operation = .ok lexer') : lexer'.rules = lexer.rules := by
  cases operation with
  | push condition =>
    simp only [perform, pushCondition] at performed
    split at performed
    · cases performed
    · cases performed; rfl
  | reject =>
    simp only [perform, reject] at performed
    split at performed
    · cases performed; rfl
    · cases performed
  | pop =>
    cases performed
    unfold popCondition
    split <;> rfl
  | input =>
    cases performed
    unfold input
    split <;> rfl
  | setInput input => cases performed; rfl
  | setText text => cases performed; rfl
  | keepMatch => cases performed; rfl
  | unput text => cases performed; rfl
  | less n => cases performed; rfl

/-! ## Scans -/

theorem topCondition_countedFrom (lexer : Lexer) (base : LexerStats) (depth : Nat) :
    (lexer.countedFrom base).topCondition depth = lexer.topCondition depth := rfl

theorem rules_countedFrom (lexer : Lexer) (base : LexerStats) :
    (lexer.countedFrom base).rules = lexer.rules := rfl

theorem matchedText_countedFrom (lexer : Lexer) (base : LexerStats) :
    (lexer.countedFrom base).matchedText = lexer.matchedText := rfl

theorem offset_countedFrom (lexer : Lexer) (base : LexerStats) :
    (lexer.countedFrom base).offset = lexer.offset := rfl

theorem consume_countedFrom (lexer : Lexer) (base : LexerStats) (length : Nat) :
    (lexer.countedFrom base).consume length = (lexer.consume length).countedFrom base := rfl

theorem afterReject_countedFrom (lexer saved : Lexer) (base : LexerStats) :
    (lexer.countedFrom base).afterReject (saved.countedFrom base) =
      (lexer.afterReject saved).countedFrom base := by
  unfold afterReject
  show (let lexer := if lexer.options.backtrack = true then (lexer.restore saved).countedFrom base
      else lexer.countedFrom base
    ({ lexer with
      rejected := false
      stats := { lexer.stats with rejects := lexer.stats.rejects + 1 } } : Lexer)) = _
  dsimp only
  split <;> rfl

theorem reopen_countedFrom (lexer : Lexer) (base : LexerStats) :
    (lexer.countedFrom base).reopen = lexer.reopen.countedFrom base := by
  show (if (lexer.done && !lexer.rest.isEmpty) = true then
    ({ lexer with done := false } : Lexer).countedFrom base else lexer.countedFrom base) = _
  unfold reopen
  split <;> rfl

/-- A rule is run alike whatever was counted before. The lexer that goes on from earlier counts is
handed to its host as it is, for which reason the host has to follow the other one
(`LexerHost.Follows`). -/
theorem fire_countedFrom (h : host'.Follows host base view) (lexer : Lexer) (t : τ) (rule : RuleId)
    (length : Nat) :
    (lexer.countedFrom base).fire host' (view t) rule length =
      outcomeFrom base view (lexer.fire host t rule length) := by
  simp only [fire, consume_countedFrom, topCondition_countedFrom, rules_countedFrom,
    matchedText_countedFrom, h.note, h.action]
  generalize host.action rule (lexer.consume length) _ = acted
  obtain ⟨answer, acted, t'⟩ := acted
  cases answer with
  | error fault => simp only [outcomeFrom, h.fail]
  | ok emitted =>
    show (if acted.rejected = true then
      (Trial.rejected, (acted.countedFrom base).afterReject (lexer.countedFrom base),
        host'.note (.rejected rule) (view t'))
      else _) = _
    rw [afterReject_countedFrom, h.note]
    dsimp only [outcomeFrom]
    rw [reopen_countedFrom]
    split
    · rfl
    · cases emitted with
      | some symbol => rfl
      | none =>
        show (if acted.reopen.stalled lexer length = true then
          (Trial.failed (host'.fail (.noProgress rule lexer.offset)), acted.reopen.countedFrom base,
            view t')
          else (Trial.skip, acted.reopen.countedFrom base, view t')) = _
        rw [h.fail]
        dsimp only
        split <;> rfl

theorem unmatched_countedFrom (lexer : Lexer) (base : LexerStats) :
    ((lexer.countedFrom base).unmatched : Scan φ × Lexer) =
      Prod.map id (·.countedFrom base) lexer.unmatched := by
  show (if lexer.rest.isEmpty = true then
    (Scan.token lexer.endToken, ({ lexer with done := true } : Lexer).countedFrom base)
    else (Scan.stuck lexer.unrecognized, lexer.countedFrom base)) = _
  unfold unmatched
  split <;> rfl

/-- Candidates are tried alike whatever was counted before. -/
theorem tryAll_countedFrom (h : host'.Follows host base view) (candidates : List Candidate)
    (lexer : Lexer) (t : τ) :
    tryAll host' candidates (lexer.countedFrom base) (view t) =
      outcomeFrom base view (tryAll host candidates lexer t) := by
  induction candidates generalizing lexer t with
  | nil => simp only [tryAll, unmatched_countedFrom]; rfl
  | cons candidate others ih =>
    simp only [tryAll, fire_countedFrom h]
    generalize lexer.fire host t candidate.1 candidate.2 = fired
    obtain ⟨trial, next, t'⟩ := fired
    cases trial with
    | token token => rfl
    | skip => rfl
    | failed reason => rfl
    | rejected =>
      show (if next.options.backtrack = true then
        tryAll host' others (next.countedFrom base) (view t')
        else (Scan.skip, next.countedFrom base, view t')) = _
      rw [ih]
      dsimp only
      split <;> rfl

/-- A scan runs alike whatever was counted before. -/
theorem scan_countedFrom (h : host'.Follows host base view) (lexer : Lexer) (t : τ) :
    (lexer.countedFrom base).scan host' (view t) = outcomeFrom base view (lexer.scan host t) := by
  show (if lexer.done = true then
    (Scan.token lexer.endToken, lexer.countedFrom base, view t)
    else tryAll host' (lexer.beginScan.activate.2.trials lexer.beginScan.activate.1)
      (lexer.beginScan.activate.2.countedFrom base) (view t)) = _
  rw [tryAll_countedFrom h]
  unfold scan
  split <;> rfl

theorem skipUnit_countedFrom (lexer : Lexer) (base : LexerStats) :
    (lexer.countedFrom base).skipUnit = lexer.skipUnit.countedFrom base :=
  input_countedFrom { lexer with
    text := if lexer.more then lexer.text else []
    location := lexer.here } base

/-- Unrecognized input is treated alike whatever was counted before. -/
theorem resolve_countedFrom (h : host'.Follows host base view) (lexer : Lexer) (t : τ)
    (info : Unrecognized) :
    (lexer.countedFrom base).resolve host' (view t) info =
      outcomeFrom base view (lexer.resolve host t info) := by
  unfold resolve
  rw [offset_countedFrom, h.note, h.stuck]
  generalize host.stuck info lexer _ = answered
  obtain ⟨answer, after, t'⟩ := answered
  show (answer, if after.leftAlone lexer = true then (after.countedFrom base).skipUnit
    else after.countedFrom base, view t') = _
  rw [skipUnit_countedFrom]
  simp only [outcomeFrom]
  split <;> rfl

/-- A search for a token runs alike whatever was counted before. -/
theorem lex_countedFrom (h : host'.Follows host base view) (limit : Nat) (lexer : Lexer) (t : τ) :
    (lexer.countedFrom base).lex host' limit (view t) =
      outcomeFrom base view (lexer.lex host limit t) := by
  induction limit generalizing lexer t with
  | zero => rfl
  | succ limit ih =>
    simp only [lex, scan_countedFrom h]
    generalize lexer.scan host t = scanned
    obtain ⟨scan, next, t'⟩ := scanned
    cases scan with
    | token token => simp only [outcomeFrom, h.note]; rfl
    | failed reason => rfl
    | skip => exact ih next t'
    | stuck info =>
      simp only [outcomeFrom, resolve_countedFrom h]
      generalize next.resolve host t' info = resolved
      obtain ⟨_ | _ | symbol, after, t''⟩ := resolved
      · rfl
      · exact ih after t''
      · rfl

end Lexer

end

end ShiftReduce
