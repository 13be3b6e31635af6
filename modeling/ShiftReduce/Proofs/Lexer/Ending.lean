import ShiftReduce.Lexer.Scan

/-!
# How lexing ends

A lexer that searches for a token calls its host for the actions of rules, for the notes of its steps
and for input that no rule matches. What the actions and the notes keep (`LexerHost.Keeps`) holds up to
the last call of the host. For a host that never skips unrecognized input, `Lexer.lex_ends` names the
five ways in which the search ends; in two of them the host was asked about unrecognized input, once
and last of all.
-/

namespace ShiftReduce

section
variable {τ ε φ : Type} {host : LexerHost τ ε φ} {P : τ → Prop}

/-- A property of the host's state that is kept by the actions of rules and by notes. -/
structure LexerHost.Keeps (host : LexerHost τ ε φ) (P : τ → Prop) : Prop where
  note : ∀ event t, P t → P (host.note event t)
  action : ∀ rule lexer t, P t → P (host.action rule lexer t).2.2

/-- The faults that the rules of a lexer can have: an action fails, or it skips a match and leaves the
lexer where it was. -/
inductive LexerHost.Faults (host : LexerHost τ ε φ) : RuleFault ε → Prop
  | action {rule : RuleId} {fault : ε} : LexerHost.Faults host (.action rule fault)
  | idle {rule : RuleId} {offset : Nat} {lexer : Lexer} {t : τ}
      (skips : (host.action rule lexer t).1 = .ok none) :
      LexerHost.Faults host (.noProgress rule offset)

/-- The ends of a search for a token, with the host's state at the end. Up to the answer to
unrecognized input the state has the property `P`. -/
inductive LexEnd (host : LexerHost τ ε φ) (P : τ → Prop) : Lexed φ → τ → Prop
  | token : P t → LexEnd host P (.token token) t
  | answered : P t → host.stuck info lexer t = (.ok (some token.symbol), lexer', t') →
      LexEnd host P (.token token) t'
  | faulty : P t → host.Faults fault → LexEnd host P (.failed (host.fail fault)) t
  | refused {reason : φ} : P t → host.stuck info lexer t = (.error reason, lexer', t') →
      LexEnd host P (.failed reason) t'
  | exhausted : P t → LexEnd host P .exhausted t

namespace Lexer

variable {lexer : Lexer} {t : τ}

/-! ## One rule -/

/-- Running the action of a rule keeps the property. Reference: `Lexer::test_match`. -/
theorem fire_keeps (lexer : Lexer) (hk : host.Keeps P) (h : P t) (rule : RuleId) (length : Nat) :
    P (lexer.fire host t rule length).2.2 := by
  unfold fire
  dsimp only
  split
  · next heq => exact (congrArg (P ·.2.2) heq).mp (hk.action _ _ _ (hk.note _ _ h))
  · next lexer' t' heq =>
    have hP : P t' := (congrArg (P ·.2.2) heq).mp (hk.action _ _ _ (hk.note _ _ h))
    split
    · exact hk.note _ _ hP
    · split
      · exact hP
      · split <;> exact hP

/-- A rule fails only by a fault of its own. Reference: `Lexer::test_match`. -/
theorem fire_failed {rule : RuleId} {length : Nat} {reason : φ}
    (h : (lexer.fire host t rule length).1 = .failed reason) :
    ∃ fault, host.Faults fault ∧ reason = host.fail fault := by
  unfold fire at h
  dsimp only at h
  split at h
  · cases h; exact ⟨_, .action, rfl⟩
  · next heq =>
    split at h
    · cases h
    · split at h
      · cases h
      · split at h
        · cases h; exact ⟨_, .idle (congrArg (·.1) heq), rfl⟩
        · cases h

/-! ## One scan -/

/-- Trying candidates keeps the property. Reference: the loop over the candidates in `Lexer::scan`.
-/
theorem tryAll_keeps (hk : host.Keeps P) (candidates : List Candidate) :
    ∀ (lexer : Lexer) {t : τ}, P t → P (tryAll host candidates lexer t).2.2 := by
  induction candidates with
  | nil => exact fun _ _ h => h
  | cons candidate others ih =>
    intro lexer t h
    have hfire := fire_keeps lexer hk h candidate.1 candidate.2
    unfold tryAll
    split <;> next heq =>
      rw [heq] at hfire
      first
      | exact hfire
      | split
        · exact ih _ hfire
        · exact hfire

/-- Trying candidates fails only by a fault of a rule. Reference: the loop over the candidates in
`Lexer::scan`. -/
theorem tryAll_failed (candidates : List Candidate) :
    ∀ {lexer : Lexer} {t : τ} {reason : φ}, (tryAll host candidates lexer t).1 = .failed reason →
      ∃ fault, host.Faults fault ∧ reason = host.fail fault := by
  induction candidates with
  | nil =>
    intro lexer t reason h
    simp only [tryAll, unmatched] at h
    split at h <;> cases h
  | cons candidate others ih =>
    intro lexer t reason h
    unfold tryAll at h
    split at h
    · cases h
    · cases h
    · next heq => cases h; exact fire_failed (congrArg (·.1) heq)
    · split at h
      · exact ih h
      · cases h

/-- A scan keeps the property. Reference: `Lexer::scan`. -/
theorem scan_keeps (lexer : Lexer) (hk : host.Keeps P) (h : P t) : P (lexer.scan host t).2.2 := by
  unfold scan
  split
  · exact h
  · exact tryAll_keeps hk _ _ h

/-- A scan fails only by a fault of a rule. Reference: `Lexer::scan`. -/
theorem scan_failed {reason : φ} (h : (lexer.scan host t).1 = .failed reason) :
    ∃ fault, host.Faults fault ∧ reason = host.fail fault := by
  unfold scan at h
  split at h
  · cases h
  · exact tryAll_failed _ h

/-! ## The search for a token -/

/-- The search for a token ends in one of five ways, provided that the host does not skip
unrecognized input. Reference: `Lexer::lex`. -/
theorem lex_ends (hk : host.Keeps P) (hs : ∀ info lexer t, (host.stuck info lexer t).1 ≠ .ok none)
    (limit : Nat) : ∀ (lexer : Lexer) {t : τ}, P t →
      LexEnd host P (lexer.lex host limit t).1 (lexer.lex host limit t).2.2 := by
  induction limit with
  | zero => exact fun _ _ h => .exhausted h
  | succ limit ih =>
    intro lexer t h
    have hscan := scan_keeps lexer hk h
    unfold lex
    split
    · next heq => rw [heq] at hscan; exact .token (hk.note _ _ hscan)
    · next heq =>
      obtain ⟨fault, hfaults, rfl⟩ := scan_failed (congrArg (·.1) heq)
      rw [heq] at hscan
      exact .faulty hscan hfaults
    · next heq => rw [heq] at hscan; exact ih _ hscan
    · next info stuck t' heq =>
      rw [heq] at hscan
      have hnote := hk.note (.unrecognized stuck.offset) t' hscan
      -- The answer to unrecognized input is the host's own, whatever becomes of the lexer.
      rcases hanswer : host.stuck info stuck (host.note (.unrecognized stuck.offset) t') with
        ⟨_ | _ | symbol, lexer', t''⟩
      · simp only [resolve, hanswer]; exact .refused hnote hanswer
      · exact absurd (congrArg (·.1) hanswer) (hs _ _ _)
      · simp only [resolve, hanswer]; exact .answered hnote hanswer

end Lexer

end

end ShiftReduce
