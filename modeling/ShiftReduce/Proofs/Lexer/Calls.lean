import ShiftReduce.Proofs.Lexer.Ending

/-!
# The calls of a lexer's host

A lexer sees of its host only the answers to its calls. Two hosts that answer alike while their states
are related (`LexerHost.Alike`) therefore lead a lexer through the same searches for tokens
(`Lexer.lex_alike`). The host that also writes down the calls it gets
(`LexerHost.recorded`) is one that answers alike, so that what is said about its calls is said about any
run of a lexer (`Lexer.lexAll_recorded`).

There is one law for each function of a search, up to `Lexer.lex_alike`. Results are compared up to
the reasons for failures, since a parser's host and a lexer's own have different ones.
-/

namespace ShiftReduce

section
variable {τ ε φ : Type}

/-- The results of as many searches for a token as there are limits, each one of that many scans. -/
def Lexer.lexAll (host : LexerHost τ ε φ) : (limits : List Nat) → Lexer → τ →
    List (Lexed φ) × Lexer × τ
  | [], lexer, t => ([], lexer, t)
  | limit :: limits, lexer, t =>
    let (result, lexer, t) := lexer.lex host limit t
    let (results, lexer, t) := lexAll host limits lexer t
    (result :: results, lexer, t)

/-- A call that a lexer made of its host: the lexer as the host saw it, and the answer. -/
inductive HostCall (ε φ : Type)
  | action (rule : RuleId) (seen : Lexer) (answer : Except ε (Option SymbolId))
  | stuck (info : Unrecognized) (seen : Lexer) (answer : Except φ (Option SymbolId))

/-- A host that keeps a list of the calls it gets beside its state. -/
def LexerHost.recorded (host : LexerHost τ ε φ) : LexerHost (τ × List (HostCall ε φ)) ε φ where
  action rule lexer t :=
    let (answer, after, state) := host.action rule lexer t.1
    (answer, after, state, t.2 ++ [.action rule lexer answer])
  stuck info lexer t :=
    let (answer, after, state) := host.stuck info lexer t.1
    (answer, after, state, t.2 ++ [.stuck info lexer answer])
  fail := host.fail
  note event t := (host.note event t.1, t.2)

namespace LexerHost

variable {host : LexerHost τ ε φ} {lexer after : Lexer} {t t' : τ} {calls : List (HostCall ε φ)}

/-- The call of an action is recorded with its answer. -/
theorem recorded_action {rule : RuleId} {answer : Except ε (Option SymbolId)}
    (h : host.action rule lexer t = (answer, after, t')) :
    host.recorded.action rule lexer (t, calls) =
      (answer, after, t', calls ++ [.action rule lexer answer]) := by
  simp only [recorded, h]

/-- The call at unrecognized input is recorded with its answer. -/
theorem recorded_stuck {info : Unrecognized} {answer : Except φ (Option SymbolId)}
    (h : host.stuck info lexer t = (answer, after, t')) :
    host.recorded.stuck info lexer (t, calls) =
      (answer, after, t', calls ++ [.stuck info lexer answer]) := by
  simp only [recorded, h]

/-- Notes are not recorded. -/
theorem recorded_note (event : LexerEvent) :
    host.recorded.note event (t, calls) = (host.note event t, calls) := rfl

end LexerHost

end

/-! ## Outcomes that are alike -/

section
variable {τ₁ τ₂ ε φ₁ φ₂ α β : Type}

/-- Two outcomes with the same lexer, results related by `S` and states related by `R`. -/
inductive OutcomesAlike (S : α → β → Prop) (R : τ₁ → τ₂ → Prop) : α × Lexer × τ₁ → β × Lexer × τ₂ → Prop
  | intro {first : α} {second : β} {lexer : Lexer} {t₁ : τ₁} {t₂ : τ₂} (results : S first second)
      (states : R t₁ t₂) : OutcomesAlike S R (first, lexer, t₁) (second, lexer, t₂)

/-- Two computations that succeed with results related by `S`, or fail for reasons related by `Q`. -/
inductive ExceptsAlike (Q : φ₁ → φ₂ → Prop) (S : α → β → Prop) : Except φ₁ α → Except φ₂ β → Prop
  | ok {first : α} {second : β} (results : S first second) : ExceptsAlike Q S (.ok first) (.ok second)
  | error {first : φ₁} {second : φ₂} (reasons : Q first second) :
      ExceptsAlike Q S (.error first) (.error second)

/-- A computation is alike to itself. -/
theorem ExceptsAlike.refl {Q : φ₁ → φ₁ → Prop} {S : α → α → Prop} (hQ : ∀ reason, Q reason reason)
    (hS : ∀ result, S result result) (x : Except φ₁ α) : ExceptsAlike Q S x x := by
  cases x with
  | ok result => exact .ok (hS result)
  | error reason => exact .error (hQ reason)

/-- Results that are related are related more loosely. -/
theorem ExceptsAlike.imp {Q : φ₁ → φ₂ → Prop} {S S' : α → β → Prop} {x : Except φ₁ α}
    {y : Except φ₂ β} (h : ExceptsAlike Q S x y) (loosen : ∀ a b, S a b → S' a b) :
    ExceptsAlike Q S' x y := by
  cases h with
  | ok hresults => exact .ok (loosen _ _ hresults)
  | error hreasons => exact .error hreasons

/-- The same outcome of trying a rule, or two failures for related reasons. -/
inductive TrialsAlike (Q : φ₁ → φ₂ → Prop) : Trial φ₁ → Trial φ₂ → Prop
  | token {token : Token} : TrialsAlike Q (.token token) (.token token)
  | skip : TrialsAlike Q .skip .skip
  | rejected : TrialsAlike Q .rejected .rejected
  | failed {first : φ₁} {second : φ₂} (reasons : Q first second) :
      TrialsAlike Q (.failed first) (.failed second)

/-- The same outcome of a scan, or two failures for related reasons. -/
inductive ScansAlike (Q : φ₁ → φ₂ → Prop) : Scan φ₁ → Scan φ₂ → Prop
  | token {token : Token} : ScansAlike Q (.token token) (.token token)
  | skip : ScansAlike Q .skip .skip
  | stuck {info : Unrecognized} : ScansAlike Q (.stuck info) (.stuck info)
  | failed {first : φ₁} {second : φ₂} (reasons : Q first second) :
      ScansAlike Q (.failed first) (.failed second)

/-- The same result of lexing, or two failures for related reasons. Hosts that differ in the
failures they tell of are compared by it. -/
inductive LexedAlike (Q : φ₁ → φ₂ → Prop) : Lexed φ₁ → Lexed φ₂ → Prop
  | token {token : Token} : LexedAlike Q (.token token) (.token token)
  | failed {first : φ₁} {second : φ₂} (reasons : Q first second) :
      LexedAlike Q (.failed first) (.failed second)
  | exhausted : LexedAlike Q .exhausted .exhausted

/-- Two hosts that give the same answers and leave the same lexers, whatever the lexer, while their
states are related by `R`; failures are related by `Q`. The answers to unrecognized input are compared
only up to where the first host's state lacks the property `P`, which no call brings back. -/
structure LexerHost.Alike (host₁ : LexerHost τ₁ ε φ₁) (host₂ : LexerHost τ₂ ε φ₂) (P : τ₁ → Prop)
    (R : τ₁ → τ₂ → Prop) (Q : φ₁ → φ₂ → Prop) : Prop where
  note : ∀ event {t₁ t₂}, R t₁ t₂ → R (host₁.note event t₁) (host₂.note event t₂)
  action : ∀ rule lexer {t₁ t₂}, R t₁ t₂ →
    OutcomesAlike Eq R (host₁.action rule lexer t₁) (host₂.action rule lexer t₂)
  stuck : ∀ info lexer {t₁ t₂}, R t₁ t₂ → P (host₁.stuck info lexer t₁).2.2 →
    OutcomesAlike (ExceptsAlike Q Eq) R (host₁.stuck info lexer t₁) (host₂.stuck info lexer t₂)
  fail : ∀ fault, Q (host₁.fail fault) (host₂.fail fault)
  lost : host₁.Keeps (¬ P ·)
  lostStuck : ∀ info lexer t, ¬ P t → ¬ P (host₁.stuck info lexer t).2.2

namespace Lexer

variable {host₁ : LexerHost τ₁ ε φ₁} {host₂ : LexerHost τ₂ ε φ₂} {P : τ₁ → Prop}
  {R : τ₁ → τ₂ → Prop} {Q : φ₁ → φ₂ → Prop} {t₁ : τ₁} {t₂ : τ₂}

/-- A rule is run alike by hosts that are alike. The lexer sees the answer of the action and the
lexer that it leaves, which are the same; a fault is passed on, and need only be related. -/
theorem fire_alike (h : host₁.Alike host₂ P R Q) (lexer : Lexer) (rule : RuleId) (length : Nat)
    (related : R t₁ t₂) :
    OutcomesAlike (TrialsAlike Q) R (lexer.fire host₁ t₁ rule length)
      (lexer.fire host₂ t₂ rule length) := by
  have hacted := fun event => h.action rule (lexer.consume length) (h.note event related)
  simp only [fire]
  specialize hacted (.matched ((lexer.consume length).topCondition 0) rule
    (((lexer.consume length).rules.rules[rule]?.map (·.source)).getD "")
    (lexer.consume length).matchedText)
  generalize host₁.action rule _ _ = first at hacted ⊢
  generalize host₂.action rule _ _ = second at hacted ⊢
  obtain ⟨hanswer, hstate⟩ := hacted
  next answer answer' acted t₁' t₂' =>
  subst hanswer
  cases answer with
  | error fault => exact ⟨.failed (h.fail _), hstate⟩
  | ok emitted =>
    dsimp only
    split
    · exact ⟨.rejected, h.note _ hstate⟩
    · cases emitted with
      | some symbol => exact ⟨.token, hstate⟩
      | none =>
        dsimp only
        split
        · exact ⟨.failed (h.fail _), hstate⟩
        · exact ⟨.skip, hstate⟩

/-- Candidates are tried alike by hosts that are alike. By induction on the candidates, since the
next one is tried where the first is rejected. -/
theorem tryAll_alike (h : host₁.Alike host₂ P R Q) (candidates : List Candidate) (lexer : Lexer)
    (related : R t₁ t₂) :
    OutcomesAlike (ScansAlike Q) R (tryAll host₁ candidates lexer t₁)
      (tryAll host₂ candidates lexer t₂) := by
  induction candidates generalizing lexer t₁ t₂ with
  | nil =>
    simp only [tryAll, unmatched]
    split
    · exact ⟨.token, related⟩
    · exact ⟨.stuck, related⟩
  | cons candidate others ih =>
    have hfired := fire_alike h lexer candidate.1 candidate.2 related
    simp only [tryAll]
    generalize lexer.fire host₁ _ _ _ = first at hfired ⊢
    generalize lexer.fire host₂ _ _ _ = second at hfired ⊢
    obtain ⟨htrials, hstate⟩ := hfired
    cases htrials with
    | token => exact ⟨.token, hstate⟩
    | skip => exact ⟨.skip, hstate⟩
    | failed hreasons => exact ⟨.failed hreasons, hstate⟩
    | rejected =>
      dsimp only
      split
      · exact ih _ hstate
      · exact ⟨.skip, hstate⟩

/-- A scan runs alike for hosts that are alike. -/
theorem scan_alike (h : host₁.Alike host₂ P R Q) (lexer : Lexer) (related : R t₁ t₂) :
    OutcomesAlike (ScansAlike Q) R (lexer.scan host₁ t₁) (lexer.scan host₂ t₂) := by
  simp only [scan]
  split
  · exact ⟨.token, related⟩
  · exact tryAll_alike h _ _ related

/-- Unrecognized input is treated alike by hosts that are alike. -/
theorem resolve_alike (h : host₁.Alike host₂ P R Q) (lexer : Lexer) (info : Unrecognized)
    (related : R t₁ t₂) (kept : P (lexer.resolve host₁ t₁ info).2.2) :
    OutcomesAlike (ExceptsAlike Q Eq) R (lexer.resolve host₁ t₁ info)
      (lexer.resolve host₂ t₂ info) := by
  have hanswered := h.stuck info lexer (h.note (.unrecognized lexer.offset) related) kept
  unfold resolve
  generalize host₁.stuck info _ _ = first at hanswered ⊢
  generalize host₂.stuck info _ _ = second at hanswered ⊢
  obtain ⟨hanswers, hstate⟩ := hanswered
  exact ⟨hanswers, hstate⟩

/-- An answer to unrecognized input does not bring a lost property back. -/
theorem resolve_lost (h : host₁.Alike host₂ P R Q) (lexer : Lexer) (info : Unrecognized)
    (lost : ¬ P t₁) : ¬ P (lexer.resolve host₁ t₁ info).2.2 :=
  h.lostStuck _ _ _ (h.lost.note _ _ lost)

/-- A search for a token does not bring a lost property back. -/
theorem lex_lost (h : host₁.Alike host₂ P R Q) (limit : Nat) (lexer : Lexer) (lost : ¬ P t₁) :
    ¬ P (lexer.lex host₁ limit t₁).2.2 := by
  induction limit generalizing lexer t₁ with
  | zero => exact lost
  | succ limit ih =>
    have hscanned := scan_keeps lexer h.lost lost
    simp only [lex]
    generalize lexer.scan host₁ t₁ = scanned at hscanned ⊢
    obtain ⟨scan, next, t₁'⟩ := scanned
    cases scan with
    | token token => exact h.lost.note _ _ hscanned
    | failed reason => exact hscanned
    | skip => exact ih _ hscanned
    | stuck info =>
      have hresolved := resolve_lost h next info hscanned
      dsimp only
      generalize next.resolve host₁ t₁' info = resolved at hresolved ⊢
      obtain ⟨_ | _ | symbol, after, t₁''⟩ := resolved
      · exact hresolved
      · exact ih _ hresolved
      · exact hresolved

/-- A search for a token runs alike for hosts that are alike, if the first one's state has the
property at the end. The property is for what two hosts are alike under only as long as it holds; it
is known at the end of the first run, and a call that lost it would not bring it back (`lex_lost`).
-/
theorem lex_alike (h : host₁.Alike host₂ P R Q) (limit : Nat) (lexer : Lexer) (related : R t₁ t₂)
    (kept : P (lexer.lex host₁ limit t₁).2.2) :
    OutcomesAlike (LexedAlike Q) R (lexer.lex host₁ limit t₁) (lexer.lex host₂ limit t₂) := by
  induction limit generalizing lexer t₁ t₂ with
  | zero => exact ⟨.exhausted, related⟩
  | succ limit ih =>
    have hscanned := scan_alike h lexer related
    simp only [lex] at kept ⊢
    generalize lexer.scan host₁ t₁ = first at hscanned kept ⊢
    generalize lexer.scan host₂ t₂ = second at hscanned ⊢
    obtain ⟨hscans, hstate⟩ := hscanned
    next scan scan' next t₁' t₂' =>
    cases hscans with
    | token => exact ⟨.token, h.note _ hstate⟩
    | failed hreasons => exact ⟨.failed hreasons, hstate⟩
    | skip => exact ih _ hstate kept
    | @stuck info =>
      have hresolved := resolve_alike h next info hstate
      dsimp only at kept ⊢
      generalize next.resolve host₁ t₁' info = first at hresolved kept ⊢
      generalize next.resolve host₂ t₂' info = second at hresolved ⊢
      obtain ⟨answer, after, t₁''⟩ := first
      -- The property at the end of the search was there behind the answer.
      have hkept : P t₁'' := by
        refine Classical.byContradiction fun hlost => ?_
        cases answer with
        | error reason => exact hlost kept
        | ok emitted =>
          cases emitted with
          | none => exact lex_lost h limit after hlost kept
          | some symbol => exact hlost kept
      obtain ⟨hanswers, hstate'⟩ := hresolved hkept
      cases hanswers with
      | error hreasons => exact ⟨.failed hreasons, hstate'⟩
      | ok hemitted =>
        next emitted emitted' =>
        subst hemitted
        cases emitted with
        | none => exact ih _ hstate' kept
        | some symbol => exact ⟨.token, hstate'⟩

end Lexer

end

/-! ## Recording -/

section
variable {τ ε φ : Type}

/-- A host that records its calls answers them as it would without. -/
theorem LexerHost.recorded_alike (host : LexerHost τ ε φ) :
    host.recorded.Alike host (fun _ => True) (fun recorded t => recorded.1 = t) Eq where
  note event t₁ t₂ h := congrArg (host.note event) h
  action rule lexer t₁ t₂ h := by subst h; exact ⟨rfl, rfl⟩
  stuck info lexer t₁ t₂ h _ := by
    subst h
    exact ⟨.refl Eq.refl Eq.refl _, rfl⟩
  fail fault := rfl
  lost := ⟨fun _ _ h => (h trivial).elim, fun _ _ _ h => (h trivial).elim⟩
  lostStuck _ _ _ h := (h trivial).elim

/-- Results that differ at most by equal reasons are equal. -/
theorem LexedAlike.eq {first second : Lexed φ} (h : LexedAlike Eq first second) : second = first := by
  cases h with
  | token => rfl
  | failed hreasons => rw [hreasons]
  | exhausted => rfl

/-- Recording does not change a run: results, lexer and state are those of the host itself. -/
theorem Lexer.lexAll_recorded (host : LexerHost τ ε φ) (limits : List Nat) (lexer : Lexer)
    (t : τ × List (HostCall ε φ)) :
    lexer.lexAll host limits t.1 =
      ((lexer.lexAll host.recorded limits t).1, (lexer.lexAll host.recorded limits t).2.1,
        (lexer.lexAll host.recorded limits t).2.2.1) := by
  induction limits generalizing lexer t with
  | nil => rfl
  | cons limit limits ih =>
    have hlexed : OutcomesAlike (LexedAlike Eq) (fun recorded plain => recorded.1 = plain)
        (lexer.lex host.recorded limit t) (lexer.lex host limit t.1) :=
      lex_alike host.recorded_alike limit lexer rfl trivial
    simp only [lexAll]
    generalize lexer.lex host.recorded limit t = first at hlexed ⊢
    generalize lexer.lex host limit t.1 = second at hlexed ⊢
    obtain ⟨hresults, rfl⟩ := hlexed
    simp only [hresults.eq, ih]

end

end ShiftReduce
