import ShiftReduce.Proofs.Parser.Actions

/-!
# The laws of a recovery

A recovery has two halves: first the error is settled, by a report or by a token thrown away, and then
the stack is cut back and an error token put ahead. `Engine.recover_eq` takes the engine's function
apart at that place; `Engine.recover_ok` says that a recovery which succeeds is the move `Resumes`,
made ready by `Readies`, and `Engine.recover_error` how one that fails ends the parse.

Each half has laws for success and for failure, which the laws of a step are put together from. The
engine reports an error in the first half only where the parser is over the last one; where it is
not, and nothing was shifted since, the token at fault is thrown away instead.
-/

namespace ShiftReduce

section
variable {σ V ε : Type} {e : Engine σ V ε} {s s' : Session σ V} {c c' : Config σ V}

namespace Engine

/-! ## Parts of a recovery -/

/-- The end of a parse by a report that no recovery follows. Reference: `Parser::halt`. -/
theorem halt_session (cause : ErrorCause) (state : StateId) (token : Token) (c : Config σ V) :
    landmarks (e.halt cause state token c).config.session.journal =
        .reported (.ofToken e.table c.session.stack cause false state token) ::
          landmarks c.session.journal ∧
      ∀ value, (e.halt cause state token c).stop ≠ .accepted value := by
  unfold halt
  dsimp only
  split <;> next heq =>
    obtain ⟨user, journal, hs, hj⟩ := e.judge_session
      (.ofToken e.table c.session.stack cause false state token)
      ((c.session.count fun stats => { stats with errors := stats.errors + 1 }).note
        (.halted (.ofToken e.table c.session.stack cause false state token)))
    rw [heq] at hs
    dsimp only at hs
    subst hs
    exact ⟨hj, nofun⟩

/-- The token at fault is taken out of the session. Reference: the start of `Parser::recover`. -/
theorem takeOffending_ok {token : Token} (h : takeOffending (ε := ε) c = .ok (token, c')) :
    c.session.offending? = some token ∧
      ∃ held, c' = ⟨c.lexer, { c.session with lookahead := none, held }⟩ := by
  unfold takeOffending at h
  unfold Session.offending?
  split at h
  · cases h
  · next ahead hahead =>
    dsimp only at h
    rw [hahead]
    split at h
    · next hsymbol =>
      cases h
      exact ⟨congrArg some (if_pos hsymbol), _, rfl⟩
    · next hsymbol =>
      cases h
      exact ⟨congrArg some (if_neg hsymbol), _, rfl⟩

/-- A recovery that is chosen has a token at fault. Reference: the start of `Parser::recover`. -/
theorem takeOffending_ne_error {state : StateId} {halt : Halt σ V ε}
    (chosen : Chooses e c.session state .error) : takeOffending c ≠ .error halt := by
  obtain ⟨token, hahead, -⟩ := chosen.token nofun
  unfold takeOffending
  rw [hahead]
  dsimp only
  split <;> nofun

/-- A report that the parse goes on after; there was none for an error token. The record is cleared.
Reference: `Parser::recover`. -/
theorem reportToken_ok {state : StateId} {depth : Option Nat} {token : Token}
    (h : e.reportToken state depth token c = .ok c') :
    (token.symbol = SymbolId.error ∧ c'.session = { c.session with record := {} }) ∨
    (token.symbol ≠ SymbolId.error ∧ ∃ user journal excerpt, c'.session =
        { c.session with
          user, journal
          record := {}
          stats := { c.session.stats with errors := c.session.stats.errors + 1 } } ∧
      landmarks journal =
        .reported (.ofToken e.table c.session.stack (.unexpected excerpt) true state token) ::
          landmarks c.session.journal) := by
  unfold reportToken at h
  split at h
  · next hsymbol => cases h; exact .inl ⟨hsymbol, rfl⟩
  · next hsymbol =>
    dsimp only at h
    obtain ⟨user, journal, hs, hj⟩ := e.judge_session
      (.ofToken e.table c.session.stack (.unexpected c.lexer.showPosition) depth.isSome state token)
      ((c.session.count fun stats => { stats with errors := stats.errors + 1 }).note
        (.detected state depth))
    split at h
    · cases h
    · cases h
    · next heq =>
      rw [heq] at hs
      dsimp only at hs
      subst hs
      split at h
      · cases h
      · next hdepth =>
        have hsome : depth.isSome = true := by
          cases depth with
          | none => exact absurd rfl hdepth
          | some _ => rfl
        cases h
        rw [hsome] at hj
        exact .inr ⟨hsymbol, _, _, _, rfl, hj⟩

/-- A report that ends the parse. It does so by a verdict that does not let the parse go on, or
because no state on the stack can take an error. An error token of the lexer's is not reported here;
it was when it was fetched. Reference: `Parser::recover`. -/
theorem reportToken_error {state : StateId} {depth : Option Nat} {token : Token}
    {halt : Halt σ V ε} (h : e.reportToken state depth token c = .error halt) :
    token.symbol ≠ SymbolId.error ∧ (∃ excerpt, landmarks halt.config.session.journal =
        .reported (.ofToken e.table c.session.stack (.unexpected excerpt) depth.isSome state token) ::
          landmarks c.session.journal) ∧
      ∀ value, halt.stop ≠ .accepted value := by
  unfold reportToken at h
  split at h
  · cases h
  · next hsymbol =>
    refine ⟨hsymbol, ?_⟩
    dsimp only at h
    obtain ⟨user, journal, hs, hj⟩ := e.judge_session
      (.ofToken e.table c.session.stack (.unexpected c.lexer.showPosition) depth.isSome state token)
      ((c.session.count fun stats => { stats with errors := stats.errors + 1 }).note
        (.detected state depth))
    split at h
    · next heq => rw [heq] at hs; cases hs; cases h; exact ⟨⟨_, hj⟩, nofun⟩
    · next heq => rw [heq] at hs; cases hs; cases h; exact ⟨⟨_, hj⟩, nofun⟩
    · next heq =>
      rw [heq] at hs
      cases hs
      split at h
      · cases h; exact ⟨⟨_, hj⟩, nofun⟩
      · cases h

/-- The height of the stack is checked at the end of the input only. Reference: `Parser::recover`.
-/
theorem checkHeight_ok {state : StateId} {token : Token} {height : Nat}
    (h : e.checkHeight state token height c = .ok c') :
    (token.symbol = SymbolId.endOfInput → ∀ limit ∈ c.session.endHeight, height < limit) ∧
      c'.session = { c.session with
        endHeight := if token.symbol = SymbolId.endOfInput then some height
          else c.session.endHeight } := by
  unfold checkHeight at h
  split at h
  · next hinput => cases h; exact ⟨fun hend => absurd hend hinput, by rw [if_neg hinput]⟩
  · next hend =>
    split at h
    · cases h
    · next hlower =>
      cases h
      refine ⟨fun _ limit hlimit => ?_, by rw [if_pos (Decidable.not_not.mp hend)]; rfl⟩
      rw [Option.mem_def] at hlimit
      rw [hlimit] at hlower
      simpa using hlower

/-- A stack that is not lower ends the parse. Reference: `Parser::recover`. -/
theorem checkHeight_error {state : StateId} {token : Token} {height : Nat} {halt : Halt σ V ε}
    (h : e.checkHeight state token height c = .error halt) :
    halt = e.halt .haltedRecovering state token c := by
  unfold checkHeight at h
  split at h
  · cases h
  · split at h
    · cases h; rfl
    · cases h

/-! ## Recoveries -/

/-- What comes before a recovery leaves the stack and the height at the end of the input alone. -/
theorem Settles.keeps {token : Token} {s₁ : Session σ V} (h : Settles e s token s₁) :
    s₁.stack = s.stack ∧ s₁.endHeight = s.endHeight := by
  cases h <;> exact ⟨rfl, rfl⟩

/-- A fetch does not look at the token held back. -/
theorem Fetches.dropHeld {token : Token} (h : Fetches e s token s') :
    Fetches e { s with held := none } token { s' with held := none } := by
  cases h with
  | read hnew => exact .read hnew
  | stuck hrec hsymbol hnew => exact .stuck hrec hsymbol hnew

/-- The token fetched after a discarded one is known as such by the landmarks. -/
theorem Fetches.refetched {old token : Token} {events : List (ParserEvent V)}
    (h : Fetches e s token s') (discarded : landmarks s.journal = .discarded old :: events) :
    refetched (landmarks s'.journal) = true := by
  cases h with
  | read hnew => rw [hnew, discarded]; rfl
  | stuck _ _ hnew => rw [hnew, discarded]; rfl

/-- The session that a recovery starts from: the one of the error, or, while the parser is silent
about errors, the one with another token fetched for the one at fault. -/
inductive Readies (e : Engine σ V ε) (s : Session σ V) : Session σ V → Prop
  | here : Readies e s s
  | refetched {s₁ s₂ : Session σ V} (discard : Discards e s s₁) (look : Looks e s₁ s₂) :
      Readies e s s₂

/-- Making ready for a recovery leaves the stack alone. -/
theorem Readies.stack (h : Readies e s s') : s'.stack = s.stack := by
  cases h with
  | here => rfl
  | refetched hdiscard hlook =>
    cases hdiscard
    cases hlook with
    | mk _ hfetch => exact hfetch.stack

/-- Making ready for a recovery is moving. -/
theorem Readies.moves [Inhabited V] (h : Readies e s s') : Moves e s s' := by
  cases h with
  | here => exact .refl
  | refetched hdiscard hlook => exact .tail (.single (.discard hdiscard)) (.look hlook)

/-- The first half of a recovery: the token at fault is reported or thrown away. -/
def settle (e : Engine σ V ε) (state : StateId) (c : Config σ V) :
    Except (Halt σ V ε) (Token × Config σ V) := do
  let (token, c₁) ← takeOffending c
  if c₁.session.recovering = 0 then
    (e.reportToken state (e.recoveryDepth? c₁.session.stack) token c₁).map fun c => (token, c)
  else if c₁.session.recovering = e.quietCount then e.discardToken state token c₁
  else pure (token, c₁)

/-- The second half of a recovery: the stack is cut back, and an error token put ahead. -/
def retry (e : Engine σ V ε) (state : StateId) (depth : Option Nat) (token : Token)
    (c : Config σ V) : Except (Halt σ V ε) (Config σ V) :=
  match depth with
  | none => throw (e.halt .haltedNoRule state token c)
  | some depth => do
    let c ← e.checkHeight state token (c.session.stack.length - depth) c
    return c.update (e.popAndRetry depth token)

/-- A token that is thrown away, and the one that is fetched for it. Reference: `Parser::recover`.
-/
theorem discardToken_ok {state : StateId} {token next : Token} {lexer : Lexer}
    {held : Option Token} (chosen : Chooses e s state .error) (offending : s.offending? = some token)
    (full : s.recovering = e.quietCount)
    (h : e.discardToken state token ⟨lexer, { s with lookahead := none, held }⟩ = .ok (next, c')) :
    ∃ s₁ s₂, Discards e s s₁ ∧ Looks e s₁ s₂ ∧ s₂.offending? = some next ∧
      s₂.recovering = e.quietCount ∧ refetched (landmarks s₂.journal) = true ∧
      c'.session = { s₂ with lookahead := none, held } := by
  unfold discardToken at h
  split at h
  · cases h
  · next hinput =>
    have hfetch := fetch_ok h
    obtain ⟨lexer', s'⟩ := c'
    have hfresh := hfetch.refetched rfl
    have hnext : (if next.symbol = SymbolId.error then (none : Option Token).getD next else next) =
        next := ite_self next
    refine ⟨_, { s' with lookahead := some next, held := none }, .mk chosen offending full hinput rfl,
      .mk rfl hfetch.dropHeld, congrArg some hnext, ?_⟩
    cases hfetch with
    | read _ => exact ⟨full, hfresh, rfl⟩
    | stuck _ _ _ => exact ⟨full, hfresh, rfl⟩

/-- The first half of a recovery settles the error: it is reported, its token is thrown away, or
neither. Reference: `Parser::recover`. -/
theorem settle_ok {state : StateId} {token : Token} (chosen : Chooses e c.session state .error)
    (h : e.settle state c = .ok (token, c')) :
    ∃ s s₁ held, Readies e c.session s ∧ s.offending? = some token ∧ Settles e s token s₁ ∧
      c'.session = { s₁ with
        lookahead := none
        held
        record := if s₁.recovering = 0 then {} else s₁.record } := by
  unfold settle at h
  cases htake : takeOffending c with
  | error halt => exact absurd htake (takeOffending_ne_error chosen)
  | ok r =>
    obtain ⟨ahead, c₁⟩ := r
    obtain ⟨hoff, held, rfl⟩ := takeOffending_ok htake
    rw [htake] at h
    simp only [bind, Except.bind, pure, Except.pure] at h
    split at h
    · next hover =>
      cases hreport : e.reportToken state (e.recoveryDepth? c.session.stack) ahead
          ⟨c.lexer, { c.session with lookahead := none, held }⟩ with
      | error halt => rw [hreport] at h; cases h
      | ok c₂ =>
        rw [hreport] at h
        cases h
        have hquiet : c.session.recovering ≠ e.quietCount := by
          unfold quietCount
          omega
        refine ⟨c.session, ?_⟩
        rcases reportToken_ok hreport with ⟨hsymbol, hs⟩ | ⟨hplain, user, journal, excerpt, hs, hj⟩
        · refine ⟨c.session, held, .here, hoff, .silent chosen hquiet (fun _ => hsymbol) rfl, ?_⟩
          rw [hs, if_pos hover]
        · have hsettled : Settles e c.session token { c.session with
              user, journal
              stats := { c.session.stats with errors := c.session.stats.errors + 1 } } :=
            .reported chosen hover hplain hj
          refine ⟨_, held, .here, hoff, hsettled, ?_⟩
          rw [hs, if_pos hover]
    · next hover =>
      split at h
      · next hfull =>
        obtain ⟨s₁, s₂, hdiscard, hlook, hoff₂, hfull₂, hfresh, hs⟩ :=
          discardToken_ok chosen hoff hfull h
        refine ⟨s₂, s₂, held, .refetched hdiscard hlook, hoff₂, .refetched hfull₂ hfresh, ?_⟩
        have hover₂ : s₂.recovering ≠ 0 := by
          rw [hfull₂, ← hfull]
          exact hover
        rw [hs, if_neg hover₂]
      · next hfull =>
        cases h
        exact ⟨c.session, c.session, held, .here, hoff,
          .silent chosen hfull (fun h => absurd h hover) rfl, by rw [if_neg hover]⟩

/-- The first half of a recovery fails where the report ends the parse, where the token at fault is
the end of the input, or where the lexer fails behind a token thrown away. Reference: the first half
of `Parser::recover`. -/
theorem settle_error [Inhabited V] {state : StateId} {halt : Halt σ V ε}
    (chosen : Chooses e c.session state .error) (h : e.settle state c = .error halt) :
    ∃ s, Moves e c.session s ∧ Ends e s (landmarks halt.config.session.journal) ∧
      ∀ value, halt.stop ≠ .accepted value := by
  unfold settle at h
  cases htake : takeOffending c with
  | error halt => exact absurd htake (takeOffending_ne_error chosen)
  | ok r =>
    obtain ⟨token, c₁⟩ := r
    obtain ⟨hoff, held, rfl⟩ := takeOffending_ok htake
    rw [htake] at h
    simp only [bind, Except.bind, pure, Except.pure] at h
    split at h
    · next hover =>
      cases hreport : e.reportToken state (e.recoveryDepth? c.session.stack) token
          ⟨c.lexer, { c.session with lookahead := none, held }⟩ with
      | ok c₂ => rw [hreport] at h; cases h
      | error halt' =>
        rw [hreport] at h
        cases h
        obtain ⟨hplain, ⟨excerpt, hj⟩, hstop⟩ := reportToken_error hreport
        refine ⟨c.session, .refl, ?_, hstop⟩
        rw [hj]
        exact .unexpected chosen hoff hover hplain
    · next hover =>
      split at h
      · next hfull =>
        unfold discardToken at h
        split at h
        · cases h
          obtain ⟨hj, hstop⟩ := halt_session (ε := ε) (e := e) .haltedRecovering state token
            ⟨c.lexer, { c.session with lookahead := none, held }⟩
          refine ⟨c.session, .refl, ?_, hstop⟩
          rw [hj]
          exact .halted chosen.top rfl
        · next hinput =>
          obtain ⟨hfail, hstop⟩ := fetch_error h
          have hnew : landmarks (.discarded token :: c.session.journal) =
            .discarded token :: landmarks c.session.journal := rfl
          have hdiscard := Discards.mk chosen hoff hfull hinput hnew
          refine ⟨_, .single (.discard hdiscard), ?_, hstop⟩
          generalize halt.config.session = t at hfail
          cases hfail with
          | silent hj => rw [hj]; exact .silent
          | stuck hj => rw [hj]; exact .lexical rfl
      · cases h

/-- The second half of a recovery makes it: slots are popped and an error token is put ahead.
Reference: `Parser::recover`. -/
theorem retry_ok {s₁ : Session σ V} {state : StateId} {token : Token} {held : Option Token}
    (offending : s.offending? = some token) (settled : Settles e s token s₁)
    (hc : c.session = { s₁ with
      lookahead := none
      held
      record := if s₁.recovering = 0 then {} else s₁.record })
    (h : e.retry state (e.recoveryDepth? s.stack) token c = .ok c') : Resumes e s c'.session := by
  unfold retry at h
  split at h
  · cases h
  · next depth hdepth =>
    simp only [bind, Except.bind, pure, Except.pure] at h
    obtain ⟨hstack, hheight⟩ := settled.keeps
    split at h
    · cases h
    · next c₁ hcheck =>
      cases h
      obtain ⟨hlower, hs⟩ := checkHeight_ok hcheck
      rw [hc] at hlower hs
      have hresume := Resumes.mk offending settled hdepth
        (fun hend height hmem => hstack ▸ hlower hend height (hheight ▸ hmem))
      unfold Config.update
      rw [hs]
      exact hresume

/-- A recovery is its two halves, one after the other. Reference: `Parser::recover`. -/
theorem recover_eq (state : StateId) (c : Config σ V) :
    e.recover state c = (e.settle state c).bind fun r =>
      e.retry state (e.recoveryDepth? c.session.stack) r.1 r.2 := by
  unfold recover settle
  cases htake : takeOffending (ε := ε) c with
  | error halt => rfl
  | ok r =>
    obtain ⟨token, c₁⟩ := r
    obtain ⟨-, held, rfl⟩ := takeOffending_ok htake
    simp only [bind, Except.bind, pure, Except.pure]
    split
    · rfl
    · split
      · rfl
      · rfl

/-- The second half of a recovery fails by a report that ends the parse. There are two reasons: no
state on the stack can take an error, or at the end of the input the stack would not be lower than
after the recovery before. Reference: the second half of `Parser::recover`. -/
theorem retry_error {s₁ : Session σ V} {state : StateId} {token : Token} {held : Option Token}
    {depth : Option Nat} {halt : Halt σ V ε} (offending : s.offending? = some token)
    (settled : Settles e s token s₁) (top : s.stack.topState? = some state)
    (hc : c.session = { s₁ with
      lookahead := none
      held
      record := if s₁.recovering = 0 then {} else s₁.record })
    (h : e.retry state depth token c = .error halt) :
    Ends e s (landmarks halt.config.session.journal) ∧ ∀ value, halt.stop ≠ .accepted value := by
  have hhalt : ∀ cause : ErrorCause, cause.kind = .syntactic →
      Ends e s (landmarks (e.halt cause state token c).config.session.journal) ∧
        ∀ value, (e.halt cause state token c).stop ≠ .accepted value := by
    intro cause hkind
    obtain ⟨hj, hstop⟩ := e.halt_session cause state token c
    rw [hc] at hj
    dsimp only at hj
    rw [settled.keeps.1] at hj
    rw [hj]
    exact ⟨.haltedAfter offending settled top hkind, hstop⟩
  unfold retry at h
  split at h
  · cases h; exact hhalt .haltedNoRule rfl
  · next depth =>
    simp only [bind, Except.bind, pure, Except.pure] at h
    split at h
    · next heq =>
      cases h
      rw [checkHeight_error heq]
      exact hhalt .haltedRecovering rfl
    · cases h

/-- The recovery function recovers: what it returns is behind a settled error and a popping.
Reference: `Parser::recover`. -/
theorem recover_ok {state : StateId} (chosen : Chooses e c.session state .error)
    (h : e.recover state c = .ok c') :
    ∃ s, Readies e c.session s ∧ Resumes e s c'.session := by
  rw [recover_eq] at h
  cases hsettle : e.settle state c with
  | error halt => rw [hsettle] at h; cases h
  | ok r =>
    obtain ⟨token, c₁⟩ := r
    rw [hsettle] at h
    obtain ⟨s, s₁, held, hready, hoff, hsettled, hs⟩ := settle_ok chosen hsettle
    rw [← hready.stack] at h
    exact ⟨s, hready, retry_ok hoff hsettled hs h⟩

/-- A recovery that fails ends the parse after a report, or behind a token thrown away. Reference:
`Parser::recover`. -/
theorem recover_error [Inhabited V] {state : StateId} {halt : Halt σ V ε}
    (chosen : Chooses e c.session state .error) (h : e.recover state c = .error halt) :
    ∃ s, Moves e c.session s ∧ Ends e s (landmarks halt.config.session.journal) ∧
      ∀ value, halt.stop ≠ .accepted value := by
  rw [recover_eq] at h
  cases hsettle : e.settle state c with
  | error halt' =>
    rw [hsettle] at h
    cases h
    exact settle_error chosen hsettle
  | ok r =>
    obtain ⟨token, c₁⟩ := r
    rw [hsettle] at h
    obtain ⟨s, s₁, held, hready, hoff, hsettled, hs⟩ := settle_ok chosen hsettle
    have htop : s.stack.topState? = some state := hready.stack ▸ chosen.top
    exact ⟨s, hready.moves, retry_error hoff hsettled htop hs h⟩

end Engine

end

end ShiftReduce
