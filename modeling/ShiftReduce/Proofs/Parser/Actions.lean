import ShiftReduce.Proofs.Parser.Move

/-!
# The laws of shifts and reductions

A state chooses its action after at most one look ahead (`Engine.chooseAction_ok`). A shift that is
chosen is the move `Shifts`, and it never fails (`Engine.shift_ok`, `Engine.shift_ne_error`); a
reduction is the move `Reduces`, or it ends the parse with at most one call of an action
(`Engine.reduce_ok`, `Engine.reduce_error`).
-/

namespace ShiftReduce

section
variable {σ V ε : Type} {e : Engine σ V ε} {s s' : Session σ V} {c c' : Config σ V}

namespace Engine

/-! ## Choosing an action -/

/-- Fetching a token leaves the stack alone. -/
theorem Fetches.stack {token : Token} (h : Fetches e s token s') : s'.stack = s.stack := by
  cases h <;> rfl

/-- Fetching a token leaves the token held back and the recovery alone. -/
theorem Fetches.keeps {token : Token} (h : Fetches e s token s') :
    s'.held = s.held ∧ s'.record = s.record ∧ s'.recovering = s.recovering := by
  cases h <;> exact ⟨rfl, rfl, rfl⟩

/-- A state with a default reduction takes it. Reference: the choice of an action in `Parser::run`.
-/
theorem chooseAction_default {state : StateId} {number : ProductionId}
    (default : e.table.defaultReduction? state = some number) (c : Config σ V) :
    e.chooseAction state c = .ok (.reduce number, c) := by
  unfold chooseAction
  rw [default]

/-- A state without a default reduction takes its entry for the token ahead. Reference: the choice
of an action in `Parser::run`. -/
theorem chooseAction_ahead {state : StateId} {token : Token}
    (free : e.table.defaultReduction? state = none) (ahead : c.session.lookahead = some token) :
    e.chooseAction state c = .ok (e.table.action state token.symbol, c) := by
  unfold chooseAction
  rw [free]
  dsimp only
  rw [ahead]

/-- A state without a default reduction fetches the token ahead if there is none. Reference: the
choice of an action in `Parser::run`. -/
theorem chooseAction_fetch {state : StateId} (free : e.table.defaultReduction? state = none)
    (absent : c.session.lookahead = none) :
    e.chooseAction state c = (e.fetch c).map fun fetched =>
      (e.table.action state fetched.1.symbol,
        fetched.2.update fun session => { session with lookahead := some fetched.1 }) := by
  unfold chooseAction
  rw [free]
  dsimp only
  rw [absent]
  cases e.fetch c <;> rfl

/-- The action is chosen in the session as it is, or after a look ahead. Reference: the choice of an
action in `Parser::run`. -/
theorem chooseAction_ok {state : StateId} {action : Action}
    (top : c.session.stack.topState? = some state) (known : e.table.hasState state = true)
    (h : e.chooseAction state c = .ok (action, c')) :
    (c'.session = c.session ∨ Looks e c.session c'.session) ∧ Chooses e c'.session state action := by
  unfold chooseAction at h
  split at h
  · next hred => cases h; exact ⟨.inl rfl, .byDefault top known hred⟩
  · next hfree =>
    split at h
    · next hahead => cases h; exact ⟨.inl rfl, .byToken top known hfree hahead⟩
    · next habsent =>
      cases hfetch : e.fetch c with
      | error halt => rw [hfetch] at h; cases h
      | ok r =>
        rw [hfetch] at h
        cases h
        have hf := fetch_ok hfetch
        have htop : r.2.session.stack.topState? = some state := hf.stack ▸ top
        exact ⟨.inr (.mk habsent hf), .byToken htop known hfree rfl⟩

/-- Choosing an action fails only where the lexer does. Reference: the choice of an action in
`Parser::run`. -/
theorem chooseAction_error {state : StateId} {halt : Halt σ V ε}
    (h : e.chooseAction state c = .error halt) :
    c.session.lookahead = none ∧ e.table.defaultReduction? state = none ∧
      e.fetch c = .error halt := by
  unfold chooseAction at h
  split at h
  · cases h
  · next hfree =>
    split at h
    · cases h
    · next habsent =>
      cases hfetch : e.fetch c with
      | error halt' => rw [hfetch] at h; cases h; exact ⟨habsent, hfree, rfl⟩
      | ok r => rw [hfetch] at h; cases h

/-- A choice has the state of the top slot. -/
theorem Chooses.top {state : StateId} {action : Action} (h : Chooses e s state action) :
    s.stack.topState? = some state := by
  cases h <;> assumption

/-! ## Shifts -/

/-- A shift that is chosen has a token ahead of it that the entry is for. -/
theorem Chooses.token {state : StateId} {action : Action} (h : Chooses e s state action)
    (hne : ∀ number, action ≠ .reduce number) :
    ∃ token, s.lookahead = some token ∧ e.table.action state token.symbol = action := by
  cases h with
  | byDefault _ _ _ => exact absurd rfl (hne _)
  | byToken _ _ _ hahead => exact ⟨_, hahead, rfl⟩

/-- The shift function shifts. There are three kinds of shifts: of a token that a recovery made, of
an error token of the lexer's own where no recovery is under way, and of any other token. Reference:
`Parser::shift`. -/
theorem shift_ok {state target : StateId} (chosen : Chooses e c.session state (.shift target))
    (h : e.shift target c = .ok c') : Shifts e c.session c'.session := by
  obtain ⟨token, hahead, -⟩ := chosen.token nofun
  unfold shift at h
  dsimp only at h
  rw [hahead] at h
  dsimp only at h
  cases h
  cases hheld : c.session.held with
  | some held =>
    simp only [Option.isNone_some, Bool.and_false, Bool.false_and]
    exact .synthetic chosen hahead hheld rfl rfl
  | none =>
    by_cases hlexed : token.symbol = SymbolId.error ∧ c.session.recovering = 0
    · have hcond : (token.symbol == SymbolId.error && (none : Option Token).isNone &&
          c.session.recovering == 0) = true := by simp [hlexed.1, hlexed.2]
      simp only [hcond]
      exact .lexed chosen hahead hheld hlexed.1 hlexed.2 rfl rfl
    · have hcond : (token.symbol == SymbolId.error && (none : Option Token).isNone &&
          c.session.recovering == 0) = false := by simpa using hlexed
      simp only [hcond]
      unfold afterShift
      dsimp only
      split
      · contradiction
      · split
        · contradiction
        · have hcounted : token.symbol = SymbolId.error → c.session.recovering ≠ 0 :=
            fun hsymbol hover => hlexed ⟨hsymbol, hover⟩
          split
          · exact .plain chosen hahead hheld hcounted rfl rfl
          · exact .plain chosen hahead hheld hcounted rfl rfl

/-- A shift that is chosen does not fail. Reference: `Parser::shift`. -/
theorem shift_ne_error {state target : StateId} {halt : Halt σ V ε}
    (chosen : Chooses e c.session state (.shift target)) : e.shift target c ≠ .error halt := by
  obtain ⟨token, hahead, -⟩ := chosen.token nofun
  unfold shift
  dsimp only
  rw [hahead]
  nofun

/-! ## Reductions -/

section
variable [Inhabited V]

/-- The reduce function reduces. The location is that of the engine's reduction, and what the action
yields can replace it; without a value of the action's the slot takes that of the first child.
Reference: `Parser::reduce`. -/
theorem reduce_ok {state : StateId} {number : ProductionId}
    (chosen : Chooses e c.session state (.reduce number)) (h : e.reduce number c = .ok c') :
    Reduces e c.session c'.session := by
  unfold reduce at h
  split at h
  · cases h
  · next production hfound =>
    dsimp only at h
    split at h
    · cases h
    · next henough =>
      split at h
      · cases h
      · next yield user hcalled =>
        unfold goto at h
        split at h
        · cases h
        · next below huncovered =>
          split at h
          · next target hentry =>
            cases h
            cases hremark : yield.remark <;> simp only [hremark] at huncovered ⊢
            · exact .mk chosen hfound (Nat.lt_of_not_le henough) hcalled huncovered hentry rfl
            · exact .mk chosen hfound (Nat.lt_of_not_le henough) hcalled huncovered hentry rfl
          · cases h

/-- A reduction that fails may have called the action of its production, and nothing else.
Reference: `Parser::reduce`. -/
theorem reduce_error {state : StateId} {number : ProductionId} {halt : Halt σ V ε}
    (chosen : Chooses e c.session state (.reduce number)) (h : e.reduce number c = .error halt) :
    Ends e c.session (landmarks halt.config.session.journal) ∧
      ∀ value, halt.stop ≠ .accepted value := by
  unfold reduce at h
  split at h
  · cases h; exact ⟨.silent, nofun⟩
  · next production hfound =>
    dsimp only at h
    split at h
    · cases h; exact ⟨.silent, nofun⟩
    · next henough =>
      have hends := Ends.reduction chosen hfound (Nat.lt_of_not_le henough)
      split at h
      · cases h; exact ⟨hends, nofun⟩
      · next yield user hcalled =>
        unfold goto at h
        split at h
        · cases h
          cases hremark : yield.remark <;> exact ⟨hends, nofun⟩
        · split at h
          · cases h
          · cases h
            cases hremark : yield.remark <;> exact ⟨hends, nofun⟩

end

end Engine

end

end ShiftReduce
