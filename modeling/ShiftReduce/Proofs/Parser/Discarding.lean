import ShiftReduce.Proofs.Parser.Abreast

/-!
# What the discard count changes

The discard count says for how long errors go unreported after a recovery. Two parses of an input
under different counts recover alike (`Engine.recover_abreast`): both throw the token at fault away
or neither does, and both give up or neither does; but one of them may report what the other does
not. So they differ in their reports alone (`Engine.discardCount_changes_reports_only`), if no error
token is the lexer's own.

What the discard count decides is decided where the error is settled (`Engine.settle_abreast`):
right behind a recovery the token at fault is thrown away, which depends on whether a token was
shifted since and not on the count, and later on an error is reported or not. All that follows is
the same for both parses (`Engine.retry_abreast`).
-/

namespace ShiftReduce

section
variable {σ V ε α : Type} {view : σ → α} {q q' : Nat} {s s' : Session σ V} {c c' : Config σ V}
  {e : Engine σ V ε}

namespace Engine

/-- Configurations abreast, under the discard count of an engine and under another one. -/
abbrev InStep (view : σ → α) (e : Engine σ V ε) (count : Nat) : Config σ V → Config σ V → Prop :=
  ConfigsAbreast view e.quietCount (e.withDiscardCount count).quietCount

/-! ## Recoveries -/

/-- Two parses abreast have the same token at fault, and it is no error token. -/
theorem takeOffending_abreast (h : ConfigsAbreast view q q' c c') :
    ExceptsAlike (HaltsAlike (ε := ε))
      (fun r r' => TokensAbreast view q q' r r' ∧ r.1.symbol ≠ SymbolId.error)
      (takeOffending c) (takeOffending c') := by
  obtain ⟨lexer, s⟩ := c
  obtain ⟨lexer', s'⟩ := c'
  obtain ⟨hlexer, hsession⟩ := h
  dsimp only at hlexer hsession
  unfold takeOffending
  dsimp only
  cases hfirst : s.lookahead with
  | none =>
    rw [Token.bare_none hsession.lookahead hfirst]
    exact .error ⟨.failed, hsession.deeds⟩
  | some token =>
    obtain ⟨token', hsecond, hbare⟩ := Token.bare_some hsession.lookahead hfirst
    have hsymbol : token'.symbol = token.symbol := congrArg Prod.fst hbare
    have htaken : Abreast view q q' { s with lookahead := none } { s' with lookahead := none } :=
      { hsession with lookahead := rfl, guarded := nofun }
    rw [hsecond]
    dsimp only [Config.update]
    rw [hsymbol]
    split
    · next herror =>
      obtain ⟨held, hbehind⟩ := Option.isSome_iff_exists.mp (hsession.guarded token hfirst herror)
      have hproper := hsession.proper held hbehind
      obtain ⟨held', hbehind', hbare'⟩ := Token.bare_some hsession.held hbehind
      rw [hbehind, hbehind']
      exact .ok ⟨⟨hbare'.symm, fun _ => hproper, hlexer,
        { htaken with held := rfl, proper := nofun, guarded := nofun }⟩, hproper⟩
    · next hproper => exact .ok ⟨⟨hbare.symm, fun _ => hproper, hlexer, htaken⟩, hproper⟩

/-- Two parses abreast throw a token away alike. -/
theorem discardToken_abreast (indifferent : e.actions.Indifferent view) (state : StateId)
    {token token' : Token} (tokens : token.bare = token'.bare)
    (h : ConfigsAbreast view q q' c c') :
    ExceptsAlike HaltsAlike (TokensAbreast view q q') (e.discardToken state token c)
      (e.discardToken state token' c') := by
  have hsymbol : token.symbol = token'.symbol := congrArg Prod.fst tokens
  have htext : token.text = token'.text := congrArg Prod.snd tokens
  obtain ⟨hlexer, hsession⟩ := h
  unfold discardToken
  rw [← hsymbol]
  split
  · exact (halt_fails indifferent _ _ _ c).alike (halt_fails indifferent _ _ _ c') hsession.deeds
  · have hdeed : (Deed.discard token.symbol token.text : Deed V) =
        .discard token'.symbol token'.text := by rw [hsymbol, htext]
    have hdeeds := congr (congrArg List.cons hdeed) hsession.deeds
    exact fetch_abreast indifferent ⟨hlexer, { hsession with deeds := hdeeds }⟩

/-- The nearest state that can take an error is at the same depth. -/
theorem recoveryDepth?_of_bare (e : Engine σ V ε) {stack stack' : Stack V}
    (h : stack.map Slot.bare = stack'.map Slot.bare) :
    e.recoveryDepth? stack = e.recoveryDepth? stack' := by
  have hdepth : ∀ stack : Stack V, e.recoveryDepth? stack =
      (stack.map Slot.bare).findIdx? fun bare =>
        e.table.action bare.2.1 SymbolId.error != .error := by
    intro stack
    rw [List.findIdx?_map]
    rfl
  rw [hdepth, hdepth, h]

/-- A stack is cut back alike, and the same error token put ahead: from here on both parses count
their shifts anew. -/
theorem popAndRetry_abreast (count depth : Nat) {token token' : Token}
    (tokens : token.bare = token'.bare) (proper : token.symbol ≠ SymbolId.error)
    (h : Abreast view q q' s s') :
    Abreast view e.quietCount (e.withDiscardCount count).quietCount (e.popAndRetry depth token s)
      ((e.withDiscardCount count).popAndRetry depth token' s') := by
  have hproper' : token'.symbol ≠ SymbolId.error := by
    rwa [show token.symbol = token'.symbol from congrArg Prod.fst tokens] at proper
  have htext : token.text = token'.text := congrArg Prod.snd tokens
  unfold popAndRetry
  dsimp only [Session.note, Session.count, Recovery.popFrom]
  rw [if_neg proper, if_neg hproper']
  exact {
    view := h.view
    stack := by rw [List.map_drop, List.map_drop, h.stack]
    lookahead := congrArg (fun text => some (SymbolId.error, text)) htext
    held := congrArg some tokens
    endHeight := h.endHeight
    deeds := h.deeds
    pace := ⟨0, rfl, rfl⟩
    proper := fun held hmem => by cases hmem; exact proper
    guarded := fun _ _ _ => rfl }

/-- The height of the stack at the end of the input is checked alike. -/
theorem checkHeight_abreast (indifferent : e.actions.Indifferent view) (state : StateId)
    {token token' : Token} (tokens : token.bare = token'.bare) (height : Nat)
    (h : ConfigsAbreast view q q' c c') :
    ExceptsAlike HaltsAlike (ConfigsAbreast view q q') (e.checkHeight state token height c)
      (e.checkHeight state token' height c') := by
  have hsymbol : token.symbol = token'.symbol := congrArg Prod.fst tokens
  obtain ⟨hlexer, hsession⟩ := h
  unfold checkHeight
  rw [← hsymbol, ← hsession.endHeight]
  split
  · exact .ok ⟨hlexer, hsession⟩
  · split
    · exact (halt_fails indifferent _ _ _ c).alike (halt_fails indifferent _ _ _ c') hsession.deeds
    · exact .ok ⟨hlexer, { hsession with endHeight := rfl }⟩

/-- The second half of a recovery is alike. -/
theorem retry_abreast (indifferent : e.actions.Indifferent view) (count : Nat) (state : StateId)
    (depth : Option Nat) {token token' : Token} (tokens : token.bare = token'.bare)
    (proper : token.symbol ≠ SymbolId.error) (h : ConfigsAbreast view q q' c c') :
    ExceptsAlike HaltsAlike
      (InStep view e count)
      (e.retry state depth token c) ((e.withDiscardCount count).retry state depth token' c') := by
  obtain ⟨hlexer, hsession⟩ := h
  cases depth with
  | none =>
    exact (halt_fails indifferent _ _ _ c).alike
      (halt_fails (e := e.withDiscardCount count) indifferent _ _ _ c') hsession.deeds
  | some depth =>
    have hchecked := checkHeight_abreast indifferent state tokens (c.session.stack.length - depth)
      ⟨hlexer, hsession⟩
    simp only [retry, bind, Except.bind, pure, Except.pure, ← hsession.height]
    rw [show (e.withDiscardCount count).checkHeight = e.checkHeight from rfl]
    generalize e.checkHeight state token _ c = first at hchecked ⊢
    generalize e.checkHeight state token' _ c' = second at hchecked ⊢
    cases hchecked with
    | error hhalts => exact .error hhalts
    | ok hconfigs =>
      exact .ok ⟨hconfigs.1, popAndRetry_abreast count depth tokens proper hconfigs.2⟩

/-- Right behind a recovery, the token at fault is thrown away. -/
theorem settle_discards {c₁ : Config σ V} {token : Token} (state : StateId)
    (taken : takeOffending (ε := ε) c = .ok (token, c₁))
    (full : c₁.session.recovering = e.quietCount) :
    e.settle state c = e.discardToken state token c₁ := by
  have hover : c₁.session.recovering ≠ 0 := by
    have hpos := e.quietCount_pos
    omega
  simp only [settle, taken, bind, Except.bind, if_neg hover, if_pos full]

/-- Later on, an error that can be recovered from is reported or not; that is compared with
nothing. -/
theorem settle_unmoved (indifferent : e.actions.Indifferent view) {c₁ : Config σ V} {token : Token}
    {depth : Nat} (state : StateId) (taken : takeOffending (ε := ε) c = .ok (token, c₁))
    (proper : token.symbol ≠ SymbolId.error) (begun : c₁.session.recovering ≠ e.quietCount)
    (nearest : e.recoveryDepth? c₁.session.stack = some depth) :
    ∃ c₂, e.settle state c = .ok (token, c₂) ∧ c₂.lexer = c₁.lexer ∧
      Unmoved view c₁.session c₂.session := by
  simp only [settle, taken, bind, Except.bind, pure, Except.pure, nearest, if_neg begun]
  split
  · obtain ⟨c₂, hreport, hlexer, hunmoved⟩ := reportToken_unmoved indifferent proper state depth c₁
    exact ⟨c₂, by rw [hreport]; rfl, hlexer, hunmoved⟩
  · exact ⟨c₁, rfl, rfl, .refl⟩

/-- Later on, an error that cannot be recovered from fails, whether it is reported first or not. -/
theorem recover_fails (indifferent : e.actions.Indifferent view) {c₁ : Config σ V} {token : Token}
    (state : StateId) (taken : takeOffending (ε := ε) c = .ok (token, c₁))
    (proper : token.symbol ≠ SymbolId.error) (begun : c₁.session.recovering ≠ e.quietCount)
    (hopeless : e.recoveryDepth? c₁.session.stack = none) :
    Fails c₁.session (e.recover state c) := by
  have hstack : c.session.stack = c₁.session.stack := by
    obtain ⟨-, held, rfl⟩ := takeOffending_ok taken
    rfl
  rw [recover_eq, hstack, hopeless]
  by_cases hover : c₁.session.recovering = 0
  · obtain ⟨halt, error, hreport, hfails⟩ := reportToken_fails indifferent proper state c₁
    have hsettle : e.settle state c = .error halt := by
      simp only [settle, taken, bind, Except.bind, if_pos hover, hopeless, hreport]
      rfl
    rw [hsettle]
    exact ⟨halt, error, rfl, hfails⟩
  · have hsettle : e.settle state c = .ok (token, c₁) := by
      simp only [settle, taken, bind, Except.bind, pure, Except.pure, if_neg hover, if_neg begun]
    rw [hsettle]
    exact halt_fails indifferent _ _ _ c₁

/-- Two parses abreast settle an error alike, or it cannot be recovered from and both fail: the token
at fault is thrown away in both of them if none was shifted since the last recovery, and otherwise
one of them may report what the other does not. -/
theorem settle_abreast (indifferent : e.actions.Indifferent view) (count : Nat) (state : StateId)
    {token token' : Token} {c₁ c₁' : Config σ V}
    (taken : takeOffending (ε := ε) c = .ok (token, c₁))
    (taken' : takeOffending (ε := ε) c' = .ok (token', c₁'))
    (proper : token.symbol ≠ SymbolId.error)
    (h : TokensAbreast view e.quietCount (e.withDiscardCount count).quietCount (token, c₁)
      (token', c₁')) :
    Fails c₁.session (e.recover state c) ∧
        Fails c₁'.session ((e.withDiscardCount count).recover state c') ∨
      ExceptsAlike HaltsAlike
        (TokensAbreast view e.quietCount (e.withDiscardCount count).quietCount)
        (e.settle state c) ((e.withDiscardCount count).settle state c') := by
  obtain ⟨hbare, -, hlexer, hsession⟩ := h
  dsimp only at hbare hlexer hsession
  have hproper' : token'.symbol ≠ SymbolId.error := by
    rwa [show token.symbol = token'.symbol from congrArg Prod.fst hbare] at proper
  have hpos := e.quietCount_pos
  have hpos' := (e.withDiscardCount count).quietCount_pos
  -- Both counts have fallen by the shifts since the last recovery: they are full together.
  obtain ⟨shifts, hpace, hpace'⟩ := hsession.pace
  by_cases hfresh : shifts = 0
  · have hfull : c₁.session.recovering = e.quietCount := by omega
    have hfull' : c₁'.session.recovering = (e.withDiscardCount count).quietCount := by omega
    rw [settle_discards state taken hfull, settle_discards state taken' hfull']
    exact .inr (discardToken_abreast indifferent state hbare ⟨hlexer, hsession⟩)
  · have hbegun : c₁.session.recovering ≠ e.quietCount := by omega
    have hbegun' : c₁'.session.recovering ≠ (e.withDiscardCount count).quietCount := by omega
    have hdepth := e.recoveryDepth?_of_bare hsession.stack
    cases hnearest : e.recoveryDepth? c₁.session.stack with
    | none =>
      exact .inl ⟨recover_fails indifferent state taken proper hbegun hnearest,
        recover_fails (e := e.withDiscardCount count) indifferent state taken' hproper' hbegun'
          (hdepth.symm.trans hnearest)⟩
    | some depth =>
      obtain ⟨c₂, hsettle, hlexer₂, hunmoved⟩ :=
        settle_unmoved indifferent state taken proper hbegun hnearest
      obtain ⟨c₂', hsettle', hlexer₂', hunmoved'⟩ :=
        settle_unmoved (e := e.withDiscardCount count) indifferent state taken' hproper' hbegun'
          (hdepth.symm.trans hnearest)
      rw [hsettle, hsettle']
      exact .inr (.ok ⟨hbare, fun _ => proper, by rw [hlexer₂, hlexer₂', hlexer],
        hsession.unmoved hunmoved hunmoved'⟩)

/-- Two parses abreast recover alike. The two halves one after the other: the error is settled, then
the stack is cut back. Between the two the parses may differ in a report. -/
theorem recover_abreast (indifferent : e.actions.Indifferent view) (count : Nat) (state : StateId)
    (h : InStep view e count c c')
    (kept : FetchesNoError (left (e.recover state c)).journal) :
    ExceptsAlike HaltsAlike
      (InStep view e count)
      (e.recover state c) ((e.withDiscardCount count).recover state c') := by
  have hdepth := e.recoveryDepth?_of_bare h.2.stack
  have htaken := takeOffending_abreast (ε := ε) h
  generalize htake : takeOffending (ε := ε) c = first at htaken
  generalize htake' : takeOffending (ε := ε) c' = second at htaken
  cases htaken with
  | error hhalts =>
    simp only [recover, htake, htake', bind, Except.bind]
    exact .error hhalts
  | ok htokens =>
    rcases settle_abreast indifferent count state htake htake' htokens.2 htokens.1 with
      ⟨hfails, hfails'⟩ | hsettled
    · exact hfails.alike hfails' htokens.1.configs.2.deeds
    · rw [recover_eq] at kept ⊢
      rw [recover_eq, show (e.withDiscardCount count).recoveryDepth? c'.session.stack =
        e.recoveryDepth? c.session.stack from hdepth.symm]
      generalize e.settle state c = first at hsettled kept ⊢
      generalize (e.withDiscardCount count).settle state c' = second at hsettled ⊢
      cases hsettled with
      | error hhalts => exact .error hhalts
      | ok htokens =>
        -- The token may have replaced one that was thrown away; it is no error token either.
        have hproper := htokens.proper (kept.mono (e.retry_suffix _ _ _ _))
        exact retry_abreast indifferent count state _ htokens.tokens hproper htokens.configs

/-! ## Steps and runs -/

/-- Remarks of two parses abreast. -/
theorem ConfigsAbreast.note (h : ConfigsAbreast view q q' c c') {event event' : ParserEvent V}
    (remark : event.deed? = none) (remark' : event'.deed? = none) :
    ConfigsAbreast view q q' (c.note event) (c'.note event') :=
  ⟨h.1, h.2.unmoved (unmoved_note remark) (unmoved_note remark')⟩

/-- Two parses abreast choose the same action. The default of the state decides, or the token ahead,
which both have or both fetch. -/
theorem chooseAction_abreast (indifferent : e.actions.Indifferent view) (state : StateId)
    (h : ConfigsAbreast view q q' c c') :
    ExceptsAlike HaltsAlike
      (fun r r' => r.1 = r'.1 ∧
        (FetchesNoError r.2.session.journal → ConfigsAbreast view q q' r.2 r'.2))
      (e.chooseAction state c) (e.chooseAction state c') := by
  unfold chooseAction
  cases e.table.defaultReduction? state with
  | some number => exact .ok ⟨rfl, fun _ => h⟩
  | none =>
    dsimp only
    cases hfirst : c.session.lookahead with
    | some token =>
      obtain ⟨token', hsecond, hbare⟩ := Token.bare_some h.2.lookahead hfirst
      have hsymbol : token'.symbol = token.symbol := congrArg Prod.fst hbare
      rw [hsecond]
      dsimp only
      rw [hsymbol]
      exact .ok ⟨rfl, fun _ => h⟩
    | none =>
      rw [Token.bare_none h.2.lookahead hfirst]
      have hfetched := fetch_abreast indifferent h
      dsimp only
      generalize e.fetch c = first at hfetched ⊢
      generalize e.fetch c' = second at hfetched ⊢
      cases hfetched with
      | error hhalts => exact .error hhalts
      | ok htokens =>
        next r r' =>
        obtain ⟨hbare, hproper, hlexer, hsession⟩ := htokens
        have hsymbol : r.1.symbol = r'.1.symbol := congrArg Prod.fst hbare
        refine .ok ⟨congrArg (e.table.action state) hsymbol, fun hkept => ⟨hlexer, ?_⟩⟩
        exact { hsession with
          lookahead := congrArg some hbare
          guarded := fun ahead hmem herror => by
            cases hmem
            exact absurd herror (hproper hkept) }

section
variable [Inhabited V]

/-- Two parses abreast accept alike. -/
theorem accept_abreast (e : Engine σ V ε) (count : Nat) (state : StateId)
    (h : ConfigsAbreast view q q' c c') :
    ExceptsAlike HaltsAlike (ConfigsAbreast view q q') (e.perform state c .accept)
      ((e.withDiscardCount count).perform state c' .accept) := by
  have hstack := h.2.stack
  have hdeeds := h.2.deeds
  unfold perform
  dsimp only [Config.note, Config.update, Session.note]
  cases hfirst : c.session.stack with
  | nil =>
    rw [hfirst, List.map_nil, eq_comm, List.map_eq_nil_iff] at hstack
    rw [hstack]
    exact .error ⟨.failed, hdeeds⟩
  | cons slot rest =>
    rw [hfirst, List.map_cons, eq_comm, List.map_eq_cons_iff] at hstack
    obtain ⟨slot', rest', hsecond, hbare, -⟩ := hstack
    have hvalue : slot'.value = slot.value := congrArg (·.2.2) hbare
    rw [hsecond]
    dsimp only [Stack.takeTop?]
    rw [hvalue]
    exact .error ⟨.value, hdeeds⟩

/-- Two parses abreast perform an action alike. -/
theorem perform_abreast (indifferent : e.actions.Indifferent view) (count : Nat) (state : StateId)
    (action : Action) (h : InStep view e count c c')
    (kept : FetchesNoError (left (e.perform state c action)).journal) :
    ExceptsAlike HaltsAlike
      (InStep view e count)
      (e.perform state c action) ((e.withDiscardCount count).perform state c' action) := by
  have hdeeds := h.2.deeds
  cases action with
  | shift target => exact shift_abreast indifferent count target (h.note rfl rfl)
  | reduce number => exact reduce_abreast indifferent number (h.note rfl rfl)
  | accept => exact e.accept_abreast count state h
  | error => exact recover_abreast indifferent count state h kept
  | ambiguous number => exact .error ⟨.failed, hdeeds⟩
  | goto target => exact .error ⟨.failed, hdeeds⟩

/-- Two parses abreast take a step alike. A step chooses an action and performs it; either may fail,
and then it fails in both. -/
theorem step_abreast (indifferent : e.actions.Indifferent view) (count : Nat)
    (h : InStep view e count c c')
    (kept : FetchesNoError (left (e.step c)).journal) :
    ExceptsAlike HaltsAlike
      (InStep view e count)
      (e.step c) ((e.withDiscardCount count).step c') := by
  unfold step at kept ⊢
  rw [← topState?_of_bare h.2.stack]
  cases htop : c.session.stack.topState? with
  | none => exact .error ⟨.failed, h.2.deeds⟩
  | some state =>
    rw [htop] at kept
    dsimp only at kept ⊢
    rw [withDiscardCount_table, withDiscardCount_chooseAction]
    by_cases hknown : e.table.hasState state = true
    · rw [if_pos hknown] at kept
      rw [if_pos hknown, if_pos hknown]
      have hchosen := chooseAction_abreast indifferent state h
      have hfirst : ∀ r, e.chooseAction state c = .ok r → Chooses e r.2.session state r.1 :=
        fun r hchoose => (chooseAction_ok htop hknown hchoose).2
      simp only [bind, Except.bind] at kept ⊢
      generalize e.chooseAction state c = first at hchosen hfirst kept ⊢
      generalize e.chooseAction state c' = second at hchosen ⊢
      cases hchosen with
      | error hhalts => exact .error hhalts
      | ok hresults =>
        next r r' =>
        obtain ⟨haction, hconfigs⟩ := hresults
        have hsuffix := perform_suffix
          ((hfirst r rfl).note (.atState r.2.session.stack r.2.session.lookahead))
        dsimp only at kept ⊢
        rw [← haction]
        exact perform_abreast indifferent count state r.1
          ((hconfigs (kept.mono hsuffix)).note rfl rfl) kept
    · rw [if_neg hknown, if_neg hknown]
      exact .error ⟨.failed, h.2.deeds⟩

/-- Steps keep two parses abreast. -/
theorem abreast_simulation (indifferent : e.actions.Indifferent view) (count : Nat) :
    Simulation e (e.withDiscardCount count)
      (InStep view e count)
      (fun halt => FetchesNoError halt.config.session.journal) HaltsAlike where
  go {c c' c₁ fuel} h hstep kept := by
    have hkept : FetchesNoError (left (e.step c)).journal := by
      rw [hstep]
      exact kept.mono (e.run_suffix fuel c₁)
    have hsteps := step_abreast indifferent count h hkept
    rw [hstep] at hsteps
    generalize (e.withDiscardCount count).step c' = second at hsteps ⊢
    cases hsteps with
    | ok hconfigs => exact ⟨_, rfl, hconfigs⟩
  stop {c c' halt} h hstep kept := by
    have hkept : FetchesNoError (left (e.step c)).journal := by
      rw [hstep]
      exact kept
    have hsteps := step_abreast indifferent count h hkept
    rw [hstep] at hsteps
    generalize (e.withDiscardCount count).step c' = second at hsteps ⊢
    cases hsteps with
    | error hhalts => exact ⟨_, rfl, hhalts⟩
  out h _ := ⟨.exhausted, h.2.deeds⟩

/-- The discard count changes nothing but what is reported: parses of an input under two counts do
the same deeds in the same order, and both give the same value or both fail. The tokens are to be
without error tokens of the lexer's own; the actions are to see neither locations nor recoveries,
and to go on after the errors that can be recovered from, and after no others. Reference:
`error_recovery_token_discard_count`. -/
theorem discardCount_changes_reports_only (indifferent : e.actions.Indifferent view)
    (count fuel : Nat) (input : String) (c : Config σ V)
    (plain : FetchesNoError (e.parse fuel input c).2.session.journal) :
    deeds ((e.withDiscardCount count).parse fuel input c).2.session.journal =
        deeds (e.parse fuel input c).2.session.journal ∧
      (e.parse fuel input c).1.Agree ((e.withDiscardCount count).parse fuel input c).1 := by
  have hover : (c.reset input).session.recovering = 0 := rfl
  have hstart : InStep view e count (c.reset input) (c.reset input) := ⟨rfl, {
    view := rfl
    stack := rfl
    lookahead := rfl
    held := rfl
    endHeight := rfl
    deeds := rfl
    pace := ⟨e.quietCount + (e.withDiscardCount count).quietCount, by omega, by omega⟩
    proper := nofun
    guarded := nofun }⟩
  have hends := (abreast_simulation indifferent count).run hstart plain
  exact ⟨hends.deeds.symm, hends.outcome⟩

end

end Engine

end

/-! ## The calculator -/

namespace Calculator

/-- An operation is one on the values of the first and the third child. -/
theorem operate_of_values {reduction reduction' : Reduction Value} (op : Operator)
    (values : reduction.values = reduction'.values) :
    operate op reduction = operate op reduction' := by
  unfold operate child
  rw [values]

/-- A reduction is evaluated by its production and values. -/
theorem evaluate_of_values {reduction reduction' : Reduction Value}
    (production : reduction.production = reduction'.production)
    (values : reduction.values = reduction'.values) : evaluate reduction = evaluate reduction' := by
  unfold evaluate
  rw [production]
  split <;> simp only [child, values, operate_of_values _ values]

/-- The actions of the calculator see the number of comments at most. -/
theorem actions_indifferent : actions.Indifferent (·.comments) where
  rule := rules_see_comments
  tokenValue {token token' user user'} h hview := by
    have htext : token.text = token'.text := congrArg Prod.snd h
    exact ⟨congrArg Value.text htext, hview⟩
  reduce reduction reduction' user user' hproduction _ hvalues hview := by
    simp only [actions, productionAction]
    rw [hproduction, evaluate_of_values hproduction hvalues]
    split
    · exact ⟨.ok rfl, hview⟩
    · have halike : ∀ x : Except Fault (Yield Value), ExceptsAlike (fun _ _ => True)
          (fun yield yield' => yield.value = yield'.value) x x :=
        .refl (fun _ => trivial) (fun _ => rfl)
      exact ⟨halike _, hview⟩
  judge _ _ := rfl
  resumes user h := if_pos h
  raises user h := ⟨_, if_neg (by rw [h]; exact Bool.false_ne_true)⟩

/-- In three lines, the second of which has an error that only a parser quiet for one token reports,
the discard count changes nothing else. -/
theorem reports_of_three_lines :
    let first := (tolerant.engine 12).parse 1000 "1 2; 3 4; 5;" tolerant.config
    let second :=
      ((tolerant.engine 12).withDiscardCount 1).parse 1000 "1 2; 3 4; 5;" tolerant.config
    FetchesNoError first.2.session.journal ∧
    first.2.session.stats.errors = 1 ∧ second.2.session.stats.errors = 2 ∧
    deeds second.2.session.journal = deeds first.2.session.journal ∧ first.1.Agree second.1 := by
  have hcounts : ((tolerant.engine 12).parse 1000 "1 2; 3 4; 5;"
        tolerant.config).2.session.stats.errors = 1 ∧
      (((tolerant.engine 12).withDiscardCount 1).parse 1000 "1 2; 3 4; 5;"
        tolerant.config).2.session.stats.errors = 2 := by
    decide +kernel
  have hplain : FetchesNoError
      ((tolerant.engine 12).parse 1000 "1 2; 3 4; 5;" tolerant.config).2.session.journal := by
    decide +kernel
  exact ⟨hplain, hcounts.1, hcounts.2,
    Engine.discardCount_changes_reports_only actions_indifferent 1 1000 "1 2; 3 4; 5;"
      tolerant.config hplain⟩

end Calculator

end ShiftReduce
