import ShiftReduce.Proofs.Parser.Recovery

/-!
# The laws of steps and runs

A step that goes on is a turn (`Engine.step_ok`): it arrives at the token that its state asks for, and
then shifts, reduces or recovers. The last step of a parse accepts, or it ends the parse otherwise
(`Engine.step_error`). Any number of steps and a last one make up a run (`Engine.run_cases`), so what
every move preserves holds of the sessions of a run, and of the journal it leaves (`Engine.run_ends`).
-/

namespace ShiftReduce

section
variable {σ V ε : Type} {e : Engine σ V ε} {s s' : Session σ V} {c c' : Config σ V}

namespace Engine

/-! ## Steps -/

/-- The session in which a step acts: the token that the state asks for is ahead. -/
inductive Arrives (e : Engine σ V ε) (s : Session σ V) : Session σ V → Prop
  | here {journal : List (ParserEvent V)} (new : landmarks journal = landmarks s.journal) :
      Arrives e s { s with journal }
  | looked {s₁ : Session σ V} {journal : List (ParserEvent V)} (look : Looks e s s₁)
      (new : landmarks journal = landmarks s₁.journal) : Arrives e s { s₁ with journal }

/-- A step that has looked ahead or not acts after its remarks. -/
theorem Arrives.note {event : ParserEvent V} (h : Arrives e s c.session)
    (remark : event.isLandmark = false) : Arrives e s (c.note event).session := by
  have hnew : landmarks (event :: c.session.journal) = landmarks c.session.journal := by
    rw [landmarks_cons, remark]
    rfl
  generalize hs : c.session = t at h hnew
  unfold Config.note Config.update Session.note
  rw [hs]
  cases h with
  | here hj => exact .here (hnew.trans hj)
  | looked hlook hj =>
    have harrives := Arrives.looked hlook (hnew.trans hj)
    exact harrives

/-- A step acts in the session in which it chooses its action. -/
theorem arrives_of_choice (h : s' = s ∨ Looks e s s') : Arrives e s s' := by
  rcases h with rfl | hlook
  · exact .here rfl
  · exact .looked hlook rfl

/-- A step that goes on: a shift, a reduction or a recovery. -/
inductive Turn [Inhabited V] (e : Engine σ V ε) (s : Session σ V) : Session σ V → Prop
  | shift {s₁ s₂ : Session σ V} (arrives : Arrives e s s₁) (shifts : Shifts e s₁ s₂) : Turn e s s₂
  | reduce {s₁ s₂ : Session σ V} (arrives : Arrives e s s₁) (reduces : Reduces e s₁ s₂) :
      Turn e s s₂
  | recover {s₁ s₂ s₃ : Session σ V} (arrives : Arrives e s s₁) (readies : Readies e s₁ s₂)
      (resumes : Resumes e s₂ s₃) : Turn e s s₃

/-- The session in which the input is accepted, and the one that is left: the value on top of the stack
is taken. -/
inductive Accepts [Inhabited V] (e : Engine σ V ε) (s : Session σ V) (value : V) :
    Session σ V → Prop
  | mk {s₁ : Session σ V} {state : StateId} {slot : Slot V} {rest : Stack V}
      {journal : List (ParserEvent V)} (arrives : Arrives e s s₁)
      (chosen : Chooses e s₁ state .accept) (top : s₁.stack = slot :: rest)
      (result : value = slot.value) (new : landmarks journal = landmarks s₁.journal) :
      Accepts e s value { s₁ with journal, stack := { slot with value := default } :: rest }

/-- A remark does not change what is chosen. -/
theorem Chooses.note {state : StateId} {action : Action} (h : Chooses e c.session state action)
    (event : ParserEvent V) : Chooses e (c.note event).session state action := by
  cases h with
  | byDefault htop hknown hreduction => exact .byDefault htop hknown hreduction
  | byToken htop hknown hfree hahead => exact .byToken htop hknown hfree hahead

section
variable [Inhabited V]

/-- Arriving is moving. -/
theorem Arrives.moves (h : Arrives e s s') : Moves e s s' := by
  cases h with
  | here hnew => exact .single (.remark hnew)
  | looked hlook hnew => exact .tail (.single (.look hlook)) (.remark hnew)

/-- A step that goes on is some moves. -/
theorem Turn.moves (h : Turn e s s') : Moves e s s' := by
  cases h with
  | shift harrives hshifts => exact harrives.moves.tail (.shift hshifts)
  | reduce harrives hreduces => exact harrives.moves.tail (.reduce hreduces)
  | recover harrives hreadies hresumes =>
    exact (harrives.moves.trans hreadies.moves).tail (.resume hresumes)

/-- Performing a chosen action is a turn. Reference: the actions in `Parser::run`. -/
theorem perform_ok {state : StateId} {action : Action} (arrives : Arrives e s c.session)
    (chosen : Chooses e c.session state action) (h : e.perform state c action = .ok c') :
    Turn e s c'.session := by
  cases action with
  | shift target => exact .shift (arrives.note rfl) (shift_ok (chosen.note _) h)
  | reduce number => exact .reduce (arrives.note rfl) (reduce_ok (chosen.note _) h)
  | accept =>
    unfold perform at h
    dsimp only at h
    split at h <;> cases h
  | error =>
    obtain ⟨s₂, hready, hresumes⟩ := recover_ok chosen h
    exact .recover arrives hready hresumes
  | ambiguous number => cases h
  | goto target => cases h

/-- Performing a chosen action fails where the input is accepted, or ends the parse otherwise. The
other ways to fail are those of a shift, a reduction and a recovery, and the entries of a table that
stand for no action. Reference: the actions in `Parser::run`. -/
theorem perform_error {state : StateId} {action : Action} {halt : Halt σ V ε}
    (arrives : Arrives e s c.session) (chosen : Chooses e c.session state action)
    (h : e.perform state c action = .error halt) :
    (∃ value, halt.stop = .accepted value ∧ Accepts e s value halt.config.session) ∨
      (∃ s₁, Moves e s s₁ ∧ Ends e s₁ (landmarks halt.config.session.journal)) ∧
        ∀ value, halt.stop ≠ .accepted value := by
  have hsilent : Ends e c.session (landmarks c.session.journal) := .silent
  cases action with
  | shift target => exact absurd h (shift_ne_error (chosen.note _))
  | reduce number =>
    obtain ⟨hends, hstop⟩ := reduce_error (chosen.note _) h
    exact .inr ⟨⟨_, (arrives.note rfl).moves, hends⟩, hstop⟩
  | accept =>
    unfold perform at h
    dsimp only at h
    split at h
    · next value stack heq =>
      cases h
      unfold Stack.takeTop? at heq
      split at heq
      · cases heq
      · next slot rest htop =>
        cases heq
        have haccepts := Accepts.mk (arrives.note rfl) (chosen.note .accepting) htop rfl rfl
        exact .inl ⟨_, rfl, haccepts⟩
    · cases h; exact .inr ⟨⟨_, arrives.moves, hsilent⟩, nofun⟩
  | error =>
    obtain ⟨s₁, hmoves, hends, hstop⟩ := recover_error chosen h
    exact .inr ⟨⟨s₁, arrives.moves.trans hmoves, hends⟩, hstop⟩
  | ambiguous number => cases h; exact .inr ⟨⟨_, arrives.moves, hsilent⟩, nofun⟩
  | goto target => cases h; exact .inr ⟨⟨_, arrives.moves, hsilent⟩, nofun⟩

/-- A step performs the action that is chosen. Reference: one round of `Parser::run`. -/
theorem step_chosen {state : StateId} {action : Action}
    (top : c.session.stack.topState? = some state) (known : e.table.hasState state = true)
    (chosen : e.chooseAction state c = .ok (action, c')) :
    e.step c =
      e.perform state (c'.note (.atState c'.session.stack c'.session.lookahead)) action := by
  simp only [step, top, known, chosen, if_true, bind, Except.bind]

/-- Either a step chooses an action, or it fails to. Reference: one round of `Parser::run`. -/
theorem step_chooses (e : Engine σ V ε) (c : Config σ V) :
    (∃ halt, e.step c = .error halt ∧ ∀ value, halt.stop ≠ .accepted value) ∨
      ∃ state action c', c.session.stack.topState? = some state ∧ e.table.hasState state = true ∧
        e.chooseAction state c = .ok (action, c') := by
  cases htop : c.session.stack.topState? with
  | none =>
    have hfails : e.step c = .error (c.fault .emptyStack) := by simp only [step, htop]
    exact .inl ⟨_, hfails, nofun⟩
  | some state =>
    by_cases hknown : e.table.hasState state = true
    · cases hchoose : e.chooseAction state c with
      | error halt =>
        have hfails : e.step c = .error halt := by
          simp only [step, htop, hknown, hchoose, if_true, bind, Except.bind]
        exact .inl ⟨halt, hfails, (fetch_error (chooseAction_error hchoose).2.2).2⟩
      | ok r => exact .inr ⟨state, r.1, r.2, rfl, hknown, hchoose⟩
    · have hfails : e.step c = .error (c.fault (.unknownState state)) := by
        simp only [step, htop, if_neg hknown]
      exact .inl ⟨_, hfails, nofun⟩

/-- What a step does that goes on: it chooses an action, and arrives where the action leads.
Reference: one round of the loop in `Parser::run`. -/
theorem step_ok (h : e.step c = .ok c') : Turn e c.session c'.session := by
  rcases e.step_chooses c with ⟨halt, hfails, -⟩ | ⟨state, action, c₁, htop, hknown, hchoose⟩
  · rw [hfails] at h; cases h
  · rw [step_chosen htop hknown hchoose] at h
    obtain ⟨harrives, hchosen⟩ := chooseAction_ok htop hknown hchoose
    exact perform_ok ((arrives_of_choice harrives).note rfl) (hchosen.note _) h

/-- What the last step of a parse does: it accepts the input, or it ends the parse in one of the
ways of `Ends`. Reference: `Parser::run`. -/
theorem step_error {halt : Halt σ V ε} (h : e.step c = .error halt) :
    (∃ value, halt.stop = .accepted value ∧ Accepts e c.session value halt.config.session) ∨
      (∃ s, Moves e c.session s ∧ Ends e s (landmarks halt.config.session.journal)) ∧
        ∀ value, halt.stop ≠ .accepted value := by
  unfold step at h
  split at h
  · cases h; exact .inr ⟨⟨_, .refl, .silent⟩, nofun⟩
  · next state htop =>
    split at h
    · next hknown =>
      cases hchoose : e.chooseAction state c with
      | error halt' =>
        rw [hchoose] at h
        cases h
        obtain ⟨habsent, -, hfetch⟩ := chooseAction_error hchoose
        obtain ⟨hfails, hstop⟩ := fetch_error hfetch
        refine .inr ⟨⟨c.session, .refl, ?_⟩, hstop⟩
        generalize halt.config.session = t at hfails
        cases hfails with
        | silent hj => rw [hj]; exact .silent
        | stuck hj => rw [hj]; exact .lexical habsent
      | ok r =>
        rw [hchoose] at h
        simp only [bind, Except.bind] at h
        obtain ⟨harrives, hchosen⟩ := chooseAction_ok htop hknown hchoose
        exact perform_error ((arrives_of_choice harrives).note rfl) (hchosen.note _) h
    · cases h; exact .inr ⟨⟨_, .refl, .silent⟩, nofun⟩

/-! ## Runs -/

/-- A move adds to the landmarks and takes nothing away. So what is known of the journal at the end
of a parse is known of every journal on the way. -/
theorem Move.suffix (h : Move e s s') : landmarks s.journal <:+ landmarks s'.journal := by
  cases h with
  | remark hnew => exact hnew ▸ List.suffix_refl _
  | look h =>
    cases h with
    | mk _ hfetch =>
      cases hfetch with
      | read hnew => rw [hnew]; exact List.suffix_cons _ _
      | stuck _ _ hnew =>
        rw [hnew]
        exact (List.suffix_cons _ _).trans (List.suffix_cons _ _)
  | shift h =>
    cases h with
    | plain _ _ _ _ _ hnew => rw [hnew]; exact List.suffix_cons _ _
    | lexed _ _ _ _ _ _ hnew => rw [hnew]; exact List.suffix_cons _ _
    | synthetic _ _ _ _ hnew => rw [hnew]; exact List.suffix_cons _ _
  | reduce h =>
    cases h with
    | mk _ _ _ _ _ _ hnew => rw [hnew]; exact List.suffix_cons _ _
  | discard h =>
    cases h with
    | mk _ _ _ _ hnew => rw [hnew]; exact List.suffix_cons _ _
  | resume h =>
    cases h with
    | mk _ hsettled _ _ =>
      rw [landmarks_resumption]
      refine List.IsSuffix.trans ?_ (List.suffix_cons _ _)
      cases hsettled with
      | silent _ _ _ hnew => exact hnew ▸ List.suffix_refl _
      | reported _ _ _ hnew => rw [hnew]; exact List.suffix_cons _ _
      | refetched _ _ => exact List.suffix_refl _

/-- Any number of moves add to the landmarks. -/
theorem Moves.suffix (h : Moves e s s') : landmarks s.journal <:+ landmarks s'.journal := by
  induction h with
  | refl => exact List.suffix_refl _
  | tail _ hmove ih => exact ih.trans hmove.suffix

/-- Any number of steps that go on. Reference: the loop of `Parser::run`. -/
abbrev Steps (e : Engine σ V ε) : Config σ V → Config σ V → Prop :=
  Relation.ReflTransGen fun c c' => e.step c = .ok c'

/-- Steps are moves of the session. -/
theorem Steps.moves (h : Steps e c c') : Moves e c.session c'.session := by
  induction h with
  | refl => exact .refl
  | tail _ hstep ih => exact ih.trans (step_ok hstep).moves

/-- Accepting keeps the landmarks. -/
theorem Accepts.suffix {value : V} (h : Accepts e s value s') :
    landmarks s.journal <:+ landmarks s'.journal := by
  cases h with
  | mk harrives _ _ _ hnew =>
    dsimp only
    rw [hnew]
    exact Moves.suffix harrives.moves

/-- A run is steps that go on, and then a last step unless the steps run out. Reference:
`Parser::run`. -/
theorem run_cases (e : Engine σ V ε) (fuel : Nat) (c : Config σ V) :
    ∃ c', Steps e c c' ∧ (e.run fuel c = ⟨.exhausted, c'⟩ ∨ e.step c' = .error (e.run fuel c)) := by
  induction fuel generalizing c with
  | zero => exact ⟨c, .refl, .inl rfl⟩
  | succ fuel ih =>
    unfold run
    split
    · next c₁ hstep =>
      obtain ⟨c', hsteps, hend⟩ := ih c₁
      exact ⟨c', .head hstep hsteps, hend⟩
    · next halt hstep => exact ⟨c, .refl, .inr hstep⟩

/-- A run that accepts is steps that go on, and then a step that accepts. Reference: `Parser::run`.
-/
theorem run_accepted {fuel : Nat} {value : V} (h : (e.run fuel c).stop = .accepted value) :
    ∃ c', Steps e c c' ∧ Accepts e c'.session value (e.run fuel c).config.session := by
  obtain ⟨c', hsteps, hend⟩ := e.run_cases fuel c
  refine ⟨c', hsteps, ?_⟩
  rcases hend with hfuel | hstep
  · rw [hfuel] at h; cases h
  · rcases step_error hstep with ⟨value', hstop, haccepts⟩ | ⟨-, hstop⟩
    · rw [h] at hstop; cases hstop; exact haccepts
    · exact absurd h (hstop value)

/-- The landmarks of a run are those of its moves, and what the last step adds. Reference:
`Parser::run`. -/
theorem run_ends (e : Engine σ V ε) (fuel : Nat) (c : Config σ V) :
    ∃ s, Moves e c.session s ∧ Ends e s (landmarks (e.run fuel c).config.session.journal) := by
  obtain ⟨c', hsteps, hend⟩ := e.run_cases fuel c
  have hmoves := hsteps.moves
  rcases hend with hfuel | hstep
  · rw [hfuel]; exact ⟨_, hmoves, .silent⟩
  · rcases step_error hstep with ⟨value, -, haccepts⟩ | ⟨⟨s, hmoves', hends⟩, -⟩
    · generalize (e.run fuel c).config.session = t at haccepts
      cases haccepts with
      | mk harrives _ _ _ hnew =>
        rw [hnew]
        exact ⟨_, hmoves.trans harrives.moves, .silent⟩
    · exact ⟨s, hmoves.trans hmoves', hends⟩

end

end Engine

end

end ShiftReduce
