import ShiftReduce.Proofs.Lexer.Calls
import ShiftReduce.Proofs.Parser.Step

/-!
# Simulations between parses

Two parses are compared by a relation of their configurations that steps keep (`Engine.Simulation`);
the ends of the parses are then related too (`Engine.Simulation.run`). What is known of the journal at
the end of the first parse is known along the way, since its landmarks are never taken back
(`Engine.run_suffix`).
-/

namespace ShiftReduce

/-- A landmark stays one where the landmarks of a journal are the last ones of another. -/
theorem mem_of_landmarks_suffix {V : Type} {event : ParserEvent V}
    {journal later : List (ParserEvent V)} (suffix : landmarks journal <:+ landmarks later)
    (landmark : event.isLandmark = true) (h : event ∈ journal) : event ∈ later :=
  (List.mem_filter.mp (suffix.subset (List.mem_filter.mpr ⟨h, landmark⟩))).1

/-- The rules of the lexer see a view of the state: answers, lexers and what they see then are the same
where the view is. -/
def Actions.RulesSee {σ V ε α : Type} (actions : Actions σ V ε) (view : σ → α) : Prop :=
  ∀ rule lexer {user user' : σ}, view user = view user' →
    OutcomesAlike Eq (fun user user' => view user = view user') (actions.rule rule lexer user)
      (actions.rule rule lexer user')

section
variable {σ V ε : Type} {e : Engine σ V ε} {s s' : Session σ V} {c c' : Config σ V}

namespace Engine

/-! ## Landmarks are kept -/

/-- The end of a parse adds to the landmarks and takes nothing away. -/
theorem Ends.suffix {events : List (ParserEvent V)} (h : Ends e s events) :
    landmarks s.journal <:+ events := by
  cases h with
  | silent => exact List.suffix_refl _
  | haltedAfter _ hsettled _ _ =>
    refine List.IsSuffix.trans ?_ (List.suffix_cons _ _)
    cases hsettled with
    | silent _ _ _ hnew => exact hnew ▸ List.suffix_refl _
    | reported _ _ _ hnew => rw [hnew]; exact List.suffix_cons _ _
    | refetched _ _ => exact List.suffix_refl _
  | _ => exact List.suffix_cons _ _

/-- The session that a computation ends in, whether it succeeds or not. -/
def left : Except (Halt σ V ε) (Config σ V) → Session σ V
  | .ok c => c.session
  | .error halt => halt.config.session

/-- The second half of a recovery keeps the landmarks. -/
theorem retry_suffix (e : Engine σ V ε) (state : StateId) (depth : Option Nat) (token : Token)
    (c : Config σ V) :
    landmarks c.session.journal <:+ landmarks (left (e.retry state depth token c)).journal := by
  have hhalt : ∀ cause, landmarks c.session.journal <:+
      landmarks (e.halt cause state token c).config.session.journal := by
    intro cause
    rw [(e.halt_session cause state token c).1]
    exact List.suffix_cons _ _
  cases depth with
  | none => exact hhalt _
  | some depth =>
    simp only [retry, bind, Except.bind, pure, Except.pure]
    cases hcheck : e.checkHeight state token (c.session.stack.length - depth) c with
    | error halt => rw [checkHeight_error hcheck]; exact hhalt _
    | ok c₁ =>
      have hsession := (checkHeight_ok hcheck).2
      have hjournal : c₁.session.journal = c.session.journal := by rw [hsession]
      rw [← hjournal]
      exact List.suffix_cons _ _

section
variable [Inhabited V]

/-- Performing a chosen action keeps the landmarks. -/
theorem perform_suffix {state : StateId} {action : Action}
    (chosen : Chooses e c.session state action) :
    landmarks c.session.journal <:+ landmarks (left (e.perform state c action)).journal := by
  cases hperform : e.perform state c action with
  | ok c' => exact (perform_ok (.here rfl) chosen hperform).moves.suffix
  | error halt =>
    rcases perform_error (.here rfl) chosen hperform with ⟨_, -, haccepts⟩ | ⟨⟨s, hmoves, hends⟩, -⟩
    · exact haccepts.suffix
    · exact hmoves.suffix.trans hends.suffix

/-- A run keeps the landmarks. -/
theorem run_suffix (e : Engine σ V ε) (fuel : Nat) (c : Config σ V) :
    landmarks c.session.journal <:+ landmarks (e.run fuel c).config.session.journal := by
  obtain ⟨s, hmoves, hends⟩ := e.run_ends fuel c
  exact hmoves.suffix.trans hends.suffix

/-! ## Simulations -/

/-- A relation of configurations that the steps of two parses keep, as long as the first one is on its
way to an end that is `admitted`; the ends are then related by `S`. -/
structure Simulation (e e' : Engine σ V ε) (R : Config σ V → Config σ V → Prop)
    (admitted : Halt σ V ε → Prop) (S : Halt σ V ε → Halt σ V ε → Prop) : Prop where
  go : ∀ {c c' c₁ fuel}, R c c' → e.step c = .ok c₁ → admitted (e.run fuel c₁) →
    ∃ c₁', e'.step c' = .ok c₁' ∧ R c₁ c₁'
  stop : ∀ {c c' halt}, R c c' → e.step c = .error halt → admitted halt →
    ∃ halt', e'.step c' = .error halt' ∧ S halt halt'
  out : ∀ {c c'}, R c c' → admitted ⟨.exhausted, c⟩ → S ⟨.exhausted, c⟩ ⟨.exhausted, c'⟩

/-- Related parses of as many steps have related ends. -/
theorem Simulation.run {e' : Engine σ V ε} {R : Config σ V → Config σ V → Prop}
    {admitted : Halt σ V ε → Prop} {S : Halt σ V ε → Halt σ V ε → Prop}
    (h : Simulation e e' R admitted S) {fuel : Nat} (related : R c c')
    (ends : admitted (e.run fuel c)) : S (e.run fuel c) (e'.run fuel c') := by
  induction fuel generalizing c c' with
  | zero => exact h.out related ends
  | succ fuel ih =>
    simp only [Engine.run] at ends ⊢
    cases hstep : e.step c with
    | ok c₁ =>
      rw [hstep] at ends
      obtain ⟨c₁', hstep', hrelated⟩ := h.go related hstep ends
      rw [hstep']
      exact ih hrelated ends
    | error halt =>
      rw [hstep] at ends
      obtain ⟨halt', hstep', hends⟩ := h.stop related hstep ends
      rw [hstep']
      exact hends

end

end Engine

end

end ShiftReduce
