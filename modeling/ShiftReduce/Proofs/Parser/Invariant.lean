import ShiftReduce.Proofs.Parser.Recovery

/-!
# Invariants of a parse

A parse changes its lexer where it fetches a token, and the state of its actions there and where it
calls an action. A property of the two that these calls keep is an invariant of the parse
(`Engine.Invariant`). A verdict on an error may end it: then another property holds, which may also speak
of the way the parse ends. Each function of the engine keeps the one or comes to the other, and so does
a run (`Engine.Invariant.run`).
-/

namespace ShiftReduce

section
variable {σ V ε α β : Type}

/-- How a parse ends that does not go on behind a verdict. -/
def Verdict.stop (info : ErrorInfo V) : Verdict V ε → Stop V ε
  | .resume => .failed (.ofInfo info)
  | .answer value => .answered value
  | .raise error => .failed error

/-- What a part of a parse comes to: `P` where the parse goes on, and `Q` where it ends. -/
def ComesTo (P : Lexer → σ → Prop) (Q : Stop V ε → Lexer → σ → Prop) (config : α → Config σ V) :
    Except (Halt σ V ε) α → Prop
  | .ok a => P (config a).lexer (config a).session.user
  | .error halt => Q halt.stop halt.config.lexer halt.config.session.user

/-- One part after the other comes to what the second one comes to. -/
theorem ComesTo.bind {P : Lexer → σ → Prop} {Q : Stop V ε → Lexer → σ → Prop}
    {config : α → Config σ V} {config' : β → Config σ V} {x : Except (Halt σ V ε) α}
    {f : α → Except (Halt σ V ε) β} (h : ComesTo P Q config x)
    (next : ∀ a, P (config a).lexer (config a).session.user → ComesTo P Q config' (f a)) :
    ComesTo P Q config' (x.bind f) := by
  cases x with
  | ok a => exact next a h
  | error halt => exact h

namespace Engine

/-- A property `P` of the lexer and the state of the actions that holds while a parse goes on, and a
property `Q` of its end. -/
structure Invariant (e : Engine σ V ε) (P : Lexer → σ → Prop) (Q : Stop V ε → Lexer → σ → Prop) :
    Prop where
  /-- A parse may end anywhere without a call. -/
  ends : ∀ stop {lexer user}, P lexer user → Q stop lexer user
  fetch : ∀ {c : Config σ V}, P c.lexer c.session.user → ComesTo P Q (·.2) (e.fetch c)
  tokenValue : ∀ token {lexer user}, P lexer user → P lexer (e.actions.tokenValue token user).2
  reduce : ∀ reduction {lexer user}, P lexer user → P lexer (e.actions.reduce reduction user).2
  judge : ∀ info {lexer user}, P lexer user →
    Q ((e.actions.verdict info user).stop info) lexer (e.actions.judge info user).2
  resume : ∀ info {lexer user}, P lexer user → e.actions.verdict info user = .resume →
    info.recoverable = true → P lexer (e.actions.judge info user).2

namespace Invariant

variable {e : Engine σ V ε} {P : Lexer → σ → Prop} {Q : Stop V ε → Lexer → σ → Prop}
  {c : Config σ V} {s s' : Session σ V}

/-! ## Verdicts -/

/-- Behind a verdict a parse ends as the verdict has it, or it goes on with the invariant. -/
theorem judged (h : e.Invariant P Q) {info : ErrorInfo V} {verdict : Verdict V ε} {lexer : Lexer}
    (before : P lexer s.user) (judged : e.judge info s = (verdict, s')) :
    Q (verdict.stop info) lexer s'.user ∧
      (verdict = .resume → info.recoverable = true → P lexer s'.user) := by
  have hverdict := e.judge_verdict info s
  have huser := e.judge_user info s
  rw [judged] at hverdict huser
  have hsame : verdict = e.actions.verdict info s.user := hverdict
  have hafter : s'.user = (e.actions.judge info s.user).2 := huser
  rw [hsame, hafter]
  exact ⟨h.judge info before, h.resume info before⟩

/-- A parse that cannot recover from an error ends as the verdict on it has it. -/
theorem halt (h : e.Invariant P Q) {cause : ErrorCause} (syntactic : cause.kind = .syntactic)
    (state : StateId) (token : Token) (before : P c.lexer c.session.user) :
    Q (e.halt cause state token c).stop (e.halt cause state token c).config.lexer
      (e.halt cause state token c).config.session.user := by
  unfold Engine.halt
  dsimp only
  split <;> next heq =>
    obtain ⟨hends, -⟩ := h.judged (s := (c.session.count _).note _) before heq
    first
    | exact hends
    | simpa only [Verdict.stop, ParseError.ofInfo, ErrorInfo.kind, ErrorInfo.ofToken, syntactic]
        using hends

/-! ## Shifts and reductions -/

theorem chooseAction (h : e.Invariant P Q) (state : StateId) (before : P c.lexer c.session.user) :
    ComesTo P Q (·.2) (e.chooseAction state c) := by
  unfold Engine.chooseAction
  split
  · exact before
  · split
    · exact before
    · exact (h.fetch before).bind fun _ hfetched => hfetched

theorem shift (h : e.Invariant P Q) (target : StateId) (before : P c.lexer c.session.user) :
    ComesTo P Q id (e.shift target c) := by
  unfold Engine.shift
  dsimp only
  split
  · exact h.ends _ before
  · split
    · exact h.tokenValue _ before
    · unfold afterShift
      dsimp only
      split
      · exact h.tokenValue _ before
      · split <;> exact h.tokenValue _ before

theorem goto (h : e.Invariant P Q) (lhs : SymbolId) (value : V) (location : Location)
    (before : P c.lexer c.session.user) : ComesTo P Q id (e.goto lhs value location c) := by
  unfold Engine.goto
  split
  · exact h.ends _ before
  · split
    · exact before
    · exact h.ends _ before

/-- A reduction keeps the invariant: it calls the action of its production. -/
theorem reduction [Inhabited V] (h : e.Invariant P Q) (number : ProductionId)
    (before : P c.lexer c.session.user) : ComesTo P Q id (e.reduce number c) := by
  unfold Engine.reduce
  split
  · exact h.ends _ before
  · dsimp only
    split
    · exact h.ends _ before
    · split
      · next heq =>
        obtain rfl := congrArg Prod.snd heq
        exact h.ends _ (h.reduce _ before)
      · next heq =>
        obtain rfl := congrArg Prod.snd heq
        refine h.goto _ _ _ ?_
        split <;> exact h.reduce _ before

/-! ## Recovery -/

theorem reportToken (h : e.Invariant P Q) (state : StateId) (depth : Option Nat) (token : Token)
    (before : P c.lexer c.session.user) : ComesTo P Q id (e.reportToken state depth token c) := by
  unfold Engine.reportToken
  split
  · exact before
  · dsimp only
    split
    · next heq => exact (h.judged (s := (c.session.count _).note _) before heq).1
    · next heq => exact (h.judged (s := (c.session.count _).note _) before heq).1
    · next heq =>
      obtain ⟨hends, hresumes⟩ := h.judged (s := (c.session.count _).note _) before heq
      cases depth with
      | none => exact hends
      | some depth => exact hresumes rfl rfl

theorem discardToken (h : e.Invariant P Q) (state : StateId) (token : Token)
    (before : P c.lexer c.session.user) : ComesTo P Q (·.2) (e.discardToken state token c) := by
  unfold Engine.discardToken
  split
  · exact h.halt rfl state token before
  · exact h.fetch before

theorem checkHeight (h : e.Invariant P Q) (state : StateId) (token : Token) (height : Nat)
    (before : P c.lexer c.session.user) :
    ComesTo P Q id (e.checkHeight state token height c) := by
  unfold Engine.checkHeight
  split
  · exact before
  · split
    · exact h.halt rfl state token before
    · exact before

theorem takeOffending (h : e.Invariant P Q) (before : P c.lexer c.session.user) :
    ComesTo P Q (·.2) (Engine.takeOffending c) := by
  unfold Engine.takeOffending
  split
  · exact h.ends _ before
  · dsimp only
    split <;> exact before

theorem settle (h : e.Invariant P Q) (state : StateId) (before : P c.lexer c.session.user) :
    ComesTo P Q (·.2) (e.settle state c) := by
  refine (h.takeOffending before).bind fun ⟨token, c⟩ htaken => ?_
  dsimp only
  split
  · have hreported := h.reportToken state (e.recoveryDepth? c.session.stack) token htaken
    cases hreport : e.reportToken state (e.recoveryDepth? c.session.stack) token c with
    | ok c' => rw [hreport] at hreported; exact hreported
    | error halt => rw [hreport] at hreported; exact hreported
  · split
    · exact h.discardToken state token htaken
    · exact htaken

theorem retry (h : e.Invariant P Q) (state : StateId) (depth : Option Nat) (token : Token)
    (before : P c.lexer c.session.user) : ComesTo P Q id (e.retry state depth token c) := by
  cases depth with
  | none => exact h.halt rfl state token before
  | some depth => exact (h.checkHeight state token _ before).bind fun _ hchecked => hchecked

theorem recover (h : e.Invariant P Q) (state : StateId) (before : P c.lexer c.session.user) :
    ComesTo P Q id (e.recover state c) := by
  rw [recover_eq]
  exact (h.settle state before).bind fun settled hsettled => h.retry state _ settled.1 hsettled

/-! ## Runs -/

section
variable [Inhabited V]

theorem perform (h : e.Invariant P Q) (state : StateId) (action : Action)
    (before : P c.lexer c.session.user) : ComesTo P Q id (e.perform state c action) := by
  cases action with
  | shift target => exact h.shift target before
  | reduce number => exact h.reduction number before
  | accept =>
    unfold Engine.perform
    dsimp only
    split <;> exact h.ends _ before
  | error => exact h.recover state before
  | ambiguous number => exact h.ends _ before
  | goto target => exact h.ends _ before

/-- A step keeps the invariant, or it ends the parse. -/
theorem step (h : e.Invariant P Q) (before : P c.lexer c.session.user) :
    ComesTo P Q id (e.step c) := by
  unfold Engine.step
  split
  · exact h.ends _ before
  · next state _ =>
    split
    · exact (h.chooseAction state before).bind fun chosen hchosen =>
        h.perform state chosen.1 hchosen
    · exact h.ends _ before

/-- The end of a run has the property of ends. -/
theorem run (h : e.Invariant P Q) (fuel : Nat) (before : P c.lexer c.session.user) :
    Q (e.run fuel c).stop (e.run fuel c).config.lexer (e.run fuel c).config.session.user := by
  induction fuel generalizing c with
  | zero => exact h.ends _ before
  | succ fuel ih =>
    have hstep := h.step before
    unfold Engine.run
    cases hnext : e.step c with
    | ok c' => rw [hnext] at hstep; exact ih hstep
    | error halt => rw [hnext] at hstep; exact hstep

end

end Invariant

end Engine

end

end ShiftReduce
