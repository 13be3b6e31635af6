import ShiftReduce.Proofs.Parser.Conservation
import ShiftReduce.Proofs.Parser.Simulation

/-!
# A fetch can wait

The lexer's side and the parser's side of the actions may share a state and yet be apart: either side
sees a view of its own, and leaves the other's alone (`Actions.Apart`). What a fetch gives then depends
on the lexer and on the view of the lexer's side, whatever the parser has done (`Engine.fetch_gives`).
The verdict on unrecognized input is asked for in the middle of a fetch; it belongs to the lexer's side
where a parse comes to one (`Engine.VerdictsApart`).
-/

namespace ShiftReduce

section
variable {V : Type}

/-- The shifts and reductions of a journal, with all that they show of tokens and slots. -/
def workEvents (journal : List (ParserEvent V)) : List (ParserEvent V) :=
  journal.filter fun
    | .shifted _ _ | .reduced _ _ => true
    | _ => false

@[simp] theorem workEvents_landmarks (journal : List (ParserEvent V)) :
    workEvents (landmarks journal) = workEvents journal := by
  unfold workEvents landmarks
  rw [List.filter_filter]
  exact List.filter_congr fun event _ => by cases event <;> rfl

end

section
variable {σ V ε α β : Type}

/-- Actions with two sides. The rules of the lexer see the view `lexing` and change that alone; the
values of tokens and the actions of productions see the view `parsing` and change that alone. -/
structure Actions.Apart (actions : Actions σ V ε) (lexing : σ → α) (parsing : σ → β) : Prop where
  rule : actions.RulesSee lexing
  rule_parsing : ∀ rule lexer user, parsing (actions.rule rule lexer user).2.2 = parsing user
  tokenValue : ∀ token {user user'}, parsing user = parsing user' →
    (actions.tokenValue token user).1 = (actions.tokenValue token user').1 ∧
      parsing (actions.tokenValue token user).2 = parsing (actions.tokenValue token user').2
  tokenValue_lexing : ∀ token user, lexing (actions.tokenValue token user).2 = lexing user
  reduce : ∀ reduction {user user'}, parsing user = parsing user' →
    (actions.reduce reduction user).1 = (actions.reduce reduction user').1 ∧
      parsing (actions.reduce reduction user).2 = parsing (actions.reduce reduction user').2
  reduce_lexing : ∀ reduction user, lexing (actions.reduce reduction user).2 = lexing user

namespace Engine

/-- The verdict on unrecognized input is on the lexer's side: neither the answer nor what becomes of the
lexer's view depends on what the parser has on its stack, and the parser's view is left alone. -/
structure VerdictsApart (e : Engine σ V ε) (lexing : σ → α) (parsing : σ → β) : Prop where
  resume : ∀ info stack stack' {user user'}, lexing user = lexing user' →
    e.actions.verdict (.ofUnrecognized e.table stack info) user = .resume →
    e.actions.verdict (.ofUnrecognized e.table stack' info) user' = .resume
  lexing : ∀ info stack stack' {user user'}, lexing user = lexing user' →
    lexing (e.actions.judge (.ofUnrecognized e.table stack info) user).2 =
      lexing (e.actions.judge (.ofUnrecognized e.table stack' info) user').2
  parsing : ∀ info stack user,
    parsing (e.actions.judge (.ofUnrecognized e.table stack info) user).2 = parsing user

/-- The verdicts on unrecognized input are on the lexer's side if the parse has come to any. -/
def Judged (e : Engine σ V ε) (lexing : σ → α) (parsing : σ → β) (s : Session σ V) : Prop :=
  (∃ info, .reported info ∈ s.journal) → e.VerdictsApart lexing parsing

section
variable {e : Engine σ V ε} {lexing : σ → α} {parsing : σ → β} {s s' t t' : Session σ V}
  {c c' : Config σ V}

/-- What holds of all verdicts by the end holds of those on the way. -/
theorem Judged.mono (h : e.Judged lexing parsing s')
    (suffix : landmarks s.journal <:+ landmarks s'.journal) : e.Judged lexing parsing s :=
  fun ⟨info, hmem⟩ => h ⟨info, mem_of_landmarks_suffix suffix rfl hmem⟩

/-! ## Searches -/

/-- A session after a search for tokens: that many were found, and that many errors were reported on
the way. -/
inductive Searched (parsing : σ → β) (tokens errors : Nat) (s : Session σ V) : Session σ V → Prop
  | mk {user : σ} {journal : List (ParserEvent V)} (view : parsing user = parsing s.user)
      (quiet : workEvents journal = workEvents s.journal) :
      Searched parsing tokens errors s
        { s with
          user, journal
          stats := { s.stats with
            tokens := s.stats.tokens + tokens
            errors := s.stats.errors + errors } }

/-- Before a search nothing has been found. -/
theorem Searched.refl : Searched parsing 0 0 s s := .mk rfl rfl

/-- A search ends with a token that is found. -/
theorem Searched.found {errors : Nat} (h : Searched parsing 0 errors s t) (token : Token) :
    Searched parsing 1 errors s
      ((t.count fun stats => { stats with tokens := stats.tokens + 1 }).note (.fetched token)) := by
  cases h with
  | mk hparsing hquiet => exact .mk hparsing hquiet

/-- The reports of a search are counted. -/
theorem Searched.errors {tokens errors : Nat} (h : Searched parsing tokens errors s t) :
    t.stats.errors = s.stats.errors + errors := by
  cases h; rfl

/-- Two searches that the lexer's side sees in the same way, and in which as many errors were
reported. -/
def Searching (lexing : σ → α) (parsing : σ → β) (s s' t t' : Session σ V) : Prop :=
  lexing t.user = lexing t'.user ∧
    ∃ errors, Searched parsing 0 errors s t ∧ Searched parsing 0 errors s' t'

/-- The answer to a lexer that is stuck, and the session after it. -/
theorem answerStuck_eq (e : Engine σ V ε) (info : Unrecognized) (s : Session σ V) :
    e.answerStuck info s =
      (match e.actions.verdict (.ofUnrecognized e.table s.stack info) s.user with
        | .resume =>
          if info.recoverable then .ok (some SymbolId.error)
          else .error (.failed (.lexical (.ofUnrecognized e.table s.stack info)))
        | .answer value => .error (.answered value)
        | .raise error => .error (.failed error),
        (e.judge (.ofUnrecognized e.table s.stack info)
          (s.count fun stats => { stats with errors := stats.errors + 1 })).2) := by
  have hverdict := e.judge_verdict (.ofUnrecognized e.table s.stack info)
    (s.count fun stats => { stats with errors := stats.errors + 1 })
  rw [show e.actions.verdict _ s.user = _ from hverdict.symm]
  unfold answerStuck
  dsimp only
  generalize e.judge (.ofUnrecognized e.table s.stack info) _ = judged
  obtain ⟨_ | value | error, s'⟩ := judged <;> rfl

/-- The verdict on unrecognized input is reported. -/
theorem answerStuck_suffix (e : Engine σ V ε) (info : Unrecognized) (s : Session σ V) :
    .reported (.ofUnrecognized e.table s.stack info) ∈ (e.answerStuck info s).2.journal ∧
      landmarks s.journal <:+ landmarks (e.answerStuck info s).2.journal := by
  have hanswer : e.answerStuck info s = ((e.answerStuck info s).1, (e.answerStuck info s).2) := rfl
  obtain ⟨user, journal, hs, hj⟩ := answerStuck_session hanswer
  rw [hs]
  refine ⟨(List.mem_filter.mp (hj ▸ List.mem_cons_self)).1, ?_⟩
  exact hj ▸ List.suffix_cons _ _

/-- Unrecognized input adds an error to a search. -/
theorem Searched.stuck {errors : Nat} (apart : e.VerdictsApart lexing parsing) (info : Unrecognized)
    (h : Searched parsing 0 errors s t) :
    Searched parsing 0 (errors + 1) s (e.answerStuck info t).2 := by
  rw [answerStuck_eq]
  have huser := e.judge_user (.ofUnrecognized e.table t.stack info)
    (t.count fun stats => { stats with errors := stats.errors + 1 })
  obtain ⟨user, journal, hs, hj⟩ := e.judge_session (.ofUnrecognized e.table t.stack info)
    (t.count fun stats => { stats with errors := stats.errors + 1 })
  dsimp only
  rw [hs] at huser ⊢
  cases h with
  | mk hparsing hquiet =>
    next user₀ journal₀ =>
    have hview : parsing user = parsing s.user := by
      rw [show user = _ from huser]
      exact (apart.parsing info s.stack user₀).trans hparsing
    have hwork : workEvents journal = workEvents s.journal := by
      rw [← workEvents_landmarks, hj]
      exact (workEvents_landmarks journal₀).trans hquiet
    exact .mk hview hwork

/-- Unrecognized input is answered alike where the lexer's side sees the same. -/
theorem answerStuck_apart (apart : e.VerdictsApart lexing parsing) (info : Unrecognized)
    (views : lexing t.user = lexing t'.user) :
    ExceptsAlike (fun _ _ => True) Eq (e.answerStuck info t).1 (e.answerStuck info t').1 := by
  have hresume := apart.resume info t.stack t'.stack views
  have hresume' := apart.resume info t'.stack t.stack views.symm
  rw [answerStuck_eq, answerStuck_eq]
  dsimp only
  cases hverdict : e.actions.verdict (.ofUnrecognized e.table t.stack info) t.user with
  | resume =>
    rw [hresume hverdict]
    dsimp only
    split
    · exact .ok rfl
    · exact .error trivial
  | _ =>
    cases hverdict' : e.actions.verdict (.ofUnrecognized e.table t'.stack info) t'.user with
    | resume => rw [hresume' hverdict'] at hverdict; cases hverdict
    | _ => exact .error trivial

/-- The lexer's side sees the same after an answer. -/
theorem answerStuck_lexing (apart : e.VerdictsApart lexing parsing) (info : Unrecognized)
    (views : lexing t.user = lexing t'.user) :
    lexing (e.answerStuck info t).2.user = lexing (e.answerStuck info t').2.user := by
  rw [answerStuck_eq, answerStuck_eq]
  dsimp only
  rw [judge_user, judge_user]
  exact apart.lexing info t.stack t'.stack views

/-- The lexers of two parses get the same answers while the lexer's side sees the same. The rules
see the lexer's side alone; and if unrecognized input is come upon, the verdict on it is to be the
lexer's as well. -/
theorem lexerHost_apart (apart : e.actions.Apart lexing parsing) :
    e.lexerHost.Alike e.lexerHost (e.Judged lexing parsing) (Searching lexing parsing s s')
      (fun _ _ => True) where
  note event t t' h := by
    obtain ⟨hview, errors, ⟨hparsing, hquiet⟩, ⟨hparsing', hquiet'⟩⟩ := h
    exact ⟨hview, errors, .mk hparsing hquiet, .mk hparsing' hquiet'⟩
  action rule lexer t t' h := by
    obtain ⟨hview, errors, hfirst, hsecond⟩ := h
    have hacted := apart.rule rule lexer hview
    have hkept := apart.rule_parsing rule lexer t.user
    have hkept' := apart.rule_parsing rule lexer t'.user
    rw [lexerHost_action, lexerHost_action]
    generalize e.actions.rule rule lexer t.user = first at hacted hkept ⊢
    generalize e.actions.rule rule lexer t'.user = second at hacted hkept' ⊢
    obtain ⟨hanswer, hviews⟩ := hacted
    cases hfirst with
    | mk hparsing hquiet =>
      cases hsecond with
      | mk hparsing' hquiet' =>
        exact ⟨hanswer, hviews, errors, .mk (hkept.trans hparsing) hquiet,
          .mk (hkept'.trans hparsing') hquiet'⟩
  stuck info lexer t t' h judged := by
    obtain ⟨hview, errors, hfirst, hsecond⟩ := h
    have hapart := judged ⟨_, (e.answerStuck_suffix info t).1⟩
    rw [lexerHost_stuck, lexerHost_stuck]
    exact ⟨answerStuck_apart hapart info hview, answerStuck_lexing hapart info hview, errors + 1,
      hfirst.stuck hapart info, hsecond.stuck hapart info⟩
  fail _ := trivial
  lost := {
    note := fun event t lost judged => lost (judged.mono (List.suffix_refl _))
    action := fun rule lexer t lost judged => lost judged }
  lostStuck info lexer t lost judged := lost (judged.mono (e.answerStuck_suffix info t).2)

/-! ## Fetches -/

/-- What a fetch gives from a lexer, in any session that the lexer's side sees in the same way: the
token, the lexer behind it, what the lexer's side sees then, and the number of errors reported. -/
def Gives (e : Engine σ V ε) (lexing : σ → α) (parsing : σ → β) (lexer : Lexer) (seen : α)
    (token : Token) (after : Lexer) (left : α) (errors : Nat) : Prop :=
  ∀ s : Session σ V, lexing s.user = seen → ∃ t, e.fetch ⟨lexer, s⟩ = .ok (token, ⟨after, t⟩) ∧
    lexing t.user = left ∧ Searched parsing 1 errors s t

/-- A fetch gives the same in any session that the lexer's side sees in the same way. The session it
is given in may be one behind reductions that the first one has not done; so a fetch that is put off
comes to the same token. -/
theorem fetch_gives (apart : e.actions.Apart lexing parsing) {token : Token}
    (h : e.fetch c = .ok (token, c')) (judged : e.Judged lexing parsing c'.session) :
    ∃ errors, Searched parsing 1 errors c.session c'.session ∧
      e.Gives lexing parsing c.lexer (lexing c.session.user) token c'.lexer
        (lexing c'.session.user) errors := by
  have halike (s : Session σ V) (hs : lexing s.user = lexing c.session.user) :
      e.Judged lexing parsing (c.lexer.lex e.lexerHost e.scanLimit c.session).2.2 →
        OutcomesAlike (LexedAlike fun _ _ => True) (Searching lexing parsing c.session s)
          (c.lexer.lex e.lexerHost e.scanLimit c.session) (c.lexer.lex e.lexerHost e.scanLimit s) :=
    Lexer.lex_alike (lexerHost_apart apart) _ _ ⟨hs.symm, 0, .refl, .refl⟩
  unfold fetch at h
  generalize c.lexer.lex e.lexerHost e.scanLimit c.session = first at h halike
  obtain ⟨_ | _ | _, after, t⟩ := first <;> cases h
  have hjudged : e.Judged lexing parsing t := judged.mono (List.suffix_cons _ _)
  -- Compared with itself, the fetch tells how many errors it reported.
  have hself := halike c.session rfl hjudged
  generalize c.lexer.lex e.lexerHost e.scanLimit c.session = second at hself
  obtain ⟨-, -, errors, hfirst, -⟩ := hself
  refine ⟨errors, hfirst.found _, fun s hs => ?_⟩
  have hother := halike s hs hjudged
  unfold fetch
  dsimp only
  generalize c.lexer.lex e.lexerHost e.scanLimit s = second at hother ⊢
  obtain ⟨hresults, hviews, errors', hfirst', hsecond⟩ := hother
  cases hresults
  have hsame : errors' = errors := by
    have hcount := hfirst.errors
    have hcount' := hfirst'.errors
    omega
  subst hsame
  exact ⟨_, rfl, hviews.symm, hsecond.found _⟩

end

end Engine

end

end ShiftReduce
