import ShiftReduce.Proofs.Parser.Calls
import ShiftReduce.Proofs.Parser.Invariant
import ShiftReduce.Proofs.Calculator.Construction

/-!
# Verdicts on errors

The actions of a parser give their verdict on errors that are found in three places: by the lexer while
a token is fetched, by the automaton at a token that does not fit, and where a recovery comes to no end.
A parse goes on behind a verdict only if it is to resume and the error is recoverable. Any other verdict
settles the parse (`Settled`): it is the last call of the actions, and the parse ends as the verdict has
it (`Engine.verdict_settles`).
-/

namespace ShiftReduce

section
variable {σ V ε α β : Type}

/-- All verdicts among some calls let the parse go on: to resume, after an error that is
recoverable. -/
def Passed (actions : Actions σ V ε) (calls : List (σ × ActionCall V)) : Prop :=
  ∀ user info, (user, .judge info) ∈ calls →
    actions.verdict info user = .resume ∧ info.recoverable = true

/-- The end of a parse with its calls, last one first: either all verdicts let the parse go on, or the
last call is for the one that ends it. -/
inductive Settled (actions : Actions σ V ε) : Stop V ε → List (σ × ActionCall V) → Prop
  | passed {stop : Stop V ε} {calls : List (σ × ActionCall V)} (passed : Passed actions calls) :
      Settled actions stop calls
  | decided {calls : List (σ × ActionCall V)} {user : σ} {info : ErrorInfo V}
      (passed : Passed actions calls) :
      Settled actions ((actions.verdict info user).stop info) ((user, .judge info) :: calls)

/-- A call that is for no verdict lets the parse go on. -/
theorem Passed.cons {actions : Actions σ V ε} {calls : List (σ × ActionCall V)} {user : σ}
    {call : ActionCall V} (h : Passed actions calls) (other : ∀ info, call ≠ .judge info) :
    Passed actions ((user, call) :: calls) := by
  intro user' info hmem
  rcases List.mem_cons.mp hmem with heq | hmem
  · cases heq; exact absurd rfl (other info)
  · exact h user' info hmem

/-- A verdict to resume after a recoverable error lets the parse go on. -/
theorem Passed.judged {actions : Actions σ V ε} {calls : List (σ × ActionCall V)} {user : σ}
    {info : ErrorInfo V} (h : Passed actions calls) (resumed : actions.verdict info user = .resume)
    (recoverable : info.recoverable = true) : Passed actions ((user, .judge info) :: calls) := by
  intro user' info' hmem
  rcases List.mem_cons.mp hmem with heq | hmem
  · cases heq; exact ⟨resumed, recoverable⟩
  · exact h user' info' hmem

/-- A verdict that was asked for lets the parse go on, or it was the last call and ends it. -/
theorem Settled.verdict {actions : Actions σ V ε} {stop : Stop V ε} {user : σ} {info : ErrorInfo V}
    {later earlier : List (σ × ActionCall V)}
    (h : Settled actions stop (later ++ (user, .judge info) :: earlier)) :
    (actions.verdict info user = .resume ∧ info.recoverable = true) ∨
      later = [] ∧ stop = (actions.verdict info user).stop info := by
  generalize hcalls : later ++ (user, .judge info) :: earlier = calls at h
  cases h with
  | passed hpassed => exact .inl (hpassed user info (hcalls ▸ List.mem_append_right _ (.head _)))
  | decided hpassed =>
    cases later with
    | nil => cases hcalls; exact .inr ⟨rfl, rfl⟩
    | cons call later =>
      obtain ⟨-, rfl⟩ := List.cons_eq_cons.mp hcalls
      exact .inl (hpassed user info (List.mem_append_right _ (.head _)))

namespace Engine

/-- The answer to a lexer that is stuck: an error token if the verdict lets the parse go on, and
else the end that the verdict makes. Reference: `Routed::lex_error`. -/
theorem answerStuck_verdict {e : Engine σ V ε} {s s' : Session σ V} {info : Unrecognized}
    {answer : Except (Stop V ε) (Option SymbolId)} (answered : e.answerStuck info s = (answer, s')) :
    s'.user = (e.actions.judge (.ofUnrecognized e.table s.stack info) s.user).2 ∧
      ((e.actions.verdict (.ofUnrecognized e.table s.stack info) s.user = .resume ∧
          info.recoverable = true ∧ answer = .ok (some SymbolId.error)) ∨
        answer = .error ((e.actions.verdict (.ofUnrecognized e.table s.stack info) s.user).stop
          (.ofUnrecognized e.table s.stack info))) := by
  have hverdict := e.judge_verdict (.ofUnrecognized e.table s.stack info)
    (s.count fun stats => { stats with errors := stats.errors + 1 })
  have huser := e.judge_user (.ofUnrecognized e.table s.stack info)
    (s.count fun stats => { stats with errors := stats.errors + 1 })
  unfold answerStuck at answered
  dsimp only [Session.count] at answered hverdict huser
  rw [← hverdict, ← huser]
  split at answered
  · next heq =>
    rw [heq]
    by_cases hrec : info.recoverable = true
    · rw [if_pos hrec] at answered
      cases answered
      exact ⟨rfl, .inl ⟨rfl, hrec, rfl⟩⟩
    · rw [if_neg hrec] at answered
      cases answered
      exact ⟨rfl, .inr rfl⟩
  · next heq => rw [heq]; cases answered; exact ⟨rfl, .inr rfl⟩
  · next heq => rw [heq]; cases answered; exact ⟨rfl, .inr rfl⟩

/-- The search for a token ends as the verdict on unrecognized input has it, if there was one. A
verdict with a value or an error ends the parse on the spot; if the parse is to go on, the lexer
answers with an error token. Reference: `Parser::fetch`. -/
theorem fetch_settled {e : Engine σ V ε} {c : Config (σ × List (σ × ActionCall V)) V}
    (h : Passed e.actions c.session.user.2) :
    ComesTo (fun _ user => Passed e.actions user.2) (fun stop _ user => Settled e.actions stop user.2)
      (·.2) (e.recorded.fetch c) := by
  have hkeeps : e.recorded.lexerHost.Keeps fun s => Passed e.actions s.user.2 :=
    { note := fun _ _ hs => hs
      action := fun _ _ _ hs => hs.cons nofun }
  have hskips : ∀ info lexer s, (e.recorded.lexerHost.stuck info lexer s).1 ≠ .ok none :=
    fun _ _ _ hnone => nomatch (answerStuck_ok (answerStuck_of_stuck (Prod.ext hnone rfl))).2
  have hend := Lexer.lex_ends hkeeps hskips e.recorded.scanLimit c.lexer h
  unfold fetch
  split
  · next token lexer s' heq =>
    rw [heq] at hend
    cases hend with
    | token hs => exact hs
    | answered hs hstuck =>
      obtain ⟨huser, hanswer⟩ := answerStuck_verdict (answerStuck_of_stuck hstuck)
      rcases hanswer with ⟨hresume, hrecoverable, -⟩ | hrefused
      · show Passed e.actions s'.user.2
        rw [huser]
        exact hs.judged hresume hrecoverable
      · cases hrefused
  · next stop lexer s' heq =>
    rw [heq] at hend
    cases hend with
    | faulty hs _ => exact .passed hs
    | refused hs hstuck =>
      obtain ⟨huser, hanswer⟩ := answerStuck_verdict (answerStuck_of_stuck hstuck)
      rcases hanswer with ⟨-, -, hanswered⟩ | hrefused
      · cases hanswered
      · show Settled e.actions stop s'.user.2
        rw [huser, Except.error.inj hrefused]
        exact .decided hs
  · next heq =>
    rw [heq] at hend
    cases hend with
    | exhausted hs => exact .passed hs

/-- While a parse goes on, all verdicts let it; at its end the parse is settled. -/
theorem settled_invariant (e : Engine σ V ε) :
    e.recorded.Invariant (fun _ user => Passed e.actions user.2)
      (fun stop _ user => Settled e.actions stop user.2) where
  ends _ _ _ h := .passed h
  fetch h := fetch_settled h
  tokenValue _ _ _ h := h.cons nofun
  reduce _ _ _ h := h.cons nofun
  judge _ _ _ h := .decided h
  resume _ _ _ h resumed recoverable := h.judged resumed recoverable

variable [Inhabited V]

/-- **Verdicts settle a parse.** If a verdict is a value or an error, the parse ends with it; if it
is to resume after an error that is not recoverable, the parse fails with that error. In each case
it is the last call of the actions. Only behind a verdict to resume after a recoverable error are
there others. Reference: `ParserDriver::parse_error`. -/
theorem verdict_settles (e : Engine σ V ε) (fuel : Nat) (input : String) (c : Config σ V)
    {earlier later : List (σ × ActionCall V)} {user : σ} {info : ErrorInfo V}
    (called : e.calls fuel input c = earlier ++ (user, .judge info) :: later) :
    (∀ value, e.actions.verdict info user = .answer value →
      (e.parse fuel input c).1 = .value value ∧ later = []) ∧
    (∀ error, e.actions.verdict info user = .raise error →
      (e.parse fuel input c).1 = .failed error ∧ later = []) ∧
    (e.actions.verdict info user = .resume → info.recoverable = false →
      (e.parse fuel input c).1 = .failed (.ofInfo info) ∧ later = []) ∧
    (later ≠ [] → e.actions.verdict info user = .resume ∧ info.recoverable = true) := by
  have hstart : Passed e.actions (c.recorded.reset input).session.user.2 := nofun
  have hsettled := e.settled_invariant.run fuel hstart
  rw [← e.parse_recorded_outcome fuel input c]
  unfold parse
  dsimp only
  have hcalls : (e.recorded.run fuel (c.recorded.reset input)).config.session.user.2 =
      (earlier ++ (user, .judge info) :: later).reverse := List.reverse_eq_iff.mp called
  generalize e.recorded.run fuel (c.recorded.reset input) = halt at hsettled hcalls ⊢
  rw [hcalls, List.reverse_append, List.reverse_cons, List.append_assoc, List.singleton_append] at hsettled
  rcases hsettled.verdict with ⟨hresume, hrecoverable⟩ | ⟨hlast, hstop⟩
  · simp only [hresume, hrecoverable, reduceCtorEq, Bool.true_eq_false, false_implies, implies_true,
      and_self]
  · rw [List.reverse_eq_nil_iff] at hlast
    rw [hstop, hlast]
    refine ⟨fun value h => ?_, fun error h => ?_, fun h _ => ?_, fun h => absurd rfl h⟩ <;>
      rw [h] <;> exact ⟨rfl, rfl⟩

end Engine

end

/-! ## A verdict of the calculator -/

namespace Calculator

/-- The error that the last of some calls is for, if that call asks for a verdict. -/
def lastJudged? (calls : List (Context × ActionCall Value)) : Option (ErrorInfo Value) :=
  calls.getLast?.bind fun
    | (_, .judge info) => some info
    | _ => none

/-- Calls of which the last one is for a verdict end with that call. -/
theorem eq_of_lastJudged {calls : List (Context × ActionCall Value)} {info : ErrorInfo Value}
    (h : lastJudged? calls = some info) : ∃ earlier user, calls = earlier ++ [(user, .judge info)] := by
  obtain ⟨call, hlast, hcall⟩ := Option.bind_eq_some_iff.mp h
  obtain ⟨earlier, rfl⟩ := List.getLast?_eq_some_iff.mp hlast
  split at hcall
  · cases hcall; exact ⟨earlier, _, rfl⟩
  · cases hcall

/-- The calculator raises the error that a sum without its semicolon comes to, and calls no action
after it. -/
theorem unended_sum_raised :
    ∃ earlier user info,
      (tolerant.engine 3).calls 100 "1 2" tolerant.config = earlier ++ (user, .judge info) :: [] ∧
      ((tolerant.engine 3).parse 100 "1 2" tolerant.config).1 = .failed (.ofInfo info) := by
  have hlast : (lastJudged? ((tolerant.engine 3).calls 100 "1 2" tolerant.config)).any
      (!·.recoverable) = true := by decide +kernel
  rw [Option.any_eq_true] at hlast
  obtain ⟨info, hinfo, hfatal⟩ := hlast
  obtain ⟨earlier, user, hcalls⟩ := eq_of_lastJudged hinfo
  have hraise : actions.verdict info user = .raise (.ofInfo info) :=
    if_neg fun h => by rw [h] at hfatal; cases hfatal
  exact ⟨earlier, user, info, hcalls,
    ((Engine.verdict_settles _ _ _ _ hcalls).2.1 _ hraise).1⟩

end Calculator

end ShiftReduce
