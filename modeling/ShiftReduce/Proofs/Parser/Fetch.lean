import ShiftReduce.Parser.Engine
import ShiftReduce.Proofs.Lexer.Ending

/-!
# What a call of the lexer does to a session

The laws of a parse speak of six kinds of events, the landmarks of its journal; all other events are
remarks. `Engine.fetch_ok` and `Engine.fetch_error` say what a call of the lexer changes in a session:
the state of the actions, the counts and the journal. The journal gains the landmark of the token, and
before it that of a lexical error if the token stands for one; nothing else is reported on the way.
-/

namespace ShiftReduce

/-! ## Landmarks -/

section
variable {V : Type}

/-- Whether an event is a landmark: a token fetched, shifted or thrown away, a call of a production's
action or of the verdict on an error, or a recovery. -/
@[simp] def ParserEvent.isLandmark : ParserEvent V → Bool
  | .fetched _ | .shifted _ _ | .reduced _ _ | .reported _ | .discarded _ | .resumed _ _ => true
  | _ => false

/-- The landmarks of a journal: the events that laws of parses speak of. Remarks and steps of the
lexer are left out. -/
def landmarks (journal : List (ParserEvent V)) : List (ParserEvent V) :=
  journal.filter (·.isLandmark)

@[simp] theorem landmarks_cons (event : ParserEvent V) (journal : List (ParserEvent V)) :
    landmarks (event :: journal) =
      if event.isLandmark then event :: landmarks journal else landmarks journal :=
  List.filter_cons

end

section
variable {σ V ε : Type} {e : Engine σ V ε} {s s' : Session σ V} {c : Config σ V}

/-- A session after remarks: the state of the actions may be another, and the journal has the same
landmarks. -/
def Session.Remarked (s s' : Session σ V) : Prop :=
  ∃ user journal, s' = { s with user, journal } ∧ landmarks journal = landmarks s.journal

/-- The verdict on an error, whoever has it. Reference: `ParserDriver::parse_error`. -/
def Actions.verdict (actions : Actions σ V ε) (info : ErrorInfo V) (user : σ) : Verdict V ε :=
  (actions.judge info user).1.getD (standardVerdict info)

namespace Engine

/-! ## Verdicts -/

/-- A verdict is asked for once, and all that follows it are remarks. Reference:
`ParserDriver::parse_error`. -/
theorem judge_session (info : ErrorInfo V) (s : Session σ V) :
    ∃ user journal, (e.judge info s).2 = { s with user, journal } ∧
      landmarks journal = .reported info :: landmarks s.journal := by
  unfold judge
  dsimp only
  split
  · exact ⟨_, _, rfl, by simp [Session.note]⟩
  · split
    · exact ⟨_, _, rfl, by simp [Session.note]⟩
    · exact ⟨_, _, rfl, by simp [Session.note]⟩

/-- The state of the actions after a verdict. Reference: `ParserDriver::parse_error`. -/
theorem judge_user (e : Engine σ V ε) (info : ErrorInfo V) (s : Session σ V) :
    (e.judge info s).2.user = (e.actions.judge info s.user).2 := by
  unfold judge
  dsimp only [Session.note]
  split
  · next heq => rw [heq]
  · next heq => split <;> rw [heq]

/-- The verdict that the engine hears. Reference: `ParserDriver::parse_error`. -/
theorem judge_verdict (e : Engine σ V ε) (info : ErrorInfo V) (s : Session σ V) :
    (e.judge info s).1 = e.actions.verdict info s.user := by
  unfold judge Actions.verdict
  dsimp only [Session.note]
  split
  · next heq => rw [heq]; rfl
  · next heq => rw [heq]; rfl

/-- The lexer's question about unrecognized input is one lexical error on the stack as it stands.
Reference: `Routed::lex_error`. -/
theorem answerStuck_session {info : Unrecognized} {answer : Except (Stop V ε) (Option SymbolId)}
    (h : e.answerStuck info s = (answer, s')) :
    ∃ user journal, s' =
        { s with user, journal, stats := { s.stats with errors := s.stats.errors + 1 } } ∧
      landmarks journal =
        .reported (.ofUnrecognized e.table s.stack info) :: landmarks s.journal := by
  obtain ⟨user, journal, hs, hj⟩ := e.judge_session (.ofUnrecognized e.table s.stack info)
    (s.count fun stats => { stats with errors := stats.errors + 1 })
  refine ⟨user, journal, ?_, hj⟩
  unfold answerStuck at h
  dsimp only at h
  split at h <;> next heq => rw [heq] at hs; cases h; exact hs

/-- The answer to a lexer that is stuck is an error token, and only if its errors are recoverable.
Reference: `Routed::lex_error`. -/
theorem answerStuck_ok {info : Unrecognized} {emitted : Option SymbolId}
    (h : e.answerStuck info s = (.ok emitted, s')) :
    info.recoverable = true ∧ emitted = some SymbolId.error := by
  unfold answerStuck at h
  dsimp only at h
  split at h
  · split at h
    · next hrec => cases h; exact ⟨hrec, rfl⟩
    · cases h
  · cases h
  · cases h

/-- A lexer that is stuck does not end a parse by acceptance. Reference: `Routed::lex_error`. -/
theorem answerStuck_error {info : Unrecognized} {stop : Stop V ε}
    (h : e.answerStuck info s = (.error stop, s')) (value : V) : stop ≠ .accepted value := by
  unfold answerStuck at h
  dsimp only at h
  split at h
  · split at h <;> cases h; nofun
  · cases h; nofun
  · cases h; nofun

/-! ## Fetching -/

/-- What the action of a lexer rule does to a session. Reference: `Routed`. -/
theorem lexerHost_action (e : Engine σ V ε) (rule : RuleId) (lexer : Lexer) (s : Session σ V) :
    e.lexerHost.action rule lexer s =
      ((e.actions.rule rule lexer s.user).1, (e.actions.rule rule lexer s.user).2.1,
        { s with user := (e.actions.rule rule lexer s.user).2.2 }) := rfl

/-- The answer to unrecognized input is the engine's. Reference: `Routed`. -/
theorem lexerHost_stuck (e : Engine σ V ε) (info : Unrecognized) (lexer : Lexer) (s : Session σ V) :
    e.lexerHost.stuck info lexer s =
      ((e.answerStuck info s).1, lexer, (e.answerStuck info s).2) := rfl

/-- The actions of lexer rules and the notes of a lexer are remarks. Reference: `Routed`. -/
theorem lexerHost_keeps (s : Session σ V) : e.lexerHost.Keeps s.Remarked where
  note event t := by
    rintro ⟨user, journal, rfl, hj⟩
    exact ⟨user, .lexer event :: journal, rfl, by simpa using hj⟩
  action rule lexer t := by
    rintro ⟨user, journal, rfl, hj⟩
    exact ⟨_, journal, rfl, hj⟩

/-- The session behind a token that was fetched. An error token may come with the report of a lexical
error that the actions let pass. -/
inductive Fetches (e : Engine σ V ε) (s : Session σ V) (token : Token) : Session σ V → Prop
  | read {user : σ} {journal : List (ParserEvent V)}
      (new : landmarks journal = .fetched token :: landmarks s.journal) :
      Fetches e s token
        { s with user, journal, stats := { s.stats with tokens := s.stats.tokens + 1 } }
  | stuck {user : σ} {journal : List (ParserEvent V)} {info : Unrecognized}
      (recoverable : info.recoverable = true) (symbol : token.symbol = SymbolId.error)
      (new : landmarks journal = .fetched token ::
        .reported (.ofUnrecognized e.table s.stack info) :: landmarks s.journal) :
      Fetches e s token
        { s with
          user, journal
          stats := { s.stats with
            tokens := s.stats.tokens + 1
            errors := s.stats.errors + 1 } }

/-- The session behind a search for a token that failed: nothing new was done but, at most, a report
of the input that the lexer was stuck on. -/
inductive FailsToFetch (e : Engine σ V ε) (s : Session σ V) : Session σ V → Prop
  | silent {user : σ} {journal : List (ParserEvent V)}
      (new : landmarks journal = landmarks s.journal) :
      FailsToFetch e s { s with user, journal }
  | stuck {user : σ} {journal : List (ParserEvent V)} {info : Unrecognized}
      (new : landmarks journal =
        .reported (.ofUnrecognized e.table s.stack info) :: landmarks s.journal) :
      FailsToFetch e s
        { s with user, journal, stats := { s.stats with errors := s.stats.errors + 1 } }

/-- A lexer that is stuck asks the engine. Reference: `Routed::lex_error`. -/
theorem answerStuck_of_stuck {info : Unrecognized} {lexer lexer' : Lexer}
    {answer : Except (Stop V ε) (Option SymbolId)}
    (h : e.lexerHost.stuck info lexer s = (answer, lexer', s')) :
    e.answerStuck info s = (answer, s') := by
  cases h; rfl

/-- The ends of the search for a token in a parse. -/
theorem lex_ends (e : Engine σ V ε) (c : Config σ V) :
    LexEnd e.lexerHost c.session.Remarked (c.lexer.lex e.lexerHost e.scanLimit c.session).1
      (c.lexer.lex e.lexerHost e.scanLimit c.session).2.2 :=
  Lexer.lex_ends (lexerHost_keeps _)
    (fun _ _ _ h => nomatch (answerStuck_ok (answerStuck_of_stuck (Prod.ext h rfl))).2) _ _
    ⟨_, _, rfl, rfl⟩

/-- What a fetched token leaves of a session: unrecognized input may have been reported on the way.
Reference: `Parser::fetch`. -/
theorem fetch_ok {token : Token} {c' : Config σ V} (h : e.fetch c = .ok (token, c')) :
    Fetches e c.session token c'.session := by
  have hend := e.lex_ends c
  unfold fetch at h
  split at h
  · next heq =>
    rw [heq] at hend
    cases h
    cases hend with
    | token hr =>
      obtain ⟨user, journal, rfl, hj⟩ := hr
      exact .read (congrArg (List.cons _) hj)
    | answered hr hstuck =>
      obtain ⟨user, journal, rfl, hj⟩ := hr
      have hanswer := answerStuck_of_stuck hstuck
      obtain ⟨hrec, hsymbol⟩ := answerStuck_ok hanswer
      obtain ⟨user', journal', rfl, hj'⟩ := answerStuck_session hanswer
      rw [hj] at hj'
      exact .stuck hrec (Option.some.inj hsymbol)
        (congrArg (List.cons _) hj')
  · cases h
  · cases h

/-- What a search for a token leaves of a session where it fails. Either only remarks were made,
where a rule fails or the scans run out, or unrecognized input was reported, and the verdict on it
ends the parse. Reference: `Parser::fetch`. -/
theorem fetch_error {halt : Halt σ V ε} (h : e.fetch c = .error halt) :
    FailsToFetch e c.session halt.config.session ∧ ∀ value, halt.stop ≠ .accepted value := by
  have hend := e.lex_ends c
  unfold fetch at h
  split at h
  · cases h
  · next heq =>
    rw [heq] at hend
    cases h
    cases hend with
    | faulty hr _ =>
      obtain ⟨user, journal, rfl, hj⟩ := hr
      exact ⟨.silent hj, nofun⟩
    | refused hr hstuck =>
      obtain ⟨user, journal, rfl, hj⟩ := hr
      have hanswer := answerStuck_of_stuck hstuck
      obtain ⟨user', journal', rfl, hj'⟩ := answerStuck_session hanswer
      rw [hj] at hj'
      exact ⟨.stuck hj', answerStuck_error hanswer⟩
  · next heq =>
    rw [heq] at hend
    cases h
    cases hend with
    | exhausted hr =>
      obtain ⟨user, journal, rfl, hj⟩ := hr
      exact ⟨.silent hj, nofun⟩

end Engine

end

end ShiftReduce
