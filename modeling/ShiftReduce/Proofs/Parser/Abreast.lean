import ShiftReduce.Proofs.Parser.Conservation
import ShiftReduce.Proofs.Parser.Simulation

/-!
# Parses abreast

Two parses of an input that differ in their discard counts are abreast of each other
(`Engine.Abreast`): their sessions differ in locations, in records and in what has been reported,
and as many tokens were shifted in both since the last recovery. Their actions do not see the
difference (`Actions.Indifferent`). Fetching (`Engine.fetch_abreast`), shifting
(`Engine.shift_abreast`) and reducing (`Engine.reduce_abreast`) keep two parses abreast.

That the actions are indifferent to places is needed throughout: a recovery that one parse reports
and the other does not clears the record at different times, so the locations of error tokens may
differ. Each function of the engine has a law that says that it does the same in both or fails in
both, and how a failure ends a parse is of no account (`Engine.Fails`, `Engine.Fails.alike`).
-/

namespace ShiftReduce

/-! ## What is compared -/

/-- What a parse does with its tokens and by its productions, wherever in the input that is. -/
inductive Deed (V : Type)
  | shift (symbol : SymbolId) (text : String)
  | reduce (production : ProductionId) (values : List V)
  | discard (symbol : SymbolId) (text : String)
deriving Repr, DecidableEq

section
variable {V : Type}

/-- The deed that an event records: a shift, a reduction or a token thrown away, without its place.
-/
def ParserEvent.deed? : ParserEvent V → Option (Deed V)
  | .shifted token _ => some (.shift token.symbol token.text)
  | .reduced _ reduction => some (.reduce reduction.production reduction.values)
  | .discarded token => some (.discard token.symbol token.text)
  | _ => none

/-- The deeds of a journal, last one first. Reports and recoveries are no deeds. -/
def deeds (journal : List (ParserEvent V)) : List (Deed V) := journal.filterMap (·.deed?)

@[simp] theorem deeds_landmarks (journal : List (ParserEvent V)) :
    deeds (landmarks journal) = deeds journal :=
  filterMap_landmarks (fun event h => by cases event <;> first | rfl | cases h) journal

/-- All that is said of a token but for its place: its symbol and its text. -/
def Token.bare (token : Token) : SymbolId × String := (token.symbol, token.text)

/-- Where there is no token, there is none in another place either. -/
theorem Token.bare_none {ahead ahead' : Option Token} (same : ahead.map bare = ahead'.map bare)
    (absent : ahead = none) : ahead' = none := by
  rw [absent] at same
  exact Option.map_eq_none_iff.mp same.symm

/-- Where there is a token, there is the same one in another place. -/
theorem Token.bare_some {ahead ahead' : Option Token} {token : Token}
    (same : ahead.map bare = ahead'.map bare) (present : ahead = some token) :
    ∃ token', ahead' = some token' ∧ token'.bare = token.bare := by
  rw [present] at same
  exact Option.map_eq_some_iff.mp same.symm

/-- All that is said of a slot but for its place: its symbol, its state and its value. -/
def Slot.bare (slot : Slot V) : SymbolId × StateId × V := (slot.symbol, slot.state, slot.value)

/-- No error token was fetched, so every error token that is ahead was made by a recovery. -/
def FetchesNoError (journal : List (ParserEvent V)) : Prop :=
  ∀ token ∈ fetchedTokens journal, token.symbol ≠ SymbolId.error

instance (journal : List (ParserEvent V)) : Decidable (FetchesNoError journal) :=
  inferInstanceAs (Decidable (∀ token ∈ fetchedTokens journal, token.symbol ≠ SymbolId.error))

/-- What is not fetched by the end was not fetched on the way. -/
theorem FetchesNoError.mono {journal later : List (ParserEvent V)} (h : FetchesNoError later)
    (suffix : landmarks journal <:+ landmarks later) : FetchesNoError journal := by
  have hfetched : fetchedTokens (landmarks journal) <:+ fetchedTokens (landmarks later) :=
    suffix.filterMap _
  rw [fetchedTokens_landmarks, fetchedTokens_landmarks] at hfetched
  exact fun token hmem => h token (hfetched.subset hmem)

end

/-- Two parses end with the same value, or fail both, for whatever reason, or take too many steps
both. -/
inductive Engine.Outcome.Agree {α ε : Type} : Outcome α ε → Outcome α ε → Prop
  | value {value : α} : Agree (.value value) (.value value)
  | failed {first second : ε} : Agree (.failed first) (.failed second)
  | exhausted : Agree .exhausted .exhausted

section
variable {σ V ε α : Type}

/-- Actions that see a view of their state, the symbols and texts of tokens, and the productions and
values of reductions, but no locations and no recoveries. An error does not change what they see;
they go on after it if it is recoverable, and fail otherwise. -/
structure Actions.Indifferent (actions : Actions σ V ε) (view : σ → α) : Prop where
  rule : actions.RulesSee view
  tokenValue : ∀ {token token' user user'}, token.bare = token'.bare → view user = view user' →
    (actions.tokenValue token user).1 = (actions.tokenValue token' user').1 ∧
      view (actions.tokenValue token user).2 = view (actions.tokenValue token' user').2
  reduce : ∀ reduction reduction' {user user'}, reduction.production = reduction'.production →
    reduction.lhs = reduction'.lhs → reduction.values = reduction'.values →
    view user = view user' →
    ExceptsAlike (fun _ _ => True) (fun yield yield' => yield.value = yield'.value)
        (actions.reduce reduction user).1 (actions.reduce reduction' user').1 ∧
      view (actions.reduce reduction user).2 = view (actions.reduce reduction' user').2
  judge : ∀ info user, view (actions.judge info user).2 = view user
  resumes : ∀ {info} user, info.recoverable = true → actions.verdict info user = .resume
  raises : ∀ {info} user, info.recoverable = false →
    ∃ error, actions.verdict info user = .raise error

namespace Engine

/-- The engine with another discard count. Reference: `error_recovery_token_discard_count`. -/
def withDiscardCount (e : Engine σ V ε) (count : Nat) : Engine σ V ε :=
  { e with discardCount := count }

/-- The automaton is the same. -/
@[simp] theorem withDiscardCount_table (e : Engine σ V ε) (count : Nat) :
    (e.withDiscardCount count).table = e.table := rfl

/-- So is the choice of an action. -/
@[simp] theorem withDiscardCount_chooseAction (e : Engine σ V ε) (count : Nat) :
    (e.withDiscardCount count).chooseAction = e.chooseAction := rfl

/-! ## Sessions abreast -/

/-- A session after what is compared with nothing: reports, counts and records. -/
structure Unmoved (view : σ → α) (s s' : Session σ V) : Prop where
  view : view s'.user = view s.user
  stack : s'.stack = s.stack
  lookahead : s'.lookahead = s.lookahead
  held : s'.held = s.held
  recovering : s'.recovering = s.recovering
  endHeight : s'.endHeight = s.endHeight
  deeds : deeds s'.journal = deeds s.journal

/-- Two sessions, of parses that are quiet for `q` and for `q'` tokens after an error, that differ
in locations and in what has been reported. As many tokens were shifted in both since the last
recovery; an error token ahead is the recovery's own. -/
structure Abreast (view : σ → α) (q q' : Nat) (s s' : Session σ V) : Prop where
  view : view s.user = view s'.user
  stack : s.stack.map Slot.bare = s'.stack.map Slot.bare
  lookahead : s.lookahead.map Token.bare = s'.lookahead.map Token.bare
  held : s.held.map Token.bare = s'.held.map Token.bare
  endHeight : s.endHeight = s'.endHeight
  deeds : ShiftReduce.deeds s.journal = ShiftReduce.deeds s'.journal
  pace : ∃ shifts, s.recovering = q - shifts ∧ s'.recovering = q' - shifts
  proper : ∀ token ∈ s.held, token.symbol ≠ SymbolId.error
  guarded : ∀ token ∈ s.lookahead, token.symbol = SymbolId.error → s.held.isSome

/-- Configurations with the same lexer and sessions abreast, so that the next token is the same for
both. -/
def ConfigsAbreast (view : σ → α) (q q' : Nat) (c c' : Config σ V) : Prop :=
  c.lexer = c'.lexer ∧ Abreast view q q' c.session c'.session

/-- Two ends of parses with the same outcome, after the same deeds. -/
structure HaltsAlike (halt halt' : Halt σ V ε) : Prop where
  outcome : (Outcome.ofStop halt.stop).Agree (.ofStop halt'.stop)
  deeds : deeds halt.config.session.journal = deeds halt'.config.session.journal

section
variable {view : σ → α} {q q' : Nat} {s s' t t' : Session σ V} {c c' : Config σ V}
  {e : Engine σ V ε}

/-- Sessions that are abreast stay so after what is compared with nothing. -/
theorem Abreast.unmoved (h : Abreast view q q' s s') (first : Unmoved view s t)
    (second : Unmoved view s' t') : Abreast view q q' t t' where
  view := by rw [first.view, second.view, h.view]
  stack := by rw [first.stack, second.stack, h.stack]
  lookahead := by rw [first.lookahead, second.lookahead, h.lookahead]
  held := by rw [first.held, second.held, h.held]
  endHeight := by rw [first.endHeight, second.endHeight, h.endHeight]
  deeds := by rw [first.deeds, second.deeds, h.deeds]
  pace := by rw [first.recovering, second.recovering]; exact h.pace
  proper := by rw [first.held]; exact h.proper
  guarded := by rw [first.held, first.lookahead]; exact h.guarded

theorem Unmoved.refl : Unmoved view s s := ⟨rfl, rfl, rfl, rfl, rfl, rfl, rfl⟩

/-- A remark is compared with nothing. -/
theorem unmoved_note {event : ParserEvent V} (remark : event.deed? = none) :
    Unmoved view s (s.note event) :=
  { (Unmoved.refl : Unmoved view s s) with deeds := List.filterMap_cons_none remark }

/-! ## Verdicts -/

/-- A verdict is compared with nothing. -/
theorem judge_unmoved (indifferent : e.actions.Indifferent view) (info : ErrorInfo V)
    (s : Session σ V) : Unmoved view s (e.judge info s).2 := by
  obtain ⟨user, journal, hs, hj⟩ := e.judge_session info s
  have huser := e.judge_user info s
  rw [hs] at huser ⊢
  refine ⟨?_, rfl, rfl, rfl, rfl, rfl, ?_⟩
  · exact (congrArg view huser).trans (indifferent.judge info s.user)
  · rw [← deeds_landmarks, hj]
    exact deeds_landmarks _

/-- A recoverable error lets the parse go on. -/
theorem judge_resumes (indifferent : e.actions.Indifferent view) {info : ErrorInfo V}
    (recoverable : info.recoverable = true) (s : Session σ V) :
    ∃ s', e.judge info s = (.resume, s') ∧ Unmoved view s s' :=
  ⟨_, Prod.ext ((e.judge_verdict info s).trans (indifferent.resumes s.user recoverable)) rfl,
    judge_unmoved indifferent info s⟩

/-- Any other error ends the parse. -/
theorem judge_raises (indifferent : e.actions.Indifferent view) {info : ErrorInfo V}
    (fatal : info.recoverable = false) (s : Session σ V) :
    ∃ error s', e.judge info s = (.raise error, s') ∧ Unmoved view s s' := by
  obtain ⟨error, hraises⟩ := indifferent.raises s.user fatal
  exact ⟨error, _, Prod.ext ((e.judge_verdict info s).trans hraises) rfl,
    judge_unmoved indifferent info s⟩

/-! ## Failures -/

/-- The computation fails, and no deed is done on the way: what was done before is all. -/
def Fails {β : Type} (s : Session σ V) (x : Except (Halt σ V ε) β) : Prop :=
  ∃ halt error, x = .error halt ∧ halt.stop = .failed error ∧
    deeds halt.config.session.journal = deeds s.journal

/-- Two computations that fail are alike. -/
theorem Fails.alike {β γ : Type} {S : β → γ → Prop} {x : Except (Halt σ V ε) β}
    {x' : Except (Halt σ V ε) γ} (h : Fails s x) (h' : Fails s' x')
    (same : deeds s.journal = deeds s'.journal) : ExceptsAlike HaltsAlike S x x' := by
  obtain ⟨halt, error, rfl, hstop, hdeeds⟩ := h
  obtain ⟨halt', error', rfl, hstop', hdeeds'⟩ := h'
  refine .error ⟨?_, by rw [hdeeds, hdeeds', same]⟩
  rw [hstop, hstop']
  exact .failed

/-- An error that cannot be recovered from fails. -/
theorem halt_fails {β : Type} (indifferent : e.actions.Indifferent view) (cause : ErrorCause)
    (state : StateId) (token : Token) (c : Config σ V) :
    Fails c.session (.error (e.halt cause state token c) : Except (Halt σ V ε) β) := by
  have hfatal : (ErrorInfo.ofToken e.table c.session.stack cause false state token).recoverable =
    false := rfl
  obtain ⟨error, s', hjudge, hunmoved⟩ := judge_raises indifferent hfatal
    ((c.session.count fun stats => { stats with errors := stats.errors + 1 }).note
      (.halted (.ofToken e.table c.session.stack cause false state token)))
  unfold halt
  dsimp only
  rw [hjudge]
  exact ⟨_, error, rfl, rfl, hunmoved.deeds⟩

/-- The report of an unexpected token that cannot be recovered from fails. -/
theorem reportToken_fails (indifferent : e.actions.Indifferent view) {token : Token}
    (proper : token.symbol ≠ SymbolId.error) (state : StateId) (c : Config σ V) :
    Fails c.session (e.reportToken state none token c) := by
  have hfatal : (ErrorInfo.ofToken e.table c.session.stack (.unexpected c.lexer.showPosition)
    (none : Option Nat).isSome state token).recoverable = false := rfl
  obtain ⟨error, s', hjudge, hunmoved⟩ := judge_raises indifferent hfatal
    ((c.session.count fun stats => { stats with errors := stats.errors + 1 }).note
      (.detected state none))
  unfold reportToken
  rw [if_neg proper]
  dsimp only
  rw [hjudge]
  exact ⟨_, error, rfl, rfl, hunmoved.deeds⟩

/-- The report of an unexpected token that can be recovered from is compared with nothing. -/
theorem reportToken_unmoved (indifferent : e.actions.Indifferent view) {token : Token}
    (proper : token.symbol ≠ SymbolId.error) (state : StateId) (depth : Nat) (c : Config σ V) :
    ∃ c₁, e.reportToken state (some depth) token c = .ok c₁ ∧ c₁.lexer = c.lexer ∧
      Unmoved view c.session c₁.session := by
  have hrecoverable : (ErrorInfo.ofToken e.table c.session.stack (.unexpected c.lexer.showPosition)
    (some depth).isSome state token).recoverable = true := rfl
  obtain ⟨s', hjudge, hunmoved⟩ := judge_resumes indifferent hrecoverable
    ((c.session.count fun stats => { stats with errors := stats.errors + 1 }).note
      (.detected state (some depth)))
  unfold reportToken
  rw [if_neg proper]
  dsimp only
  rw [hjudge]
  exact ⟨_, rfl, rfl, { hunmoved with }⟩

/-! ## Fetching -/

/-- The answers to a lexer that is stuck are the same for sessions that are abreast. Both report it,
since a lexical error is reported whatever the discard count is; an error token is an answer only if
the lexer's errors are recoverable. -/
theorem answerStuck_abreast (indifferent : e.actions.Indifferent view) (info : Unrecognized)
    (h : Abreast view q q' s s') :
    ExceptsAlike (fun stop stop' => (Outcome.ofStop stop).Agree (.ofStop stop')) Eq
        (e.answerStuck info s).1 (e.answerStuck info s').1 ∧
      Abreast view q q' (e.answerStuck info s).2 (e.answerStuck info s').2 := by
  unfold answerStuck
  dsimp only
  cases hrecoverable : info.recoverable with
  | true =>
    obtain ⟨t, hjudge, hunmoved⟩ := judge_resumes indifferent
      (show (ErrorInfo.ofUnrecognized e.table s.stack info).recoverable = true from hrecoverable)
      (s.count fun stats => { stats with errors := stats.errors + 1 })
    obtain ⟨t', hjudge', hunmoved'⟩ := judge_resumes indifferent
      (show (ErrorInfo.ofUnrecognized e.table s'.stack info).recoverable = true from hrecoverable)
      (s'.count fun stats => { stats with errors := stats.errors + 1 })
    rw [hjudge, hjudge']
    exact ⟨.ok rfl, h.unmoved { hunmoved with } { hunmoved' with }⟩
  | false =>
    obtain ⟨error, t, hjudge, hunmoved⟩ := judge_raises indifferent
      (show (ErrorInfo.ofUnrecognized e.table s.stack info).recoverable = false from hrecoverable)
      (s.count fun stats => { stats with errors := stats.errors + 1 })
    obtain ⟨error', t', hjudge', hunmoved'⟩ := judge_raises indifferent
      (show (ErrorInfo.ofUnrecognized e.table s'.stack info).recoverable = false from hrecoverable)
      (s'.count fun stats => { stats with errors := stats.errors + 1 })
    rw [hjudge, hjudge']
    exact ⟨.error .failed, h.unmoved { hunmoved with } { hunmoved' with }⟩

/-- The lexers of two parses get the same answers while the sessions are abreast. -/
theorem lexerHost_abreast (indifferent : e.actions.Indifferent view) :
    e.lexerHost.Alike e.lexerHost (fun _ => True) (Abreast view q q')
      (fun stop stop' => (Outcome.ofStop stop).Agree (.ofStop stop')) where
  note event t t' h := h.unmoved (unmoved_note rfl) (unmoved_note rfl)
  action rule lexer t t' h := by
    have hacted := indifferent.rule rule lexer h.view
    rw [lexerHost_action, lexerHost_action]
    generalize e.actions.rule rule lexer t.user = first at hacted ⊢
    generalize e.actions.rule rule lexer t'.user = second at hacted ⊢
    obtain ⟨hanswer, hview⟩ := hacted
    exact ⟨hanswer, { h with view := hview }⟩
  stuck info lexer t t' h _ := by
    obtain ⟨hanswers, hstate⟩ := answerStuck_abreast indifferent info h
    simp only [lexerHost]
    exact ⟨hanswers, hstate⟩
  fail fault := .failed
  lost := ⟨fun _ _ h => (h trivial).elim, fun _ _ _ h => (h trivial).elim⟩
  lostStuck _ _ _ h := (h trivial).elim

/-- Two tokens on their way, with configurations abreast. The first is an error token only if one
was fetched. -/
structure TokensAbreast (view : σ → α) (q q' : Nat) (r r' : Token × Config σ V) : Prop where
  tokens : r.1.bare = r'.1.bare
  proper : FetchesNoError r.2.session.journal → r.1.symbol ≠ SymbolId.error
  configs : ConfigsAbreast view q q' r.2 r'.2

/-- Two parses abreast fetch the same token. -/
theorem fetch_abreast (indifferent : e.actions.Indifferent view)
    (h : ConfigsAbreast view q q' c c') :
    ExceptsAlike HaltsAlike (TokensAbreast view q q') (e.fetch c) (e.fetch c') := by
  obtain ⟨lexer, s⟩ := c
  obtain ⟨lexer', s'⟩ := c'
  obtain ⟨hlexer, hsession⟩ := h
  dsimp only at hlexer hsession
  subst hlexer
  have hlexed := Lexer.lex_alike (lexerHost_abreast indifferent) e.scanLimit lexer hsession trivial
  unfold fetch
  dsimp only
  generalize lexer.lex e.lexerHost e.scanLimit s = first at hlexed ⊢
  generalize lexer.lex e.lexerHost e.scanLimit s' = second at hlexed ⊢
  obtain ⟨hresults, hstate⟩ := hlexed
  cases hresults with
  | token => exact .ok ⟨rfl, fun hnone => hnone _ List.mem_cons_self, rfl, { hstate with }⟩
  | failed hreasons => exact .error ⟨hreasons, hstate.deeds⟩
  | exhausted => exact .error ⟨.exhausted, hstate.deeds⟩

/-! ## Shifts -/

/-- A shift of a token that is no error token counts for the recovery, which is otherwise left
alone. -/
theorem afterShift_plain (e : Engine σ V ε) (token : Token) (s : Session σ V) :
    ∃ journal, e.afterShift false token s =
        { s with consumed := token, recovering := s.recovering - 1, journal } ∧
      ShiftReduce.deeds journal = ShiftReduce.deeds s.journal := by
  unfold afterShift
  dsimp only
  split
  · contradiction
  · split
    · exact ⟨_, rfl, List.filterMap_cons_none rfl⟩
    · exact ⟨_, rfl, rfl⟩

/-- A shift counts for both recoveries. -/
theorem afterShift_abreast (count : Nat) (token token' : Token) (h : Abreast view q q' s s') :
    Abreast view q q' (e.afterShift false token s)
      ((e.withDiscardCount count).afterShift false token' s') := by
  obtain ⟨journal, hafter, hkept⟩ := e.afterShift_plain token s
  obtain ⟨journal', hafter', hkept'⟩ := (e.withDiscardCount count).afterShift_plain token' s'
  obtain ⟨shifts, hpace, hpace'⟩ := h.pace
  have hcounted : s.recovering - 1 = q - (shifts + 1) := by omega
  have hcounted' : s'.recovering - 1 = q' - (shifts + 1) := by omega
  rw [hafter, hafter']
  exact { h with
    deeds := by rw [hkept, hkept', h.deeds]
    pace := ⟨shifts + 1, hcounted, hcounted'⟩ }

/-- A token that is ahead with none held back is no error token. -/
theorem Abreast.not_lexed (h : Abreast view q q' s s') {token : Token}
    (ahead : s.lookahead = some token) :
    (token.symbol == SymbolId.error && s.held.isNone && s.recovering == 0) = false := by
  cases hheld : s.held with
  | some held => simp
  | none =>
    have hproper : token.symbol ≠ SymbolId.error := by
      intro hsymbol
      have hsome := h.guarded token ahead hsymbol
      rw [hheld] at hsome
      cases hsome
    simp [hproper]

/-- The other session has the same token ahead. -/
theorem Abreast.symm (h : Abreast view q q' s s') : Abreast view q' q s' s where
  view := h.view.symm
  stack := h.stack.symm
  lookahead := h.lookahead.symm
  held := h.held.symm
  endHeight := h.endHeight.symm
  deeds := h.deeds.symm
  pace := by
    obtain ⟨shifts, hfirst, hsecond⟩ := h.pace
    exact ⟨shifts, hsecond, hfirst⟩
  proper token hheld := by
    obtain ⟨first, hfirst, hbare⟩ := Token.bare_some h.held.symm hheld
    have hproper := h.proper first hfirst
    rwa [show first.symbol = token.symbol from congrArg Prod.fst hbare] at hproper
  guarded token hahead hsymbol := by
    obtain ⟨first, hfirst, hbare⟩ := Token.bare_some h.lookahead.symm hahead
    have hsome := h.guarded first hfirst
      ((congrArg Prod.fst hbare : first.symbol = token.symbol).trans hsymbol)
    rw [← Option.isSome_map (f := Token.bare), ← h.held, Option.isSome_map]
    exact hsome

/-- Two parses abreast shift alike. There is a case for a token that a recovery has made and one for
any other token. The one that is held back is the same in both, and the values that the slots are
given do not depend on their places. -/
theorem shift_abreast (indifferent : e.actions.Indifferent view) (count : Nat) (target : StateId)
    (h : ConfigsAbreast view q q' c c') :
    ExceptsAlike HaltsAlike (ConfigsAbreast view q q') (e.shift target c)
      ((e.withDiscardCount count).shift target c') := by
  obtain ⟨lexer, s⟩ := c
  obtain ⟨lexer', s'⟩ := c'
  obtain ⟨hlexer, hsession⟩ := h
  dsimp only at hlexer hsession
  unfold shift
  dsimp only
  cases hfirst : s.lookahead with
  | none =>
    rw [Token.bare_none hsession.lookahead hfirst]
    exact .error ⟨.failed, hsession.deeds⟩
  | some token =>
    obtain ⟨token', hsecond, hbare⟩ := Token.bare_some hsession.lookahead hfirst
    obtain ⟨hvalue, hview⟩ := indifferent.tokenValue hbare.symm hsession.view
    have hsymbol : token'.symbol = token.symbol := congrArg Prod.fst hbare
    have htext : token'.text = token.text := congrArg Prod.snd hbare
    rw [hsecond]
    dsimp only
    rw [hsession.not_lexed hfirst, hsession.symm.not_lexed hsecond]
    have hslot : Slot.bare ⟨token.symbol, target, (e.actions.tokenValue token s.user).1,
        token.location⟩ = Slot.bare ⟨token'.symbol, target,
          (e.actions.tokenValue token' s'.user).1, token'.location⟩ := by
      simp only [Slot.bare, hvalue, hsymbol]
    have hstack := congr (congrArg List.cons hslot) hsession.stack
    have hdeed : (Deed.shift token.symbol token.text : Deed V) =
        .shift token'.symbol token'.text := by rw [hsymbol, htext]
    have hdeeds := congr (congrArg List.cons hdeed) hsession.deeds
    refine .ok ⟨hlexer, ?_⟩
    dsimp only
    cases hbehind : s.held with
    | some held =>
      obtain ⟨held', hbehind', hbare'⟩ := Token.bare_some hsession.held hbehind
      rw [hbehind']
      have hproper := hsession.proper held hbehind
      exact {
        view := hview
        stack := hstack
        lookahead := congrArg some hbare'.symm
        held := rfl
        endHeight := hsession.endHeight
        deeds := hdeeds
        pace := hsession.pace
        proper := nofun
        guarded := fun ahead hmem hsymbol => by cases hmem; exact absurd hsymbol hproper }
    | none =>
      rw [Token.bare_none hsession.held hbehind]
      exact afterShift_abreast (e := e) count token token' {
        view := hview
        stack := hstack
        lookahead := rfl
        held := rfl
        endHeight := hsession.endHeight
        deeds := hdeeds
        pace := hsession.pace
        proper := nofun
        guarded := nofun }

/-! ## Reductions -/

/-- Stacks that differ in locations alone have the same states. -/
theorem topState?_of_bare {stack stack' : Stack V}
    (h : stack.map Slot.bare = stack'.map Slot.bare) : stack.topState? = stack'.topState? := by
  have htop : ∀ stack : Stack V, stack.topState? = (stack.map Slot.bare).head?.map (·.2.1) := by
    intro stack
    cases stack <;> rfl
  rw [htop, htop, h]

/-- Stacks that differ in locations alone have the same values. -/
theorem values_of_bare {stack stack' : Stack V} (h : stack.map Slot.bare = stack'.map Slot.bare) :
    stack.map (·.value) = stack'.map (·.value) := by
  have hvalues : ∀ stack : Stack V, stack.map (·.value) = (stack.map Slot.bare).map (·.2.2) := by
    intro stack
    rw [List.map_map]
    rfl
  rw [hvalues, hvalues, h]

/-- Stacks of sessions abreast have the same height. -/
theorem Abreast.height (h : Abreast view q q' s s') : s.stack.length = s'.stack.length := by
  have hlength := congrArg List.length h.stack
  rwa [List.length_map, List.length_map] at hlength

/-- The reductions of two sessions abreast have the same values. -/
theorem Abreast.values (h : Abreast view q q' s s') (number : ProductionId)
    (production : Production) :
    (reductionOf s number production).values = (reductionOf s' number production).values := by
  have htaken : (s.stack.take production.length).map (·.value) =
      (s'.stack.take production.length).map (·.value) :=
    values_of_bare (by rw [List.map_take, List.map_take, h.stack])
  simp only [Reduction.values, reductionOf, List.map_reverse, htaken]

/-- Two parses abreast go on alike below a left-hand side. -/
theorem goto_abreast (lhs : SymbolId) (value : V) (location location' : Location)
    (h : ConfigsAbreast view q q' c c') :
    ExceptsAlike HaltsAlike (ConfigsAbreast view q q') (e.goto lhs value location c)
      (e.goto lhs value location' c') := by
  obtain ⟨hlexer, hsession⟩ := h
  unfold goto
  rw [← topState?_of_bare hsession.stack]
  cases c.session.stack.topState? with
  | none => exact .error ⟨.failed, hsession.deeds⟩
  | some state =>
    dsimp only
    cases e.table.action state lhs with
    | goto target =>
      exact .ok ⟨hlexer, { hsession with stack := congrArg (List.cons _) hsession.stack }⟩
    | _ => exact .error ⟨.failed, hsession.deeds⟩

/-- Two parses abreast reduce alike. The actions see values, and no locations; so the yields are the
same, and the states below which the left-hand sides are put. -/
theorem reduce_abreast [Inhabited V] (indifferent : e.actions.Indifferent view)
    (number : ProductionId) (h : ConfigsAbreast view q q' c c') :
    ExceptsAlike HaltsAlike (ConfigsAbreast view q q') (e.reduce number c)
      (e.reduce number c') := by
  obtain ⟨hlexer, hsession⟩ := h
  unfold reduce
  rw [← hsession.height]
  cases e.table.production? number with
  | none => exact .error ⟨.failed, hsession.deeds⟩
  | some production =>
    dsimp only
    split
    · exact .error ⟨.failed, hsession.deeds⟩
    · have hvalues := hsession.values number production
      have hdeeds := congr (congrArg (fun values => List.cons (Deed.reduce number values)) hvalues)
        hsession.deeds
      obtain ⟨hyields, hview⟩ := indifferent.reduce (reductionOf c.session number production)
        (reductionOf c'.session number production) rfl rfl hvalues hsession.view
      dsimp only [Config.note, Config.update, Session.note]
      generalize e.actions.reduce (reductionOf c.session number production) _ = first
        at hyields hview ⊢
      generalize e.actions.reduce (reductionOf c'.session number production) _ = second
        at hyields hview ⊢
      obtain ⟨result, user⟩ := first
      obtain ⟨result', user'⟩ := second
      cases hyields with
      | error => exact .error ⟨.failed, hdeeds⟩
      | ok hvalue =>
        next yield yield' =>
        dsimp only at hvalue hview ⊢
        rw [hvalue, hvalues]
        refine goto_abreast production.lhs _ _ _ ?_
        have hreduced : Abreast view q q'
            { c.session with
              user
              stack := c.session.stack.drop production.length
              journal := .reduced c.session.stack (reductionOf c.session number production) ::
                c.session.journal }
            { c'.session with
              user := user'
              stack := c'.session.stack.drop production.length
              journal := .reduced c'.session.stack (reductionOf c'.session number production) ::
                c'.session.journal } :=
          { hsession with
            view := hview
            stack := by rw [List.map_drop, List.map_drop, hsession.stack]
            deeds := hdeeds }
        cases yield.remark <;> cases yield'.remark
        · exact ⟨hlexer, hreduced⟩
        · exact ⟨hlexer, hreduced.unmoved .refl (unmoved_note rfl)⟩
        · exact ⟨hlexer, hreduced.unmoved (unmoved_note rfl) .refl⟩
        · exact ⟨hlexer, hreduced.unmoved (unmoved_note rfl) (unmoved_note rfl)⟩

end

end Engine

end

end ShiftReduce
