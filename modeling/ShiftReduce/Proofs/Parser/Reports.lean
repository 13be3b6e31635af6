import ShiftReduce.Proofs.Lexer.Progress
import ShiftReduce.Proofs.Parser.Rearming
import ShiftReduce.Proofs.Parser.Reuse

/-!
# What a report says of a recovery

A report of an error says whether the parse can recover from it. At a token that does not fit this
is looked up on the stack: the error is recoverable if some state there can take an error
(`Engine.CanRecover`). A parse that is halted does not recover. At unrecognized input it is the
choice that the lexer was made with, whether it makes error tokens, and nobody looks at the stack.
So a recoverable error has a state to recover in unless it is a lexical one of a lexer that makes
error tokens; there it has one if the start state can take an error, since that state is at the
bottom of every stack (`Engine.recoverable_reports`).
-/

namespace ShiftReduce

/-! ## What a lexer asks its host -/

namespace Lexer

section
variable {τ ε φ : Type} {host : LexerHost τ ε φ} {lexer stuck : Lexer} {t t' : τ} {P : τ → Prop}
  {rules : LexerRules}

/-- Where no candidate is left, what is unrecognized is the input that the lexer is left with.
Reference: the loop over the candidates in `Lexer::scan`. -/
theorem tryAll_unrecognized {candidates : List Candidate} {info : Unrecognized}
    (h : tryAll host candidates lexer t = (.stuck info, stuck, t')) :
    info = stuck.unrecognized := by
  induction candidates generalizing lexer t with
  | nil =>
    unfold tryAll unmatched at h
    dsimp only at h
    split at h
    · cases h
    · obtain ⟨hscan, hleft⟩ := Prod.mk.inj h
      rw [← (Prod.mk.inj hleft).1]
      exact (Scan.stuck.inj hscan).symm
  | cons candidate others ih =>
    unfold tryAll at h
    split at h
    · cases h
    · cases h
    · cases h
    · split at h
      · exact ih h
      · cases h

/-- A scan is stuck on the input that it leaves. Reference: `Lexer::scan`. -/
theorem scan_unrecognized {info : Unrecognized} (h : lexer.scan host t = (.stuck info, stuck, t')) :
    info = stuck.unrecognized := by
  unfold scan at h
  split at h
  · cases h
  · exact tryAll_unrecognized h

/-- A property that the actions of rules and the notes keep is kept by the search for a token, if
the answers about what a lexer cannot recognize keep it; the rules of that lexer are the same where
the host leaves them alone. Reference: `Lexer::lex`. -/
theorem lex_keeps (keeps : host.Keeps P)
    (asked : ∀ (lexer : Lexer) (t : τ), (host.KeepsRules → lexer.rules = rules) → P t →
      P (host.stuck lexer.unrecognized lexer t).2.2)
    (limit : Nat) (governed : host.KeepsRules → lexer.rules = rules) (h : P t) :
    P (lexer.lex host limit t).2.2 := by
  induction limit generalizing lexer t with
  | zero => exact h
  | succ limit ih =>
    have hscanned := scan_keeps lexer keeps h
    have hrules : host.KeepsRules → (lexer.scan host t).2.1.rules = rules :=
      fun hkeeps => (scan_rules hkeeps lexer t).trans (governed hkeeps)
    unfold lex
    split
    · next heq => rw [heq] at hscanned; exact keeps.note _ _ hscanned
    · next heq => rw [heq] at hscanned; exact hscanned
    · next heq => rw [heq] at hscanned hrules; exact ih hrules hscanned
    · next info stuck t' heq =>
      rw [heq] at hscanned hrules
      obtain rfl := scan_unrecognized heq
      have hanswered : P (stuck.resolve host t' stuck.unrecognized).2.2 :=
        asked stuck _ hrules (keeps.note _ _ hscanned)
      have hresolved : host.KeepsRules →
          (stuck.resolve host t' stuck.unrecognized).2.1.rules = rules :=
        fun hkeeps => (resolve_rules hkeeps stuck t' _).trans (hrules hkeeps)
      split
      · next hanswer => rw [hanswer] at hanswered; exact hanswered
      · next hanswer => rw [hanswer] at hanswered hresolved; exact ih hresolved hanswered
      · next hanswer => rw [hanswer] at hanswered; exact hanswered

end

end Lexer

section
variable {σ V ε α β : Type}

namespace Engine

/-! ## The flag of a report -/

/-- Whether some state on a stack can take an error. Reference: `Parser::recovery_depth`. -/
def CanRecover (e : Engine σ V ε) (stack : Stack V) : Prop :=
  ∃ slot ∈ stack, e.table.action slot.state SymbolId.error ≠ .error

instance (e : Engine σ V ε) (stack : Stack V) : Decidable (e.CanRecover stack) :=
  inferInstanceAs (Decidable (∃ slot ∈ stack, _))

/-- A recovery finds a state exactly if there is one. -/
theorem recoveryDepth?_isSome (e : Engine σ V ε) (stack : Stack V) :
    (e.recoveryDepth? stack).isSome = true ↔ e.CanRecover stack := by
  unfold recoveryDepth? CanRecover
  rw [List.findIdx?_isSome, List.any_eq_true]
  simp only [bne_iff_ne]

/-- How a report comes to say that its error is recoverable: by the lexer's option, by the stack, or
never. Reference: `ErrorInfo::recoverable`. -/
structure FlaggedBy (e : Engine σ V ε) (rules : LexerRules) (info : ErrorInfo V) : Prop where
  lexical : info.kind = .lexical → e.lexerHost.KeepsRules →
    info.recoverable = rules.options.errorsRecoverable
  unexpected : ∀ excerpt, info.cause = .unexpected excerpt →
    (info.recoverable = true ↔ e.CanRecover info.stack)
  halted : info.cause = .haltedRecovering ∨ info.cause = .haltedNoRule → info.recoverable = false

/-- All reports of a journal are flagged in one of these ways. -/
def Flagged (e : Engine σ V ε) (rules : LexerRules) (journal : List (ParserEvent V)) : Prop :=
  ∀ info, .reported info ∈ journal → e.FlaggedBy rules info

/-- A parse whose reports are all flagged, with the rules of its lexer. -/
def Reports (e : Engine σ V ε) (rules : LexerRules) (c : Config σ V) : Prop :=
  (e.lexerHost.KeepsRules → c.lexer.rules = rules) ∧ e.Flagged rules c.session.journal

/-- A part of a parse leaves one whose reports are all flagged, whether it goes on or ends. -/
def LeavesReports (e : Engine σ V ε) (rules : LexerRules) (config : α → Config σ V) :
    Except (Halt σ V ε) α → Prop
  | .ok a => e.Reports rules (config a)
  | .error halt => e.Reports rules halt.config

variable {e : Engine σ V ε} {rules : LexerRules} {c : Config σ V} {s : Session σ V}
  {journal : List (ParserEvent V)} {info : ErrorInfo V}

/-- One part after the other leaves what the second one leaves. -/
theorem LeavesReports.bind {config : α → Config σ V} {config' : β → Config σ V}
    {x : Except (Halt σ V ε) α} {f : α → Except (Halt σ V ε) β} (h : e.LeavesReports rules config x)
    (next : ∀ a, e.Reports rules (config a) → e.LeavesReports rules config' (f a)) :
    e.LeavesReports rules config' (x.bind f) := by
  cases x with
  | ok a => exact next a h
  | error halt => exact h

/-- An error of the lexer is flagged with the lexer's choice. -/
theorem flaggedBy_ofUnrecognized {lexer : Lexer}
    (governed : e.lexerHost.KeepsRules → lexer.rules = rules) (stack : Stack V) : e.FlaggedBy rules (.ofUnrecognized e.table stack lexer.unrecognized) where
  lexical _ hkeeps := congrArg (·.options.errorsRecoverable) (governed hkeeps)
  unexpected _ := nofun
  halted := fun | .inl h => nomatch h | .inr h => nomatch h

/-- A token that does not fit is flagged with what is found on the stack. -/
theorem flaggedBy_unexpected (excerpt : String) (stack : Stack V) (state : StateId)
    (token : Token) :
    e.FlaggedBy rules (.ofToken e.table stack (.unexpected excerpt)
      (e.recoveryDepth? stack).isSome state token) where
  lexical := nofun
  unexpected _ _ := e.recoveryDepth?_isSome stack
  halted := fun | .inl h => nomatch h | .inr h => nomatch h

/-- A parse that is halted does not recover. -/
theorem flaggedBy_halted {cause : ErrorCause} (syntactic : cause.kind = .syntactic)
    (halting : ∀ excerpt, cause ≠ .unexpected excerpt) (stack : Stack V) (state : StateId)
    (token : Token) : e.FlaggedBy rules (.ofToken e.table stack cause false state token) where
  lexical hlexical := nomatch syntactic.symm.trans hlexical
  unexpected excerpt hcause := absurd hcause (halting excerpt)
  halted _ := rfl

/-- An event that is no report keeps the reports flagged. -/
theorem Flagged.cons (h : e.Flagged rules journal) (event : ParserEvent V)
    (other : ∀ info, event ≠ .reported info) : e.Flagged rules (event :: journal) := by
  intro info hmem
  rcases List.mem_cons.mp hmem with heq | hmem
  · exact absurd heq.symm (other info)
  · exact h info hmem

/-- A verdict is asked for with a report. Reference: `ParserDriver::parse_error`. -/
theorem Flagged.judge (h : e.Flagged rules s.journal) (flagged : e.FlaggedBy rules info) :
    e.Flagged rules (e.judge info s).2.journal := by
  obtain ⟨user, journal, hs, hj⟩ := e.judge_session info s
  rw [hs]
  intro info' hmem
  have hlandmark : .reported info' ∈ landmarks journal := List.mem_filter.mpr ⟨hmem, rfl⟩
  rw [hj] at hlandmark
  rcases List.mem_cons.mp hlandmark with heq | hearlier
  · cases heq; exact flagged
  · exact h info' (List.mem_filter.mp hearlier).1

namespace Reports

/-! ## Fetching and choosing -/

/-- The search for a token reports what the lexer cannot recognize. The flag of the report is the
lexer's option, whatever is on the stack. Reference: `Parser::fetch`. -/
theorem fetch (h : e.Reports rules c) : e.LeavesReports rules (·.2) (e.fetch c) := by
  have hkeeps : e.lexerHost.Keeps fun s => e.Flagged rules s.journal :=
    { note := fun event _ hs => hs.cons (.lexer event) fun _ => nofun
      action := fun _ _ _ hs => hs }
  have hasked : ∀ (lexer : Lexer) (s : Session σ V),
      (e.lexerHost.KeepsRules → lexer.rules = rules) → e.Flagged rules s.journal →
        e.Flagged rules (e.lexerHost.stuck lexer.unrecognized lexer s).2.2.journal := by
    intro lexer s hgoverned hs
    have hjudged := Flagged.judge
      (s := s.count fun stats => { stats with errors := stats.errors + 1 }) hs
      (flaggedBy_ofUnrecognized hgoverned s.stack)
    rw [lexerHost_stuck]
    unfold answerStuck
    dsimp only
    split <;> next heq => rw [heq] at hjudged; exact hjudged
  have hflagged := Lexer.lex_keeps hkeeps hasked e.scanLimit h.1 h.2
  have hrules : e.lexerHost.KeepsRules →
      (c.lexer.lex e.lexerHost e.scanLimit c.session).2.1.rules = rules :=
    fun hkeeps => (Lexer.lex_rules hkeeps e.scanLimit c.lexer c.session).trans (h.1 hkeeps)
  unfold Engine.fetch
  split <;> next heq =>
    rw [heq] at hflagged hrules
    first
    | exact ⟨hrules, hflagged⟩
    | exact ⟨hrules, hflagged.cons (.fetched _) fun _ => nofun⟩

theorem chooseAction (h : e.Reports rules c) (state : StateId) :
    e.LeavesReports rules (·.2) (e.chooseAction state c) := by
  unfold Engine.chooseAction
  split
  · exact h
  · split
    · exact h
    · exact h.fetch.bind fun _ hfetched => hfetched

/-! ## Shifts and reductions -/

/-- A remark keeps the reports. -/
theorem note (h : e.Reports rules c) (event : ParserEvent V)
    (other : ∀ info, event ≠ .reported info) : e.Reports rules (c.note event) := ⟨h.1, h.2.cons event other⟩

theorem shift (h : e.Reports rules c) (target : StateId) :
    e.LeavesReports rules id (e.shift target c) := by
  unfold Engine.shift
  dsimp only
  split
  · exact h
  · have hshifted := fun token synthetic => h.2.cons (.shifted token synthetic) fun _ => nofun
    split
    · exact ⟨h.1, hshifted _ _⟩
    · unfold afterShift
      dsimp only
      split
      · exact ⟨h.1, hshifted _ _⟩
      · split
        · exact ⟨h.1, (hshifted _ _).cons .recovered fun _ => nofun⟩
        · exact ⟨h.1, hshifted _ _⟩

theorem goto (h : e.Reports rules c) (lhs : SymbolId) (value : V) (location : Location) :
    e.LeavesReports rules id (e.goto lhs value location c) := by
  unfold Engine.goto
  split
  · exact h
  · split <;> exact h

theorem reduce [Inhabited V] (h : e.Reports rules c) (number : ProductionId) :
    e.LeavesReports rules id (e.reduce number c) := by
  unfold Engine.reduce
  split
  · exact h
  · dsimp only
    split
    · exact h
    · have hreduced := fun stack reduction => h.2.cons (.reduced stack reduction) fun _ => nofun
      split
      · exact ⟨h.1, hreduced _ _⟩
      · refine goto ?_ _ _ _
        split
        · exact ⟨h.1, (hreduced _ _).cons (.remarked _) fun _ => nofun⟩
        · exact ⟨h.1, hreduced _ _⟩

/-! ## Recovery -/

/-- A parse is halted with a report that it does not recover. Reference: `Parser::halt`. -/
theorem halt (h : e.Reports rules c) (cause : ErrorCause) (syntactic : cause.kind = .syntactic)
    (halting : ∀ excerpt, cause ≠ .unexpected excerpt) (state : StateId) (token : Token) :
    e.Reports rules (e.halt cause state token c).config := by
  have hjudged := Flagged.judge
    (s := (c.session.count fun stats => { stats with errors := stats.errors + 1 }).note
      (.halted (.ofToken e.table c.session.stack cause false state token)))
    (h.2.cons (.halted _) fun _ => nofun)
    (flaggedBy_halted syntactic halting c.session.stack state token)
  unfold Engine.halt
  dsimp only
  split <;> next heq => rw [heq] at hjudged; exact ⟨h.1, hjudged⟩

/-- A token that does not fit is reported with what is found on the stack. Reference:
`Parser::recover`. -/
theorem reportToken (h : e.Reports rules c) (state : StateId) (token : Token) :
    e.LeavesReports rules id (e.reportToken state (e.recoveryDepth? c.session.stack) token c) := by
  unfold Engine.reportToken
  split
  · exact h
  · have hjudged := Flagged.judge
      (s := (c.session.count fun stats => { stats with errors := stats.errors + 1 }).note
        (.detected state (e.recoveryDepth? c.session.stack)))
      (h.2.cons (.detected _ _) fun _ => nofun)
      (flaggedBy_unexpected c.lexer.showPosition c.session.stack state token)
    dsimp only
    split
    · next heq => rw [heq] at hjudged; exact ⟨h.1, hjudged⟩
    · next heq => rw [heq] at hjudged; exact ⟨h.1, hjudged⟩
    · next heq =>
      rw [heq] at hjudged
      split <;> exact ⟨h.1, hjudged⟩

theorem discardToken (h : e.Reports rules c) (state : StateId) (token : Token) :
    e.LeavesReports rules (·.2) (e.discardToken state token c) := by
  unfold Engine.discardToken
  split
  · exact h.halt .haltedRecovering rfl nofun state token
  · exact fetch ⟨h.1, h.2.cons (.discarded token) fun _ => nofun⟩

theorem checkHeight (h : e.Reports rules c) (state : StateId) (token : Token) (height : Nat) :
    e.LeavesReports rules id (e.checkHeight state token height c) := by
  unfold Engine.checkHeight
  split
  · exact h
  · split
    · exact h.halt .haltedRecovering rfl nofun state token
    · exact h

theorem takeOffending (h : e.Reports rules c) :
    e.LeavesReports rules (·.2) (Engine.takeOffending c) := by
  unfold Engine.takeOffending
  split
  · exact h
  · dsimp only
    split <;> exact h

theorem settle (h : e.Reports rules c) (state : StateId) :
    e.LeavesReports rules (·.2) (e.settle state c) := by
  refine h.takeOffending.bind fun ⟨token, c⟩ htaken => ?_
  dsimp only
  split
  · have hreported := htaken.reportToken state token
    cases hreport : e.reportToken state (e.recoveryDepth? c.session.stack) token c with
    | ok c' => rw [hreport] at hreported; exact hreported
    | error halt => rw [hreport] at hreported; exact hreported
  · split
    · exact htaken.discardToken state token
    · exact htaken

theorem retry (h : e.Reports rules c) (state : StateId) (depth : Option Nat) (token : Token) :
    e.LeavesReports rules id (e.retry state depth token c) := by
  cases depth with
  | none => exact h.halt .haltedNoRule rfl nofun state token
  | some depth =>
    exact (h.checkHeight state token _).bind fun _ hchecked =>
      ⟨hchecked.1, hchecked.2.cons (.resumed token _) fun _ => nofun⟩

theorem recover (h : e.Reports rules c) (state : StateId) :
    e.LeavesReports rules id (e.recover state c) := by
  rw [recover_eq]
  exact (h.settle state).bind fun settled hsettled => hsettled.retry state _ settled.1

/-! ## Runs -/

section
variable [Inhabited V]

theorem perform (h : e.Reports rules c) (state : StateId) (action : Action) :
    e.LeavesReports rules id (e.perform state c action) := by
  cases action with
  | shift target => exact (h.note (.shifting target) fun _ => nofun).shift target
  | reduce number => exact (h.note (.reducing number) fun _ => nofun).reduce number
  | accept =>
    unfold Engine.perform
    dsimp only
    split <;> exact h.note .accepting fun _ => nofun
  | error => exact h.recover state
  | ambiguous number => exact h
  | goto target => exact h

/-- A step reports what is flagged. Reference: one round of `Parser::run`. -/
theorem step (h : e.Reports rules c) : e.LeavesReports rules id (e.step c) := by
  unfold Engine.step
  split
  · exact h
  · next state _ =>
    split
    · refine (h.chooseAction state).bind fun chosen hchosen => ?_
      exact (hchosen.note (.atState _ _) fun _ => nofun).perform state chosen.1
    · exact h

/-- All reports of a run are flagged. Reference: `Parser::run`. -/
theorem run (h : e.Reports rules c) (fuel : Nat) : e.Reports rules (e.run fuel c).config := by
  induction fuel generalizing c with
  | zero => exact h
  | succ fuel ih =>
    have hstep := h.step
    unfold Engine.run
    cases hnext : e.step c with
    | ok c' => rw [hnext] at hstep; exact ih hstep
    | error halt => rw [hnext] at hstep; exact hstep

end

end Reports

/-! ## Reports on a path -/

/-- An error that a journal reports. -/
theorem reported_of_mem_reports {past : List (ParserEvent V)} (h : (info, past) ∈ reports journal) :
    .reported info ∈ journal := by
  induction journal with
  | nil => cases h
  | cons event earlier ih =>
    cases event with
    | reported info' =>
      rcases List.mem_cons.mp h with heq | hearlier
      · cases heq
        exact List.mem_cons_self
      · exact List.mem_cons_of_mem _ (ih hearlier)
    | _ => exact List.mem_cons_of_mem _ (ih h)

/-- The start state is at the bottom of every path. -/
theorem start_mem_path {table : Table} {stack : Stack V} (h : IsPath table stack) :
    ∃ slot ∈ stack, slot.state = 0 := by
  induction h with
  | bottom => exact ⟨_, List.mem_cons_self, rfl⟩
  | enter _ _ ih =>
    obtain ⟨slot, hslot, hstate⟩ := ih
    exact ⟨slot, List.mem_cons_of_mem _ hslot, hstate⟩

section
variable [Inhabited V]

/-- The errors of a parse are reported on paths. -/
theorem reported_onPath {fuel : Nat} {input : String}
    (h : .reported info ∈ (e.run fuel (c.reset input)).config.session.journal) :
    IsPath e.table info.stack := by
  obtain ⟨s, hmoves, hends⟩ := e.run_ends fuel (c.reset input)
  have hpath : s.OnPath e.table := hmoves.onPath (onPath_reset c input)
  exact (hends.onPath hpath _ (List.mem_filter.mpr ⟨h, rfl⟩)).1

/-- A recoverable error has a state on the stack that can take an error, unless it is a lexical one:
the errors of a lexer are recoverable if it makes error tokens. An unexpected token is recoverable
exactly if there is such a state. If the lexer makes no error tokens, or if the start state can take
an error, every recoverable error has such a state. Reference: `ErrorInfo::recoverable`. -/
theorem recoverable_reports (e : Engine σ V ε) (fuel : Nat) (input : String) (c : Config σ V)
    (info : ErrorInfo V)
    (reported : .reported info ∈ (e.run fuel (c.reset input)).config.session.events) :
    (info.recoverable = true → e.CanRecover info.stack ∨ info.kind = .lexical) ∧
    (∀ excerpt, info.cause = .unexpected excerpt →
      (info.recoverable = true ↔ e.CanRecover info.stack)) ∧
    (info.kind = .lexical → e.lexerHost.KeepsRules →
      info.recoverable = c.lexer.options.errorsRecoverable) ∧
    (e.lexerHost.KeepsRules ∧ c.lexer.options.errorsRecoverable = false ∨
        e.table.action 0 SymbolId.error ≠ .error →
      info.recoverable = true → e.CanRecover info.stack) := by
  have hjournal : .reported info ∈ (e.run fuel (c.reset input)).config.session.journal :=
    List.mem_reverse.mp reported
  have hstart : e.Reports c.lexer.rules (c.reset input) := ⟨fun _ => rfl, nofun⟩
  obtain ⟨hlexical, hunexpected, hhalted⟩ := (hstart.run fuel).2 info hjournal
  have hsyntactic : info.recoverable = true → e.CanRecover info.stack ∨ info.kind = .lexical := by
    intro hrecoverable
    cases hcause : info.cause with
    | unrecognized excerpt =>
      refine .inr ?_
      unfold ErrorInfo.kind
      rw [hcause]
      rfl
    | unexpected excerpt => exact .inl ((hunexpected excerpt hcause).mp hrecoverable)
    | haltedRecovering => exact absurd hrecoverable (by rw [hhalted (.inl hcause)]; nofun)
    | haltedNoRule => exact absurd hrecoverable (by rw [hhalted (.inr hcause)]; nofun)
  refine ⟨hsyntactic, hunexpected, hlexical, ?_⟩
  rintro (⟨hkeeps, hstrict⟩ | hentry) hrecoverable
  · refine (hsyntactic hrecoverable).resolve_right fun hkind => ?_
    rw [hlexical hkind hkeeps] at hrecoverable
    exact absurd (hrecoverable.symm.trans hstrict) nofun
  · obtain ⟨slot, hslot, hstate⟩ := start_mem_path (reported_onPath hjournal)
    exact ⟨slot, hslot, hstate ▸ hentry⟩

end

end Engine

end

/-! ## Errors that can be recovered from, and one that cannot -/

namespace Calculator

/-- Of three lines the first has unrecognized text, and the last one number too many: both errors
are recoverable, and there is a state to recover in, since the start state can take an error. -/
theorem errors_of_three_lines :
    let parsed := (tolerant.engine 10).run (stepLimit 10) (tolerant.config.reset "#; 1; 2 3;")
    let reported := reports parsed.config.session.journal
    reported.map (fun report => (report.1.kind, report.1.recoverable)) =
      [(.syntactic, true), (.lexical, true)] ∧
    ∀ report ∈ reported, (tolerant.engine 10).CanRecover report.1.stack := by
  intro parsed reported
  have hflags : ∀ report ∈ reported, report.1.recoverable = true := by decide +kernel
  have hentry : (tolerant.engine 10).table.action 0 SymbolId.error ≠ .error := by decide +kernel
  refine ⟨by decide +kernel, fun report hreport => ?_⟩
  have hevent := List.mem_reverse.mpr (Engine.reported_of_mem_reports hreport)
  exact (Engine.recoverable_reports (tolerant.engine 10) (stepLimit 10) "#; 1; 2 3;" tolerant.config
    report.1 hevent).2.2.2 (.inr hentry) (hflags report hreport)

end Calculator

namespace Unprepared

/-- The production `line -> NUM`, and no entry for an error. -/
def table : Table :=
  (Table.build
    [.terminal "NUM", .nonterminal "line", .production "line" 1,
     .shift 0 "NUM" 2, .goto 0 "line" 1, .accept 1, .defaultReduce 2 1]).toOption.get
    (by decide +kernel)

/-- Numbers. The lexer makes error tokens. -/
def rules : LexerRules :=
  (LexerRules.build { errorsRecoverable := true } [.rule [] "[0-9]+"]).toOption.get
    (by decide +kernel)

/-- A parser that builds nothing. -/
def engine : Engine Unit Unit Empty where
  table := table
  actions :=
    { rule := fun _ lexer user => (.ok (some 3), lexer, user)
      tokenValue := fun _ user => ((), user)
      reduce := fun _ user => (.ok {}, user)
      judge := fun _ user => (none, user) }
  scanLimit := 9

/-- The parser before its first input. -/
def config : Config Unit Unit := ⟨Lexer.new rules, { user := () }⟩

/-- Unrecognized text is reported as recoverable where no state can take an error, and the parse is
then halted at the error token. Reference: `ErrorInfo::from_lex`. -/
theorem error_is_not_recovered :
    let parsed := engine.run 99 (config.reset "#")
    (∃ info, .reported info ∈ parsed.config.session.events ∧ info.kind = .lexical ∧
      info.recoverable = true ∧ ¬ engine.CanRecover info.stack) ∧
    ∃ info, .reported info ∈ parsed.config.session.events ∧ info.cause = .haltedNoRule := by
  intro parsed
  have hlexical : ∃ report ∈ reports parsed.config.session.journal, report.1.kind = .lexical ∧
      report.1.recoverable = true ∧ ¬ engine.CanRecover report.1.stack := by
    decide +kernel
  have hhalted : ∃ report ∈ reports parsed.config.session.journal,
      report.1.cause = .haltedNoRule := by
    decide +kernel
  obtain ⟨report, hreport, hflag⟩ := hlexical
  obtain ⟨last, hlast, hcause⟩ := hhalted
  exact ⟨⟨report.1, List.mem_reverse.mpr (Engine.reported_of_mem_reports hreport), hflag⟩,
    last.1, List.mem_reverse.mpr (Engine.reported_of_mem_reports hlast), hcause⟩

end Unprepared

end ShiftReduce
