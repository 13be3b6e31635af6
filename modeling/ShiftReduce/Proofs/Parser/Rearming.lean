import ShiftReduce.Proofs.Calculator.Construction
import ShiftReduce.Proofs.Parser.Path

/-!
# How long a parser is silent about errors

After an error a parser says nothing of further unexpected tokens until it is over it: a number of
tokens must be shifted first. The number that is left can be read off the journal (`shiftsLeft`), and it
is the one that the session keeps (`Session.Silent`). Between the report of an unexpected token that can
be recovered from and any report before it, that many tokens were shifted
(`Engine.reports_are_rearmed`). Error tokens of the lexer's own count among them, and a lexical error
does not start the count anew while the parser recovers; so fewer of them may stand for sound input.

That an error token of the lexer's counts among the tokens that are awaited is at odds with what the
count is for, and it depends on the stack: where the token is shifted at once it starts the count,
and where slots have to be popped for it the recovery does, and then the token is the first that is
counted (`Calculator.report_after_two_tokens`).
-/

namespace ShiftReduce

/-! ## Silence in a journal -/

section
variable {V : Type}

/-- How many tokens are to be shifted before the parser is over the last error. A recovery sets the
number, and so does an error token of the lexer's own where the parser was not recovering; any other
token of the lexer's own makes it smaller. -/
def shiftsLeft (quiet : Nat) : List (ParserEvent V) → Nat
  | [] => 0
  | .resumed _ _ :: _ => quiet
  | .shifted token false :: past =>
    if token.symbol = SymbolId.error ∧ shiftsLeft quiet past = 0 then quiet
    else shiftsLeft quiet past - 1
  | _ :: past => shiftsLeft quiet past

/-- How many tokens of the lexer's own were shifted, but for error tokens that set the number of those
to be shifted. -/
def countedShifts (quiet : Nat) : List (ParserEvent V) → Nat
  | [] => 0
  | .shifted token false :: past =>
    if token.symbol = SymbolId.error ∧ shiftsLeft quiet past = 0 then countedShifts quiet past
    else countedShifts quiet past + 1
  | _ :: past => countedShifts quiet past

/-- The errors that were reported, each with the journal before it; last one first. -/
def reports : List (ParserEvent V) → List (ErrorInfo V × List (ParserEvent V))
  | [] => []
  | .reported info :: past => (info, past) :: reports past
  | _ :: past => reports past

/-- How many tokens are shifted after an error before the next one is reported. A lexical error leaves
the number as it is while the parser recovers. -/
def silenceAfter (quiet : Nat) (past : List (ParserEvent V)) (info : ErrorInfo V) : Nat :=
  if info.kind = .lexical ∧ shiftsLeft quiet past ≠ 0 then shiftsLeft quiet past else quiet

theorem silenceAfter_syntactic {quiet : Nat} {past : List (ParserEvent V)} {info : ErrorInfo V}
    (h : info.kind = .syntactic) : silenceAfter quiet past info = quiet := by
  unfold silenceAfter
  rw [if_neg]
  rintro ⟨hlexical, -⟩
  rw [h] at hlexical
  cases hlexical

/-- Whenever a syntax error is reported that the parser can recover from, enough tokens were shifted
since any report before it. -/
def Rearmed (quiet : Nat) (events : List (ParserEvent V)) : Prop :=
  ∀ second later, (second, later) ∈ reports events → second.kind = .syntactic →
    second.recoverable = true → ∀ first past, (first, past) ∈ reports later →
      countedShifts quiet past + silenceAfter quiet past first ≤ countedShifts quiet later

theorem shiftsLeft_landmarks (quiet : Nat) (journal : List (ParserEvent V)) :
    shiftsLeft quiet (landmarks journal) = shiftsLeft quiet journal := by
  induction journal with
  | nil => rfl
  | cons event past ih =>
    cases event with
    | shifted token synthetic =>
      cases synthetic with
      | true => exact ih
      | false =>
        show (if token.symbol = SymbolId.error ∧ shiftsLeft quiet (landmarks past) = 0 then quiet
          else shiftsLeft quiet (landmarks past) - 1) = _
        rw [ih]
        rfl
    | resumed token height => rfl
    | _ => exact ih

theorem countedShifts_landmarks (quiet : Nat) (journal : List (ParserEvent V)) :
    countedShifts quiet (landmarks journal) = countedShifts quiet journal := by
  induction journal with
  | nil => rfl
  | cons event past ih =>
    cases event with
    | shifted token synthetic =>
      cases synthetic with
      | true => exact ih
      | false =>
        show (if token.symbol = SymbolId.error ∧ shiftsLeft quiet (landmarks past) = 0 then
          countedShifts quiet (landmarks past) else countedShifts quiet (landmarks past) + 1) = _
        rw [ih, shiftsLeft_landmarks]
        rfl
    | _ => exact ih

/-- A report is found among the landmarks with those before it. -/
theorem mem_reports_landmarks {journal past : List (ParserEvent V)} {info : ErrorInfo V}
    (h : (info, past) ∈ reports journal) : (info, landmarks past) ∈ reports (landmarks journal) := by
  induction journal with
  | nil => cases h
  | cons event rest ih =>
    cases event with
    | reported info' =>
      rcases List.mem_cons.mp h with heq | hrest
      · cases heq
        exact List.mem_cons_self
      · exact List.mem_cons_of_mem _ (ih hrest)
    | _ => exact ih h

/-- A journal is rearmed if its landmarks are. -/
theorem Rearmed.of_landmarks {quiet : Nat} {journal : List (ParserEvent V)}
    (h : Rearmed quiet (landmarks journal)) : Rearmed quiet journal := by
  intro second later hsecond hkind hrecoverable first past hfirst
  have hbound := h second (landmarks later) (mem_reports_landmarks hsecond) hkind hrecoverable
    first (landmarks past) (mem_reports_landmarks hfirst)
  unfold silenceAfter at hbound ⊢
  rw [countedShifts_landmarks, countedShifts_landmarks, shiftsLeft_landmarks] at hbound
  exact hbound

/-- A report keeps the journal rearmed if enough tokens were shifted since those before it. -/
theorem Rearmed.report {quiet : Nat} {events : List (ParserEvent V)} {info : ErrorInfo V}
    (h : Rearmed quiet events)
    (new : info.kind = .syntactic → info.recoverable = true →
      ∀ first past, (first, past) ∈ reports events →
        countedShifts quiet past + silenceAfter quiet past first ≤ countedShifts quiet events) :
    Rearmed quiet (.reported info :: events) := by
  intro second later hsecond
  rcases List.mem_cons.mp hsecond with heq | hold
  · cases heq
    exact new
  · exact h second later hold

end

/-! ## Silence in a session -/

section
variable {σ V ε : Type} {e : Engine σ V ε} {s s' : Session σ V}

/-- How a number of counted shifts will be reached before the next report: it was reached; the parser
recovers, and has enough tokens to shift; or a recovery comes next, because an error token of the
lexer's own is ahead. -/
inductive Session.Awaits (quiet : Nat) (s : Session σ V) (due : Nat) : Prop
  | reached (enough : due ≤ countedShifts quiet (landmarks s.journal))
  | recovering (begun : 0 < s.recovering)
      (left : due ≤ countedShifts quiet (landmarks s.journal) + s.recovering)
  | lexical {token : Token} (free : s.recovering = 0) (ahead : s.lookahead = some token)
      (symbol : token.symbol = SymbolId.error) (own : s.held = none)
      (left : due ≤ countedShifts quiet (landmarks s.journal) + quiet)

/-- The invariant of a parse: the session keeps the number of tokens to be shifted as the journal has
it, and after every report enough tokens were shifted or will be. -/
structure Session.Silent (quiet : Nat) (s : Session σ V) : Prop where
  left : s.recovering = shiftsLeft quiet (landmarks s.journal)
  bounded : s.recovering ≤ quiet
  awaits (info : ErrorInfo V) (past : List (ParserEvent V)) :
    (info, past) ∈ reports (landmarks s.journal) →
      s.Awaits quiet (countedShifts quiet past + silenceAfter quiet past info)
  rearmed : Rearmed quiet (landmarks s.journal)

/-- What is awaited stays so where the parser is as far as before, and no error token that was ahead is
gone. -/
theorem Session.Awaits.transfer {quiet due : Nat} (h : s.Awaits quiet due)
    (shifts : countedShifts quiet (landmarks s'.journal) =
      countedShifts quiet (landmarks s.journal))
    (recovering : s'.recovering = s.recovering)
    (ahead : s.held = none → ∀ token, s.lookahead = some token →
      s'.lookahead = some token ∧ s'.held = none) : s'.Awaits quiet due := by
  cases h with
  | reached henough => exact .reached (by rw [shifts]; exact henough)
  | recovering hbegun hleft =>
    exact .recovering (by rw [recovering]; exact hbegun) (by rw [shifts, recovering]; exact hleft)
  | lexical hfree hahead hsymbol hown hleft =>
    obtain ⟨hahead', hown'⟩ := ahead hown _ hahead
    exact .lexical (recovering.trans hfree) hahead' hsymbol hown' (by rw [shifts]; exact hleft)

/-- What is awaited stays so where a recovery is begun anew. -/
theorem Session.Awaits.renew {quiet due : Nat} (h : s.Awaits quiet due) (pos : 0 < quiet)
    (bounded : s.recovering ≤ quiet)
    (shifts : countedShifts quiet (landmarks s'.journal) =
      countedShifts quiet (landmarks s.journal))
    (full : s'.recovering = quiet) : s'.Awaits quiet due := by
  have hrecovering (left : due ≤ countedShifts quiet (landmarks s.journal) + quiet) :
      s'.Awaits quiet due :=
    .recovering (by rw [full]; exact pos) (by rw [shifts, full]; exact left)
  cases h with
  | reached henough => exact .reached (by rw [shifts]; exact henough)
  | recovering _ hleft => exact hrecovering (by omega)
  | lexical _ _ _ _ hleft => exact hrecovering hleft

namespace Engine

/-- A look ahead leaves the silence as it is; behind a lexical error a recovery is under way or comes
next. -/
theorem Looks.silent (h : Looks e s s') (path : s.OnPath e.table)
    (hs : s.Silent e.quietCount) : s'.Silent e.quietCount := by
  cases h with
  | @mk token t habsent hfetch =>
    have hheld := held_of_absent path habsent
    have hahead : ∀ {t' : Session σ V}, s.held = none → ∀ token, s.lookahead = some token →
        t'.lookahead = some token ∧ t'.held = none := by
      intro _ _ token hahead
      rw [habsent] at hahead
      cases hahead
    cases hfetch with
    | read hnew =>
      refine ⟨by rw [hnew]; exact hs.left, hs.bounded, ?_, by rw [hnew]; exact hs.rearmed⟩
      intro info past hmem
      rw [hnew] at hmem
      exact (hs.awaits info past hmem).transfer (by rw [hnew]; rfl) rfl hahead
    | @stuck _ _ info hrec hsymbol hnew =>
      refine ⟨by rw [hnew]; exact hs.left, hs.bounded, ?_, ?_⟩
      · intro info' past hmem
        rw [hnew] at hmem
        rcases List.mem_cons.mp hmem with heq | hmem
        · cases heq
          unfold silenceAfter
          rw [← hs.left]
          by_cases hover : s.recovering = 0
          · rw [if_neg fun h => h.2 hover]
            exact .lexical hover rfl hsymbol hheld (by rw [hnew]; exact Nat.le_refl _)
          · rw [if_pos ⟨rfl, hover⟩]
            exact .recovering (Nat.pos_of_ne_zero hover) (by rw [hnew]; exact Nat.le_refl _)
        · exact (hs.awaits info' past hmem).transfer (by rw [hnew]; rfl) rfl hahead
      · rw [hnew]
        exact hs.rearmed.report nofun

/-- A shift counts for what is awaited, or begins a recovery. An error token of the lexer's own
begins a recovery only where none is under way. Where one is, it is counted like any other token:
such a token is part of the error, and yet it brings the next report nearer. -/
theorem Shifts.silent (h : Shifts e s s') (hs : s.Silent e.quietCount) :
    s'.Silent e.quietCount := by
  cases h with
  | @plain _ _ token _ _ _ _ hahead hown hcounted _ hnew =>
    have hfalse : ¬(token.symbol = SymbolId.error ∧
        shiftsLeft e.quietCount (landmarks s.journal) = 0) := by
      rw [← hs.left]
      exact fun h => hcounted h.1 h.2
    have hleft : shiftsLeft e.quietCount (.shifted token false :: landmarks s.journal) =
        shiftsLeft e.quietCount (landmarks s.journal) - 1 := if_neg hfalse
    have hshifts : countedShifts e.quietCount (.shifted token false :: landmarks s.journal) =
        countedShifts e.quietCount (landmarks s.journal) + 1 := if_neg hfalse
    refine ⟨by rw [hnew, hleft, hs.left], Nat.le_trans (Nat.sub_le _ _) hs.bounded, ?_,
      by rw [hnew]; exact hs.rearmed⟩
    intro info past hmem
    rw [hnew] at hmem
    cases hs.awaits info past hmem with
    | reached henough => exact .reached (by rw [hnew, hshifts]; omega)
    | recovering hbegun henough =>
      by_cases hlast : s.recovering = 1
      · exact .reached (by rw [hnew, hshifts]; omega)
      · exact .recovering (by dsimp only; omega) (by rw [hnew, hshifts]; dsimp only; omega)
    | lexical hfree hahead' hsymbol _ _ =>
      rw [hahead] at hahead'
      cases hahead'
      exact absurd hfree (hcounted hsymbol)
  | @lexed _ _ token _ _ _ _ _ _ hsymbol hfree _ hnew =>
    have htrue : token.symbol = SymbolId.error ∧
        shiftsLeft e.quietCount (landmarks s.journal) = 0 := ⟨hsymbol, hs.left ▸ hfree⟩
    have hleft : shiftsLeft e.quietCount (.shifted token false :: landmarks s.journal) =
        e.quietCount := if_pos htrue
    have hshifts : countedShifts e.quietCount (.shifted token false :: landmarks s.journal) =
        countedShifts e.quietCount (landmarks s.journal) := if_pos htrue
    refine ⟨by rw [hnew, hleft], Nat.le_refl _, ?_, by rw [hnew]; exact hs.rearmed⟩
    intro info past hmem
    rw [hnew] at hmem
    exact (hs.awaits info past hmem).renew e.quietCount_pos hs.bounded (by rw [hnew, hshifts]) rfl
  | synthetic _ _ hbehind _ hnew =>
    refine ⟨by rw [hnew]; exact hs.left, hs.bounded, ?_, by rw [hnew]; exact hs.rearmed⟩
    intro info past hmem
    rw [hnew] at hmem
    refine (hs.awaits info past hmem).transfer (by rw [hnew]; rfl) rfl ?_
    intro hown
    rw [hbehind] at hown
    cases hown

/-- A reduction leaves the silence as it is. -/
theorem Reduces.silent [Inhabited V] (h : Reduces e s s') (hs : s.Silent e.quietCount) :
    s'.Silent e.quietCount := by
  cases h with
  | mk _ _ _ _ _ _ hnew =>
    refine ⟨by rw [hnew]; exact hs.left, hs.bounded, ?_, by rw [hnew]; exact hs.rearmed⟩
    intro info past hmem
    rw [hnew] at hmem
    exact (hs.awaits info past hmem).transfer (by rw [hnew]; rfl) rfl
      fun hown token hahead => ⟨hahead, hown⟩

/-- A token is thrown away only where a recovery has just begun. -/
theorem Discards.silent (h : Discards e s s') (hs : s.Silent e.quietCount) :
    s'.Silent e.quietCount := by
  cases h with
  | mk _ _ hfull _ hnew =>
    refine ⟨by rw [hnew]; exact hs.left, hs.bounded, ?_, by rw [hnew]; exact hs.rearmed⟩
    intro info past hmem
    rw [hnew] at hmem
    exact (hs.awaits info past hmem).renew e.quietCount_pos hs.bounded (by rw [hnew]; rfl) hfull

/-- A session that is over the last error and has no error token at fault awaits nothing more. -/
theorem enough_of_plain {token : Token} {due : Nat} (h : s.Awaits e.quietCount due)
    (offending : s.offending? = some token) (free : s.recovering = 0)
    (plain : token.symbol ≠ SymbolId.error) :
    due ≤ countedShifts e.quietCount (landmarks s.journal) := by
  cases h with
  | reached henough => exact henough
  | recovering hbegun _ => omega
  | lexical _ hahead hsymbol hown _ =>
    unfold Session.offending? at offending
    rw [hahead, hown, Option.map_some, Option.getD_none, ite_self] at offending
    cases offending
    exact absurd hsymbol plain

/-- A report of an unexpected token keeps the journal rearmed. -/
theorem rearmed_of_unexpected {state : StateId} {token : Token} {excerpt : String}
    {recoverable : Bool} (hs : s.Silent e.quietCount) (offending : s.offending? = some token)
    (free : s.recovering = 0) (plain : token.symbol ≠ SymbolId.error) :
    Rearmed e.quietCount
      (.reported (.ofToken e.table s.stack (.unexpected excerpt) recoverable state token) ::
        landmarks s.journal) :=
  hs.rearmed.report fun _ _ first past hmem =>
    enough_of_plain (hs.awaits first past hmem) offending free plain

/-- What comes before a recovery keeps the journal rearmed, and what is awaited behind it will be
reached once the recovery has begun. -/
theorem Settles.rearmed {token : Token} (h : Settles e s token s')
    (offending : s.offending? = some token) (hs : s.Silent e.quietCount) :
    Rearmed e.quietCount (landmarks s'.journal) ∧
      countedShifts e.quietCount (landmarks s'.journal) =
        countedShifts e.quietCount (landmarks s.journal) ∧
      ∀ info past, (info, past) ∈ reports (landmarks s'.journal) →
        s.Awaits e.quietCount (countedShifts e.quietCount past +
          silenceAfter e.quietCount past info) ∨
        countedShifts e.quietCount past + silenceAfter e.quietCount past info ≤
          countedShifts e.quietCount (landmarks s.journal) + e.quietCount := by
  cases h with
  | silent _ _ _ hnew =>
    rw [hnew]
    exact ⟨hs.rearmed, rfl, fun info past hmem => .inl (hs.awaits info past hmem)⟩
  | refetched _ _ =>
    exact ⟨hs.rearmed, rfl, fun info past hmem => .inl (hs.awaits info past hmem)⟩
  | reported _ hfree hplain hnew =>
    rw [hnew]
    refine ⟨rearmed_of_unexpected hs offending hfree hplain, rfl, ?_⟩
    intro info past hmem
    rcases List.mem_cons.mp hmem with heq | hmem
    · cases heq
      exact .inr (Nat.le_of_eq (by rw [silenceAfter_syntactic rfl]))
    · exact .inl (hs.awaits info past hmem)

/-- A recovery begins the silence anew. -/
theorem Resumes.silent (h : Resumes e s s') (hs : s.Silent e.quietCount) :
    s'.Silent e.quietCount := by
  cases h with
  | @mk token depth s₁ hoff hsettled _ _ =>
    obtain ⟨hrearmed, hshifts, hreports⟩ := hsettled.rearmed hoff hs
    have hcounted : countedShifts e.quietCount
        (landmarks (e.resumption depth token s₁).journal) =
          countedShifts e.quietCount (landmarks s.journal) := by
      rw [landmarks_resumption, ← hshifts]
      rfl
    refine ⟨by rw [landmarks_resumption]; rfl, Nat.le_refl _, ?_,
      by rw [landmarks_resumption]; exact hrearmed⟩
    intro info past hmem
    rw [landmarks_resumption] at hmem
    rcases hreports info past hmem with hawaits | hleft
    · exact hawaits.renew e.quietCount_pos hs.bounded hcounted rfl
    · refine .recovering e.quietCount_pos ?_
      rw [hcounted, resumption_recovering]
      exact hleft

/-- Every move keeps the invariant. -/
theorem Move.silent [Inhabited V] (h : Move e s s') (path : s.OnPath e.table)
    (hs : s.Silent e.quietCount) : s'.Silent e.quietCount := by
  cases h with
  | remark hnew =>
    refine ⟨by rw [hnew]; exact hs.left, hs.bounded, ?_, by rw [hnew]; exact hs.rearmed⟩
    intro info past hmem
    rw [hnew] at hmem
    exact (hs.awaits info past hmem).transfer (by rw [hnew]) rfl
      fun hown token hahead => ⟨hahead, hown⟩
  | look h => exact h.silent path hs
  | shift h => exact h.silent hs
  | reduce h => exact h.silent hs
  | discard h => exact h.silent hs
  | resume h => exact h.silent hs

/-- What the last step of a parse reports keeps the journal rearmed; a halt is nothing to recover
from. -/
theorem Ends.rearmed {events : List (ParserEvent V)} (h : Ends e s events)
    (hs : s.Silent e.quietCount) : Rearmed e.quietCount events := by
  cases h with
  | silent => exact hs.rearmed
  | reduction _ _ _ => exact hs.rearmed
  | lexical _ => exact hs.rearmed.report nofun
  | unexpected _ hoff hfree hplain => exact rearmed_of_unexpected hs hoff hfree hplain
  | halted _ _ => exact hs.rearmed.report nofun
  | haltedAfter hoff hsettled _ _ => exact (hsettled.rearmed hoff hs).1.report nofun

/-- Whenever an unexpected token is reported that the parser can recover from, and any report came
before it in the same parse, enough tokens were shifted between the two. Reference:
`error_recovery_token_discard_count` in `Parser::shift` and `Parser::recover`. -/
theorem reports_are_rearmed [Inhabited V] (e : Engine σ V ε) (c : Config σ V) (input : String)
    (fuel : Nat) :
    Rearmed (max e.discardCount 1) (e.run fuel (c.reset input)).config.session.journal := by
  obtain ⟨s, hmoves, hends⟩ := e.run_ends fuel (c.reset input)
  have hstart : (c.reset input).session.OnPath e.table := onPath_reset c input
  have hsilent : (c.reset input).session.Silent e.quietCount :=
    ⟨rfl, Nat.zero_le _, nofun, nofun⟩
  exact (hends.rearmed (Moves.keeps Move.silent hmoves hstart hsilent)).of_landmarks

end Engine

end

/-- How many tokens were shifted that are no error tokens: those that the discard count is meant to
count. Reference: `error_recovery_token_discard_count`. -/
def soundShifts {V : Type} (journal : List (ParserEvent V)) : Nat :=
  journal.countP fun
    | .shifted token _ => token.symbol != SymbolId.error
    | _ => false

/-- The tokens shifted between two reports need not stand for sound input. Where the calculator is
silent for three tokens, the error token of unrecognized input is one of them. Reference:
`Parser::shift`, which counts error tokens like others while it recovers. -/
theorem Calculator.report_after_two_tokens :
    ¬∀ second later,
      (second, later) ∈ reports (evaluation tolerant "1#;2 2;").config.session.journal →
        second.kind = .syntactic → second.recoverable = true → ∀ first past,
          (first, past) ∈ reports later → first.kind = .syntactic ∨ first.recoverable = true →
            soundShifts past + max 1 tolerant.discardCount ≤ soundShifts later := by
  have hfound : ∃ second ∈ reports (evaluation tolerant "1#;2 2;").config.session.journal,
      ∃ first ∈ reports second.2, second.1.kind = .syntactic ∧ second.1.recoverable = true ∧
        first.1.recoverable = true ∧
          soundShifts second.2 < soundShifts first.2 + max 1 tolerant.discardCount := by
    decide +kernel
  intro hclaim
  obtain ⟨second, hsecond, first, hfirst, hkind, hrecoverable, hfirst', hfew⟩ := hfound
  have henough := hclaim second.1 second.2 hsecond hkind hrecoverable first.1 first.2 hfirst
    (.inr hfirst')
  omega

end ShiftReduce
