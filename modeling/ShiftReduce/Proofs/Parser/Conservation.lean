import Mathlib.Data.List.Forall2
import ShiftReduce.Proofs.Calculator.Construction
import ShiftReduce.Proofs.Parser.Path

/-!
# No token is lost

Of the tokens that a parse has fetched, all but the one that is pending were shifted or thrown away,
each of them once and in their order (`Accounts`). An error token of the lexer's own may be given
another location by a recovery, that of the episode; it covers the token at which the episode was
entered. The other tokens that are shifted are error tokens that a recovery made, one for each recovery
at most (`armed`). `Engine.tokens_are_accounted_for` is the account of a parse that accepts.

Three invariants of a session are kept by every move, and each is a matter of the journal alone:

* the account (`Session.Accounted`): what was fetched is what was consumed, and the pending token;
  where the parser is recovering, the token at which the episode was entered is one that was
  fetched;
* the pairing (`Session.Paired`): an error token that is not the lexer's was made by a recovery that
  came after the one before it;
* the counts (`Session.Counted`): what the statistics say is what the journal says, and what was
  counted before the parse.

That the location of an error token covers its own is false: it covers the token at which the
episode was entered, which may be another one (`Calculator.location_of_skipped_line`).
-/

namespace ShiftReduce

/-! ## Tokens in a journal -/

section
variable {V : Type}

namespace ParserEvent

/-- The token that was fetched, if the event is of a fetch. Reference: `ParserStats::tokens`. -/
def fetched? : ParserEvent V → Option Token
  | .fetched token => some token
  | _ => none

/-- The token that was shifted, if it is one of the lexer's own. -/
def shifted? : ParserEvent V → Option Token
  | .shifted token false => some token
  | _ => none

/-- The token that was thrown away, if the event is of that. Reference: `ParserStats::discarded`. -/
def discarded? : ParserEvent V → Option Token
  | .discarded token => some token
  | _ => none

/-- The token of the lexer's own that was shifted or thrown away. -/
def consumed? : ParserEvent V → Option Token
  | .shifted token false => some token
  | .discarded token => some token
  | _ => none

/-- The recovery that an event records: its token, and the height of the stack that it left. -/
def resumed? : ParserEvent V → Option (Token × Nat)
  | .resumed token height => some (token, height)
  | _ => none

end ParserEvent

/-- The tokens that were fetched, last one first. Reference: `Parser::fetch`. -/
def fetchedTokens (journal : List (ParserEvent V)) : List Token := journal.filterMap (·.fetched?)

/-- The tokens of the lexer's own that were shifted or thrown away, last one first. -/
def consumedTokens (journal : List (ParserEvent V)) : List Token := journal.filterMap (·.consumed?)

/-- The recoveries of a journal, last one first, each with its token and the height that it left.
Reference: `ParserStats::recoveries`. -/
def recoveries (journal : List (ParserEvent V)) : List (Token × Nat) :=
  journal.filterMap (·.resumed?)

/-- Whether a recovery came after the last error token that a recovery made was shifted. -/
def armed : List (ParserEvent V) → Bool
  | [] => false
  | .resumed _ _ :: _ => true
  | .shifted _ true :: _ => false
  | _ :: past => armed past

/-- A token that was consumed was shifted or thrown away. -/
theorem length_consumedTokens (journal : List (ParserEvent V)) :
    (consumedTokens journal).length =
      (journal.filterMap (·.shifted?)).length + (journal.filterMap (·.discarded?)).length := by
  unfold consumedTokens
  induction journal with
  | nil => rfl
  | cons event past ih =>
    cases event with
    | shifted token synthetic =>
      cases synthetic with
      | false =>
        show (token :: past.filterMap (·.consumed?)).length =
          (token :: past.filterMap (·.shifted?)).length + (past.filterMap (·.discarded?)).length
        rw [List.length_cons, List.length_cons, ih]
        omega
      | true => exact ih
    | discarded token =>
      show (token :: past.filterMap (·.consumed?)).length =
        (past.filterMap (·.shifted?)).length + (token :: past.filterMap (·.discarded?)).length
      rw [List.length_cons, List.length_cons, ih]
      omega
    | _ => exact ih

/-- What is read off landmarks alone is the same for a journal and its landmarks. -/
theorem filterMap_landmarks {α : Type} {f : ParserEvent V → Option α}
    (hf : ∀ event, event.isLandmark = false → f event = none) (journal : List (ParserEvent V)) :
    (landmarks journal).filterMap f = journal.filterMap f := by
  induction journal with
  | nil => rfl
  | cons event past ih =>
    rw [landmarks_cons]
    cases hevent : event.isLandmark with
    | true => rw [if_pos rfl, List.filterMap_cons, List.filterMap_cons, ih]
    | false => rw [if_neg nofun, List.filterMap_cons_none (hf event hevent), ih]

@[simp] theorem fetchedTokens_landmarks (journal : List (ParserEvent V)) :
    fetchedTokens (landmarks journal) = fetchedTokens journal :=
  filterMap_landmarks (fun event h => by cases event <;> first | rfl | cases h) journal

@[simp] theorem consumedTokens_landmarks (journal : List (ParserEvent V)) :
    consumedTokens (landmarks journal) = consumedTokens journal :=
  filterMap_landmarks (fun event h => by cases event <;> first | rfl | cases h) journal

@[simp] theorem discarded_landmarks (journal : List (ParserEvent V)) :
    (landmarks journal).filterMap (·.discarded?) = journal.filterMap (·.discarded?) :=
  filterMap_landmarks (fun event h => by cases event <;> first | rfl | cases h) journal

@[simp] theorem recoveries_landmarks (journal : List (ParserEvent V)) :
    recoveries (landmarks journal) = recoveries journal :=
  filterMap_landmarks (fun event h => by cases event <;> first | rfl | cases h) journal

@[simp] theorem armed_landmarks (journal : List (ParserEvent V)) :
    armed (landmarks journal) = armed journal := by
  induction journal with
  | nil => rfl
  | cons event past ih =>
    cases event with
    | shifted token synthetic => cases synthetic <;> first | exact ih | rfl
    | resumed token height => rfl
    | _ => exact ih

end

/-! ## The account -/

/-- How a token that was fetched is consumed: as it is, or, an error token of the lexer's own, with a
location that covers one of the tokens fetched so far. -/
inductive Delivers (fetched : List Token) (token : Token) : Token → Prop
  | unchanged : Delivers fetched token token
  | relocated {root : Token} {location : Location} (symbol : token.symbol = SymbolId.error)
      (known : root ∈ fetched) (covers : location.Covers root.location) :
      Delivers fetched token { token with location }

/-- The tokens of the second list are those of the first one, consumed in their order. In both lists
the last token comes first. -/
inductive Accounts : List Token → List Token → Prop
  | nil : Accounts [] []
  | cons {fetched consumed : List Token} {token token' : Token} (earlier : Accounts fetched consumed)
      (delivers : Delivers (token :: fetched) token token') :
      Accounts (token :: fetched) (token' :: consumed)

/-- As many tokens are consumed as were fetched. -/
theorem Accounts.length_eq {fetched consumed : List Token} (h : Accounts fetched consumed) :
    fetched.length = consumed.length := by
  induction h with
  | nil => rfl
  | cons _ _ ih => rw [List.length_cons, List.length_cons, ih]

/-- The last token is consumed with another location if it is an error token. -/
theorem Accounts.relocate {fetched consumed : List Token} {token root : Token} {location : Location}
    (h : Accounts fetched (token :: consumed)) (symbol : token.symbol = SymbolId.error)
    (known : root ∈ fetched) (covers : location.Covers root.location) :
    Accounts fetched ({ token with symbol := SymbolId.error, location } :: consumed) := by
  cases h with
  | @cons _ _ first _ hearlier hdelivers =>
    cases hdelivers with
    | unchanged =>
      have hrelocated := Delivers.relocated symbol known covers
      rw [← symbol]
      exact .cons hearlier hrelocated
    | relocated hfirst _ _ =>
      have hrelocated := Delivers.relocated hfirst known covers
      have hsymbol : first.symbol = SymbolId.error := symbol
      rw [← hsymbol]
      exact .cons hearlier hrelocated

section
variable {σ V ε : Type} {e : Engine σ V ε} {s s' : Session σ V}

/-- The token that was fetched and not consumed: it is held back, or else it is ahead. -/
def Session.pending (s : Session σ V) : Option Token := s.held.or s.lookahead

/-- The account of the tokens of a parse. Where the parser is not recovering, the pending token is one
as it was fetched; where it is, so is the token at which the episode was entered. -/
structure Session.Accounted (s : Session σ V) : Prop where
  account : Accounts (fetchedTokens (landmarks s.journal))
    (s.pending.toList ++ consumedTokens (landmarks s.journal))
  pending : s.recovering = 0 → ∀ token ∈ s.pending, token ∈ fetchedTokens (landmarks s.journal)
  root : s.recovering ≠ 0 →
    ∃ root ∈ s.record.offending, root ∈ fetchedTokens (landmarks s.journal)

namespace Engine

/-- The token at fault is the pending one. -/
theorem pending_of_offending {token : Token} (path : s.OnPath e.table)
    (h : s.offending? = some token) : s.pending = some token := by
  unfold Session.offending? at h
  unfold Session.pending
  cases hahead : s.lookahead with
  | none => rw [hahead] at h; cases h
  | some ahead =>
    rw [hahead, Option.map_some, Option.some.injEq] at h
    cases hheld : s.held with
    | none => rw [hheld, Option.getD_none, ite_self] at h; rw [h]; rfl
    | some held =>
      obtain ⟨-, token', hmem, hsymbol⟩ := path.held held hheld
      rw [hahead] at hmem
      cases hmem
      rw [if_pos hsymbol, hheld] at h
      rw [← h]
      rfl

/-- A fetched token is one more of the journal's. -/
theorem Fetches.fetchedTokens {token : Token} (h : Fetches e s token s') :
    fetchedTokens (landmarks s'.journal) = token :: fetchedTokens (landmarks s.journal) := by
  cases h with
  | read hnew => rw [hnew]; rfl
  | stuck _ _ hnew => rw [hnew]; rfl

/-- Fetching a token consumes none. -/
theorem Fetches.consumedTokens {token : Token} (h : Fetches e s token s') :
    consumedTokens (landmarks s'.journal) = consumedTokens (landmarks s.journal) := by
  cases h with
  | read hnew => rw [hnew]; rfl
  | stuck _ _ hnew => rw [hnew]; rfl

/-- A look ahead makes the fetched token the pending one. There is no token ahead or held back
before a look, so the one that is fetched is the only one pending. -/
theorem Looks.accounted (h : Looks e s s') (path : s.OnPath e.table) (hs : s.Accounted) :
    s'.Accounted := by
  cases h with
  | @mk token t habsent hfetch =>
    have hheld := held_of_absent path habsent
    obtain ⟨hkept, hrecord, hrecovering⟩ := hfetch.keeps
    have hfetched := hfetch.fetchedTokens
    have haccount : Accounts (fetchedTokens (landmarks s.journal))
        (consumedTokens (landmarks s.journal)) := by
      have haccount := hs.account
      unfold Session.pending at haccount
      rw [hheld, habsent] at haccount
      exact haccount
    have hpending : Session.pending { t with lookahead := some token } = some token := by
      unfold Session.pending
      dsimp only
      rw [hkept, hheld]
      rfl
    refine ⟨?_, ?_, ?_⟩
    · rw [hpending]
      dsimp only
      rw [hfetched, hfetch.consumedTokens]
      exact .cons haccount .unchanged
    · intro _ pending hmem
      rw [hpending] at hmem
      cases hmem
      dsimp only
      rw [hfetched]
      exact List.mem_cons_self
    · intro hrec
      dsimp only at hrec ⊢
      rw [hrecovering] at hrec
      rw [hrecord, hfetched]
      obtain ⟨root, hroot, hknown⟩ := hs.root hrec
      exact ⟨root, hroot, List.mem_cons_of_mem _ hknown⟩

/-- A shift consumes the pending token, or leaves it pending if another one was ahead of it. It is
consumed if it is one of the lexer's own; if the token that is shifted was made by a recovery, the
pending one is held back and becomes the one ahead. -/
theorem Shifts.accounted (h : Shifts e s s') (hs : s.Accounted) : s'.Accounted := by
  have hown : ∀ token : Token, s.held = none → s.lookahead = some token →
      s.pending = some token := by
    intro token hheld hahead
    unfold Session.pending
    rw [hheld, hahead]
    rfl
  cases h with
  | @plain _ _ token _ _ _ _ hahead hheld _ _ hnew =>
    have haccount := hs.account
    rw [hown token hheld hahead] at haccount
    refine ⟨?_, nofun, ?_⟩
    · rw [hnew]
      exact haccount
    · intro hrec
      rw [hnew]
      exact hs.root fun hzero => hrec (by dsimp only; rw [hzero])
  | @lexed _ _ token _ _ _ _ hahead hheld _ hover _ hnew =>
    have haccount := hs.account
    have hpending := hown token hheld hahead
    rw [hpending] at haccount
    refine ⟨?_, nofun, ?_⟩
    · rw [hnew]
      exact haccount
    · intro _
      rw [hnew]
      exact ⟨token, rfl, hs.pending hover token hpending⟩
  | @synthetic _ _ token held _ _ _ _ hahead hheld _ hnew =>
    have hpending : s.pending = some held := by
      unfold Session.pending
      rw [hheld]
      rfl
    have haccount := hs.account
    have hfresh := hs.pending
    rw [hpending] at haccount hfresh
    refine ⟨?_, ?_, ?_⟩
    · rw [hnew]
      exact haccount
    · rw [hnew]
      exact hfresh
    · rw [hnew]
      exact hs.root

/-- A reduction does not touch the tokens. -/
theorem Reduces.accounted [Inhabited V] (h : Reduces e s s') (hs : s.Accounted) :
    s'.Accounted := by
  cases h with
  | mk _ _ _ _ _ _ hnew =>
    refine ⟨?_, ?_, ?_⟩
    · rw [hnew]
      exact hs.account
    · rw [hnew]
      exact hs.pending
    · rw [hnew]
      exact hs.root

/-- A token that is thrown away is consumed. -/
theorem Discards.accounted (h : Discards e s s') (path : s.OnPath e.table) (hs : s.Accounted) :
    s'.Accounted := by
  cases h with
  | @mk _ token _ _ hoff hfull _ hnew =>
    have haccount := hs.account
    rw [pending_of_offending path hoff] at haccount
    refine ⟨?_, nofun, ?_⟩
    · rw [hnew]
      exact haccount
    · rw [hnew]
      exact hs.root

/-- What comes before a recovery leaves the tokens alone. -/
theorem Settles.tokens {token : Token} (h : Settles e s token s') :
    fetchedTokens (landmarks s'.journal) = fetchedTokens (landmarks s.journal) ∧
      consumedTokens (landmarks s'.journal) = consumedTokens (landmarks s.journal) ∧
      s'.recovering = s.recovering ∧ s'.record = s.record := by
  cases h with
  | silent _ _ _ hnew => rw [hnew]; exact ⟨rfl, rfl, rfl, rfl⟩
  | reported _ _ _ hnew => rw [hnew]; exact ⟨rfl, rfl, rfl, rfl⟩
  | refetched _ _ => exact ⟨rfl, rfl, rfl, rfl⟩

/-- What the last step of a parse adds to the journal is no token. -/
theorem Ends.fetchedTokens {events : List (ParserEvent V)} (h : Ends e s events) :
    fetchedTokens events = fetchedTokens (landmarks s.journal) := by
  cases h with
  | silent => rfl
  | reduction _ _ _ => rfl
  | lexical _ => rfl
  | unexpected _ _ _ _ => rfl
  | halted _ _ => rfl
  | haltedAfter _ hsettled _ _ => exact hsettled.tokens.1

/-- A recovery keeps the token at fault pending; an error token takes the location of the episode.
Where the token at fault is itself an error token, it is the one that is put ahead, with the
location of what the record spans; otherwise it is held back as it was fetched. -/
theorem Resumes.accounted (h : Resumes e s s') (path : s.OnPath e.table) (hs : s.Accounted) :
    s'.Accounted := by
  cases h with
  | @mk token depth s₁ hoff hsettled _ _ =>
    obtain ⟨hfetched, hconsumed, hrecovering, hrecord⟩ := hsettled.tokens
    have hpending := pending_of_offending path hoff
    have haccount := hs.account
    rw [hpending] at haccount
    have hroot : s₁.root token ∈ fetchedTokens (landmarks s.journal) := by
      unfold Session.root
      rw [hrecovering, hrecord]
      split
      · next hover => exact hs.pending hover token hpending
      · next hover =>
        obtain ⟨root, hroot, hknown⟩ := hs.root hover
        rw [Option.mem_def.mp hroot]
        exact hknown
    have hfetched' : fetchedTokens (landmarks (e.resumption depth token s₁).journal) =
        fetchedTokens (landmarks s.journal) := by
      rw [landmarks_resumption, ← hfetched]
      rfl
    have hconsumed' : consumedTokens (landmarks (e.resumption depth token s₁).journal) =
        consumedTokens (landmarks s.journal) := by
      rw [landmarks_resumption, ← hconsumed]
      rfl
    refine ⟨?_, ?_, ?_⟩
    · rw [hfetched', hconsumed']
      unfold Session.pending
      rw [resumption_held]
      split
      · next hsymbol =>
        obtain ⟨location, hcovers, hahead⟩ := e.resumption_ahead depth token s₁
        rw [hahead]
        exact haccount.relocate hsymbol hroot hcovers
      · exact haccount
    · intro hover
      rw [resumption_recovering] at hover
      unfold quietCount at hover
      omega
    · intro _
      rw [resumption_offending, hfetched']
      exact ⟨_, rfl, hroot⟩

/-- Every move keeps the account. -/
theorem Move.accounted [Inhabited V] (h : Move e s s') (path : s.OnPath e.table)
    (hs : s.Accounted) : s'.Accounted := by
  cases h with
  | remark hnew =>
    refine ⟨?_, ?_, ?_⟩
    · rw [hnew]
      exact hs.account
    · rw [hnew]
      exact hs.pending
    · rw [hnew]
      exact hs.root
  | look h => exact h.accounted path hs
  | shift h => exact h.accounted hs
  | reduce h => exact h.accounted hs
  | discard h => exact h.accounted path hs
  | resume h => exact h.accounted path hs

end Engine

end

/-! ## Error tokens of a recovery -/

section
variable {V : Type} {events : List (ParserEvent V)} {event : ParserEvent V}

/-- Every token that was shifted and is not the lexer's own is an error token, and a recovery came
after the one before it. -/
def Paired (events : List (ParserEvent V)) : Prop :=
  ∀ token past, .shifted token true :: past <:+ events →
    token.symbol = SymbolId.error ∧ armed past = true

/-- A journal is paired if its landmarks are. -/
theorem Paired.of_landmarks (h : Paired (landmarks events)) : Paired events := by
  intro token past hsuffix
  have hlandmarks : landmarks (.shifted token true :: past) <:+ landmarks events :=
    hsuffix.filter _
  obtain ⟨hsymbol, harmed⟩ := h token (landmarks past) hlandmarks
  exact ⟨hsymbol, by rw [← armed_landmarks]; exact harmed⟩

/-- One more event keeps the pairing, if it is paired where it has to be. -/
theorem Paired.cons (h : Paired events)
    (new : ∀ token, event = .shifted token true →
      token.symbol = SymbolId.error ∧ armed events = true) : Paired (event :: events) := by
  intro token past hsuffix
  rcases List.suffix_cons_iff.mp hsuffix with heq | hold
  · cases heq
    exact new token rfl
  · exact h token past hold

end

section
variable {σ V ε : Type} {e : Engine σ V ε} {s s' : Session σ V}

/-- The error tokens of recoveries in a parse are paired, and where a token is held back a recovery has
come after the last one. -/
structure Session.Paired (s : Session σ V) : Prop where
  held : s.held.isSome = true → armed (landmarks s.journal) = true
  journal : ShiftReduce.Paired (landmarks s.journal)

namespace Engine

/-- Every move keeps the pairing. Only a recovery puts a token ahead that is not the lexer's, and
the shift of that token ends what it armed. -/
theorem Move.paired [Inhabited V] (h : Move e s s') (path : s.OnPath e.table) (hs : s.Paired) :
    s'.Paired := by
  cases h with
  | remark hnew => exact ⟨by rw [hnew]; exact hs.held, by rw [hnew]; exact hs.journal⟩
  | look h =>
    cases h with
    | mk _ hfetch =>
      cases hfetch with
      | read hnew => exact ⟨by rw [hnew]; exact hs.held, by rw [hnew]; exact hs.journal.cons nofun⟩
      | stuck _ _ hnew =>
        exact ⟨by rw [hnew]; exact hs.held,
          by rw [hnew]; exact Paired.cons (hs.journal.cons nofun) nofun⟩
  | shift h =>
    cases h with
    | plain _ _ _ _ _ hnew =>
      refine ⟨nofun, ?_⟩
      rw [hnew]
      exact hs.journal.cons fun _ heq => by cases heq
    | lexed _ _ _ _ _ _ hnew =>
      refine ⟨nofun, ?_⟩
      rw [hnew]
      exact hs.journal.cons fun _ heq => by cases heq
    | @synthetic _ _ ahead held _ _ _ _ hahead hheld _ hnew =>
      obtain ⟨-, token, hmem, hsymbol⟩ := path.held held hheld
      rw [hahead] at hmem
      cases hmem
      refine ⟨nofun, ?_⟩
      rw [hnew]
      refine hs.journal.cons ?_
      intro token heq
      cases heq
      exact ⟨hsymbol, hs.held (by rw [hheld]; rfl)⟩
  | reduce h =>
    cases h with
    | mk _ _ _ _ _ _ hnew =>
      exact ⟨by rw [hnew]; exact hs.held, by rw [hnew]; exact hs.journal.cons nofun⟩
  | discard h =>
    cases h with
    | mk _ _ _ _ hnew => exact ⟨nofun, by rw [hnew]; exact hs.journal.cons nofun⟩
  | resume h =>
    cases h with
    | mk _ hsettled _ _ =>
      refine ⟨fun _ => by rw [landmarks_resumption]; rfl, ?_⟩
      rw [landmarks_resumption]
      cases hsettled with
      | silent _ _ _ hnew => rw [hnew]; exact hs.journal.cons nofun
      | reported _ _ _ hnew => rw [hnew]; exact Paired.cons (hs.journal.cons nofun) nofun
      | refetched _ _ => exact hs.journal.cons nofun

end Engine

/-! ## Counts -/

/-- The counts of a parse that began with some tokens counted as fetched and as thrown away. -/
structure Session.Counted (tokens discarded : Nat) (s : Session σ V) : Prop where
  tokens : s.stats.tokens = tokens + (fetchedTokens (landmarks s.journal)).length
  discarded : s.stats.discarded =
    discarded + ((landmarks s.journal).filterMap (·.discarded?)).length

namespace Engine

/-- Every move counts what it does. Each count goes up with one kind of event; what the counts were
before the parse is left in them. -/
theorem Move.counted [Inhabited V] {tokens discarded : Nat} (h : Move e s s')
    (hs : s.Counted tokens discarded) : s'.Counted tokens discarded := by
  obtain ⟨htokens, hdiscarded⟩ := hs
  cases h with
  | remark hnew => exact ⟨by rw [hnew]; exact htokens, by rw [hnew]; exact hdiscarded⟩
  | look h =>
    cases h with
    | mk _ hfetch =>
      cases hfetch with
      | read hnew =>
        exact ⟨by rw [hnew]; exact congrArg Nat.succ htokens, by rw [hnew]; exact hdiscarded⟩
      | stuck _ _ hnew =>
        exact ⟨by rw [hnew]; exact congrArg Nat.succ htokens, by rw [hnew]; exact hdiscarded⟩
  | shift h =>
    cases h with
    | plain _ _ _ _ _ hnew => exact ⟨by rw [hnew]; exact htokens, by rw [hnew]; exact hdiscarded⟩
    | lexed _ _ _ _ _ _ hnew => exact ⟨by rw [hnew]; exact htokens, by rw [hnew]; exact hdiscarded⟩
    | synthetic _ _ _ _ hnew => exact ⟨by rw [hnew]; exact htokens, by rw [hnew]; exact hdiscarded⟩
  | reduce h =>
    cases h with
    | mk _ _ _ _ _ _ hnew => exact ⟨by rw [hnew]; exact htokens, by rw [hnew]; exact hdiscarded⟩
  | discard h =>
    cases h with
    | mk _ _ _ _ hnew =>
      exact ⟨by rw [hnew]; exact htokens, by rw [hnew]; exact congrArg Nat.succ hdiscarded⟩
  | resume h =>
    cases h with
    | mk _ hsettled _ _ =>
      cases hsettled with
      | silent _ _ _ hnew =>
        exact ⟨by rw [landmarks_resumption, hnew]; exact htokens,
          by rw [landmarks_resumption, hnew]; exact hdiscarded⟩
      | reported _ _ _ hnew =>
        exact ⟨by rw [landmarks_resumption, hnew]; exact htokens,
          by rw [landmarks_resumption, hnew]; exact hdiscarded⟩
      | refetched _ _ =>
        exact ⟨by rw [landmarks_resumption]; exact htokens,
          by rw [landmarks_resumption]; exact hdiscarded⟩

/-- At the start of a parse there is no token to account for. -/
theorem accounted_reset [Inhabited V] (c : Config σ V) (input : String) :
    (c.reset input).session.Accounted ∧ (c.reset input).session.Paired ∧
      (c.reset input).session.Counted c.session.stats.tokens c.session.stats.discarded := by
  refine ⟨⟨.nil, nofun, fun hrec => absurd rfl hrec⟩, ⟨nofun, ?_⟩, ⟨rfl, rfl⟩⟩
  intro token past hsuffix
  cases List.suffix_nil.mp hsuffix

/-- A built table accepts with the end of the input ahead, and nothing is held back there. -/
theorem ahead_of_accept {declarations : List Declaration} {state : StateId}
    (built : Table.build declarations = .ok e.table) (path : s.OnPath e.table)
    (chosen : Chooses e s state .accept) :
    ∃ token, s.lookahead = some token ∧ s.pending = some token ∧
      token.symbol = SymbolId.endOfInput := by
  obtain ⟨token, hahead, hentry⟩ := chosen.token nofun
  have hend := Table.build_accept built hentry
  have hheld : s.held = none := by
    cases hheld : s.held with
    | none => rfl
    | some held =>
      obtain ⟨-, token', hmem, hsymbol⟩ := path.held held hheld
      rw [hahead] at hmem
      cases hmem
      rw [hend] at hsymbol
      cases hsymbol
  refine ⟨token, hahead, ?_, hend⟩
  unfold Session.pending
  rw [hheld, hahead]
  rfl

/-- The end of the input is delivered as it is. -/
theorem Accounts.last {fetched consumed : List Token} {token : Token}
    (h : Accounts fetched (token :: consumed)) (input : token.symbol = SymbolId.endOfInput) :
    ∃ rest, fetched = token :: rest ∧ Accounts rest consumed := by
  cases h with
  | @cons rest _ first _ hearlier hdelivers =>
    cases hdelivers with
    | unchanged => exact ⟨rest, rfl, hearlier⟩
    | relocated hsymbol _ _ =>
      have hend : first.symbol = SymbolId.endOfInput := input
      rw [hsymbol] at hend
      cases hend

/-- The account of a session in which the input is accepted. A built table accepts with the end of
the input ahead, and nothing is held back in front of that; so all tokens before it were consumed.
-/
theorem Accepts.account [Inhabited V] {declarations : List Declaration} {tokens discarded : Nat}
    {value : V} (h : Accepts e s value s') (built : Table.build declarations = .ok e.table)
    (path : s.OnPath e.table) (accounted : s.Accounted) (paired : s.Paired)
    (counted : s.Counted tokens discarded) :
    (∃ last rest, s'.lookahead = some last ∧ last.symbol = SymbolId.endOfInput ∧
      fetchedTokens s'.journal = last :: rest ∧ Accounts rest (consumedTokens s'.journal)) ∧
    Paired s'.journal ∧
    s'.stats.tokens + discarded =
      tokens + (s'.journal.filterMap (·.shifted?)).length + s'.stats.discarded + 1 := by
  cases h with
  | mk harrives hchosen _ _ hnew =>
    have hmoves := harrives.moves
    have hpath := Moves.onPath hmoves path
    have haccount := (Moves.keeps Move.accounted hmoves path accounted).account
    have hpaired := (Moves.keeps Move.paired hmoves path paired).journal
    obtain ⟨htokens, hdiscarded⟩ :=
      Moves.keeps (fun hmove _ => hmove.counted) hmoves path counted
    obtain ⟨last, hahead, hpending, hend⟩ := ahead_of_accept built hpath hchosen
    rw [hpending, Option.toList_some, List.singleton_append] at haccount
    rw [← hnew] at haccount hpaired htokens hdiscarded
    obtain ⟨rest, hfetched, hrest⟩ := Accounts.last haccount hend
    rw [fetchedTokens_landmarks] at hfetched htokens
    rw [consumedTokens_landmarks] at hrest
    rw [discarded_landmarks] at hdiscarded
    refine ⟨⟨last, rest, hahead, hend, hfetched, hrest⟩, hpaired.of_landmarks, ?_⟩
    dsimp only
    have hconsumed := hrest.length_eq
    rw [length_consumedTokens] at hconsumed
    rw [hfetched, List.length_cons] at htokens
    rw [htokens, hdiscarded]
    omega

/-- In a parse that accepts, the last token fetched is the end of the input, which stays ahead; all
tokens before it were shifted or thrown away, each once and in order. Besides these only error
tokens made by recoveries were shifted, at most one for each. Reference: `ParserStats` of
`Parser::fetch`, `Parser::shift` and `Parser::recover`. -/
theorem tokens_are_accounted_for [Inhabited V] {declarations : List Declaration} {c : Config σ V}
    {input : String} {fuel : Nat} {value : V} (built : Table.build declarations = .ok e.table)
    (accepted : (e.run fuel (c.reset input)).stop = .accepted value) :
    let s := (e.run fuel (c.reset input)).config.session
    (∃ last rest, s.lookahead = some last ∧ last.symbol = SymbolId.endOfInput ∧
      fetchedTokens s.journal = last :: rest ∧ Accounts rest (consumedTokens s.journal)) ∧
    Paired s.journal ∧
    s.stats.tokens + c.session.stats.discarded =
      c.session.stats.tokens + (s.journal.filterMap (·.shifted?)).length + s.stats.discarded + 1 := by
  obtain ⟨c', hsteps, haccepts⟩ := run_accepted accepted
  have hstart : (c.reset input).session.OnPath e.table := onPath_reset c input
  obtain ⟨haccounted, hpaired, hcounted⟩ := accounted_reset c input
  have hmoves := hsteps.moves
  exact haccepts.account built (Moves.onPath hmoves hstart)
    (Moves.keeps Move.accounted hmoves hstart haccounted)
    (Moves.keeps Move.paired hmoves hstart hpaired)
    (Moves.keeps (fun hmove _ => hmove.counted) hmoves hstart hcounted)

end Engine

end

/-! ## An account of the calculator -/

namespace Calculator

/-- The account of a line with two numbers and unrecognized input behind them. -/
theorem accounts_for_skipped_line :
    let s := (evaluation tolerant "1 2 # ;").config.session
    (evaluation tolerant "1 2 # ;").stop = .accepted (.lines [none]) ∧
    (∃ last rest, s.lookahead = some last ∧ last.symbol = SymbolId.endOfInput ∧
      fetchedTokens s.journal = last :: rest ∧ Accounts rest (consumedTokens s.journal)) ∧
    Paired s.journal ∧
    s.stats.tokens + 0 = 0 + (s.journal.filterMap (·.shifted?)).length + s.stats.discarded + 1 := by
  have hstop : (evaluation tolerant "1 2 # ;").stop = .accepted (.lines [none]) :=
    evaluation_stop (by decide +kernel)
  exact ⟨hstop, Engine.tokens_are_accounted_for (build_table new_tolerant) hstop⟩

/-- A token is consumed as it is, or, an error token, with a location that covers its own. -/
def Widens (token token' : Token) : Prop :=
  token' = token ∨ token.symbol = SymbolId.error ∧ token'.location.Covers token.location ∧
    token' = { token with location := token'.location }

instance (token token' : Token) : Decidable (Widens token token') :=
  inferInstanceAs (Decidable (_ ∨ _ ∧ _ ∧ _))

/-- The location that an error token takes need not cover its own: behind two numbers, the one of
the unrecognized input becomes that of the numbers. Reference: `RecoveryTrack::location` in
`Parser::recover`. -/
theorem location_of_skipped_line :
    let s := (evaluation tolerant "1 2 # ;").config.session
    (evaluation tolerant "1 2 # ;").stop = .accepted (.lines [none]) ∧
    ¬∃ last rest, fetchedTokens s.journal = last :: rest ∧
      List.Forall₂ Widens rest (consumedTokens s.journal) := by
  have hrefuted : ¬List.Forall₂ Widens
      (fetchedTokens (evaluation tolerant "1 2 # ;").config.session.journal).tail
      (consumedTokens (evaluation tolerant "1 2 # ;").config.session.journal) := by
    decide +kernel
  refine ⟨evaluation_stop (by decide +kernel), ?_⟩
  rintro ⟨last, rest, hfetched, hwidens⟩
  rw [hfetched] at hrefuted
  exact hrefuted hwidens

end Calculator

end ShiftReduce
