import ShiftReduce.Proofs.Lexer.Calls
import ShiftReduce.Proofs.Lexer.Progress
import ShiftReduce.Proofs.Source.Lines

/-!
# Lexing loses nothing

A lexer whose host only reads it cuts its input in pieces: the matches of its rules, emitted or skipped,
and the characters that no rule recognizes. The host is called once for each piece, so that its calls
tell the pieces (`HostCall.piece`). Put together they are the consumed part of the input, each of them
is located where the one before it ends, and the tokens that come out are those of the pieces, with
their texts and places (`Lexer.lexing_is_lossless`). What `Lexer.Intact` says of a lexer and its host's
calls holds after every scan.

Operations of the host would change the pieces behind the lexer's back, for which reason it only
reads. Rejected matches are no pieces; a host that only reads rejects none.
-/

namespace ShiftReduce

/-! ## Pieces of an input -/

/-- A piece of an input that a lexer consumed, and the symbol it was emitted for, if it was. The host of
the lexer sees where a match is; unrecognized characters it sees before they are consumed. -/
structure Piece where
  text : List Char
  location : Option Location
  emitted : Option SymbolId
deriving Repr, DecidableEq

namespace Piece

/-- The text of pieces put together, skipped ones included. -/
def textOf (pieces : List Piece) : List Char := pieces.flatMap (·.text)

/-- The location of a text behind another one, counted from the start of the input. Reference:
`Location`. -/
def span (ranges : Bool) (before text : List Char) : Location :=
  ⟨Position.behind before, Position.behind (before ++ text),
    if ranges then some (before.length, before.length + text.length) else none⟩

/-- The token of a piece behind the text `before`. Its line number counts the line breaks up to its
end. -/
def token? (ranges : Bool) (before : List Char) (piece : Piece) : Option Token :=
  piece.emitted.map fun symbol =>
    ⟨symbol, String.ofList piece.text, span ranges before piece.text,
      Text.lineBreaks (before ++ piece.text)⟩

/-- The tokens of pieces behind the text `before`, each with its own text and place; a skipped piece
has none. -/
def tokens (ranges : Bool) : (before : List Char) → List Piece → List Token
  | _, [] => []
  | before, piece :: pieces =>
    (piece.token? ranges before).toList ++ tokens ranges (before ++ piece.text) pieces

/-- Each piece that is located starts where the piece before it ends, the first one behind the text
`before`, and ends where its own text ends. -/
def Placed (ranges : Bool) : (before : List Char) → List Piece → Prop
  | _, [] => True
  | before, piece :: pieces =>
    (∀ location ∈ piece.location, location = span ranges before piece.text) ∧
      Placed ranges (before ++ piece.text) pieces

variable {ranges : Bool} {before : List Char} {pieces : List Piece} {piece : Piece}

/-- One more piece brings its token. -/
theorem tokens_concat :
    tokens ranges before (pieces ++ [piece]) =
      tokens ranges before pieces ++ (piece.token? ranges (before ++ textOf pieces)).toList := by
  induction pieces generalizing before with
  | nil => simp [tokens, textOf]
  | cons first pieces ih => simp [tokens, textOf, ih]

/-- One more piece is to start where the others end. -/
theorem placed_concat :
    Placed ranges before (pieces ++ [piece]) ↔ Placed ranges before pieces ∧
      ∀ location ∈ piece.location, location = span ranges (before ++ textOf pieces) piece.text := by
  induction pieces generalizing before with
  | nil => simp [Placed, textOf]
  | cons first pieces ih => simp [Placed, textOf, ih, and_assoc]

end Piece

/-- What an exact reader passes when it goes forward lies between its two positions. -/
theorem Reader.Exact.span {r : Reader} (h : r.Exact) (ranges : Bool) (n : Nat) :
    Piece.span ranges r.buffer.consumed.reverse (r.buffer.rest.take n) =
      ⟨r.cursor.position, (r.forward n).cursor.position,
        if ranges then some (r.cursor.charOffset, (r.forward n).cursor.charOffset) else none⟩ := by
  have hconsumed : (r.forward n).buffer.consumed = (r.buffer.rest.take n).reverse ++ r.buffer.consumed :=
    rfl
  rw [h.position, (h.forward n).position, h.charOffset, (h.forward n).charOffset, hconsumed,
    List.reverse_append, List.reverse_reverse, List.length_append, List.length_reverse,
    Nat.add_comm (List.length _), Piece.span, List.length_reverse]

/-- The piece that a lexer consumes at a call of its host. -/
def HostCall.piece {ε φ : Type} : HostCall ε φ → Piece
  | .action _ seen answer => ⟨seen.text, some seen.location, answer.toOption.join⟩
  | .stuck _ seen answer =>
    ⟨seen.rest.take (Lexer.unitLength seen.rest), none, answer.toOption.join⟩

/-- The token that lexing came to, if it came to one. -/
def Lexed.token? {φ : Type} : Lexed φ → Option Token
  | .token found => some found
  | _ => none

@[simp] theorem Lexed.token?_token {φ : Type} (found : Token) :
    (Lexed.token found : Lexed φ).token? = some found := rfl

/-! ## Lexers that are only read -/

section
variable {τ ε φ : Type}

/-- A host that leaves every lexer as it is, and whose actions do not fail. -/
structure LexerHost.OnlyReads (host : LexerHost τ ε φ) : Prop where
  action : ∀ rule lexer t, ∃ emitted t', host.action rule lexer t = (.ok emitted, lexer, t')
  stuck : ∀ info lexer t, (host.stuck info lexer t).2.1 = lexer

namespace Lexer

/-- A lexer on its way through an input: the pieces of its host's calls are what it has consumed, each
in its place, and `tokens` are their tokens. -/
structure Intact (options : LexerOptions) (input : List Char) (calls : List (HostCall ε φ))
    (tokens : List Token) (lexer : Lexer) : Prop where
  governed : lexer.options = options
  tracking : options.trackPosition = true
  exact : lexer.reader.Exact
  whole : lexer.reader.buffer.toList = input
  consumed : lexer.consumed.reverse = Piece.textOf (calls.map (·.piece))
  fresh : lexer.more = false
  ended : lexer.done = true → lexer.rest = []
  placed : Piece.Placed options.ranges [] (calls.map (·.piece))
  emitted : tokens = Piece.tokens options.ranges [] (calls.map (·.piece))

variable {host : LexerHost τ ε φ} {options : LexerOptions} {input : List Char} {tokens : List Token}
  {lexer lexer' : Lexer} {t : τ} {calls : List (HostCall ε φ)}

/-- At the start of an input there are no pieces. -/
theorem intact_setInput (tracking : lexer.options.trackPosition = true) (input : String) :
    (lexer.setInput input).Intact lexer.options input.toList ([] : List (HostCall ε φ)) [] where
  governed := rfl
  tracking := tracking
  exact := Reader.exact_ofString input
  whole := rfl
  consumed := rfl
  fresh := rfl
  ended := nofun
  placed := trivial
  emitted := rfl

/-- A lexer with the same rules, reader and flags is as intact. -/
theorem Intact.same (h : lexer.Intact options input calls tokens)
    (sameRules : lexer'.rules = lexer.rules) (sameReader : lexer'.reader = lexer.reader)
    (sameMore : lexer'.more = lexer.more) (ended : lexer'.done = true → lexer'.rest = []) :
    lexer'.Intact options input calls tokens where
  governed := (congrArg (·.options) sameRules).trans h.governed
  tracking := h.tracking
  exact := sameReader ▸ h.exact
  whole := (congrArg (·.buffer.toList) sameReader).trans h.whole
  consumed := (congrArg (·.buffer.consumed.reverse) sameReader).trans h.consumed
  fresh := sameMore.trans h.fresh
  ended := ended
  placed := h.placed
  emitted := h.emitted

/-- A lexer that goes forward by a piece stays intact, with the call and the token of that piece. -/
theorem Intact.read (h : lexer.Intact options input calls tokens) (call : HostCall ε φ) (n : Nat)
    (sameRules : lexer'.rules = lexer.rules) (reader : lexer'.reader = lexer.reader.forward n)
    (fresh : lexer'.more = false) (sameDone : lexer'.done = lexer.done)
    (text : call.piece.text = lexer.rest.take n)
    (place : ∀ location ∈ call.piece.location,
      location = Piece.span options.ranges lexer.consumed.reverse call.piece.text) :
    lexer'.Intact options input (calls ++ [call])
      (tokens ++ (call.piece.token? options.ranges lexer.consumed.reverse).toList) := by
  have hpieces : (calls ++ [call]).map (·.piece) = calls.map (·.piece) ++ [call.piece] := by simp
  refine ⟨?_, h.tracking, ?_, ?_, ?_, fresh, ?_, ?_, ?_⟩
  · exact (congrArg (·.options) sameRules).trans h.governed
  · rw [reader]; exact h.exact.forward n
  · rw [reader]; exact (Buffer.toList_forward _ n).trans h.whole
  · have hconsumed : lexer'.consumed = (lexer.rest.take n).reverse ++ lexer.consumed :=
      congrArg (·.buffer.consumed) reader
    rw [hconsumed, hpieces, List.reverse_append, List.reverse_reverse, h.consumed, ← text]
    simp [Piece.textOf]
  · intro hdone
    have hrest : lexer'.rest = lexer.rest.drop n := congrArg (·.buffer.rest) reader
    rw [hrest, h.ended (sameDone ▸ hdone), List.drop_nil]
  · rw [hpieces, Piece.placed_concat, List.nil_append, ← h.consumed]
    exact ⟨h.placed, place⟩
  · rw [hpieces, Piece.tokens_concat, List.nil_append, ← h.consumed, ← h.emitted]

/-! ## One piece -/

/-- The location of a match is that of the text it consumes. -/
theorem Intact.matchLocation (h : lexer.Intact options input calls tokens) (n : Nat) :
    lexer.matchLocation lexer.reader.cursor (lexer.reader.forward n).cursor =
      Piece.span options.ranges lexer.consumed.reverse (lexer.rest.take n) := by
  refine Eq.trans ?_ (h.exact.span options.ranges n).symm
  simp [Lexer.matchLocation, h.fresh, h.governed]

/-- The line number behind a piece counts the line breaks up to its end. -/
theorem Intact.lineNo (h : lexer.Intact options input calls tokens) (n : Nat)
    (reader : lexer'.reader = lexer.reader.forward n) :
    lexer'.lineNo = Text.lineBreaks (lexer.consumed.reverse ++ lexer.rest.take n) := by
  have hconsumed : (lexer.reader.forward n).buffer.consumed =
      (lexer.rest.take n).reverse ++ lexer.consumed := rfl
  rw [Lexer.lineNo, reader, (h.exact.forward n).lineNo, hconsumed, List.reverse_append,
    List.reverse_reverse]

/-- A match is consumed as a piece in its place. Reference: `Lexer::test_match`. -/
theorem Intact.consume (h : lexer.Intact options input calls tokens) (empty : lexer.text = [])
    (rule : RuleId) (length : Nat) (emitted : Option SymbolId) :
    (lexer.consume length).Intact options input
      (calls ++ [.action rule (lexer.consume length) (.ok emitted)])
      (tokens ++ (emitted.map (lexer.consume length).token).toList) := by
  have hlocation : (lexer.consume length).location =
      Piece.span options.ranges lexer.consumed.reverse (lexer.rest.take length) := by
    rw [← h.matchLocation length]
    simp [Lexer.consume, h.governed, h.tracking]
  have htext : (lexer.consume length).text = lexer.rest.take length := by
    simp [Lexer.consume, empty]
  have hline : (lexer.consume length).lineNo = _ := h.lineNo length rfl
  have hread : (lexer.consume length).Intact options input
      (calls ++ [.action rule (lexer.consume length) (.ok emitted)]) _ :=
    h.read _ length rfl rfl rfl rfl htext (by simp [HostCall.piece, hlocation, htext])
  cases emitted with
  | none => exact hread
  | some symbol =>
    have htoken : (lexer.consume length).token symbol =
        ⟨symbol, String.ofList (lexer.rest.take length),
          Piece.span options.ranges lexer.consumed.reverse (lexer.rest.take length),
          Text.lineBreaks (lexer.consumed.reverse ++ lexer.rest.take length)⟩ := by
      rw [token, matchedText, htext, hlocation, hline]
    simpa [Piece.token?, HostCall.piece, htext, htoken, Except.toOption] using hread

/-- Unrecognized characters are skipped as if they were a match. Reference: the forced
`Lexer::input` in `Lexer::lex`. -/
theorem skipUnit_eq (tracking : lexer.options.trackPosition = true) (fresh : lexer.more = false)
    (rest : lexer.rest ≠ []) :
    lexer.skipUnit = { lexer with
      reader := lexer.reader.forward (unitLength lexer.rest)
      text := lexer.rest.take (unitLength lexer.rest)
      location :=
        lexer.matchLocation lexer.reader.cursor
          (lexer.reader.forward (unitLength lexer.rest)).cursor } := by
  have hunit := unitLength_pos rest
  simp only [Lexer.options] at tracking
  unfold skipUnit input
  split
  · next hnone => exact absurd hnone (Nat.ne_of_gt hunit)
  · simp only [Lexer.rest, Lexer.matchLocation, here, Lexer.options, fresh, tracking]
    by_cases hranges : lexer.rules.options.ranges = true <;> simp [hranges]

/-- Unrecognized characters are consumed as a piece in its place. Reference: the forced
`Lexer::input` in `Lexer::lex`. -/
theorem Intact.skipUnit (h : lexer.Intact options input calls tokens) (rest : lexer.rest ≠ [])
    (info : Unrecognized) (answer : Except φ (Option SymbolId)) :
    lexer.skipUnit.Intact options input (calls ++ [.stuck info lexer answer])
      (tokens ++ (answer.toOption.join.map lexer.skipUnit.token).toList) := by
  have htracking : lexer.options.trackPosition = true := by rw [h.governed]; exact h.tracking
  have hskipped := skipUnit_eq htracking h.fresh rest
  rw [h.matchLocation] at hskipped
  have hline : lexer.skipUnit.lineNo = _ := h.lineNo _ (reader_skipUnit lexer)
  have hread : lexer.skipUnit.Intact options input (calls ++ [.stuck info lexer answer]) _ :=
    h.read _ (unitLength lexer.rest) (congrArg (·.rules) hskipped) (reader_skipUnit lexer)
      ((congrArg (·.more) hskipped).trans h.fresh) (congrArg (·.done) hskipped) rfl nofun
  cases hanswer : answer.toOption.join with
  | none => simpa [Piece.token?, HostCall.piece, hanswer] using hread
  | some symbol =>
    have htoken : lexer.skipUnit.token symbol =
        ⟨symbol, String.ofList (lexer.rest.take (unitLength lexer.rest)),
          Piece.span options.ranges lexer.consumed.reverse
            (lexer.rest.take (unitLength lexer.rest)),
          Text.lineBreaks (lexer.consumed.reverse ++ lexer.rest.take (unitLength lexer.rest))⟩ := by
      rw [token, matchedText, hline, hskipped]
    simpa [Piece.token?, HostCall.piece, hanswer, htoken] using hread

/-! ## One scan -/

/-- What trying a rule comes to, and the pieces and tokens there are then. -/
inductive TrialLeaves (options : LexerOptions) (input : List Char) (tokens : List Token) :
    Trial φ × Lexer × τ × List (HostCall ε φ) → Prop
  | token {token : Token} {lexer : Lexer} {t : τ} {calls : List (HostCall ε φ)}
      (intact : lexer.Intact options input calls (tokens ++ [token])) :
      TrialLeaves options input tokens (.token token, lexer, t, calls)
  | skip {lexer : Lexer} {t : τ} {calls : List (HostCall ε φ)}
      (intact : lexer.Intact options input calls tokens) :
      TrialLeaves options input tokens (.skip, lexer, t, calls)
  | failed {reason : φ} {lexer : Lexer} {t : τ} {calls : List (HostCall ε φ)}
      (intact : lexer.Intact options input calls tokens) :
      TrialLeaves options input tokens (.failed reason, lexer, t, calls)

/-- What a scan comes to, and the pieces and tokens there are then. -/
inductive ScanLeaves (options : LexerOptions) (input : List Char) (tokens : List Token) :
    Scan φ × Lexer × τ × List (HostCall ε φ) → Prop
  | token {token : Token} {lexer : Lexer} {t : τ} {calls : List (HostCall ε φ)}
      (intact : lexer.Intact options input calls (tokens ++ [token])) :
      ScanLeaves options input tokens (.token token, lexer, t, calls)
  | ended {lexer : Lexer} {t : τ} {calls : List (HostCall ε φ)}
      (intact : lexer.Intact options input calls tokens) (done : lexer.done = true) :
      ScanLeaves options input tokens (.token lexer.endToken, lexer, t, calls)
  | skip {lexer : Lexer} {t : τ} {calls : List (HostCall ε φ)}
      (intact : lexer.Intact options input calls tokens) :
      ScanLeaves options input tokens (.skip, lexer, t, calls)
  | failed {reason : φ} {lexer : Lexer} {t : τ} {calls : List (HostCall ε φ)}
      (intact : lexer.Intact options input calls tokens) :
      ScanLeaves options input tokens (.failed reason, lexer, t, calls)
  | stuck {info : Unrecognized} {lexer : Lexer} {t : τ} {calls : List (HostCall ε φ)}
      (intact : lexer.Intact options input calls tokens) (rest : lexer.rest ≠ [])
      (active : lexer.active.isSome = true) :
      ScanLeaves options input tokens (.stuck info, lexer, t, calls)

/-- A lexer at the end of its input is not reopened. -/
theorem reopen_eq (ended : lexer.done = true → lexer.rest = []) : lexer.reopen = lexer := by
  unfold reopen
  split
  · next hopen =>
    simp only [Bool.and_eq_true, Bool.not_eq_true', List.isEmpty_eq_false_iff] at hopen
    exact absurd (ended hopen.1) hopen.2
  · rfl

/-- A rule whose action only reads consumes its match. Reference: `Lexer::test_match`. -/
theorem fire_intact (reads : host.OnlyReads) (h : lexer.Intact options input calls tokens)
    (empty : lexer.text = []) (rule : RuleId) (length : Nat) :
    TrialLeaves options input tokens (lexer.fire host.recorded (t, calls) rule length) := by
  have hintact := h.consume empty rule length
  have hreopen := reopen_eq (hintact none).ended
  have hkept : ¬ (lexer.consume length).rejected = true := nofun
  simp only [fire, LexerHost.recorded_note]
  generalize host.note _ t = t'
  obtain ⟨emitted, t'', hacted⟩ := reads.action rule (lexer.consume length) t'
  simp only [LexerHost.recorded_action hacted, if_neg hkept, hreopen]
  specialize hintact emitted
  cases emitted with
  | some symbol => exact .token hintact
  | none =>
    rw [Option.map_none, Option.toList_none, List.append_nil] at hintact
    dsimp only
    split
    · exact .failed hintact
    · exact .skip hintact

/-- The first candidate is consumed, and no other is tried. Reference: the loop over the candidates
in `Lexer::scan`. -/
theorem tryAll_intact (reads : host.OnlyReads) (candidates : List Candidate)
    (h : lexer.Intact options input calls tokens) (empty : lexer.text = [])
    (active : lexer.active.isSome = true) :
    ScanLeaves options input tokens (tryAll host.recorded candidates lexer (t, calls)) := by
  cases candidates with
  | nil =>
    simp only [tryAll, unmatched]
    split
    · next hrest => exact .ended (h.same rfl rfl rfl fun _ => List.isEmpty_iff.mp hrest) rfl
    · next hrest => exact .stuck h (fun hnil => hrest (List.isEmpty_iff.mpr hnil)) active
  | cons candidate others =>
    have hfired := fire_intact (t := t) reads h empty candidate.1 candidate.2
    simp only [tryAll]
    generalize lexer.fire host.recorded (t, calls) _ _ = fired at hfired ⊢
    cases hfired with
    | token hintact => exact .token hintact
    | skip hintact => exact .skip hintact
    | failed hintact => exact .failed hintact

/-- A scan leaves the pieces in order. Reference: `Lexer::scan`. -/
theorem scan_intact (reads : host.OnlyReads) (h : lexer.Intact options input calls tokens) :
    ScanLeaves options input tokens (lexer.scan host.recorded (t, calls)) := by
  unfold scan
  split
  · next hdone => exact .ended h hdone
  · have hended : lexer.beginScan.activate.2.done = true → lexer.rest = [] := by
      intro hdone
      rcases Bool.or_eq_true_iff.mp hdone with hdone | hempty
      · exact h.ended hdone
      · exact List.isEmpty_iff.mp hempty
    have hempty : lexer.beginScan.text = [] := by simp [beginScan, h.fresh]
    exact tryAll_intact reads _ (h.same rfl rfl rfl hended) hempty rfl

/-- Unrecognized input is consumed, whatever the host answers. Reference: the case of unmatched
input in `Lexer::lex`. -/
theorem resolve_reads (reads : host.OnlyReads) (active : lexer.active.isSome = true)
    (info : Unrecognized) :
    ∃ answer t', lexer.resolve host.recorded (t, calls) info =
      (answer, lexer.skipUnit, t', calls ++ [.stuck info lexer answer]) := by
  have halone : lexer.leftAlone lexer = true := by simp [leftAlone, active]
  have hsame := reads.stuck info lexer (host.note (.unrecognized lexer.offset) t)
  cases hasked : host.stuck info lexer (host.note (.unrecognized lexer.offset) t) with
  | mk answer left =>
    obtain ⟨after, t'⟩ := left
    obtain rfl : after = lexer := by rw [hasked] at hsame; exact hsame
    refine ⟨answer, t', ?_⟩
    simp only [resolve, LexerHost.recorded_note, LexerHost.recorded_stuck hasked, if_pos halone]

/-! ## The search for a token -/

/-- What a search for a token comes to, and the pieces and tokens there are then. -/
inductive LexLeaves (options : LexerOptions) (input : List Char) (tokens : List Token) :
    Lexed φ × Lexer × τ × List (HostCall ε φ) → Prop
  | token {token : Token} {lexer : Lexer} {t : τ} {calls : List (HostCall ε φ)}
      (intact : lexer.Intact options input calls (tokens ++ [token])) :
      LexLeaves options input tokens (.token token, lexer, t, calls)
  | ended {lexer : Lexer} {t : τ} {calls : List (HostCall ε φ)}
      (intact : lexer.Intact options input calls tokens) (done : lexer.done = true) :
      LexLeaves options input tokens (.token lexer.endToken, lexer, t, calls)
  | without {result : Lexed φ} {lexer : Lexer} {t : τ} {calls : List (HostCall ε φ)}
      (intact : lexer.Intact options input calls tokens) (tokenless : result.token? = none) :
      LexLeaves options input tokens (result, lexer, t, calls)

/-- A search for a token leaves the pieces in order. By induction on the scans: each one takes one
piece, a match or a unit of unrecognized input, or finds the end. Reference: `Lexer::lex`. -/
theorem lex_intact (reads : host.OnlyReads) (limit : Nat)
    (h : lexer.Intact options input calls tokens) :
    LexLeaves options input tokens (lexer.lex host.recorded limit (t, calls)) := by
  -- Each scan leaves a lexer that is intact: the next one starts from it.
  induction limit generalizing lexer t calls with
  | zero => exact .without h rfl
  | succ limit ih =>
    have hscanned := scan_intact (t := t) reads h
    simp only [lex]
    generalize lexer.scan host.recorded (t, calls) = scanned at hscanned ⊢
    cases hscanned with
    | token hintact => exact .token (hintact.same rfl rfl rfl hintact.ended)
    | @ended next t' calls' hintact hdone =>
      show LexLeaves options input tokens (.token next.countToken.endToken, next.countToken, _, calls')
      exact .ended (hintact.same rfl rfl rfl hintact.ended) hdone
    | skip hintact => exact ih hintact
    | failed hintact => exact .without hintact rfl
    | @stuck info next t' calls' hintact hrest hactive =>
      have hresolves : ∃ answer t'', next.resolve host.recorded (t', calls') info =
          (answer, next.skipUnit, t'', calls' ++ [.stuck info next answer]) :=
        resolve_reads reads hactive info
      obtain ⟨answer, t'', hresolved⟩ := hresolves
      have hskipped := hintact.skipUnit hrest info answer
      simp only [hresolved]
      rcases answer with reason | _ | symbol
      · exact .without (by simpa [Except.toOption] using hskipped) rfl
      · exact ih (by simpa [Except.toOption] using hskipped)
      · exact .token (hskipped.same rfl rfl rfl hskipped.ended)

/-! ## Runs -/

/-- Once the end was reached, all searches find the end, and nothing is read. -/
theorem lexAll_done (limits : List Nat) (h : lexer.Intact options input calls tokens)
    (done : lexer.done = true) :
    let run := lexer.lexAll host.recorded limits (t, calls)
    run.2.1.Intact options input run.2.2.2 tokens ∧ run.2.1.endToken = lexer.endToken ∧
      run.2.1.rest = [] ∧
      ∃ ends, run.1.filterMap Lexed.token? = List.replicate ends lexer.endToken := by
  induction limits generalizing lexer t with
  | nil => exact ⟨h, rfl, h.ended done, 0, rfl⟩
  | cons limit limits ih =>
    cases limit with
    -- A search that may not scan at all comes to nothing.
    | zero => exact ih h done
    | succ limit =>
      have hcounted : lexer.countToken.Intact options input calls tokens := h.same rfl rfl rfl h.ended
      have hscan : lexer.scan host.recorded (t, calls) = (.token lexer.endToken, lexer, t, calls) := by
        simp [scan, done]
      have hlex : lexer.lex host.recorded (limit + 1) (t, calls) =
          (.token lexer.endToken, lexer.countToken, host.note (.token lexer.endToken) t, calls) := by
        simp only [lex, hscan, LexerHost.recorded_note]
      simp only [lexAll, hlex]
      obtain ⟨hintact, hsame, hrest, ends, hends⟩ := ih hcounted done
      refine ⟨hintact, hsame, hrest, ends + 1, ?_⟩
      have hend : lexer.countToken.endToken = lexer.endToken := rfl
      simp [hends, hend, List.replicate_succ]

/-- A run leaves the pieces in order. Its tokens are those of the pieces; once they are out, the end of
the input comes any number of times. -/
theorem lexAll_intact (reads : host.OnlyReads) (limits : List Nat)
    (h : lexer.Intact options input calls tokens) :
    let run := lexer.lexAll host.recorded limits (t, calls)
    ∃ new ends, run.2.1.Intact options input run.2.2.2 (tokens ++ new) ∧
      run.1.filterMap Lexed.token? = new ++ List.replicate ends run.2.1.endToken ∧
      (ends ≠ 0 → run.2.1.rest = []) := by
  induction limits generalizing lexer t calls tokens with
  | nil => exact ⟨[], 0, by simpa [lexAll] using h, rfl, fun h => absurd rfl h⟩
  | cons limit limits ih =>
    have hlexed := lex_intact (t := t) reads limit h
    simp only [lexAll]
    generalize lexer.lex host.recorded limit (t, calls) = lexed at hlexed ⊢
    cases hlexed with
    | @token token next t' calls' hintact =>
      obtain ⟨new, ends, hnew, hresults, hrest⟩ := ih (t := t') hintact
      refine ⟨token :: new, ends, by simpa using hnew, ?_, hrest⟩
      simp [hresults]
    | @ended next t' calls' hintact hdone =>
      obtain ⟨hnew, hsame, hrest, ends, hends⟩ := lexAll_done (t := t') limits hintact hdone
      refine ⟨[], ends + 1, by simpa using hnew, ?_, fun _ => hrest⟩
      simp [hends, hsame, List.replicate_succ]
    | @without result next t' calls' hintact hresult =>
      obtain ⟨new, ends, hnew, hresults, hrest⟩ := ih (t := t') hintact
      refine ⟨new, ends, hnew, ?_, hrest⟩
      simp [hresult, hresults]

/-- Lexing loses nothing. Let a lexer that tracks its position be set to an input, and let it search
for tokens any number of times under a host that only reads it. Writing down the host's calls
changes nothing; the input stays what it was; the texts of all matches and all unrecognized
characters, put together, are the consumed part of the input. Every match is seen where its piece of
the input is, and the tokens are those of the pieces, each with the text, the place and the line
number of its piece; behind them comes only the end of the input, when nothing is left of it.
Reference: `Lexer::lex`. -/
theorem lexing_is_lossless (host : LexerHost τ ε φ) (reads : host.OnlyReads) (lexer : Lexer)
    (tracking : lexer.options.trackPosition = true) (input : String) (limits : List Nat) (t : τ) :
    let run := (lexer.setInput input).lexAll host.recorded limits (t, [])
    let final := run.2.1
    let pieces := run.2.2.2.map (·.piece)
    (lexer.setInput input).lexAll host limits t = (run.1, final, run.2.2.1) ∧
    final.source = input ∧
    input.toList = Piece.textOf pieces ++ final.rest ∧
    final.offset = (String.ofList (Piece.textOf pieces)).utf8ByteSize ∧
    Piece.Placed lexer.options.ranges [] pieces ∧
    ∃ ends, (ends ≠ 0 → final.rest = []) ∧
      run.1.filterMap Lexed.token? =
        Piece.tokens lexer.options.ranges [] pieces ++ List.replicate ends final.endToken := by
  intro run final pieces
  obtain ⟨new, ends, hintact, hresults, hrest⟩ :=
    lexAll_intact (t := t) reads limits (intact_setInput (ε := ε) (φ := φ) tracking input)
  refine ⟨lexAll_recorded host limits (lexer.setInput input) (t, []), ?_, ?_, ?_, hintact.placed,
    ends, hrest, ?_⟩
  · exact (congrArg String.ofList hintact.whole).trans String.ofList_toList
  · rw [← hintact.whole, ← hintact.consumed]
    rfl
  · rw [← hintact.consumed]
    exact hintact.exact.offset
  · rw [← hintact.emitted]
    exact hresults

end Lexer

end

/-! ## Words and line breaks -/

namespace Words

/-- Words of small letters, and the two characters that break a line. -/
def rules : LexerRules :=
  (LexerRules.build { longestMatch := true, ranges := true, errorsRecoverable := true }
    [.rule [] "[a-z]+", .rule [] "\r", .rule [] "\n"]).toOption.get (by decide +kernel)

/-- Emits words, and skips what breaks a line. -/
def action (rule : RuleId) (lexer : Lexer) (t : Unit) : Except Empty (Option SymbolId) × Lexer × Unit :=
  (.ok (if rule = 0 then some 3 else none), lexer, t)

/-- A lexer that runs on its own. -/
def host : LexerHost (Unit × List LexerEvent) Empty (LexError Empty) := .alone action

/-- A lexer that runs on its own with these actions is only read. -/
theorem host_onlyReads : host.OnlyReads where
  action _ _ _ := ⟨_, _, rfl⟩
  stuck _ _ _ := rfl

/-- The run over two lines, the second of which has a character that no rule matches. -/
def run : List (Lexed (LexError Empty)) × Lexer ×
    (Unit × List LexerEvent) × List (HostCall Empty (LexError Empty)) :=
  ((Lexer.new rules).setInput "ab\r\n?c").lexAll host.recorded [4, 4, 4, 4] (((), []), [])

/-- The two lines are cut between the two characters of the line break, and nothing of them is lost. -/
theorem lossless_lines :
    host.OnlyReads ∧ (Lexer.new rules).options.trackPosition = true ∧
    (run.2.2.2.map fun call => String.ofList call.piece.text) = ["ab", "\r", "\n", "?", "c"] ∧
    (run.1.filterMap Lexed.token?).map (fun token => (token.text, token.lineNo, token.location)) =
      [("ab", 0, ⟨⟨1, 0⟩, ⟨1, 2⟩, some (0, 2)⟩), ("?", 1, ⟨⟨2, 0⟩, ⟨2, 1⟩, some (4, 5)⟩),
        ("c", 1, ⟨⟨2, 1⟩, ⟨2, 2⟩, some (5, 6)⟩), ("", 1, ⟨⟨2, 2⟩, ⟨2, 2⟩, some (6, 6)⟩)] ∧
    run.2.1.source = "ab\r\n?c" ∧
    "ab\r\n?c".toList = Piece.textOf (run.2.2.2.map (·.piece)) ++ run.2.1.rest ∧
    Piece.Placed true [] (run.2.2.2.map (·.piece)) ∧
    ∃ ends, (ends ≠ 0 → run.2.1.rest = []) ∧
      run.1.filterMap Lexed.token? =
        Piece.tokens true [] (run.2.2.2.map (·.piece)) ++ List.replicate ends run.2.1.endToken := by
  have htracking : (Lexer.new rules).options.trackPosition = true := by decide +kernel
  have hranges : (Lexer.new rules).options.ranges = true := by decide +kernel
  obtain ⟨-, hsource, htext, -, hplaced, htokens⟩ :=
    Lexer.lexing_is_lossless host host_onlyReads (Lexer.new rules) htracking "ab\r\n?c" [4, 4, 4, 4]
      ((), [])
  rw [hranges] at hplaced htokens
  exact ⟨host_onlyReads, htracking, by decide +kernel, by decide +kernel, hsource, htext, hplaced,
    htokens⟩

end Words

end ShiftReduce
