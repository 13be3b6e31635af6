import ShiftReduce.Proofs.Lexer.Advance
import ShiftReduce.Proofs.Lexer.Course
import ShiftReduce.Proofs.Lexer.Script

/-!
# The text and the location of a token

The text of a match and its location are kept apart, and each operation changes both. Where actions and
answers take text up, give some of it back and keep matches for the next one, but put in no text of their
own, the text of a match is always what was consumed last, and its location ends at the cursor
(`Lexer.Anchored`). Whether the location also starts where the text does (`Lexer.Located`) depends on how
unrecognized input is passed over: `Lexer.tokens_span_their_text` says when it does.

The steps, in the order of the module:

* operations that follow the text keep a lexer anchored, and located if it was
  (`Lexer.Anchored.perform`, `Lexer.Anchored.edits`);
* a match that is consumed is located, unless it goes on with a text that was not
  (`Lexer.Anchored.consume`);
* over a scan and over a search it is kept that the lexer is anchored and that a token ends where
  its text does; that it starts there too is kept as long as all goes well (`Lexer.Keeps`,
  `Lexer.scan_anchored`, `Lexer.lex_anchored`).

All goes well if unrecognized input is passed over without harm (`Lexer.PassesSafely`). That not
every answer does so is seen at the end: the text that was kept for the next match is there when the
lexer passes over a character by itself, but the location starts anew.
-/

namespace ShiftReduce

/-- Whether an operation leaves the text of the match to be what was consumed last. -/
def Operation.followsText : Operation → Bool
  | .keepMatch | .input | .less _ | .push _ | .pop => true
  | _ => false

/-- The token that a scan came to, if it came to one. -/
def Scan.token? {φ : Type} : Scan φ → Option Token
  | .token found => some found
  | _ => none

/-- Whether a token's text is the last of what was consumed (last character first), and its location ends
with it, wherever it starts. -/
def Token.Ends (ranges : Bool) (consumed : List Char) (token : Token) : Prop :=
  ∃ before start first, consumed.reverse = before ++ token.text.toList ∧
    token.location = ⟨start, Position.behind (before ++ token.text.toList),
      if ranges then some (first, before.length + token.text.toList.length) else none⟩

/-- Whether a token's text is the last of what was consumed (last character first), and its location is
the place of that text. -/
def Token.Spans (ranges : Bool) (consumed : List Char) (token : Token) : Prop :=
  ∃ before, consumed.reverse = before ++ token.text.toList ∧
    token.location = Piece.span ranges before token.text.toList

/-- A token in its place ends where it is to. -/
theorem Token.Spans.ends {ranges : Bool} {consumed : List Char} {token : Token}
    (h : token.Spans ranges consumed) : token.Ends ranges consumed := by
  obtain ⟨before, hconsumed, hlocation⟩ := h
  exact ⟨before, _, _, hconsumed, hlocation⟩

namespace Lexer

/-- What was consumed before the text of the current match, last character first. -/
def origin (lexer : Lexer) : List Char := lexer.consumed.drop lexer.text.length

/-- The location that ends at the cursor and starts at a position, or at a character. -/
def spanFrom (lexer : Lexer) (start : Position) (first : Nat) : Location :=
  ⟨start, lexer.position,
    if lexer.options.ranges then some (first, lexer.reader.cursor.charOffset) else none⟩

/-- A lexer on its way through an input: the text of the current match is what was consumed last, and its
location ends at the cursor. -/
structure Anchored (options : LexerOptions) (source : List Char) (lexer : Lexer) : Prop where
  governed : lexer.options = options
  tracking : options.trackPosition = true
  exact : lexer.reader.Exact
  whole : lexer.reader.buffer.toList = source
  last : lexer.consumed = lexer.text.reverse ++ lexer.origin
  ends : ∃ start first, lexer.location = lexer.spanFrom start first

/-- Whether the location of the current match starts where its text does. -/
def Located (lexer : Lexer) : Prop :=
  lexer.location = lexer.spanFrom (Position.behind lexer.origin.reverse) lexer.origin.length

variable {options : LexerOptions} {source : List Char} {lexer lexer' : Lexer}

/-! ## Texts and their places -/

/-- What stands before the text of the match is what is left if the text is taken away. -/
theorem origin_eq {before : List Char} (h : lexer.consumed = lexer.text.reverse ++ before) :
    lexer.origin = before := by
  unfold origin
  rw [h, List.drop_left' (List.length_reverse)]

/-- Without a text all that was consumed stands before it. -/
theorem origin_of_text (h : lexer.text = []) : lexer.origin = lexer.consumed := by
  unfold origin
  rw [h]
  rfl

/-- A lexer without a text is located where the cursor is. -/
theorem Anchored.located_here (h : lexer.Anchored options source) (text : lexer.text = [])
    (location : lexer.location = lexer.here) : lexer.Located := by
  unfold Located
  rw [location, origin_of_text text]
  unfold here spanFrom position consumed
  rw [← h.exact.position, ← h.exact.charOffset]

/-- A lexer at the start of an input has no text, and is located there. -/
theorem anchored_setInput (tracking : lexer.options.trackPosition = true) (input : String) :
    (lexer.setInput input).Anchored lexer.options input.toList ∧ (lexer.setInput input).Located := by
  have hanchored : (lexer.setInput input).Anchored lexer.options input.toList :=
    ⟨rfl, tracking, Reader.exact_ofString input, rfl, rfl, _, _, rfl⟩
  exact ⟨hanchored, hanchored.located_here rfl rfl⟩

/-- A lexer in the same place is anchored as well, with the same text or none and the same location or an
empty one. -/
theorem Anchored.same (h : lexer.Anchored options source) (sameRules : lexer'.rules = lexer.rules)
    (sameReader : lexer'.reader = lexer.reader) (text : lexer'.text = lexer.text ∨ lexer'.text = [])
    (location : lexer'.location = lexer.location ∨ lexer'.location = lexer.here) :
    lexer'.Anchored options source := by
  have hconsumed : lexer'.consumed = lexer.consumed := congrArg (·.buffer.consumed) sameReader
  have hoptions : lexer'.options = lexer.options := congrArg (·.options) sameRules
  have hspan : lexer'.spanFrom = lexer.spanFrom := by
    unfold spanFrom position
    rw [hoptions, sameReader]
  refine ⟨hoptions.trans h.governed, h.tracking, sameReader ▸ h.exact, ?_, ?_, ?_⟩
  · rw [sameReader]
    exact h.whole
  · rcases text with htext | htext
    · have horigin : lexer'.origin = lexer.origin := by
        unfold origin
        rw [hconsumed, htext]
      rw [hconsumed, htext, horigin]
      exact h.last
    · rw [origin_of_text htext, htext]
      rfl
  · rw [hspan]
    rcases location with hlocation | hlocation
    · rw [hlocation]
      exact h.ends
    · exact ⟨lexer.position, lexer.reader.cursor.charOffset, hlocation⟩

/-- Whether a lexer is located does not depend on more than its place, its text and its location. -/
theorem Located.same (h : lexer.Located) (sameRules : lexer'.rules = lexer.rules)
    (sameReader : lexer'.reader = lexer.reader) (sameText : lexer'.text = lexer.text)
    (sameLocation : lexer'.location = lexer.location) : lexer'.Located := by
  unfold Located spanFrom origin options position consumed
  rw [sameRules, sameReader, sameText, sameLocation]
  exact h

/-- The text of the match stands last in what an anchored lexer has consumed. -/
theorem Anchored.reverse_consumed (h : lexer.Anchored options source) :
    lexer.consumed.reverse = lexer.origin.reverse ++ lexer.text := by
  conv_lhs => rw [h.last, List.reverse_append, List.reverse_reverse]

/-- A location that ends at the cursor of an anchored lexer ends behind the text of the match. -/
theorem Anchored.spanFrom_eq (h : lexer.Anchored options source) (start : Position) (first : Nat) :
    lexer.spanFrom start first = ⟨start, Position.behind (lexer.origin.reverse ++ lexer.text),
      if options.ranges then some (first, lexer.origin.reverse.length + lexer.text.length) else none⟩ := by
  rw [← List.length_append, ← h.reverse_consumed, List.length_reverse]
  unfold spanFrom position
  rw [h.exact.position, h.exact.charOffset, h.governed]
  rfl

/-- The token of an anchored lexer ends where it stands. -/
theorem Anchored.token_ends (h : lexer.Anchored options source) (symbol : SymbolId) :
    (lexer.token symbol).Ends options.ranges lexer.consumed := by
  obtain ⟨start, first, hlocation⟩ := h.ends
  have htext : (lexer.token symbol).text.toList = lexer.text := String.toList_ofList
  refine ⟨lexer.origin.reverse, start, first, ?_, ?_⟩
  · rw [htext]
    exact h.reverse_consumed
  · rw [htext]
    exact hlocation.trans (h.spanFrom_eq start first)

/-- The token of a lexer that is located as well is in its place. -/
theorem Anchored.token_spans (h : lexer.Anchored options source) (located : lexer.Located)
    (symbol : SymbolId) : (lexer.token symbol).Spans options.ranges lexer.consumed := by
  have htext : (lexer.token symbol).text.toList = lexer.text := String.toList_ofList
  refine ⟨lexer.origin.reverse, ?_, ?_⟩
  · rw [htext]
    exact h.reverse_consumed
  · rw [htext]
    refine located.trans ?_
    rw [h.spanFrom_eq, Piece.span, List.length_reverse]

/-- The end of the input is where the cursor is. -/
theorem Anchored.endToken_spans (h : lexer.Anchored options source) :
    lexer.endToken.Spans options.ranges lexer.consumed := by
  refine ⟨lexer.consumed.reverse, (List.append_nil _).symm, ?_⟩
  show lexer.here = Piece.span options.ranges lexer.consumed.reverse []
  unfold here Piece.span
  dsimp only
  rw [h.exact.position, h.exact.charOffset, h.governed, List.append_nil, List.length_reverse]
  rfl

/-! ## Operations -/

/-- Going forward, with the text that is passed taken up, keeps a lexer anchored. -/
theorem Anchored.forward (h : lexer.Anchored options source) (n : Nat)
    (sameRules : lexer'.rules = lexer.rules) (reader : lexer'.reader = lexer.reader.forward n)
    (text : lexer'.text = lexer.text ++ lexer.rest.take n)
    (ends : ∃ start first, lexer'.location = lexer'.spanFrom start first) :
    lexer'.Anchored options source ∧ lexer'.origin = lexer.origin := by
  have hlast : lexer'.consumed = lexer'.text.reverse ++ lexer.origin := by
    have hconsumed : lexer'.consumed = (lexer.rest.take n).reverse ++ lexer.consumed :=
      congrArg (·.buffer.consumed) reader
    rw [hconsumed, text, List.reverse_append, List.append_assoc, ← h.last]
  have horigin := origin_eq hlast
  refine ⟨⟨(congrArg (·.options) sameRules).trans h.governed, h.tracking, ?_, ?_, ?_, ends⟩, horigin⟩
  · rw [reader]
    exact h.exact.forward n
  · rw [reader]
    exact (Buffer.toList_forward _ n).trans h.whole
  · rw [horigin]
    exact hlast

/-- Reading a character keeps a lexer anchored, and located if it was. The character goes from the
input to the end of the text, and the location is extended to the cursor. Reference: `Lexer::input`.
-/
theorem Anchored.input (h : lexer.Anchored options source) :
    lexer.input.2.Anchored options source ∧ (lexer.Located → lexer.input.2.Located) := by
  have htracking : lexer.options.trackPosition = true := by rw [h.governed]; exact h.tracking
  -- The location goes on to the cursor, from wherever it starts.
  have hlocation : ∀ start first, lexer.location = lexer.spanFrom start first →
      lexer.input.2.location = lexer.input.2.spanFrom start first := by
    intro start first hlocation
    unfold Lexer.input
    split
    · exact hlocation
    · dsimp only
      rw [if_pos htracking, hlocation]
      unfold spanFrom Lexer.options position
      by_cases hranges : lexer.rules.options.ranges = true <;> simp [hranges]
  have hends : ∃ start first, lexer.input.2.location = lexer.input.2.spanFrom start first := by
    obtain ⟨start, first, hstart⟩ := h.ends
    exact ⟨start, first, hlocation start first hstart⟩
  have hanchored : lexer.input.2.Anchored options source ∧ lexer.input.2.origin = lexer.origin := by
    unfold Lexer.input at hends ⊢
    split at hends
    · exact ⟨h, rfl⟩
    · exact h.forward _ rfl rfl rfl hends
  refine ⟨hanchored.1, fun located => ?_⟩
  unfold Located
  rw [hanchored.2]
  exact hlocation _ _ located

/-- Handing back the end of the text keeps a lexer anchored, and located if it was. The location
shrinks to the cursor behind what is kept. Its start stays, unless the cursor went back behind it:
this is why a start that was right stays right. -/
theorem Anchored.less (h : lexer.Anchored options source) (n : Nat) :
    (lexer.less n).Anchored options source ∧ (lexer.Located → (lexer.less n).Located) := by
  have htracking : lexer.options.trackPosition = true := by rw [h.governed]; exact h.tracking
  -- What is handed back is what was consumed last.
  have hsplit : lexer.consumed =
      (lexer.text.drop n).reverse ++ ((lexer.text.take n).reverse ++ lexer.origin) := by
    rw [← List.append_assoc, ← List.reverse_append, List.take_append_drop]
    exact h.last
  have hback : lexer.consumed.drop (lexer.text.drop n).length =
      (lexer.text.take n).reverse ++ lexer.origin := by
    conv_lhs => rw [hsplit, List.drop_left' List.length_reverse]
  have htext : (lexer.less n).text = lexer.text.take n := by
    show lexer.text.take (lexer.text.length - (lexer.text.drop n).length) = _
    rw [List.length_drop, List.take_eq_take_iff]
    omega
  have hconsumed : (lexer.less n).consumed = (lexer.less n).text.reverse ++ lexer.origin := by
    rw [htext]
    exact hback
  have horigin := origin_eq hconsumed
  have hexact : (lexer.less n).reader.Exact := (h.exact.backward _).replaceRest _
  have hwhole : (lexer.less n).reader.buffer.toList = source := by
    have hsource : lexer.consumed.reverse ++ lexer.rest = source := h.whole
    show (lexer.less n).consumed.reverse ++ (lexer.text.drop n ++ lexer.rest) = source
    rw [← hsource, hsplit, hconsumed, htext]
    simp only [List.reverse_append, List.reverse_reverse, List.append_assoc]
  have hlocation : ∀ start first, lexer.location = lexer.spanFrom start first →
      (lexer.less n).location = (lexer.less n).spanFrom
        (start.earlier (lexer.less n).position) (min first (lexer.less n).reader.cursor.charOffset) := by
    intro start first hlocation
    show (if lexer.options.trackPosition = true then shrink lexer.location _ else lexer.location) = _
    rw [if_pos htracking, hlocation]
    unfold shrink spanFrom position Lexer.options
    by_cases hranges : lexer.rules.options.ranges = true <;> simp [Lexer.less, Lexer.unput, hranges]
  refine ⟨⟨h.governed, h.tracking, hexact, hwhole, ?_, ?_⟩, fun located => ?_⟩
  · rw [horigin]
    exact hconsumed
  · obtain ⟨start, first, hstart⟩ := h.ends
    exact ⟨_, _, hlocation start first hstart⟩
  · have hreversed : (lexer.less n).consumed.reverse =
        lexer.origin.reverse ++ (lexer.less n).text := by
      rw [hconsumed, List.reverse_append, List.reverse_reverse]
    have hposition : (lexer.less n).position =
        Position.behind (lexer.origin.reverse ++ (lexer.less n).text) := by
      rw [← hreversed]
      exact hexact.position
    have hchars : (lexer.less n).reader.cursor.charOffset =
        (lexer.less n).text.length + lexer.origin.length := by
      have hcount : (lexer.less n).reader.cursor.charOffset = (lexer.less n).consumed.length :=
        hexact.charOffset
      rw [hcount, hconsumed, List.length_append, List.length_reverse]
    unfold Located
    rw [horigin, hlocation _ _ located, hposition, hchars, Position.earlier,
      if_pos (Position.behind_le _ _), Nat.min_eq_left (Nat.le_add_left _ _)]

/-- Operations that follow the text keep a lexer anchored, and located if it was. There is a case
for each operation that is allowed; a text of the host's own would break the tie between text and
input, and so would a new input. -/
theorem Anchored.perform (h : lexer.Anchored options source) {operation : Operation}
    (follows : operation.followsText = true) (performed : lexer.perform operation = .ok lexer') :
    lexer'.Anchored options source ∧ (lexer.Located → lexer'.Located) := by
  cases operation with
  | setInput input => cases follows
  | setText text => cases follows
  | reject => cases follows
  | unput text => cases follows
  | push condition =>
    simp only [Lexer.perform, pushCondition] at performed
    split at performed
    · cases performed
    · cases performed
      exact ⟨h.same rfl rfl (.inl rfl) (.inl rfl), fun located => located.same rfl rfl rfl rfl⟩
  | pop =>
    cases performed
    unfold popCondition
    split <;> exact ⟨h.same rfl rfl (.inl rfl) (.inl rfl), fun located => located.same rfl rfl rfl rfl⟩
  | keepMatch =>
    cases performed
    exact ⟨h.same rfl rfl (.inl rfl) (.inl rfl), fun located => located.same rfl rfl rfl rfl⟩
  | less n => cases performed; exact h.less n
  | input => cases performed; exact h.input

/-- Any number of them do so. -/
theorem Anchored.edits (h : lexer.Anchored options source)
    (edits : Edits (·.followsText = true) lexer lexer') :
    lexer'.Anchored options source ∧ (lexer.Located → lexer'.Located) :=
  edits.keeps (P := fun l => l.Anchored options source ∧ (lexer.Located → l.Located))
    (fun hfollows hperformed ⟨hanchored, hlocated⟩ =>
      have hkept := hanchored.perform hfollows hperformed
      ⟨hkept.1, fun located => hkept.2 (hlocated located)⟩)
    ⟨h, id⟩

/-! ## Matches -/

/-- Consuming a match keeps a lexer anchored. It is located then, unless it continues a match that
was not. Reference: `Lexer::test_match`. -/
theorem Anchored.consume (h : lexer.Anchored options source)
    (fresh : lexer.more = false → lexer.text = []) (length : Nat) :
    (lexer.consume length).Anchored options source ∧
      ((lexer.more = true → lexer.Located) → (lexer.consume length).Located) := by
  have htracking : lexer.options.trackPosition = true := by rw [h.governed]; exact h.tracking
  have hlocation : (lexer.consume length).location =
      lexer.matchLocation lexer.reader.cursor (lexer.reader.forward length).cursor := by
    show (if lexer.options.trackPosition = true then _ else _) = _
    rw [if_pos htracking]
  obtain ⟨hanchored, horigin⟩ :
      (lexer.consume length).Anchored options source ∧ (lexer.consume length).origin = lexer.origin :=
    h.forward length rfl rfl rfl ⟨_, _, hlocation⟩
  refine ⟨hanchored, fun located => ?_⟩
  unfold Located
  rw [hlocation, horigin]
  unfold matchLocation spanFrom
  cases hmore : lexer.more with
  | true =>
    -- The location goes on from where it starts.
    rw [located hmore]
    unfold spanFrom Lexer.options
    by_cases hranges : lexer.rules.options.ranges = true <;> simp [hranges, Lexer.consume, position]
  | false =>
    rw [origin_of_text (fresh hmore)]
    unfold consumed
    rw [← h.exact.position, ← h.exact.charOffset]
    rfl

/-- A scan begins with a lexer that is anchored, without a text if no match is to be continued. -/
theorem Anchored.begin (h : lexer.Anchored options source) :
    lexer.beginScan.activate.2.Anchored options source ∧
      (lexer.more = false → lexer.beginScan.activate.2.text = []) ∧
      ((lexer.more = true → lexer.Located) → lexer.more = true → lexer.beginScan.activate.2.Located) := by
  have htext : lexer.beginScan.activate.2.text = if lexer.more then lexer.text else [] := rfl
  refine ⟨h.same rfl rfl ?_ (.inl rfl), ?_, ?_⟩
  · rw [htext]
    split
    · exact .inl rfl
    · exact .inr rfl
  · intro hmore
    rw [htext, hmore]
    rfl
  · intro located hmore
    refine (located hmore).same rfl rfl ?_ rfl
    rw [htext, if_pos hmore]

/-- Taking back an end keeps a lexer anchored, and located if it was. -/
theorem Anchored.reopen (h : lexer.Anchored options source) :
    lexer.reopen.Anchored options source ∧ (lexer.Located → lexer.reopen.Located) := by
  unfold Lexer.reopen
  split
  · exact ⟨h.same rfl rfl (.inl rfl) (.inl rfl), fun located => located.same rfl rfl rfl rfl⟩
  · exact ⟨h, id⟩

/-- Unrecognized input that the lexer passes over by itself is located, unless a text was pending.
Reference: the forced `Lexer::input` in `Lexer::lex`. -/
theorem Anchored.skipUnit (h : lexer.Anchored options source) :
    lexer.skipUnit.Anchored options source ∧
      ((lexer.more = true → lexer.text = []) → lexer.skipUnit.Located) := by
  generalize hbare : ({ lexer with
    text := if lexer.more then lexer.text else []
    location := lexer.here } : Lexer) = bare
  have htext : bare.text = if lexer.more then lexer.text else [] := by rw [← hbare]
  have hlocation : bare.location = bare.here := by rw [← hbare]; rfl
  have hanchored : bare.Anchored options source := by
    refine h.same (by rw [← hbare]) (by rw [← hbare]) ?_ (.inr (by rw [← hbare]))
    rw [htext]
    split
    · exact .inl rfl
    · exact .inr rfl
  have hskipped : lexer.skipUnit = bare.input.2 := by rw [← hbare]; rfl
  rw [hskipped]
  refine ⟨hanchored.input.1, fun hpending => hanchored.input.2 (hanchored.located_here ?_ hlocation)⟩
  rw [htext]
  split
  · next hmore => exact hpending hmore
  · rfl

/-! ## Scans and searches -/

section
variable {τ ε φ : Type} {host : LexerHost τ ε φ} {t : τ}

/-- What is left of a lexer and the token that came out, if one did: the lexer is anchored and the token
ends where it is to. If all went well before, a match that is to be continued is located and the token is
in its place. -/
structure Keeps (options : LexerOptions) (source : List Char) (well : Prop) (lexer : Lexer)
    (token? : Option Token) : Prop where
  anchored : lexer.Anchored options source
  ends : ∀ token ∈ token?, token.Ends options.ranges lexer.consumed
  pending : well → lexer.more = true → lexer.Located
  spans : well → ∀ token ∈ token?, token.Spans options.ranges lexer.consumed

/-- A lexer from which no token came out is to be anchored, and located if all went well. -/
theorem Keeps.without {well : Prop} (anchored : lexer.Anchored options source)
    (pending : well → lexer.more = true → lexer.Located) : Keeps options source well lexer none :=
  ⟨anchored, nofun, pending, fun _ => nofun⟩

/-- The token of a lexer that is anchored, and located if all went well. -/
theorem Keeps.token {well : Prop} (anchored : lexer.Anchored options source)
    (located : well → lexer.Located) (symbol : SymbolId) :
    Keeps options source well lexer (some (lexer.token symbol)) where
  anchored := anchored
  ends _ hmem := Option.mem_some.mp hmem ▸ anchored.token_ends symbol
  pending hwell _ := located hwell
  spans hwell _ hmem := Option.mem_some.mp hmem ▸ anchored.token_spans (located hwell) symbol

/-- The token at the end of the input. -/
theorem Keeps.endToken {well : Prop} (anchored : lexer.Anchored options source)
    (pending : well → lexer.more = true → lexer.Located) :
    Keeps options source well lexer (some lexer.endToken) where
  anchored := anchored
  ends _ hmem := Option.mem_some.mp hmem ▸ anchored.endToken_spans.ends
  pending := pending
  spans _ _ hmem := Option.mem_some.mp hmem ▸ anchored.endToken_spans

/-- What is kept if all went well is kept if more than that went well. -/
theorem Keeps.imp {well well' : Prop} {token? : Option Token} (h : Keeps options source well lexer token?)
    (less : well' → well) : Keeps options source well' lexer token? :=
  ⟨h.anchored, h.ends, fun hwell => h.pending (less hwell), fun hwell => h.spans (less hwell)⟩

/-- What is kept does not depend on the counts. -/
theorem Keeps.countToken {well : Prop} {token? : Option Token}
    (h : Keeps options source well lexer token?) : Keeps options source well lexer.countToken token? :=
  ⟨h.anchored.same rfl rfl (.inl rfl) (.inl rfl), h.ends,
    fun hwell hmore => (h.pending hwell hmore).same rfl rfl rfl rfl, h.spans⟩

/-- The action of a rule keeps a lexer anchored, and located unless its match continues one that was
not. -/
theorem acted_anchored (follows : host.Performs (·.followsText = true)) {firing : Firing τ}
    (h : firing.lexer.Anchored options source)
    (fresh : firing.lexer.more = false → firing.lexer.text = []) {answer : Except ε (Option SymbolId)}
    (acted : firing.acted host = (answer, lexer', t)) :
    lexer'.rejected = false ∧ lexer'.Anchored options source ∧
      ((firing.lexer.more = true → firing.lexer.Located) → lexer'.Located) := by
  have hedits := Firing.edits_acted follows.action acted
  obtain ⟨hseen, hlocated⟩ := h.consume fresh firing.length
  obtain ⟨hanchored, hkept⟩ := Anchored.edits hseen hedits
  refine ⟨?_, hanchored, fun pending => hkept (hlocated pending)⟩
  refine hedits.keeps (P := (·.rejected = false)) (fun hfollows hperformed => ?_) rfl
  refine perform_rejected ?_ hperformed
  rintro rfl
  cases hfollows

/-- Trying candidates keeps what is to be kept. A rejected match restores the text and the location
together with the place, so that the next candidate starts as the first did. Reference: the loop
over the candidates in `Lexer::scan`. -/
theorem tryAll_anchored (follows : host.Performs (·.followsText = true)) (candidates : List Candidate)
    (h : lexer.Anchored options source) (fresh : lexer.more = false → lexer.text = []) :
    Keeps options source (lexer.more = true → lexer.Located) (tryAll host candidates lexer t).2.1
      (tryAll host candidates lexer t).1.token? := by
  cases candidates with
  | nil =>
    unfold tryAll unmatched
    dsimp only
    split
    · exact .endToken (h.same rfl rfl (.inl rfl) (.inl rfl))
        fun hwell hmore => (hwell hmore).same rfl rfl rfl rfl
    · exact .without h id
  | cons candidate others =>
    have hcomes := Firing.comes host lexer t candidate.1 candidate.2
    unfold tryAll
    generalize lexer.fire host t candidate.1 candidate.2 = fired at hcomes ⊢
    cases hcomes with
    | failed hacted =>
      obtain ⟨-, hanchored, hlocated⟩ := acted_anchored follows h fresh hacted
      exact .without hanchored fun hwell _ => hlocated hwell
    | rejected hacted hrejects =>
      obtain ⟨hkept, -, -⟩ := acted_anchored follows h fresh hacted
      rw [hkept] at hrejects
      cases hrejects
    | token hacted =>
      obtain ⟨-, hanchored, hlocated⟩ := acted_anchored follows h fresh hacted
      exact .token hanchored.reopen.1 (fun hwell => hanchored.reopen.2 (hlocated hwell)) _
    | stalled hacted =>
      obtain ⟨-, hanchored, hlocated⟩ := acted_anchored follows h fresh hacted
      exact .without hanchored.reopen.1 fun hwell _ => hanchored.reopen.2 (hlocated hwell)
    | skip hacted =>
      obtain ⟨-, hanchored, hlocated⟩ := acted_anchored follows h fresh hacted
      exact .without hanchored.reopen.1 fun hwell _ => hanchored.reopen.2 (hlocated hwell)

/-- A scan keeps what is to be kept. Reference: `Lexer::scan`. -/
theorem scan_anchored (follows : host.Performs (·.followsText = true))
    (h : lexer.Anchored options source) :
    Keeps options source (lexer.more = true → lexer.Located) (lexer.scan host t).2.1
      (lexer.scan host t).1.token? := by
  unfold scan
  split
  · exact .endToken h id
  · obtain ⟨hbegun, hfresh, hlocated⟩ := h.begin
    exact (tryAll_anchored follows _ hbegun hfresh).imp hlocated

/-- Whether unrecognized input, if a scan comes upon it, is passed over without harm to locations. The
lexer passes it over by itself where no text is pending; or the answer does while a match is to be
continued, or emits nothing and leaves no match to be continued. -/
def PassesSafely (host : LexerHost τ ε φ) (lexer : Lexer) (t : τ) : Prop :=
  ∀ info stuck t', lexer.scan host t = (.stuck info, stuck, t') →
    ∀ answer after t'', host.stuck info stuck (host.note (.unrecognized stuck.offset) t') =
      (answer, after, t'') →
    if after.leftAlone stuck then after.more = true → after.text = []
    else stuck.more = true ∨ after.more = false ∧ ∀ symbol, answer ≠ .ok (some symbol)

/-- Passing over unrecognized input keeps a lexer anchored; it is located behind it if it is to be,
as long as that is done without harm. Reference: the case of unmatched input in `Lexer::lex`. -/
theorem resolve_anchored (follows : host.Performs (·.followsText = true))
    (h : lexer.Anchored options source)
    {info : Unrecognized} {answer : Except φ (Option SymbolId)} {after : Lexer} {t' : τ}
    (answered : host.stuck info lexer (host.note (.unrecognized lexer.offset) t) = (answer, after, t')) :
    ∃ next, lexer.resolve host t info = (answer, next, t') ∧ next.Anchored options source ∧
      ((lexer.more = true → lexer.Located) →
        (if after.leftAlone lexer then after.more = true → after.text = []
          else lexer.more = true ∨ after.more = false ∧ ∀ symbol, answer ≠ .ok (some symbol)) →
        (next.more = true → next.Located) ∧ ∀ symbol, answer = .ok (some symbol) → next.Located) := by
  have hedits := follows.stuck info lexer (host.note (.unrecognized lexer.offset) t)
  rw [answered] at hedits
  obtain ⟨hanchored, hlocated⟩ := h.edits hedits
  have hresolved : lexer.resolve host t info =
      (answer, if after.leftAlone lexer then after.skipUnit else after, t') := by
    unfold resolve
    rw [answered]
  rw [hresolved]
  split
  · obtain ⟨hskipped, hplaced⟩ := hanchored.skipUnit
    exact ⟨_, rfl, hskipped, fun _ safely => ⟨fun _ => hplaced safely, fun _ _ => hplaced safely⟩⟩
  · refine ⟨_, rfl, hanchored, fun pending safely => ?_⟩
    rcases safely with hmore | ⟨hmore, hnone⟩
    · exact ⟨fun _ => hlocated (pending hmore), fun _ _ => hlocated (pending hmore)⟩
    · refine ⟨fun h => ?_, fun symbol hsymbol => absurd hsymbol (hnone symbol)⟩
      rw [hmore] at h
      cases h

/-- Whether a search goes well: it does not continue a match that is not located, and passes over
unrecognized input without harm. -/
def GoesWell (host : LexerHost τ ε φ) (limit : Nat) (lexer : Lexer) (t : τ) : Prop :=
  (lexer.more = true → lexer.Located) ∧
    ∀ begun ∈ lexer.scans host limit t, begun.1.PassesSafely host begun.2

/-- A search keeps what is to be kept. By induction on the scans; going well is handed on from each
scan to the search behind it. Reference: `Lexer::lex`. -/
theorem lex_anchored (follows : host.Performs (·.followsText = true)) (limit : Nat)
    (h : lexer.Anchored options source) :
    Keeps options source (lexer.GoesWell host limit t) (lexer.lex host limit t).2.1
      (lexer.lex host limit t).1.token? := by
  induction limit generalizing lexer t with
  | zero => exact .without h fun hwell => hwell.1
  | succ limit ih =>
    have hscanned := (scan_anchored (t := t) follows h).imp
      (fun hwell : lexer.GoesWell host (limit + 1) t => hwell.1)
    have hsafely : lexer.GoesWell host (limit + 1) t → lexer.PassesSafely host t :=
      fun hwell => hwell.2 (lexer, t) List.mem_cons_self
    have hothers : ∀ next t', lexer.next? host t = some (next, t') →
        (lexer.GoesWell host (limit + 1) t → next.more = true → next.Located) →
        lexer.GoesWell host (limit + 1) t → next.GoesWell host limit t' := by
      intro next t' hnext pending hwell
      refine ⟨pending hwell, fun begun hmem => hwell.2 begun ?_⟩
      unfold scans
      rw [hnext]
      exact List.mem_cons_of_mem _ hmem
    unfold PassesSafely at hsafely
    unfold next? at hothers
    simp only [lex]
    generalize lexer.scan host t = scanned at hscanned hsafely hothers ⊢
    obtain ⟨scan, next, t₁⟩ := scanned
    cases scan with
    | token token => exact hscanned.countToken
    | failed reason => exact hscanned
    | skip => exact (ih hscanned.anchored).imp (hothers next t₁ rfl hscanned.pending)
    | stuck info =>
      cases hanswered : host.stuck info next (host.note (.unrecognized next.offset) t₁) with
      | mk answer left =>
        obtain ⟨after, t₂⟩ := left
        obtain ⟨final, hresolved, hanchored, hlocated⟩ :=
          resolve_anchored follows hscanned.anchored hanswered
        have hfinal := fun hwell => hlocated (hscanned.pending hwell)
          (hsafely hwell info next t₁ rfl answer after t₂ hanswered)
        dsimp only at hothers ⊢
        rw [hresolved] at hothers ⊢
        rcases answer with reason | _ | symbol
        · exact .without hanchored fun hwell => (hfinal hwell).1
        · exact (ih hanchored).imp (hothers final t₂ rfl fun hwell => (hfinal hwell).1)
        · exact (Keeps.token hanchored (fun hwell => (hfinal hwell).2 symbol rfl) symbol).countToken

/-- Searches one behind the other keep a lexer anchored; a match that is to be continued behind them is
located if all of them went well. -/
theorem lexAll_anchored (follows : host.Performs (·.followsText = true)) (limits : List Nat)
    (h : lexer.Anchored options source) :
    (lexer.lexAll host limits t).2.1.Anchored options source ∧
      ((lexer.more = true → lexer.Located) →
        (∀ begun ∈ lexer.scansAll host limits t, begun.1.PassesSafely host begun.2) →
        (lexer.lexAll host limits t).2.1.more = true → (lexer.lexAll host limits t).2.1.Located) := by
  induction limits generalizing lexer t with
  | nil => exact ⟨h, fun pending _ => pending⟩
  | cons limit limits ih =>
    have hfirst := lex_anchored (t := t) follows limit h
    obtain ⟨hanchored, hlocated⟩ := ih (t := (lexer.lex host limit t).2.2) hfirst.anchored
    refine ⟨hanchored, fun pending safely => ?_⟩
    unfold scansAll at safely
    obtain ⟨hhere, hlater⟩ := List.forall_mem_append.mp safely
    exact hlocated (hfirst.pending ⟨pending, hhere⟩) hlater

/-- The text and the location of a token agree at the end, and at the start if unrecognized input
was passed over without harm. Let a lexer that tracks its position be set to an input, and let it
search for tokens any number of times under a host that follows the text. The input stays what it
is. The text of each token is the last of what is consumed when it comes out, and its location ends
with it. And the location is the place of that text if the scans of its search passed over
unrecognized input without harm, and those of the searches before as well, should they have left a
match to be continued. Reference: `Lexer::yytext` and `Lexer::yylloc`, as `Lexer::token` reads them.
-/
theorem tokens_span_their_text (host : LexerHost τ ε φ)
    (follows : host.Performs (·.followsText = true)) (lexer : Lexer)
    (tracking : lexer.options.trackPosition = true) (input : String) (earlier : List Nat) (limit : Nat)
    (t : τ) :
    let past := (lexer.setInput input).lexAll host earlier t
    let found := past.2.1.lex host limit past.2.2
    found.2.1.source = input ∧
    input.toList = found.2.1.consumed.reverse ++ found.2.1.rest ∧
    ∀ token, found.1 = .token token →
      token.Ends lexer.options.ranges found.2.1.consumed ∧
      ((past.2.1.more = true →
          ∀ begun ∈ (lexer.setInput input).scansAll host earlier t, begun.1.PassesSafely host begun.2) →
        (∀ begun ∈ past.2.1.scans host limit past.2.2, begun.1.PassesSafely host begun.2) →
        token.Spans lexer.options.ranges found.2.1.consumed) := by
  intro past found
  obtain ⟨hstart, hlocated⟩ := anchored_setInput tracking input
  obtain ⟨hpast, hpending⟩ := lexAll_anchored (t := t) follows earlier hstart
  obtain ⟨hanchored, hends, -, hspans⟩ := lex_anchored (t := past.2.2) follows limit hpast
  refine ⟨?_, hanchored.whole.symm, ?_⟩
  · exact (congrArg String.ofList hanchored.whole).trans String.ofList_toList
  · intro token hfound
    have hmem : token ∈ (past.2.1.lex host limit past.2.2).1.token? := congrArg Lexed.token? hfound
    refine ⟨hends token hmem, fun before here => hspans ⟨fun hmore => ?_, here⟩ token hmem⟩
    exact hpending (fun _ => hlocated) (before hmore) hmore

end

end Lexer

/-! ## Letters that are joined -/

namespace Script

/-- Whether a script passes over unrecognized input without harm, if a scan comes upon it. -/
def passes (script : Script) (lexer : Lexer) : Bool :=
  match lexer.scan script.host () with
  | (.stuck _, stuck, _) =>
    let after := stuck.performAll script.stuck.1
    if after.leftAlone stuck then !after.more || after.text.isEmpty
    else stuck.more || !after.more && script.stuck.2.isNone
  | _ => true

/-- A script that passes over unrecognized input does so without harm. -/
theorem passesSafely {script : Script} {lexer : Lexer} (h : script.passes lexer = true) :
    lexer.PassesSafely script.host () := by
  intro info stuck t' hscan answer after t'' hanswered
  obtain rfl : stuck.performAll script.stuck.1 = after := congrArg (·.2.1) hanswered
  obtain rfl : .ok script.stuck.2 = answer := congrArg (·.1) hanswered
  unfold passes at h
  rw [hscan] at h
  dsimp only at h
  split at h
  · next halone =>
    rw [if_pos halone]
    intro hmore
    simpa [hmore] using h
  · next halone =>
    rw [if_neg halone]
    simp only [Bool.or_eq_true, Bool.and_eq_true, Bool.not_eq_true', Option.isNone_iff_eq_none] at h
    rcases h with hmore | ⟨hmore, hnone⟩
    · exact .inl hmore
    · refine .inr ⟨hmore, fun symbol => ?_⟩
      rw [hnone]
      nofun

end Script

namespace Joining

/-- Two letters and line breaks, with spans in characters. -/
def rules : LexerRules :=
  (LexerRules.build { ranges := true } [.rule [] "a", .rule [] "b", .rule [] "\r\n"]).toOption.get
    (by decide +kernel)

/-- The first letter is kept for the next match. The second one is emitted after what follows was read and
handed back, line breaks are skipped, and what is not recognized is emitted as it is. -/
def script : Script where
  rule
    | 0 => ([.keepMatch], none)
    | 1 => ([.input, .less 2], some 3)
    | _ => ([], none)
  stuck := ([], some SymbolId.error)

/-- The script follows the text. -/
theorem script_followsText : script.host.Performs (·.followsText = true) := by
  refine Script.host_performs (fun rule => ?_) ?_
  · simp only [script]
    split <;> simp [Operation.followsText]
  · simp [script]

/-- The lexer at the start of an input. -/
def start (input : String) : Lexer := (Lexer.new rules).setInput input

/-- The lexer behind two letters that are joined, at the end of their line. -/
def behind : Lexer := ((start "ab\r\n#").lexAll script.host [9] ()).2.1

/-- Two letters are joined, and what is not recognized in the line below is emitted: both tokens are in
their places. -/
theorem joined_letters_are_placed :
    script.host.Performs (·.followsText = true) ∧ (Lexer.new rules).options.trackPosition = true ∧
    (((start "ab\r\n#").lexAll script.host [9] ()).1.filterMap Lexed.token?).map
        (fun token => (token.text, token.location)) =
      [("ab", ⟨⟨1, 0⟩, ⟨1, 2⟩, some (0, 2)⟩)] ∧
    (behind.lex script.host 9 ()).1.token?.map (fun token => (token.text, token.location)) =
      some ("#", ⟨⟨2, 0⟩, ⟨2, 1⟩, some (4, 5)⟩) ∧
    ∀ token, (behind.lex script.host 9 ()).1 = .token token →
      token.Spans true (behind.lex script.host 9 ()).2.1.consumed := by
  have htracking : (Lexer.new rules).options.trackPosition = true := by decide +kernel
  have hranges : (Lexer.new rules).options.ranges = true := by decide +kernel
  have hearlier : ∀ begun ∈ (start "ab\r\n#").scansAll script.host [9] (),
      script.passes begun.1 = true := by decide +kernel
  have hhere : ∀ begun ∈ behind.scans script.host 9 (), script.passes begun.1 = true := by
    decide +kernel
  refine ⟨script_followsText, htracking, by decide +kernel, by decide +kernel, ?_⟩
  obtain ⟨-, -, htokens⟩ := Lexer.tokens_span_their_text script.host script_followsText
    (Lexer.new rules) htracking "ab\r\n#" [9] 9 ()
  rw [hranges] at htokens
  intro token hfound
  exact (htokens token hfound).2
    (fun _ begun hmem => Script.passesSafely (hearlier begun hmem))
    (fun begun hmem => Script.passesSafely (hhere begun hmem))

/-- A letter that is kept and an unrecognized character behind it make one token. Its text begins
with the letter, but its location with the character. Reference: the forced `Lexer::input` in
`Lexer::lex`. -/
theorem kept_letter_is_misplaced :
    let found := (start "a#").lex script.host 9 ()
    script.host.Performs (·.followsText = true) ∧ (Lexer.new rules).options.trackPosition = true ∧
    found.2.1.source = "a#" ∧
    ∃ token, found.1 = .token token ∧ token.symbol = SymbolId.error ∧ token.text = "a#" ∧
      token.location = ⟨⟨1, 1⟩, ⟨1, 2⟩, some (1, 2)⟩ ∧ ¬ token.Spans true found.2.1.consumed := by
  intro found
  obtain ⟨token, hfound⟩ : ∃ token, found.1 = .token token := ⟨_, rfl⟩
  have hfields : found.1.token?.map (fun token => (token.symbol, token.text, token.location)) =
      some (SymbolId.error, "a#", ⟨⟨1, 1⟩, ⟨1, 2⟩, some (1, 2)⟩) := by decide +kernel
  have hconsumed : found.2.1.consumed = ['#', 'a'] := by decide +kernel
  rw [hfound] at hfields
  simp only [Lexed.token?_token, Option.map_some, Option.some.injEq, Prod.mk.injEq] at hfields
  obtain ⟨hsymbol, htext, hlocation⟩ := hfields
  refine ⟨script_followsText, by decide +kernel, by decide +kernel, token, hfound, hsymbol, htext,
    hlocation, ?_⟩
  rintro ⟨before, hsplit, hspan⟩
  rw [hconsumed, htext] at hsplit
  obtain rfl : before = [] := by
    have hlength := congrArg List.length hsplit
    rw [List.length_append] at hlength
    exact List.eq_nil_of_length_eq_zero (Nat.add_right_cancel (m := 2) hlength.symm)
  rw [hlocation, htext] at hspan
  exact absurd (congrArg Location.start hspan) (by decide)

end Joining

end ShiftReduce
