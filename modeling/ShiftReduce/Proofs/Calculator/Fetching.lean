import ShiftReduce.Proofs.Calculator.Machine
import ShiftReduce.Proofs.Lexer.Spans

/-!
# What the calculator's parser fetches

A parser that asks its lexer for a token gets that of the first lexeme in front of it, with a text of its
kind (`Calculator.supplied_reading`), or else the parse ends with a lexical error or a comment that does
not end (`Calculator.fetch_finds`). Where positions are tracked each token ends behind those before it, so
that no two of them are the same (`Calculator.InFront`).

A token that is fetched later is another one than those before it, where positions are tracked,
because it ends further on (`Calculator.not_stop_le`). An engine tells tokens apart by all that they
hold, so this is what keeps one token from being taken for another in the record of a recovery.
-/

namespace ShiftReduce

/-- A text with more behind it, up to a character that breaks no line, ends behind the text. -/
theorem Position.not_behind_le (text more : List Char) {c : Char} (plain : ¬ (c = '\r' ∨ c = '\n')) :
    ¬ Position.behind (text ++ more ++ [c]) ≤ Position.behind text := by
  have hmore := Position.behind_le text more
  have hcolumn : Cursor.Advance.of (text ++ more).reverse c ≠ .lineBreak := by
    unfold Cursor.Advance.of
    rw [if_neg fun h => plain (.inl h), if_neg fun h => plain (.inr h)]
    nofun
  unfold Position.behind at hmore ⊢
  rw [Text.lineBreaks_concat, Text.lastColumn_concat, if_neg hcolumn, if_neg plain]
  rw [Position.le_def] at hmore ⊢
  dsimp only at hmore ⊢
  omega

namespace Calculator

/-! ## Kinds of tokens -/

/-- A text of digits, one at least, as the rule for numbers matches it. -/
def IsNumeral (text : String) : Prop := text.toList ≠ [] ∧ ∀ c ∈ text.toList, c.isDigit = true

/-- A token that stands for an item, with a text of its kind. -/
inductive IsToken : SymbolId × String → Prop
  | number (text : String) (numeral : IsNumeral text) : IsToken (Terminal.number, text)
  | sign {c : Char} {symbol : SymbolId} (sign : sign? c = some symbol) :
      IsToken (symbol, String.ofList [c])
  | stray (c : Char) : IsToken (SymbolId.error, String.ofList [c])

section
variable {bare : SymbolId × String}

/-- Such a token is a terminal. -/
theorem IsToken.terminal (h : IsToken bare) : bare.1 < grammarTable.terminalCount := by
  cases h with
  | number => exact show 6 < 7 by decide
  | sign sign =>
    unfold sign? at sign
    split at sign <;> cases sign
    · exact show 3 < 7 by decide
    · exact show 4 < 7 by decide
    · exact show 5 < 7 by decide
  | stray => exact show 2 < 7 by decide

/-- The text of a number is one of digits. -/
theorem IsToken.numeral (h : IsToken bare) (number : bare.1 = Terminal.number) : IsNumeral bare.2 := by
  cases h with
  | number text numeral => exact numeral
  | sign sign =>
    unfold sign? at sign
    split at sign <;> cases sign <;> cases number
  | stray => cases number

/-- The last character of its text breaks no line, unless it is an error token. -/
theorem IsToken.ends (h : IsToken bare) (proper : bare.1 ≠ SymbolId.error) :
    ∃ start c, bare.2.toList = start ++ [c] ∧ ¬ (c = '\r' ∨ c = '\n') := by
  cases h with
  | number text numeral =>
    obtain ⟨hsome, hdigits⟩ := numeral
    refine ⟨_, _, (List.dropLast_append_getLast hsome).symm, ?_⟩
    have hdigit := hdigits _ (List.getLast_mem hsome)
    rintro (h | h) <;> rw [h] at hdigit <;> exact absurd hdigit (by decide)
  | @sign c symbol sign =>
    refine ⟨[], c, String.toList_ofList, ?_⟩
    rintro (rfl | rfl) <;> cases sign
  | stray c => exact absurd rfl proper

theorem commented_bare (others : List Found) :
    (commented others).map (·.lexeme.bare) = others.map (·.lexeme.bare) := by
  cases others <;> rfl

/-- The lexemes of a text stand for tokens with texts of their kinds, up to the end of what can be read
of it. -/
theorem supplied_reading (cs : List Char) :
    Scene.Supplied IsToken ((reading cs).map (·.lexeme.bare)) := by
  fun_induction reading cs with
  | case1 => exact .last
  | case2 c cs blank ih => exact ih
  | case3 c cs blank digit ih =>
    refine .item (.number _ ⟨?_, ?_⟩) ih
    · rw [String.toList_ofList]
      exact List.cons_ne_nil _ _
    · rw [String.toList_ofList]
      exact List.forall_mem_cons.mpr ⟨digit, List.all_eq_true.mp List.all_takeWhile⟩
  | case4 c cs blank digit opening rest ends ih =>
    rw [commented_bare]
    exact ih
  | case5 c cs blank digit opening ends => exact .last
  | case6 c cs blank digit opening symbol sign ih => exact .item (.sign sign) ih
  | case7 c cs blank digit opening sign ih => exact .item (.stray c) ih

/-- Where nothing comes behind a token, it is the last one. -/
theorem Scene.Supplied.end_of_nil {good : SymbolId × String → Prop} (h : Supplied good [bare]) :
    bare = (SymbolId.endOfInput, "") := by
  cases h with
  | last => rfl
  | item holds others => cases others

end

/-! ## Lexers in front of a text -/

/-- A lexer in front of a text. Where positions are tracked the tokens seen end behind the text that was
consumed, or before that. -/
structure InFront (options : LexerOptions) (source : List Char) (limit : Nat) (seen : List Token)
    (cs : List Char) (lexer : Lexer) : Prop where
  here : At options .between cs lexer
  enough : cs.length < limit
  placed : options.trackPosition = true → lexer.Anchored options source ∧
    ∀ t ∈ seen, t.location.stop ≤ Position.behind lexer.consumed.reverse

/-- Sessions that show the same of a parse: the stack, the tokens ahead, the recovery and the
skipped texts. -/
structure ShowsAs (s s' : Session Context Value) : Prop where
  stack : s'.stack = s.stack
  lookahead : s'.lookahead = s.lookahead
  held : s'.held = s.held
  recovering : s'.recovering = s.recovering
  record : s'.record = s.record
  skipped : s'.user.skipped = s.user.skipped

section
variable {options : LexerOptions} {source cs cs' : List Char} {limit : Nat} {seen : List Token}
  {lexer lexer' : Lexer} {e : Engine Context Value Fault} {c : Config Context Value} {t : Token}
  {found : Found} {others : List Found}

/-- A lexer that goes on in the same text has consumed more. -/
theorem consumed_more (before : lexer.Anchored options source) (after : lexer'.Anchored options source)
    (rest : lexer.rest = cs) (rest' : lexer'.rest = cs') (le : cs'.length ≤ cs.length)
    (other : cs' ≠ cs) :
    ∃ more, more ≠ [] ∧ lexer'.consumed.reverse = lexer.consumed.reverse ++ more := by
  have hwhole : lexer.consumed.reverse ++ cs = lexer'.consumed.reverse ++ cs' := by
    rw [← rest, ← rest']
    exact before.whole.trans after.whole.symm
  obtain ⟨more, hmore, hcs⟩ | ⟨more, hmore, hcs⟩ := List.append_eq_append_iff.mp hwhole
  · refine ⟨more, ?_, hmore⟩
    rintro rfl
    exact other hcs.symm
  · have hnil : more = [] := by
      rw [hcs, List.length_append] at le
      exact List.eq_nil_of_length_eq_zero (by omega)
    rw [hnil] at hcs
    exact absurd hcs other

/-- A token that ends with what was consumed ends behind that. -/
theorem stop_of_ends {ranges : Bool} {consumed : List Char} (h : t.Ends ranges consumed) :
    t.location.stop = Position.behind consumed.reverse := by
  obtain ⟨front, start, first, hconsumed, hlocation⟩ := h
  rw [hlocation, hconsumed]

/-- A token ends further on than a text that was consumed before it. -/
theorem not_stop_le {consumed before more : List Char} (token : IsToken t.bare)
    (proper : t.symbol ≠ SymbolId.error) {ranges : Bool} (ends : t.Ends ranges consumed)
    (further : consumed.reverse = before ++ more) (some : more ≠ []) :
    ¬ t.location.stop ≤ Position.behind before := by
  obtain ⟨start, c, htext, hplain⟩ := token.ends proper
  have htext : t.text.toList = start ++ [c] := htext
  rw [stop_of_ends ends]
  obtain ⟨front, -, -, hconsumed, -⟩ := ends
  -- The last character consumed is the last one of the token's text.
  have hgetLast : more.getLast? = Option.some c := by
    rw [← List.getLast?_append_of_ne_nil before some, ← further, hconsumed, htext,
      ← List.append_assoc, List.getLast?_concat]
  obtain ⟨first, rfl⟩ := List.getLast?_eq_some_iff.mp hgetLast
  rw [further, ← List.append_assoc]
  exact Position.not_behind_le _ _ hplain

/-! ## What a fetch leaves alone -/

/-- The rules of the lexer leave the texts that were skipped alone. -/
theorem skipped_ruleAction (rule : RuleId) (lexer : Lexer) (context : Context) :
    (ruleAction rule lexer context).2.2.skipped = context.skipped := by
  unfold ruleAction
  split
  case h_4 => split <;> rfl
  all_goals rfl

/-- So does the verdict on an error. -/
theorem skipped_judge (runs : e.actions = actions) (info : ErrorInfo Value)
    (s : Session Context Value) : (e.judge info s).2.user.skipped = s.user.skipped := by
  rw [e.judge_user, runs]
  rfl

/-- A verdict shows nothing. -/
theorem showsAs_judge (runs : e.actions = actions) (info : ErrorInfo Value)
    (s : Session Context Value) : ShowsAs s (e.judge info s).2 := by
  have hskipped := skipped_judge runs info s
  obtain ⟨user, journal, hs, -⟩ := e.judge_session info s
  rw [hs] at hskipped ⊢
  exact ⟨rfl, rfl, rfl, rfl, rfl, hskipped⟩

theorem skipped_answerStuck (runs : e.actions = actions) (info : Unrecognized)
    (s : Session Context Value) : (e.answerStuck info s).2.user.skipped = s.user.skipped := by
  have hjudged := skipped_judge runs (.ofUnrecognized e.table s.stack info)
    (s.count fun stats => { stats with errors := stats.errors + 1 })
  unfold Engine.answerStuck
  dsimp only
  generalize e.judge _ _ = judged at hjudged ⊢
  obtain ⟨_ | _ | _, s'⟩ := judged <;> exact hjudged

/-- A fetch shows nothing but the token: the stack and the record stay as they are while the lexer
searches. Reference: `Parser::fetch`. -/
theorem showsAs_fetch (runs : e.actions = actions) {c' : Config Context Value}
    (h : e.fetch c = .ok (t, c')) : ShowsAs c.session c'.session := by
  have hkeeps : e.lexerHost.Keeps fun s => s.user.skipped = c.session.user.skipped := by
    refine ⟨fun _ _ kept => kept, fun rule lexer s kept => ?_⟩
    rw [Engine.lexerHost_action, runs]
    exact (skipped_ruleAction rule lexer s.user).trans kept
  have hanswers : ∀ info lexer s, (e.lexerHost.stuck info lexer s).1 ≠ .ok none := fun _ _ _ h =>
    nomatch (Engine.answerStuck_ok (Engine.answerStuck_of_stuck (Prod.ext h rfl))).2
  have hend := Lexer.lex_ends hkeeps hanswers e.scanLimit c.lexer (t := c.session) rfl
  have hskipped : c'.session.user.skipped = c.session.user.skipped := by
    unfold Engine.fetch at h
    generalize c.lexer.lex e.lexerHost e.scanLimit c.session = searched at h hend
    obtain ⟨_ | _ | _, lexer, s⟩ := searched <;> cases h
    cases hend with
    | token kept => exact kept
    | answered kept stuck =>
      have hanswered := skipped_answerStuck (e := e) runs
      have hstuck := Engine.answerStuck_of_stuck stuck
      exact (hstuck ▸ hanswered _ _).trans kept
  obtain ⟨lexer, s⟩ := c'
  cases Engine.fetch_ok h <;> exact ⟨rfl, rfl, rfl, rfl, rfl, hskipped⟩

/-! ## What a fetch finds -/

/-- The parser's lexer follows the text with its match: it enters and leaves comments alone. -/
theorem lexerHost_followsText (runs : e.actions = actions) :
    e.lexerHost.Performs (·.followsText = true) where
  action rule lexer s := by
    rw [Engine.lexerHost_action, runs]
    show Lexer.Edits _ lexer (ruleAction rule lexer s.user).2.1
    unfold ruleAction
    split
    case h_4 =>
      split
      · next hpushed => exact .single ⟨.push commentCondition, rfl, hpushed⟩
      · exact .refl
    case h_5 => exact .single ⟨.pop, rfl, rfl⟩
    all_goals exact .refl
  stuck _ _ _ := .refl

/-- A lexer that gives a token is in front of the text behind it, and the token is a new one. -/
theorem InFront.next (front : InFront options source limit seen cs lexer)
    (here : At options .between cs' lexer') (le : cs'.length ≤ cs.length) (other : cs' ≠ cs)
    (token : IsToken t.bare)
    (ends : options.trackPosition = true →
      lexer'.Anchored options source ∧ t.Ends options.ranges lexer'.consumed) :
    InFront options source limit (t :: seen) cs' lexer' ∧
      (options.trackPosition = true → t.symbol ≠ SymbolId.error → t ∉ seen) := by
  refine ⟨⟨here, Nat.lt_of_le_of_lt le front.enough, fun tracked => ?_⟩, fun tracked proper => ?_⟩
  all_goals
    obtain ⟨hanchored, hseen⟩ := front.placed tracked
    obtain ⟨hanchored', hends⟩ := ends tracked
    obtain ⟨more, hsome, hmore⟩ :=
      consumed_more hanchored hanchored' front.here.rest here.rest le other
  · refine ⟨hanchored', List.forall_mem_cons.mpr ⟨?_, fun old hold => ?_⟩⟩
    · rw [stop_of_ends hends]
      exact Position.le_refl _
    · rw [hmore]
      exact Position.le_trans (hseen old hold) (Position.behind_le _ _)
  · exact fun hmem => not_stop_le token proper hends hmore hsome (hseen t hmem)

/-- The first token of a text that does not end there is a token with a text of its kind. -/
theorem isToken_of_reading (reads : reading cs = found :: others) (some : others ≠ []) :
    IsToken found.lexeme.bare := by
  have hsupplied := supplied_reading cs
  rw [reads, List.map_cons] at hsupplied
  generalize found.lexeme.bare = bare, hrest : others.map (·.lexeme.bare) = rest at hsupplied
  cases hsupplied with
  | last => exact absurd (List.map_eq_nil_iff.mp hrest) some
  | item holds others => exact holds

/-- A fetch gets the token of the first lexeme in front of the lexer, or else the parse ends for want of
one. -/
theorem fetch_finds (runs : e.actions = actions)
    (front : InFront options source e.scanLimit seen cs c.lexer) :
    ∃ found others, reading cs = found :: others ∧
      ((∃ t c', e.fetch c = .ok (t, c') ∧ t.bare = found.lexeme.bare ∧ ShowsAs c.session c'.session ∧
          (options.trackPosition = true → t.symbol ≠ SymbolId.endOfInput →
            t.symbol ≠ SymbolId.error → t ∉ seen) ∧
          (others ≠ [] → ∃ cs', InFront options source e.scanLimit (t :: seen) cs' c'.lexer ∧
            reading cs' = others)) ∨
        ∃ halt, e.fetch c = .error halt ∧ Scene.Unsupplied halt.stop) := by
  obtain ⟨found, others, hreading, hfinds⟩ :=
    lex_finds (lexerHost_calculates runs) .between front.enough c.lexer c.session front.here
  have hreading : reading cs = found :: others := hreading
  refine ⟨found, others, hreading, ?_⟩
  have hgives := hfinds.gives
  have hahead := hfinds.ahead
  have hkeeps := fun tracked => Lexer.lex_anchored (t := c.session) (lexerHost_followsText runs)
    e.scanLimit (front.placed tracked).1
  have hshows : ∀ t c', e.fetch c = .ok (t, c') → ShowsAs c.session c'.session :=
    fun _ _ fetched => showsAs_fetch runs fetched
  unfold Engine.fetch at hshows ⊢
  generalize c.lexer.lex e.lexerHost e.scanLimit c.session = searched at hgives hahead hkeeps hshows
  obtain ⟨result, lexer', s'⟩ := searched
  cases result with
  | token t =>
    have hbare := hgives.readable.2
    have hnext : others ≠ [] → (∃ cs', InFront options source e.scanLimit (t :: seen) cs' lexer' ∧
        reading cs' = others) ∧
        (options.trackPosition = true → t.symbol ≠ SymbolId.error → t ∉ seen) := by
      intro hothers
      obtain ⟨cs', hat, hreading', hle⟩ := hahead hothers
      have htoken := isToken_of_reading hreading hothers
      rw [← hbare] at htoken
      have hother : cs' ≠ cs := by
        rintro rfl
        exact List.ne_cons_self (hreading'.symm.trans hreading)
      obtain ⟨hfront, hfresh⟩ := front.next hat hle hother htoken fun tracked =>
        ⟨(hkeeps tracked).anchored, (hkeeps tracked).ends t rfl⟩
      exact ⟨⟨cs', hfront, hreading'⟩, hfresh⟩
    refine .inl ⟨t, _, rfl, hbare, hshows t _ rfl, fun tracked hinput => ?_, fun hothers =>
      (hnext hothers).1⟩
    refine (hnext ?_).2 tracked
    rintro rfl
    have hsupplied := supplied_reading cs
    rw [hreading, List.map_cons, ← hbare] at hsupplied
    exact hinput (congrArg Prod.fst hsupplied.end_of_nil)
  | failed stop =>
    refine .inr ⟨_, rfl, ?_⟩
    show Scene.Unsupplied stop
    generalize found.lexeme = lexeme at hgives
    cases hgives with
    | refused _ _ refused =>
      obtain ⟨info, rfl⟩ := refused
      exact .unrecognized info
    | unclosed => exact .unclosed _
  | exhausted =>
    generalize found.lexeme = lexeme at hgives
    cases hgives

end

end Calculator

end ShiftReduce
