import ShiftReduce.Proofs.Calculator.Construction
import ShiftReduce.Proofs.Calculator.Evaluation
import ShiftReduce.Proofs.Calculator.Scanning

/-!
# The calculator gives the answer

Whatever tokens the calculator's lexer turns an input into, the calculator comes to the answer that the
items they stand for have, whatever its discard count is (`Calculator.answer_of_tokens`). The lexemes of
the input are those that the lexer finds on its own (`Calculator.lexemes_of_run`), so that the parser's
lexer supplies the same tokens (`Calculator.supplies_of_reading`), from which the parser is led to the
answer.

What is said of an input is split in two parts that meet in its lexemes: the lexer on its own finds
them (`Calculator.lexemes_of_run`), and a parser's lexer supplies them whatever the parser does in
between (`Calculator.supplies_of_reading`).
-/

namespace ShiftReduce

deriving instance DecidableEq for Lexed

namespace Calculator

/-- The symbol and the text of the token for a lexeme. A comment that does not end has none. -/
def Lexeme.bare : Lexeme → SymbolId × String
  | .token symbol text => (symbol, String.ofList text)
  | .stray c => (SymbolId.error, String.ofList [c])
  | .finish | .unclosed => (SymbolId.endOfInput, "")

/-- A lexeme that a lexer with these options makes a token of. -/
def Lexeme.Readable (options : LexerOptions) : Lexeme → Prop
  | .token _ _ | .finish => True
  | .stray _ => options.errorsRecoverable = true
  | .unclosed => False

section
variable {τ φ : Type} {host : LexerHost τ Fault φ} {seen : τ → Context}
  {refuses : Unrecognized → φ → Prop} {options : LexerOptions} {cs : List Char} {lexer : Lexer}
  {limit : Nat} {found : Found} {others : List Found}

/-- A lexeme that can be read gives its token. -/
theorem Lexeme.Gives.of_readable {lexeme : Lexeme} {result : Lexed φ} (readable : lexeme.Readable options)
    (gives : lexeme.Gives host refuses options result) :
    ∃ token, result = .token token ∧ token.bare = lexeme.bare := by
  cases gives with
  | token is reads => exact ⟨_, rfl, Prod.ext is reads⟩
  | tolerated recoverable is reads => exact ⟨_, rfl, Prod.ext is reads⟩
  | refused unrecoverable => exact absurd readable (by simp [Lexeme.Readable, unrecoverable])
  | finish is reads => exact ⟨_, rfl, Prod.ext is reads⟩
  | unclosed => exact readable.elim

/-- A token comes from a lexeme that can be read. -/
theorem Lexeme.Gives.readable {lexeme : Lexeme} {token : Token}
    (gives : lexeme.Gives host refuses options (.token token)) :
    lexeme.Readable options ∧ token.bare = lexeme.bare := by
  cases gives with
  | token is reads => exact ⟨trivial, Prod.ext is reads⟩
  | tolerated recoverable is reads => exact ⟨recoverable, Prod.ext is reads⟩
  | finish is reads => exact ⟨trivial, Prod.ext is reads⟩

/-! ## The parser's lexer -/

/-- A parser with the calculator's actions runs its lexer as the calculator does. Unrecognized input that
is not tolerated is a lexical error. -/
theorem lexerHost_calculates {e : Engine Context Value Fault} (runs : e.actions = actions) :
    e.lexerHost.Calculates (·.user) fun _ stop => ∃ error, stop = .failed (.lexical error) where
  action rule lexer s := by
    rw [Engine.lexerHost_action, runs]
    exact ⟨_, rfl, rfl⟩
  note _ _ := rfl
  stuck info lexer s := by
    rw [Engine.lexerHost_stuck]
    refine ⟨_, _, rfl, ?_⟩
    generalize hinfo : ErrorInfo.ofUnrecognized e.table s.stack info = error
    generalize hcounted : (s.count fun stats => { stats with errors := stats.errors + 1 }) = counted
    have hverdict : (e.judge error counted).1 = standardVerdict error := by
      rw [e.judge_verdict, Actions.verdict, runs]
      rfl
    have hcomments : (e.judge error counted).2.user.comments = s.user.comments := by
      rw [e.judge_user, runs, ← hcounted]
      rfl
    have hrecoverable : error.recoverable = info.recoverable := by
      rw [← hinfo]
      rfl
    have hlexical : error.kind = .lexical := by
      rw [← hinfo]
      rfl
    unfold Engine.answerStuck
    simp only [hinfo, hcounted]
    generalize e.judge error counted = judged at hverdict hcomments
    obtain ⟨verdict, s'⟩ := judged
    subst hverdict
    unfold standardVerdict
    rw [hrecoverable]
    cases info.recoverable with
    | true => exact ⟨hcomments, rfl⟩
    | false =>
      refine ⟨hcomments, _, rfl, error, ?_⟩
      rw [ParseError.ofInfo, hlexical]

/-- The parser's lexer supplies the tokens for the lexemes of a text that can all be read. By
induction on the lexemes, each of which is found by one search (`lex_finds`) whatever the state of
the actions is; so the parser may recover or report an error in between. -/
theorem supplies_of_reading {e : Engine Context Value Fault} (runs : e.actions = actions)
    (h : At options .between cs lexer) (enough : cs.length < e.scanLimit)
    (readable : ∀ found ∈ reading cs, found.lexeme.Readable options) :
    e.Supplies ((reading cs).map (·.lexeme.bare)) lexer := by
  generalize hall : reading cs = all at readable ⊢
  induction all generalizing cs lexer with
  | nil => trivial
  | cons found others ih =>
    intro s
    obtain ⟨hfound, hothers⟩ := List.forall_mem_cons.mp readable
    obtain ⟨found', others', hreading, hfinds⟩ :=
      lex_finds (lexerHost_calculates runs) .between enough lexer s h
    obtain ⟨rfl, rfl⟩ := List.cons.inj (hreading.symm.trans hall)
    obtain ⟨token, hresult, hbare⟩ := hfinds.gives.of_readable hfound
    have hahead := hfinds.ahead
    unfold Engine.fetch
    generalize lexer.lex e.lexerHost e.scanLimit s = searched at hresult hahead
    obtain ⟨result, lexer', s'⟩ := searched
    cases hresult
    refine ⟨token, _, rfl, hbare, ?_⟩
    cases others' with
    | nil => trivial
    | cons next others' =>
      obtain ⟨cs', hat, hreading', hle⟩ := hahead (List.cons_ne_nil _ _)
      exact ih hat (Nat.lt_of_le_of_lt hle enough) hreading' hothers

/-! ## The lexer on its own -/

/-- The first lexeme of a whole text is an item with others behind it, or else the last one. -/
theorem Whole.item_or_end (h : Whole (found :: others)) :
    IsItem found.lexeme.bare ∧ others ≠ [] ∨
      found.lexeme.bare = (SymbolId.endOfInput, "") ∧ others = [] := by
  have hmore : ∀ {others : List Found}, Whole others → others ≠ [] := by
    rintro others hothers rfl
    cases hothers
  cases h with
  | finish => exact .inr ⟨rfl, rfl⟩
  | unclosed => exact .inr ⟨rfl, rfl⟩
  | number opened text rest => exact .inl ⟨.number _, hmore rest⟩
  | sign opened sign rest =>
    refine .inl ⟨?_, hmore rest⟩
    unfold sign? at sign
    split at sign <;> cases sign
    · exact .semicolon _
    · exact .sign .plus _
    · exact .sign .minus _
  | stray opened c rest => exact .inl ⟨.fault _, hmore rest⟩

/-- A token that a lexer finds stands for the first lexeme ahead: an item, behind which the lexer goes on,
or the end of the text. -/
theorem At.lex_token (h : At options .between cs lexer) (enough : cs.length < limit)
    (t : Context × List LexerEvent) {token : Token}
    (result : (lexer.lex (.alone ruleAction) limit t).1 = .token token) :
    ∃ found, found.lexeme.Readable options ∧ found.lexeme.bare = token.bare ∧
      ((IsItem token.bare ∧ ∃ cs', At options .between cs' (lexer.lex (.alone ruleAction) limit t).2.1 ∧
          cs'.length ≤ cs.length ∧ reading cs = found :: reading cs') ∨
        token.bare = (SymbolId.endOfInput, "") ∧ reading cs = [found]) := by
  obtain ⟨found, others, hreading, hfinds⟩ :=
    lex_finds LexerHost.alone_calculates .between enough lexer t h
  have hreading : reading cs = found :: others := hreading
  obtain ⟨hreadable, hbare⟩ := (result ▸ hfinds.gives).readable
  refine ⟨found, hreadable, hbare.symm, ?_⟩
  have hwhole := reading_whole cs
  rw [hreading] at hwhole
  rw [hbare]
  obtain ⟨item, hothers⟩ | ⟨hend, rfl⟩ := hwhole.item_or_end
  · obtain ⟨cs', hat, rfl, hle⟩ := hfinds.ahead hothers
    exact .inl ⟨item, cs', hat, hle, hreading⟩
  · exact .inr ⟨hend, hreading⟩

/-- The tokens that a lexer finds up to the end of a text stand for its lexemes. By induction on the
tokens. A token stands for the first lexeme of the text that is left, and only the last one is the
end of the input, so that the text is read to its end. -/
theorem lexemes_of_run {tokens : List Token} {last : Token} (h : At options .between cs lexer)
    (enough : cs.length < limit) (t : Context × List LexerEvent)
    (lexes : (lexer.lexAll (.alone ruleAction) (List.replicate (tokens.length + 1) limit) t).1 =
      tokens.map .token ++ [.token last])
    (ends : last.symbol = SymbolId.endOfInput)
    (inner : ∀ token ∈ tokens, token.symbol ≠ SymbolId.endOfInput) :
    (reading cs).map (·.lexeme.bare) = supply (tokens.map Token.bare) ∧
      (∀ found ∈ reading cs, found.lexeme.Readable options) ∧ ∀ token ∈ tokens, IsItem token.bare := by
  induction tokens generalizing cs lexer t with
  | nil =>
    obtain ⟨found, hreadable, hbare, hcase⟩ := h.lex_token enough t (List.cons.inj lexes).1
    obtain ⟨item, -⟩ | ⟨hend, hreading⟩ := hcase
    · exact absurd ends item.input
    · rw [hreading]
      exact ⟨congrArg ([·]) (hbare.trans hend), List.forall_mem_singleton.mpr hreadable, nofun⟩
  | cons token tokens ih =>
    obtain ⟨hresult, hrest⟩ := List.cons.inj lexes
    obtain ⟨hproper, hinner⟩ := List.forall_mem_cons.mp inner
    obtain ⟨found, hreadable, hbare, hcase⟩ := h.lex_token enough t hresult
    obtain ⟨item, cs', hat, hle, hreading⟩ | ⟨hend, -⟩ := hcase
    · obtain ⟨hlexemes, hall, hitems⟩ := ih hat (Nat.lt_of_le_of_lt hle enough) _ hrest hinner
      rw [hreading]
      refine ⟨?_, List.forall_mem_cons.mpr ⟨hreadable, hall⟩,
        List.forall_mem_cons.mpr ⟨item, hitems⟩⟩
      rw [List.map_cons, hbare, hlexemes]
      rfl
    · exact absurd (congrArg Prod.fst hend) hproper

end

/-! ## Answers -/

/-- The outcome of a parse that is an answer: its lines, the fault of the first action that fails,
or a syntax error at the end of the input. Reference: the results of `CalcParser::parse`. -/
inductive Answers : Except Refusal Lines → Engine.Outcome Lines (ParseError Value Fault) → Prop
  | lines (lines : Lines) : Answers (.ok lines) (.value lines)
  | misfit (production : ProductionId) (fault : Fault) :
      Answers (.error (.misfit production fault)) (.failed (.action (.production production) fault))
  | unfinished (info : ErrorInfo Value) :
      Answers (.error .unfinished) (.failed (.syntactic info))

/-- A parse that ends with a reply has that for its outcome. -/
theorem answers_of_replies {replied : Except Refusal Lines} {stop : Stop Value Fault}
    (h : Replies replied stop) : Answers replied (linesOf (.ofStop stop)) := by
  match replied with
  | .ok lines =>
    obtain rfl := h
    exact .lines lines
  | .error (.misfit production fault) =>
    obtain rfl := h
    exact .misfit production fault
  | .error .unfinished =>
    obtain ⟨info, rfl⟩ := h
    exact .unfinished info

/-- From the items that a lexer supplies, a parse comes to the answer. -/
theorem replies_of_supplies {discardCount scanLimit fuel : Nat} {bares : List (SymbolId × String)}
    (items : ∀ bare ∈ bares, IsItem bare) (enough : stepsFor bares ≤ fuel)
    (c : Config Context Value) (input : String)
    (supplies : (evaluator discardCount scanLimit).Supplies (supply bares) (c.reset input).lexer) :
    Replies (answer (bares.map Item.of))
      ((evaluator discardCount scanLimit).run fuel (c.reset input)).stop := by
  have hfits : Outline.Fits (evaluator discardCount scanLimit)
      ⟨[bottom], none, none, 0, none, supply bares⟩ (c.reset input) :=
    ⟨rfl, rfl, rfl, rfl, rfl, supplies⟩
  have hquiet := (evaluator discardCount scanLimit).quietCount_pos
  have hreplies := (resolves discardCount scanLimit items).1 .fresh (Nat.zero_le _) (fun _ => hquiet)
    (c.reset input) hfits fuel enough
  have hreply : reply [] .start (bares.map Item.of) = answer (bares.map Item.of) := by
    rw [reply_eq_answer]
    cases answer (bares.map Item.of) <;> rfl
  rwa [hreply] at hreplies

/-- Whatever tokens the lexer turns an input into, up to the end of the input, a calculator comes to
the answer to the items that they stand for, whatever its discard count is and whatever it has
parsed before. Its patterns may be read by any compiler that gives them their usual meaning.
Reference: `CalcParser::parse`. -/
theorem answer_of_tokens {compile : PatternCompiler} {options : LexerOptions} {calculator : Calculator}
    {limit : Nat} (usual : ReadsPatterns compile) (built : parseTable = .ok calculator.table)
    (governed : lexerRules options compile = .ok calculator.config.lexer.rules) (input : String)
    (context alone : Context) (enough : input.length < limit) (tokens : List Token) (last : Token)
    (lexes : (((Lexer.new calculator.config.lexer.rules).setInput input).lexAll (.alone ruleAction)
      (List.replicate (tokens.length + 1) limit) (alone, [])).1 = tokens.map .token ++ [.token last])
    (ends : last.symbol = SymbolId.endOfInput)
    (inner : ∀ token ∈ tokens, token.symbol ≠ SymbolId.endOfInput) :
    Answers (answer (tokens.map fun token => .of token.bare)) (calculator.parse input context).1 := by
  have hreads : Reads options calculator.config.lexer.rules := lexerRules_read usual governed
  have hengine : calculator.engine input.length =
      evaluator calculator.discardCount (scanLimit input.length) := by
    unfold Calculator.engine evaluator
    rw [Except.ok.inj (built.symm.trans parseTable_eq)]
  have hnew : Reads options (Lexer.new calculator.config.lexer.rules).rules := hreads
  obtain ⟨hlexemes, hreadable, hitems⟩ :=
    lexemes_of_run (at_setInput hnew input) enough (alone, []) lexes ends inner
  have hsteps : stepsFor (tokens.map Token.bare) ≤ stepLimit input.length := by
    have hlength : (tokens.map Token.bare).length + 1 ≤ input.length + 1 := by
      have hle := length_reading input.toList
      rwa [← List.length_map (·.lexeme.bare), hlexemes, supply, List.length_append] at hle
    unfold stepsFor stepLimit
    omega
  have hsupplies : (evaluator calculator.discardCount (scanLimit input.length)).Supplies
      (supply (tokens.map Token.bare)) (calculator.config.lexer.setInput input) := by
    rw [← hlexemes]
    refine supplies_of_reading rfl (at_setInput hreads input) ?_ hreadable
    show input.length < input.length + 8
    omega
  have hreplies := replies_of_supplies (List.forall_mem_map.mpr hitems) hsteps
    (calculator.config.update fun session => { session with user := context }) input hsupplies
  rw [List.map_map] at hreplies
  unfold Calculator.parse
  rw [hengine]
  exact answers_of_replies hreplies

/-- What a lexer finds in two lines with errors and one without. -/
def errorLines : List (Lexed (LexError Fault)) :=
  (((Lexer.new tolerant.config.lexer.rules).setInput "1+;?3;4-6;").lexAll (.alone ruleAction)
    (List.replicate 11 11) ({}, [])).1

/-- The tokens among the results of searches, in their order; failures are left out. -/
def tokensOf (results : List (Lexed (LexError Fault))) : List Token :=
  results.filterMap fun
    | .token token => some token
    | _ => none

/-- The lines with errors have no results; the one behind them has. -/
theorem error_lines_have_no_results :
    (tokensOf errorLines).map (·.symbol) =
        [Terminal.number, Terminal.plusSign, Terminal.semicolon, SymbolId.error, Terminal.number,
          Terminal.semicolon, Terminal.number, Terminal.minusSign, Terminal.number, Terminal.semicolon,
          SymbolId.endOfInput] ∧
      (tolerant.parse "1+;?3;4-6;" {}).1 = .value [none, none, some (-2)] := by
  have hgoverned : lexerRules { errorsRecoverable := true } = .ok tolerant.config.lexer.rules :=
    (build_rules new_tolerant).1
  have hlexes : errorLines = (tokensOf errorLines).dropLast.map .token ++
      [.token ((tokensOf errorLines).getLastD default)] := by
    decide +kernel
  have hanswer : answer ((tokensOf errorLines).dropLast.map fun token => .of token.bare) =
      .ok [none, none, some (-2)] := by
    decide +kernel
  have hanswers := answer_of_tokens readsPatterns_compile (build_table new_tolerant) hgoverned
    "1+;?3;4-6;" {} {} (by decide : _ < 11) (tokensOf errorLines).dropLast ((tokensOf errorLines).getLastD default) hlexes
    (by decide +kernel) (by decide +kernel)
  rw [hanswer] at hanswers
  generalize (tolerant.parse "1+;?3;4-6;" {}).1 = outcome at hanswers ⊢
  cases hanswers
  exact ⟨by decide +kernel, rfl⟩

end Calculator

end ShiftReduce
