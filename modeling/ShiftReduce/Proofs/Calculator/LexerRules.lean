import ShiftReduce.Calculator.Language
import ShiftReduce.Proofs.Grammar.Built
import ShiftReduce.Proofs.Lexer.Choice
import ShiftReduce.Proofs.Pattern.Automata

/-!
# The rules of the calculator's lexer

What the calculator's lexer finds depends on a compiler only by what it makes of ten patterns. A compiler
that gives them their usual meaning (`Calculator.ReadsPatterns`) builds the rules under any options, and
they match what is meant (`Calculator.lexerRules_read`). `Pattern.compile` is one of these compilers: the
ten patterns have simple automata (`Calculator.readsPatterns_compile`). What is tried at a place of a text
is then known from the characters there: between tokens one rule matches at most, and within a comment
only its closing matches in two ways, the longer of which comes first.
-/

namespace ShiftReduce

/-- A map by a computation succeeds if the computation does for each element, and its results stand to the
elements as each one does. -/
theorem exists_mapM {α β ε : Type} {f : α → Except ε β} {P : α → β → Prop} {xs : List α}
    (h : ∀ x ∈ xs, ∃ y, f x = .ok y ∧ P x y) : ∃ ys, xs.mapM f = .ok ys ∧ List.Forall₂ P xs ys := by
  induction xs with
  | nil => exact ⟨[], rfl, .nil⟩
  | cons x xs ih =>
    obtain ⟨⟨y, hy, hholds⟩, hxs⟩ := List.forall_mem_cons.mp h
    obtain ⟨ys, hys, hall⟩ := ih hxs
    refine ⟨y :: ys, ?_, .cons hholds hall⟩
    rw [List.mapM_cons, hy, hys]
    rfl

namespace Calculator

/-! ## The meaning of the patterns -/

/-- The patterns of the rules as a compiler is handed them, in which the one for the end of the input is
an anchor. Reference: `lexer_data`. -/
def patterns : List String :=
  ["\\s+", "/\\*", "\\*/", "[^*]+", "\\*", "\\z", "[0-9]+", ";", "\\+", "-"]

/-- The number of characters at the start of a text that a rule matches, as its pattern is meant: the
longest run of blanks, of digits or of characters beside stars, one or two given characters, or the end
of the text. -/
def lengthAt (rest : List Char) : RuleId → Option Nat
  | Rule.blanks =>
    if rest.head?.any Text.isBlank then some (rest.takeWhile Text.isBlank).length else none
  | Rule.commentOpen =>
    if rest.head?.any (· == '/') && rest.tail.head?.any (· == '*') then some 2 else none
  | Rule.commentClose =>
    if rest.head?.any (· == '*') && rest.tail.head?.any (· == '/') then some 2 else none
  | Rule.commentText => if rest.head?.any (· != '*') then some (rest.takeWhile (· != '*')).length else none
  | Rule.commentStar => if rest.head?.any (· == '*') then some 1 else none
  | Rule.commentEnd => if rest.isEmpty then some 0 else none
  | Rule.number =>
    if rest.head?.any Char.isDigit then some (rest.takeWhile Char.isDigit).length else none
  | Rule.semicolon => if rest.head?.any (· == ';') then some 1 else none
  | Rule.plusSign => if rest.head?.any (· == '+') then some 1 else none
  | Rule.minusSign => if rest.head?.any (· == '-') then some 1 else none
  | _ => none

/-- A compiler that gives the ten patterns their usual meaning, whether or not it ignores case: it accepts
each, and the finder goes by the text ahead as `lengthAt` says, whatever stands before. This is all that
the laws of the calculator assume of a compiler. -/
def ReadsPatterns (compile : PatternCompiler) : Prop :=
  ∀ rule pattern, patterns[rule]? = some pattern → ∀ ignoreCase, ∃ finder,
    compile pattern ignoreCase = .ok finder ∧
    ∀ before rest, finder.length? before rest = lengthAt rest rule

/-! ## The rules under a choice of options -/

/-- The condition between tokens, with the rules that are active in it in their order. Reference:
`INITIAL` of `lexer_data`. -/
def betweenTokens : Condition :=
  ⟨initialCondition, true, [Rule.blanks, Rule.commentOpen, Rule.number, Rule.semicolon, Rule.plusSign,
    Rule.minusSign]⟩

/-- The condition within a comment, with the rules that are active in it in their order. Reference:
`COMMENT` of `lexer_data`. -/
def insideComment : Condition :=
  ⟨commentCondition, false, [Rule.commentClose, Rule.commentText, Rule.commentStar, Rule.commentEnd]⟩

/-- Rules that match what the calculator's patterns mean, in its two conditions. -/
structure Reads (options : LexerOptions) (rules : LexerRules) : Prop where
  chosen : rules.options = options
  conditions : rules.conditions = [betweenTokens, insideComment]
  lengths : ∀ rule before rest, rules.matchLength? rule before rest = lengthAt rest rule

/-- A compiler is handed the ten patterns under all options. No pattern is a bare word, so that easy
keywords make no difference. -/
theorem written_patterns (options : LexerOptions) :
    ∀ rule ∈ (lexerDeclarations.filterMap (·.rule?)).zipIdx,
      patterns[rule.2]? = some (LexerRule.written options rule.1.2) := by
  have hwords : ∀ rule ∈ (lexerDeclarations.filterMap (·.rule?)).zipIdx,
      rule.1.2.toList.all Text.isWord = false := by decide +kernel
  have hplain : ∀ rule ∈ (lexerDeclarations.filterMap (·.rule?)).zipIdx,
      patterns[rule.2]? = some (LexerRule.written {} rule.1.2) := by decide +kernel
  intro rule hmem
  rw [hplain rule hmem]
  simp only [LexerRule.written, hwords rule hmem, Bool.and_false, Bool.false_eq_true, if_false]

section
variable {compile : PatternCompiler} {options : LexerOptions} {rules : LexerRules}

/-- A compiler that reads the patterns as they are meant builds the rules. The declarations name no
condition that is not declared, so building the rules can only fail over a pattern; each rule finds
what its pattern means, since options do not change that (`written_patterns`). -/
theorem lexerRules_built (reads : ReadsPatterns compile) (options : LexerOptions) :
    ∃ rules, lexerRules options compile = .ok rules ∧ Reads options rules := by
  have hdeclared : ∀ rule ∈ (lexerDeclarations.filterMap (·.rule?)).zipIdx,
      LexerDeclaration.undeclared? (LexerDeclaration.conditionsOf lexerDeclarations) rule.1.1 = none := by
    decide +kernel
  have hrules : ∀ rule ∈ (lexerDeclarations.filterMap (·.rule?)).zipIdx, ∃ made,
      LexerRule.build compile options (LexerDeclaration.conditionsOf lexerDeclarations) rule.2 rule.1.1
        rule.1.2 = .ok made ∧
      ∀ before rest, made.finder.length? before rest = lengthAt rest rule.2 := by
    intro rule hmem
    obtain ⟨finder, hcompiled, hlengths⟩ :=
      reads rule.2 _ (written_patterns options rule hmem) options.caseInsensitive
    refine ⟨⟨rule.1.2, finder⟩, ?_, hlengths⟩
    simp only [LexerRule.build, hcompiled, hdeclared rule hmem]
    rfl
  obtain ⟨made, hmade, hall⟩ := exists_mapM hrules
  refine ⟨⟨options, [betweenTokens, insideComment], made⟩, bind_eq_ok.mpr ⟨made, hmade, rfl⟩, rfl, rfl,
    fun rule before rest => ?_⟩
  obtain ⟨hlength, hlengths⟩ := List.forall₂_iff_get.mp hall
  show (made[rule]?.bind fun rule => rule.finder.length? before rest) = _
  by_cases hrule : rule < made.length
  · have hholds := hlengths rule (hlength ▸ hrule) hrule before rest
    simp only [List.get_eq_getElem, List.getElem_zipIdx, Nat.zero_add] at hholds
    rw [List.getElem?_eq_getElem hrule, Option.bind_some, hholds]
  · have hten : made.length = 10 := hlength.symm
    obtain ⟨n, rfl⟩ := Nat.exists_eq_add_of_le' (hten ▸ Nat.le_of_not_lt hrule)
    rw [List.getElem?_eq_none (Nat.le_of_not_lt hrule)]
    rfl

/-- The rules that it builds match what the patterns mean. -/
theorem lexerRules_read (reads : ReadsPatterns compile) (built : lexerRules options compile = .ok rules) :
    Reads options rules := by
  obtain ⟨rules', hbuilt, hreads⟩ := lexerRules_built reads options
  rwa [Except.ok.inj (built.symm.trans hbuilt)]

end

/-! ## The automata of the patterns -/

/-- The characters that stand in comments beside stars, line breaks included. Reference: the pattern
of `RULE_COMMENT_TEXT`. -/
def commentChars : CharSet := (CharSet.single '*').compl

/-- The automata of the patterns, in the order of the rules, as `Pattern.compile` lays them out. -/
def automata : List Automaton :=
  [.run .blank, .two (.single '/') (.single '*'), .two (.single '*') (.single '/'), .run commentChars,
   .one (.single '*'), .finish, .run (.span '0' '9'), .one (.single ';'), .one (.single '+'),
   .one (.single '-')]

theorem mem_single_eq (c d : Char) : (CharSet.single d).mem c = (c == d) := by
  rw [Bool.eq_iff_iff, CharSet.mem_single, beq_iff_eq]

theorem mem_digits (c : Char) : (CharSet.span '0' '9').mem c = c.isDigit := by
  rw [Bool.eq_iff_iff]
  simp only [CharSet.mem, CharSet.span, CharSet.range, CodePoints.contains, Char.isDigit, ge_iff_le,
    UInt32.le_iff_toNat_le, Bool.and_eq_true, decide_eq_true_eq, Bool.or_false]
  show (if c.toNat < 48 then false else decide (c.toNat ≤ 57)) = true ↔ 48 ≤ c.toNat ∧ c.toNat ≤ 57
  split
  · simp; omega
  · simp; omega

theorem mem_commentChars (c : Char) : commentChars.mem c = (c != '*') := by
  have hranges : commentChars.ranges = [(0, 41), (43, 1114111)] := by decide +kernel
  have hlast : c.toNat ≤ 1114111 := by
    have hvalid := c.valid
    simp only [UInt32.isValidChar, Nat.isValidChar] at hvalid
    show c.val.toNat ≤ 1114111
    omega
  have hstar : c = '*' ↔ c.toNat = 42 := Char.toNat_inj.symm
  rw [Bool.eq_iff_iff, bne_iff_ne, ne_eq, hstar]
  simp only [CharSet.mem, hranges, CodePoints.contains]
  rw [if_neg (Nat.not_lt_zero _)]
  split
  · simp; omega
  · simp; omega

/-- The automata match what the patterns mean, whatever stands before. -/
theorem matchLength?_automata {rule : RuleId} {a : Automaton} (h : automata[rule]? = some a)
    (before rest : List Char) : a.matchLength? before rest = lengthAt rest rule := by
  have hsingle : ∀ d, (CharSet.single d).mem = (· == d) := fun d => funext fun c => mem_single_eq c d
  have hone := fun d => Automaton.matchLength?_one (.single d) before rest
  have htwo := fun d d' => Automaton.matchLength?_two (.single d) (.single d') before rest
  have hdigits := Automaton.matchLength?_run (.span '0' '9') before rest
  have htext := Automaton.matchLength?_run commentChars before rest
  simp only [hsingle, funext mem_digits, funext mem_commentChars] at hone htwo hdigits htext
  match rule with
  | Rule.blanks => cases h; exact Automaton.matchLength?_run .blank before rest
  | Rule.commentOpen => cases h; exact htwo '/' '*'
  | Rule.commentClose => cases h; exact htwo '*' '/'
  | Rule.commentText => cases h; exact htext
  | Rule.commentStar => cases h; exact hone '*'
  | Rule.commentEnd => cases h; exact Automaton.matchLength?_finish before rest
  | Rule.number => cases h; exact hdigits
  | Rule.semicolon => cases h; exact hone ';'
  | Rule.plusSign => cases h; exact hone '+'
  | Rule.minusSign => cases h; exact hone '-'
  | n + 10 => cases h

/-- The compiler that runs gives the patterns their usual meaning. -/
theorem readsPatterns_compile : ReadsPatterns Pattern.compile := by
  have hautomata : ∀ ignoreCase : Bool,
      patterns.map (fun pattern => (Pattern.automaton pattern ignoreCase).toOption) =
        automata.map some := by
    decide +kernel
  intro rule pattern hpattern ignoreCase
  have hrule := congrArg (·[rule]?) (hautomata ignoreCase)
  simp only [List.getElem?_map, hpattern, Option.map_some] at hrule
  obtain ⟨a, hmem, ha⟩ := Option.map_eq_some_iff.mp hrule.symm
  refine ⟨a.finder, ?_, matchLength?_automata hmem⟩
  unfold Pattern.compile
  cases hcompiled : Pattern.automaton pattern ignoreCase with
  | error fault =>
    rw [hcompiled] at ha
    cases ha
  | ok found =>
    rw [hcompiled] at ha
    cases ha
    rfl

/-! ## What is tried -/

/-- The candidates of a condition at the start of a text, in order. -/
def candidatesAt (condition : Condition) (rest : List Char) : List Candidate :=
  condition.rules.filterMap fun rule => (lengthAt rest rule).map (rule, ·)

section
variable {options : LexerOptions} {lexer : Lexer} {condition : Condition} {c : Char} {cs : List Char}

/-- The candidates of a lexer are those at the start of the text ahead. -/
theorem candidates_eq (reads : Reads options lexer.rules) (condition : Condition) :
    lexer.candidates condition = candidatesAt condition lexer.rest := by
  unfold Lexer.candidates candidatesAt
  refine congrArg (condition.rules.filterMap ·) (funext fun rule => ?_)
  rw [Lexer.candidate?, reads.lengths]

/-- The first candidate is tried if none is longer. -/
theorem choice?_of_candidates {first : Candidate} {others : List Candidate}
    (reads : Reads options lexer.rules)
    (found : candidatesAt condition lexer.rest = first :: others)
    (longest : ∀ other ∈ others, other.2 ≤ first.2) : lexer.choice? condition = some first := by
  have hfold : others.foldl (fun best other => if best.2 < other.2 then other else best) first =
      first := by
    clear found
    induction others with
    | nil => rfl
    | cons other others ih =>
      obtain ⟨hother, hothers⟩ := List.forall_mem_cons.mp longest
      rw [List.foldl_cons, if_neg (Nat.not_lt.mpr hother)]
      exact ih hothers
  unfold Lexer.choice?
  rw [candidates_eq reads, found]
  split
  · exact congrArg some hfold
  · rfl

/-- Nothing is tried without candidates. -/
theorem choice?_of_no_candidates (reads : Reads options lexer.rules)
    (found : candidatesAt condition lexer.rest = []) : lexer.choice? condition = none := by
  unfold Lexer.choice?
  rw [candidates_eq reads, found]
  split <;> rfl

/-- A blank is neither a digit nor the start of another match. -/
theorem not_of_blank (blank : Text.isBlank c = true) :
    c.isDigit = false ∧ c ≠ '/' ∧ c ≠ ';' ∧ c ≠ '+' ∧ c ≠ '-' := by
  refine ⟨?_, ?_, ?_, ?_, ?_⟩
  · rw [← mem_digits]
    simp only [Text.isBlank, Text.blankTable, CodePoints.contains, Bool.or_false] at blank
    simp only [CharSet.mem, CharSet.span, CharSet.range, CodePoints.contains, Bool.or_false]
    show (if c.toNat < 48 then false else decide (c.toNat ≤ 57)) = false
    split at blank
    · cases blank
    · split
      · rfl
      · by_cases h : c.toNat ≤ 57
        · have h₁ : ¬ c.toNat ≤ 13 := by omega
          have h₂ : ¬ c.toNat ≤ 32 := by omega
          have h₃ : ¬ c.toNat < 32 := by omega
          have h₄ : c.toNat < 133 := by omega
          simp [h₁, h₂, h₃, h₄] at blank
        · exact decide_eq_false h
  all_goals rintro rfl; exact absurd blank (by decide)

/-- A digit is no start of another match. -/
theorem not_of_digit (digit : c.isDigit = true) : c ≠ '/' ∧ c ≠ ';' ∧ c ≠ '+' ∧ c ≠ '-' := by
  refine ⟨?_, ?_, ?_, ?_⟩ <;> rintro rfl <;> exact absurd digit (by decide)

/-- The candidates between tokens, rule by rule. -/
theorem candidatesAt_between (rest : List Char) :
    candidatesAt betweenTokens rest = [0, 1, 6, 7, 8, 9].filterMap fun rule =>
      (lengthAt rest rule).map (rule, ·) := rfl

/-- The candidates within a comment, rule by rule. -/
theorem candidatesAt_inside (rest : List Char) :
    candidatesAt insideComment rest = [2, 3, 4, 5].filterMap fun rule =>
      (lengthAt rest rule).map (rule, ·) := rfl

/-- At a blank the run of blanks is tried. -/
theorem candidatesAt_blank (blank : Text.isBlank c = true) :
    candidatesAt betweenTokens (c :: cs) =
      [(Rule.blanks, ((c :: cs).takeWhile Text.isBlank).length)] := by
  obtain ⟨hdigit, hslash, hsemicolon, hplus, hminus⟩ := not_of_blank blank
  simp [candidatesAt_between, lengthAt, blank, hdigit, hslash, hsemicolon, hplus,
    hminus, Rule.blanks]

/-- At a digit the number is tried. -/
theorem candidatesAt_digit (blank : Text.isBlank c = false) (digit : c.isDigit = true) :
    candidatesAt betweenTokens (c :: cs) =
      [(Rule.number, ((c :: cs).takeWhile Char.isDigit).length)] := by
  obtain ⟨hslash, hsemicolon, hplus, hminus⟩ := not_of_digit digit
  simp [candidatesAt_between, lengthAt, blank, digit, hslash, hsemicolon, hplus,
    hminus, Rule.number]

/-- At the start of a comment its opening is tried. -/
theorem candidatesAt_open :
    candidatesAt betweenTokens ('/' :: '*' :: cs) = [(Rule.commentOpen, 2)] := rfl

theorem candidatesAt_semicolon : candidatesAt betweenTokens (';' :: cs) = [(Rule.semicolon, 1)] := rfl

theorem candidatesAt_plus : candidatesAt betweenTokens ('+' :: cs) = [(Rule.plusSign, 1)] := rfl

theorem candidatesAt_minus : candidatesAt betweenTokens ('-' :: cs) = [(Rule.minusSign, 1)] := rfl

/-- At another character nothing is tried. -/
theorem candidatesAt_stray (blank : Text.isBlank c = false) (digit : c.isDigit = false)
    (opening : ¬ (c = '/' ∧ cs.head? = some '*')) (semicolon : c ≠ ';') (plus : c ≠ '+')
    (minus : c ≠ '-') : candidatesAt betweenTokens (c :: cs) = [] := by
  have hopening : (c == '/' && cs.head?.any (· == '*')) = false := by
    cases cs <;> simp_all
  simp [candidatesAt_between, lengthAt, blank, digit, hopening, semicolon, plus,
    minus]

/-- At the end of a comment its closing is tried, with the star alone behind it. -/
theorem candidatesAt_close :
    candidatesAt insideComment ('*' :: '/' :: cs) = [(Rule.commentClose, 2), (Rule.commentStar, 1)] :=
  rfl

/-- At a star that does not end the comment the star is tried. -/
theorem candidatesAt_star (goesOn : cs.head? ≠ some '/') :
    candidatesAt insideComment ('*' :: cs) = [(Rule.commentStar, 1)] := by
  have hgoes : cs.head?.any (· == '/') = false := by
    cases cs <;> simp_all
  simp [candidatesAt_inside, lengthAt, hgoes, Rule.commentStar]

/-- At another character of a comment its text is tried up to a star. -/
theorem candidatesAt_text (other : c ≠ '*') :
    candidatesAt insideComment (c :: cs) =
      [(Rule.commentText, ((c :: cs).takeWhile (· != '*')).length)] := by
  simp [candidatesAt_inside, lengthAt, other, Rule.commentText]

end

end Calculator

end ShiftReduce
