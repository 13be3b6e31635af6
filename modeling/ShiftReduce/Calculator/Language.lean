import ShiftReduce.Grammar.Builder
import ShiftReduce.Lexer.Rules

/-!
# The language of the calculator

An input is a list of lines, each a sum ended by a semicolon:

    list -> list line | <empty>
    line -> expr ';' | error ';'
    expr -> expr '+' NUM | expr '-' NUM | NUM

A line with an error is skipped up to its semicolon. Comments stand between a slash with a star and a
star with a slash; they are read in a start condition of their own.
-/

namespace ShiftReduce.Calculator

/-! ## Terminals -/

namespace Terminal

/-- The semicolon that ends a line. Reference: `SEMI`. -/
@[match_pattern] def semicolon : SymbolId := 3

/-- The plus sign between two numbers. Reference: `PLUS`. -/
@[match_pattern] def plusSign : SymbolId := 4

/-- The minus sign between two numbers. Reference: `MINUS`. -/
@[match_pattern] def minusSign : SymbolId := 5

/-- A number; its value is its text until a reduction reads it. Reference: `NUM`. -/
@[match_pattern] def number : SymbolId := 6

end Terminal

/-! ## Productions -/

namespace Production

/-- A list and one more line. Reference: `prod::LIST_APPEND`. -/
@[match_pattern] def listAppend : ProductionId := 1

/-- The empty list, before the first line. Reference: `prod::LIST_EMPTY`. -/
@[match_pattern] def listEmpty : ProductionId := 2

/-- A line with a sum. Reference: `prod::LINE_EXPR`. -/
@[match_pattern] def lineExpr : ProductionId := 3

/-- A line with an error, skipped up to its semicolon. Reference: `prod::LINE_ERROR`. -/
@[match_pattern] def lineError : ProductionId := 4

/-- A sum and one more number. Reference: `prod::EXPR_ADD`. -/
@[match_pattern] def exprAdd : ProductionId := 5

/-- A sum less one number. Reference: `prod::EXPR_SUB`. -/
@[match_pattern] def exprSub : ProductionId := 6

/-- A number alone. Reference: `prod::EXPR_NUM`. -/
@[match_pattern] def exprNumber : ProductionId := 7

end Production

/-- The grammar and its automaton. States 3, 4, 6, 7, 10 and 11 reduce by default, and no default is
derived. Reference: `grammar_table`. -/
def declarations : List Declaration :=
  [.terminal "';'", .terminal "'+'", .terminal "'-'", .terminal "NUM",
   .nonterminal "list", .nonterminal "line", .nonterminal "expr",
   .describe "NUM" "number",
   .production "list" 2, .production "list" 0,
   .production "line" 2, .production "line" 2,
   .production "expr" 3, .production "expr" 3, .production "expr" 1,
   -- State 0: nothing is read.
   .reduce 0 "$end" 2, .reduce 0 "error" 2, .reduce 0 "NUM" 2, .goto 0 "list" 1,
   -- State 1: behind the lines of a list.
   .accept 1, .shift 1 "error" 2, .shift 1 "NUM" 3, .goto 1 "line" 4, .goto 1 "expr" 5,
   -- State 2: behind an error.
   .shift 2 "';'" 6,
   -- State 3: behind the first number of a line; state 4: behind a line.
   .defaultReduce 3 7, .defaultReduce 4 1,
   -- State 5: behind a sum.
   .shift 5 "';'" 7, .shift 5 "'+'" 8, .shift 5 "'-'" 9,
   -- States 6 and 7: behind a semicolon.
   .defaultReduce 6 4, .defaultReduce 7 3,
   -- States 8 and 9: behind a sign; states 10 and 11: behind the number after it.
   .shift 8 "NUM" 10, .shift 9 "NUM" 11, .defaultReduce 10 5, .defaultReduce 11 6]

/-- The parse table that the declarations describe. Reference: `grammar_table`. -/
def parseTable : Except GrammarError Table := Table.build declarations

/-! ## Lexer rules -/

/-- The start condition of comments, exclusive: only its own rules are active in it. Reference:
`COMMENT`. -/
def commentCondition : String := "COMMENT"

namespace Rule

/-- Blanks between tokens. Reference: `RULE_WHITESPACE`. -/
@[match_pattern] def blanks : RuleId := 0

/-- The opening of a comment. Reference: `RULE_COMMENT_OPEN`. -/
@[match_pattern] def commentOpen : RuleId := 1

/-- The closing of a comment. Reference: `RULE_COMMENT_CLOSE`. -/
@[match_pattern] def commentClose : RuleId := 2

/-- Text in a comment without a star. Reference: `RULE_COMMENT_TEXT`. -/
@[match_pattern] def commentText : RuleId := 3

/-- A star in a comment that does not close it. Reference: `RULE_COMMENT_STAR`. -/
@[match_pattern] def commentStar : RuleId := 4

/-- The end of the input in a comment, a fault. Reference: `RULE_COMMENT_EOF`. -/
@[match_pattern] def commentEnd : RuleId := 5

/-- A number. Reference: `RULE_NUMBER`. -/
@[match_pattern] def number : RuleId := 6

/-- A semicolon. Reference: `RULE_SEMI`. -/
@[match_pattern] def semicolon : RuleId := 7

/-- A plus sign. Reference: `RULE_PLUS`. -/
@[match_pattern] def plusSign : RuleId := 8

/-- A minus sign. Reference: `RULE_MINUS`. -/
@[match_pattern] def minusSign : RuleId := 9

end Rule

/-- The start condition and the rules of the lexer, in the order of their numbers in `Rule`.
Reference: `lexer_data`. -/
def lexerDeclarations : List LexerDeclaration :=
  [.condition commentCondition false,
   .rule [] "\\s+",
   .rule [] "/\\*",
   .rule [commentCondition] "\\*/",
   .rule [commentCondition] "[^*]+",
   .rule [commentCondition] "\\*",
   .rule [commentCondition] endPattern,
   .rule [] "[0-9]+",
   .rule [] ";",
   .rule [] "\\+",
   .rule [] "-"]

/-- The lexer rules under a choice of options. What becomes of the ten patterns is up to a compiler.
Reference: `lexer_data`. -/
def lexerRules (options : LexerOptions) (compile : PatternCompiler := Pattern.compile) :
    Except GrammarError LexerRules :=
  LexerRules.build options lexerDeclarations compile

end ShiftReduce.Calculator
