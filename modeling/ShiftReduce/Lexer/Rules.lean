import ShiftReduce.Grammar.Error
import ShiftReduce.Grammar.Symbol
import ShiftReduce.Pattern.Compiler

/-!
# Lexer rules and start conditions

The rules of a lexer are patterns, each active in some of the lexer's start conditions. They are built
from a list of declarations: a rule without conditions is active in every inclusive condition, a rule
declared for `*` in every condition, and any other rule in the conditions it names, as often as it
names them. It does not matter where in the list a condition is declared.
-/

namespace ShiftReduce

/-- The choices a lexer is built with. Reference: `LexerOptions`. -/
structure LexerOptions where
  /-- A rule's action may reject its match, so that the next rule is tried. -/
  backtrack : Bool := false
  /-- The longest match wins, not the first rule that matches. -/
  longestMatch : Bool := false
  /-- Locations carry the span in characters. -/
  ranges : Bool := false
  /-- Locations follow the matches. -/
  trackPosition : Bool := true
  /-- A rule that is a bare word matches whole words only. -/
  easyKeywords : Bool := false
  /-- Patterns ignore case. -/
  caseInsensitive : Bool := false
  /-- Unrecognized input becomes an error token. -/
  errorsRecoverable : Bool := false
deriving Repr, DecidableEq, Inhabited

/-- The condition in which every lexer begins. Reference: `INITIAL`. -/
def initialCondition : String := "INITIAL"

/-- The pattern that matches at the end of the input alone. Reference: `EOF_PATTERN`. -/
def endPattern : String := "<<EOF>>"

/-- A rule: its pattern as written, and what the compiler made of it. Reference: `LexerRule`. -/
structure LexerRule where
  source : String
  finder : Finder

/-- A start condition and the rules active in it, in order. Rules declared without conditions are
active in inclusive conditions only. Reference: `Condition`. -/
structure Condition where
  name : String
  inclusive : Bool
  rules : List RuleId
deriving Repr, DecidableEq, Inhabited

/-- The rules of a lexer, with the conditions that they are active in and the options that they were
built with. Reference: `LexerData`. -/
structure LexerRules where
  options : LexerOptions
  conditions : List Condition
  rules : List LexerRule

/-- One declaration of a lexer's rules: a start condition, or a rule for some conditions, for all of
them (`*`) or for no one in particular. Reference: `LexerDataBuilder::condition`,
`LexerDataBuilder::rule` and `LexerDataBuilder::rule_in`. -/
inductive LexerDeclaration
  | condition (name : String) (inclusive : Bool)
  | rule (members : List String) (pattern : String)
deriving Repr, DecidableEq

namespace LexerDeclaration

/-- The rule that a declaration adds: its conditions and its pattern. Reference:
`LexerDataBuilder::rule` and `LexerDataBuilder::rule_in`. -/
def rule? : LexerDeclaration → Option (List String × String)
  | .rule members pattern => some (members, pattern)
  | _ => none

/-- The conditions after a declaration: a new one comes last, and one declared before takes its new
kind. The initial condition is inclusive whatever is declared. Reference:
`LexerDataBuilder::condition`. -/
def declareCondition (conditions : List (String × Bool)) :
    LexerDeclaration → List (String × Bool)
  | .condition name inclusive =>
    if name = initialCondition then conditions
    else if conditions.any (·.1 == name) then
      conditions.map fun c => if c.1 = name then (name, inclusive) else c
    else conditions ++ [(name, inclusive)]
  | _ => conditions

/-- The declared conditions, the initial one first. Reference: `LexerDataBuilder::new` and
`LexerDataBuilder::condition`. -/
def conditionsOf (declarations : List LexerDeclaration) : List (String × Bool) :=
  declarations.foldl declareCondition [(initialCondition, true)]

/-- How often a rule for the conditions `members` is active in a condition: it may name a condition
twice. Reference: `LexerDataBuilder::build`. -/
def multiplicity (members : List String) (name : String) (inclusive : Bool) : Nat :=
  if members.isEmpty then if inclusive then 1 else 0
  else if "*" ∈ members then 1
  else members.count name

/-- A condition that a rule names without its being declared, the first one if there are several. A
star among the names excuses the others. Reference: `LexerDataBuilder::build`. -/
def undeclared? (conditions : List (String × Bool)) (members : List String) : Option String :=
  if "*" ∈ members then none else members.find? fun name => !conditions.any (·.1 == name)

end LexerDeclaration

namespace LexerRule

/-- The pattern of a rule as the compiler gets it: the end pattern in the compiler's own notation,
and a bare word up to the end of the word where the options say so. Reference:
`LexerDataBuilder::compile`. -/
def written (options : LexerOptions) (source : String) : String :=
  if source = endPattern then "\\z"
  else if options.easyKeywords && !source.isEmpty && source.toList.all Text.isWord then
    source ++ "\\b"
  else source

/-- The rule with a number. Its pattern is judged before its conditions. Reference: one round of the
loop in `LexerDataBuilder::build`. -/
def build (compile : PatternCompiler) (options : LexerOptions) (conditions : List (String × Bool))
    (number : RuleId) (members : List String) (source : String) : Except GrammarError LexerRule := do
  let finder ← (compile (written options source) options.caseInsensitive).mapError
    (.invalidPattern number source)
  match LexerDeclaration.undeclared? conditions members with
  | some name => throw (.unknownCondition name)
  | none => return { source, finder }

end LexerRule

namespace LexerRules

/-- The rules that a list of declarations describes, or the fault of the first faulty rule. What
becomes of a pattern is up to a compiler. Reference: `LexerDataBuilder::build`. -/
def build (options : LexerOptions) (declarations : List LexerDeclaration)
    (compile : PatternCompiler := Pattern.compile) : Except GrammarError LexerRules := do
  let conditions := LexerDeclaration.conditionsOf declarations
  let declared := (declarations.filterMap (·.rule?)).zipIdx
  let rules ← declared.mapM fun ((members, source), number) =>
    LexerRule.build compile options conditions number members source
  return {
    options
    conditions := conditions.map fun (name, inclusive) =>
      { name, inclusive
        rules := declared.flatMap fun ((members, _), number) =>
          List.replicate (LexerDeclaration.multiplicity members name inclusive) number }
    rules }

/-- The condition of a name. Reference: `LexerData::condition`. -/
def condition? (rules : LexerRules) (name : String) : Option Condition :=
  rules.conditions.find? (·.name == name)

/-- The place of a condition among the conditions, by its name. Reference:
`Lexer::current_condition`. -/
def conditionIndex? (rules : LexerRules) (name : String) : Option Nat :=
  rules.conditions.findIdx? (·.name == name)

/-- The number of characters that a rule matches between the text `before`, last character first,
and `rest`. Reference: `LexerRule::match_at`. -/
def matchLength? (rules : LexerRules) (rule : RuleId) (before rest : List Char) : Option Nat :=
  rules.rules[rule]?.bind fun rule => rule.finder.length? before rest

end LexerRules

end ShiftReduce
