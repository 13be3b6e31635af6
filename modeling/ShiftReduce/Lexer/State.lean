import ShiftReduce.Lexer.Error
import ShiftReduce.Lexer.Rules
import ShiftReduce.Lexer.Token
import ShiftReduce.Source.Cursor
import ShiftReduce.Source.Excerpt

/-!
# The lexer

A lexer reads a text under a set of rules. Besides the text and the cursor it holds the text and
location of the current match, a stack of start conditions and what the actions have asked for. This
module defines the state and the operations that actions may use on it; `ShiftReduce.Lexer.Scan` runs
the rules. Text that is handed back takes the place of consumed text (`Lexer.rest_unput`,
`Lexer.consumed_unput`).
-/

namespace ShiftReduce

/-- Counts of what a lexer has done since it was made. A new input does not reset them. Reference:
`LexerStats`. -/
structure LexerStats where
  matched : Nat := 0
  rejects : Nat := 0
  unputs : Nat := 0
  tokens : Nat := 0
deriving Repr, DecidableEq, Inhabited

/-- The state of a lexer: the text under its cursor, the current match, the stack of start
conditions and what the last actions have asked for. Reference: `Lexer`. -/
structure Lexer where
  rules : LexerRules
  reader : Reader := {}
  /-- How often text that was handed back changed the input. -/
  edition : Nat := 0
  /-- The text of the current match. -/
  text : List Char := []
  /-- The location of the current match. -/
  location : Location := {}
  /-- The stack of start conditions, the active one first. -/
  conditions : List String := [initialCondition]
  /-- The place of the active condition among the rules' conditions, as found by the last scan; none
  since the stack was touched. -/
  active : Option Nat := none
  /-- The next match continues the current one. -/
  more : Bool := false
  /-- The current match is rejected. -/
  rejected : Bool := false
  /-- The end of the input was reached. -/
  done : Bool := false
  stats : LexerStats := {}

namespace Lexer

/-! ## Reading the state -/

/-- The options of the rules. Reference: `Lexer::options`. -/
def options (lexer : Lexer) : LexerOptions := lexer.rules.options

/-- The whole input, with all that was handed back. Reference: `Lexer::source`. -/
def source (lexer : Lexer) : String := lexer.reader.buffer.source

/-- The number of bytes consumed. Reference: `Lexer::offset`. -/
def offset (lexer : Lexer) : Nat := lexer.reader.cursor.offset

/-- The position of the cursor. Reference: `Lexer::position`. -/
def position (lexer : Lexer) : Position := lexer.reader.cursor.position

/-- The number of line breaks consumed. Reference: `Lexer::yylineno`. -/
def lineNo (lexer : Lexer) : Nat := lexer.reader.cursor.lineNo

/-- The consumed characters, last one first. Reference: the buffer up to `LexerCursor::offset`. -/
def consumed (lexer : Lexer) : List Char := lexer.reader.buffer.consumed

/-- The characters still to be read. Reference: the buffer from `LexerCursor::offset` on. -/
def rest (lexer : Lexer) : List Char := lexer.reader.buffer.rest

/-- The text of the current match as a string. Reference: `Lexer::yytext`. -/
def matchedText (lexer : Lexer) : String := String.ofList lexer.text

/-- The start condition `n` levels below the active one, or the initial one where the stack is not
that high. Reference: `Lexer::top_state`. -/
def topCondition (lexer : Lexer) (n : Nat) : String := lexer.conditions[n]?.getD initialCondition

/-- An empty location at the cursor. Reference: `Lexer::here`. -/
def here (lexer : Lexer) : Location :=
  let cur := lexer.reader.cursor
  ⟨cur.position, cur.position,
    if lexer.options.ranges then some (cur.charOffset, cur.charOffset) else none⟩

/-- A token of the current match. Reference: `Lexer::token`. -/
def token (lexer : Lexer) (symbol : SymbolId) : Token :=
  ⟨symbol, lexer.matchedText, lexer.location, lexer.lineNo⟩

/-- The token at the end of the input, without text. Reference: `Lexer::eof_token`. -/
def endToken (lexer : Lexer) : Token := ⟨SymbolId.endOfInput, "", lexer.here, lexer.lineNo⟩

/-! ## Excerpts -/

/-- The input cut in two before the current match, characters before the cut last one first. Where
the text of the match is not what stands before the cursor, the cut is at the cursor; but a text
longer than all that was consumed moves the cut to the start of an input that begins with it.
Reference: `Lexer::match_start`. -/
def matchCut (lexer : Lexer) : List Char × List Char :=
  if lexer.offset < Buffer.byteLength lexer.text then
    let whole := lexer.reader.buffer.toList
    if lexer.text.isPrefixOf whole then ([], whole) else (lexer.consumed, lexer.rest)
  else if lexer.text.reverse.isPrefixOf lexer.consumed then
    (lexer.consumed.drop lexer.text.length, lexer.text ++ lexer.rest)
  else (lexer.consumed, lexer.rest)

/-- How many characters of input an excerpt shows on either side. Reference: `Lexer::past_input` and
`Lexer::upcoming_input`. -/
def excerptWidth : Nat := 20

/-- A text without its line breaks, so that an excerpt stays on one line. Reference:
`Lexer::past_input` and `Lexer::upcoming_input`. -/
def dropBreaks (cs : List Char) : List Char := cs.filter fun c => c != '\r' && c != '\n'

/-- The end of the input before the current match, with dots where it is cut. Reference:
`Lexer::past_input`. -/
def pastInput (lexer : Lexer) : String :=
  let past := lexer.matchCut.1
  let shown := (past.take excerptWidth).reverse
  String.ofList ((if excerptWidth < past.length then ['.', '.', '.'] else []) ++ dropBreaks shown)

/-- The current match and the start of the input behind it, with dots where it is cut. Reference:
`Lexer::upcoming_input`. -/
def upcomingInput (lexer : Lexer) : String :=
  let upcoming := lexer.matchCut.2
  let shown := upcoming.take excerptWidth
  String.ofList (dropBreaks shown ++ if (upcoming.drop excerptWidth).isEmpty then [] else ['.', '.', '.'])

/-- The input around the current match, with a caret under its first character. Reference:
`Lexer::show_position`. -/
def showPosition (lexer : Lexer) : String :=
  ShiftReduce.showPosition lexer.pastInput lexer.upcomingInput

/-- The lines of the input around a location, three before it and one behind it. Reference:
`Lexer::pretty_print_range`. -/
def prettyRange (lexer : Lexer) (loc : Location) : String :=
  ShiftReduce.prettyRange lexer.source loc 3 1

/-- What is reported where no rule matches: the next character, unless it breaks the line, makes the
location one column wide. Reference: `Lexer::error_info`. -/
def unrecognized (lexer : Lexer) : Unrecognized :=
  let loc := lexer.here
  let visible := lexer.rest.head?.any fun c => c != '\n' && c != '\r'
  { excerpt := lexer.showPosition
    text := lexer.matchedText
    unexpected := lexer.rest.head?
    line := lexer.lineNo
    location :=
      if visible then
        { loc with
          stop := ⟨loc.stop.line, loc.stop.column + 1⟩
          range := loc.range.map fun (first, stop) => (first, stop + 1) }
      else loc
    recoverable := lexer.options.errorsRecoverable
    condition := lexer.topCondition 0 }

/-! ## Operations for actions -/

/-- The lexer at the start of a new input. The counts go on. Reference: `Lexer::set_input`. -/
def setInput (lexer : Lexer) (input : String) : Lexer :=
  let fresh : Lexer := { rules := lexer.rules, reader := .ofString input, stats := lexer.stats }
  { fresh with location := fresh.here }

/-- A lexer for a set of rules, at the start of the empty input. Reference: `Lexer::new`. -/
def new (rules : LexerRules) : Lexer := setInput { rules } ""

/-- Replaces the text of the current match, and with it the text of the token. Reference:
`Lexer::set_yytext`. -/
def setText (lexer : Lexer) (text : String) : Lexer := { lexer with text := text.toList }

/-- Activates a start condition, on top of the active one. It must have been declared. Reference:
`Lexer::push_state`. -/
def pushCondition (lexer : Lexer) (name : String) : Except GrammarError Lexer :=
  if (lexer.rules.condition? name).isNone then .error (.unknownCondition name)
  else .ok { lexer with conditions := name :: lexer.conditions, active := none }

/-- Leaves the active start condition and returns its name. The last condition on the stack stays.
Reference: `Lexer::pop_state`. -/
def popCondition (lexer : Lexer) : String × Lexer :=
  match lexer.conditions with
  | top :: next :: below => (top, { lexer with conditions := next :: below, active := none })
  | _ => (lexer.topCondition 0, { lexer with active := none })

/-- Keeps the current match: the next one continues it. Reference: `Lexer::more`. -/
def keepMatch (lexer : Lexer) : Lexer := { lexer with more := true }

/-- Rejects the current match: the lexer returns to its state before it and tries the next rule.
Only a lexer that backtracks can do so. Reference: `Lexer::reject`. -/
def reject (lexer : Lexer) : Except GrammarError Lexer :=
  if lexer.options.backtrack then .ok { lexer with rejected := true }
  else .error .rejectWithoutBacktrack

/-- The location of the current match after the cursor went back: it ends at the cursor, and does
not start behind it. Reference: `Lexer::unput`. -/
def shrink (loc : Location) (cur : Cursor) : Location :=
  ⟨loc.start.earlier cur.position, cur.position,
    loc.range.map fun (first, _) => (min first cur.charOffset, cur.charOffset)⟩

/-- Hands a text back to the input. It takes the place of as many consumed characters as it has, and
the current match loses as many at its end. Reference: `Lexer::unput`. -/
def unput (lexer : Lexer) (text : List Char) : Lexer :=
  let back := lexer.reader.backward text.length
  let replaced := (lexer.consumed.take text.length).reverse
  let reader : Reader := { back with buffer := ⟨back.buffer.consumed, text ++ lexer.rest⟩ }
  { lexer with
    reader
    edition := if replaced = text then lexer.edition else lexer.edition + 1
    text := lexer.text.take (lexer.text.length - text.length)
    location :=
      if lexer.options.trackPosition then shrink lexer.location reader.cursor else lexer.location
    done := false
    stats := { lexer.stats with unputs := lexer.stats.unputs + 1 } }

/-- Keeps the first `n` characters of the current match and hands the others back. Reference:
`Lexer::less`. -/
def less (lexer : Lexer) (n : Nat) : Lexer := lexer.unput (lexer.text.drop n)

/-- How many characters are taken by one reading: a return takes the newline behind it along.
Reference: `Lexer::input`. -/
def unitLength : List Char → Nat
  | [] => 0
  | '\r' :: '\n' :: _ => 2
  | _ :: _ => 1

/-- Reads one character, or a return with its newline, and adds it to the current match. Nothing is
read at the end of the input. Reference: `Lexer::input`. -/
def input (lexer : Lexer) : Option (List Char) × Lexer :=
  match unitLength lexer.rest with
  | 0 => (none, lexer)
  | n =>
    let unit := lexer.rest.take n
    let reader := lexer.reader.forward n
    (some unit,
      { lexer with
        reader
        text := lexer.text ++ unit
        location :=
          if lexer.options.trackPosition then
            { lexer.location with
              stop := reader.cursor.position
              range := lexer.location.range.map fun (first, _) => (first, reader.cursor.charOffset) }
          else lexer.location })

/-! ## Laws -/

/-- After text was handed back it comes first, and the old rest follows. -/
@[simp] theorem rest_unput (lexer : Lexer) (text : List Char) :
    (lexer.unput text).rest = text ++ lexer.rest := rfl

/-- Handing text back takes as many characters from the consumed ones. -/
@[simp] theorem consumed_unput (lexer : Lexer) (text : List Char) :
    (lexer.unput text).consumed = lexer.consumed.drop text.length := rfl

end Lexer

end ShiftReduce
