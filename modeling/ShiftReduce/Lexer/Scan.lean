import ShiftReduce.Lexer.Event
import ShiftReduce.Lexer.State

/-!
# Running the rules

A scan looks for the rules of the active start condition that match at the cursor, consumes the match
of one of them and runs its action. The action may emit a token, skip the match or reject it. A lexer
scans until a token comes out or an error is found.

The actions are those of a host, which has a state of its own beside the lexer's. The host also
decides about input that no rule matches.
-/

namespace ShiftReduce

/-- The party a lexer runs for: `τ` is its state, `ε` the faults of its actions and `φ` the failures
that end a scan. Reference: `LexerDriver`, and `Routed` for the lexer of a parser. -/
structure LexerHost (τ ε φ : Type) where
  /-- The action of a rule on the current match: the symbol to emit, or none to skip the match. -/
  action : RuleId → Lexer → τ → Except ε (Option SymbolId) × Lexer × τ
  /-- Called where no rule matches: the symbol to emit for the input, or none to skip it. -/
  stuck : Unrecognized → Lexer → τ → Except φ (Option SymbolId) × Lexer × τ
  /-- The failure that a fault of a rule amounts to. -/
  fail : RuleFault ε → φ
  /-- Takes note of a step. -/
  note : LexerEvent → τ → τ

/-- The outcome of a scan. Reference: `Scan`. -/
inductive Scan (φ : Type)
  | token (token : Token)
  | skip
  | stuck (info : Unrecognized)
  | failed (failure : φ)
deriving Repr

/-- The outcome of trying a rule. Reference: `Outcome`. -/
inductive Trial (φ : Type)
  | token (token : Token)
  | skip
  | rejected
  | failed (failure : φ)
deriving Repr

/-- The outcome of lexing: a token, a failure, or neither within the allowed number of scans.
Reference: the result of `Lexer::lex`. -/
inductive Lexed (φ : Type)
  | token (token : Token)
  | failed (failure : φ)
  | exhausted
deriving Repr

/-- A rule and the number of characters it matches. Reference: the candidates in `Lexer::scan`. -/
abbrev Candidate := RuleId × Nat

namespace Lexer

/-! ## Choosing a rule -/

/-- The match of a rule at the cursor. Reference: `LexerRule::match_at` in `Lexer::scan`. -/
def candidate? (lexer : Lexer) (rule : RuleId) : Option Candidate :=
  (lexer.rules.matchLength? rule lexer.consumed lexer.rest).map fun length => (rule, length)

/-- All rules of a condition that match at the cursor, in the order of the condition. Reference: the
candidates in `Lexer::scan`. -/
def candidates (lexer : Lexer) (condition : Condition) : List Candidate :=
  condition.rules.filterMap lexer.candidate?

/-- The first of the longest candidates: a later one must match more to take its place. Reference:
`best` in `Lexer::scan`. -/
def longest? : List Candidate → Option Candidate
  | [] => none
  | first :: more =>
    some (more.foldl (fun best other => if best.2 < other.2 then other else best) first)

/-- Candidates by decreasing length; those of one length keep their order. Reference: the sorting of
the candidates in `Lexer::scan`. -/
def byLength (candidates : List Candidate) : List Candidate :=
  candidates.mergeSort fun a b => b.2 ≤ a.2

/-- The candidates that are tried, in order. Only a lexer that backtracks tries more than one.
Reference: `Lexer::scan`. -/
def trials (lexer : Lexer) (condition : Condition) : List Candidate :=
  let options := lexer.options
  if options.backtrack then
    let all := lexer.candidates condition
    if options.longestMatch then byLength all else all
  else if options.longestMatch then (longest? (lexer.candidates condition)).toList
  else (condition.rules.findSome? lexer.candidate?).toList

/-- Finds the active condition, and keeps its place for the next scan. Reference:
`Lexer::current_condition`. -/
def activate (lexer : Lexer) : Condition × Lexer :=
  let index := lexer.active.getD
    ((lexer.rules.conditionIndex? (lexer.topCondition 0)).getD 0)
  (lexer.rules.conditions[index]?.getD default, { lexer with active := some index })

/-! ## Trying a rule -/

/-- The location of a match that starts at the cursor `before` and ends at the cursor `after`. It
takes the start of the last match if it continues it. Reference: `Lexer::test_match`. -/
def matchLocation (lexer : Lexer) (before after : Cursor) : Location :=
  let continued := if lexer.more then some lexer.location else none
  ⟨(continued.map (·.start)).getD before.position, after.position,
    if lexer.options.ranges then
      let first := (continued.bind (·.range)).map (·.1)
      some (first.getD before.charOffset, after.charOffset)
    else none⟩

/-- The lexer after it consumed a match of `length` characters, before the rule's action runs.
Reference: the first half of `Lexer::test_match`. -/
def consume (lexer : Lexer) (length : Nat) : Lexer :=
  let reader := lexer.reader.forward length
  { lexer with
    reader
    text := lexer.text ++ lexer.rest.take length
    location :=
      if lexer.options.trackPosition then
        lexer.matchLocation lexer.reader.cursor reader.cursor
      else lexer.location
    more := false
    rejected := false
    stats := { lexer.stats with matched := lexer.stats.matched + 1 } }

/-- Undoes what happened since the state `saved`. The counts go on, and the place of the active
condition is forgotten if the stack of conditions had changed. Reference: `Lexer::restore`. -/
def restore (lexer saved : Lexer) : Lexer :=
  { lexer with
    reader := saved.reader
    edition := saved.edition
    text := saved.text
    location := saved.location
    conditions := saved.conditions
    active := if lexer.conditions = saved.conditions then lexer.active else none
    more := saved.more
    done := saved.done }

/-- The lexer after the action of a rule rejected the match; `saved` is its state before the match.
Reference: the rejection in `Lexer::test_match`. -/
def afterReject (lexer saved : Lexer) : Lexer :=
  let lexer := if lexer.options.backtrack then lexer.restore saved else lexer
  { lexer with
    rejected := false
    stats := { lexer.stats with rejects := lexer.stats.rejects + 1 } }

/-- An end that was reached counts no more if an action handed input back. Reference:
`Lexer::test_match`. -/
def reopen (lexer : Lexer) : Lexer :=
  if lexer.done && !lexer.rest.isEmpty then { lexer with done := false } else lexer

/-- Whether the action of a rule that matched nothing left the lexer where it was, with input ahead.
It goes by the cursor and by the place of the active condition. Reference: the guard of
`LexError::NoProgress` in `Lexer::test_match`. -/
def stalled (lexer saved : Lexer) (length : Nat) : Bool :=
  length == 0 && lexer.offset == saved.offset && lexer.active.isSome && !lexer.done

variable {τ ε φ : Type}

/-- Consumes the match of a rule and runs the rule's action. Reference: `Lexer::test_match`. -/
def fire (host : LexerHost τ ε φ) (lexer : Lexer) (t : τ) (rule : RuleId) (length : Nat) :
    Trial φ × Lexer × τ :=
  let saved := lexer
  let lexer := lexer.consume length
  let source := (lexer.rules.rules[rule]?.map (·.source)).getD ""
  let t := host.note (.matched (lexer.topCondition 0) rule source lexer.matchedText) t
  match host.action rule lexer t with
  | (.error fault, lexer, t) => (.failed (host.fail (.action rule fault)), lexer, t)
  | (.ok emitted, lexer, t) =>
    if lexer.rejected then
      (.rejected, lexer.afterReject saved, host.note (.rejected rule) t)
    else
      let lexer := lexer.reopen
      match emitted with
      | some symbol => (.token (lexer.token symbol), lexer, t)
      | none =>
        if lexer.stalled saved length then
          (.failed (host.fail (.noProgress rule saved.offset)), lexer, t)
        else (.skip, lexer, t)

/-! ## Scanning -/

/-- What a scan comes to when no candidate is left: the end token at the end of the input,
unrecognized input elsewhere. Reference: the end of `Lexer::scan`. -/
def unmatched (lexer : Lexer) : Scan φ × Lexer :=
  if lexer.rest.isEmpty then
    let lexer := { lexer with done := true }
    (.token lexer.endToken, lexer)
  else (.stuck lexer.unrecognized, lexer)

/-- Tries candidates until one is not rejected. A lexer that does not backtrack tries one alone, and
skips a match that is rejected. Reference: the loop over the candidates in `Lexer::scan`. -/
def tryAll (host : LexerHost τ ε φ) : List Candidate → Lexer → τ → Scan φ × Lexer × τ
  | [], lexer, t =>
    let (scan, lexer) := lexer.unmatched
    (scan, lexer, t)
  | (rule, length) :: others, lexer, t =>
    match lexer.fire host t rule length with
    | (.token token, lexer, t) => (.token token, lexer, t)
    | (.skip, lexer, t) => (.skip, lexer, t)
    | (.failed failure, lexer, t) => (.failed failure, lexer, t)
    | (.rejected, lexer, t) =>
      if lexer.options.backtrack then tryAll host others lexer t else (.skip, lexer, t)

/-- The lexer at the start of a scan: it notices the end of the input, and starts a new match unless
the last one is to be continued. Reference: the start of `Lexer::scan`. -/
def beginScan (lexer : Lexer) : Lexer :=
  { lexer with
    done := lexer.done || lexer.rest.isEmpty
    text := if lexer.more then lexer.text else [] }

/-- One scan. Once the end of the input was reached, all scans give the end token. Reference:
`Lexer::scan`. -/
def scan (host : LexerHost τ ε φ) (lexer : Lexer) (t : τ) : Scan φ × Lexer × τ :=
  if lexer.done then (.token lexer.endToken, lexer, t)
  else
    let (condition, lexer) := lexer.beginScan.activate
    tryAll host (lexer.trials condition) lexer t

/-- The lexer after one unit of input was skipped for being unrecognized: a character, or a return
with its newline. Reference: the forced `Lexer::input` in `Lexer::lex`. -/
def skipUnit (lexer : Lexer) : Lexer :=
  ({ lexer with
    text := if lexer.more then lexer.text else []
    location := lexer.here } : Lexer).input.2

/-- Whether a lexer was left alone since the state `saved`: same place, input not changed, stack of
conditions not touched. Reference: the guard of the forced `Lexer::input` in `Lexer::lex`. -/
def leftAlone (lexer saved : Lexer) : Bool :=
  lexer.offset == saved.offset && lexer.edition == saved.edition && lexer.active.isSome

/-- Asks the host about unrecognized input, and skips one unit of it if the host left the lexer
alone. Reference: the case of unmatched input in `Lexer::lex`. -/
def resolve (host : LexerHost τ ε φ) (lexer : Lexer) (t : τ) (info : Unrecognized) :
    Except φ (Option SymbolId) × Lexer × τ :=
  let saved := lexer
  let (answer, lexer, t) := host.stuck info lexer (host.note (.unrecognized lexer.offset) t)
  (answer, if lexer.leftAlone saved then lexer.skipUnit else lexer, t)

/-- The lexer with one more token counted. Reference: `LexerStats::tokens`. -/
def countToken (lexer : Lexer) : Lexer :=
  { lexer with stats := { lexer.stats with tokens := lexer.stats.tokens + 1 } }

/-- The next token, found within `limit` scans. Reference: `Lexer::lex`. -/
def lex (host : LexerHost τ ε φ) : (limit : Nat) → Lexer → τ → Lexed φ × Lexer × τ
  | 0, lexer, t => (.exhausted, lexer, t)
  | limit + 1, lexer, t =>
    match lexer.scan host t with
    | (.token token, lexer, t) => (.token token, lexer.countToken, host.note (.token token) t)
    | (.failed failure, lexer, t) => (.failed failure, lexer, t)
    | (.skip, lexer, t) => lex host limit lexer t
    | (.stuck info, lexer, t) =>
      match lexer.resolve host t info with
      | (.error failure, lexer, t) => (.failed failure, lexer, t)
      | (.ok none, lexer, t) => lex host limit lexer t
      | (.ok (some symbol), lexer, t) =>
        let lexer := lexer.countToken
        (.token (lexer.token symbol), lexer, t)

/-- The answer to unrecognized input where nobody asks for another: an error token if the lexer's
options say so, or else an error. Reference: `LexerDriver::lex_error`. -/
def standardAnswer (info : Unrecognized) : Except (LexError ε) (Option SymbolId) :=
  if info.recoverable then .ok (some SymbolId.error) else .error (.unrecognized info)

end Lexer

namespace LexerHost

variable {τ ε : Type}

/-- The host of a lexer that runs on its own: rule actions over a state, the standard answer to
unrecognized input, and the events so far, last one first. Reference: a `LexerDriver` with the
provided `lex_error`. -/
def alone (action : RuleId → Lexer → τ → Except ε (Option SymbolId) × Lexer × τ) :
    LexerHost (τ × List LexerEvent) ε (LexError ε) where
  action rule lexer t :=
    let (result, lexer, state) := action rule lexer t.1
    (result, lexer, state, t.2)
  stuck info lexer t :=
    (Lexer.standardAnswer info, lexer, t.1,
      if info.recoverable then .tolerated info.message :: t.2 else t.2)
  fail := .faulty
  note event t := (t.1, event :: t.2)

end LexerHost

end ShiftReduce
