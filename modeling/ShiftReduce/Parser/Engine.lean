import ShiftReduce.Lexer.Scan
import ShiftReduce.Parser.Event

/-!
# The parse engine

The engine runs the automaton of a parse table over the tokens of a lexer. One step takes the action
of the state on top of the stack, for the token ahead where the state does not reduce by default. On
an error the stack is cut back to the nearest state that can take the `error` terminal; tokens that
still do not fit are discarded, and further errors go unreported until enough tokens were shifted. An
error at the end of the input must leave a lower stack each time, so that recovery comes to an end.
-/

namespace ShiftReduce

/-- Counts of what a parser has done since it was made. They go on from parse to parse. Reference:
`ParserStats`. -/
structure ParserStats where
  tokens : Nat := 0
  shifts : Nat := 0
  reductions : Nat := 0
  errors : Nat := 0
  recoveries : Nat := 0
  discarded : Nat := 0
deriving Repr, DecidableEq, Inhabited

/-- A parser's automaton and actions, which no parse changes. Reference: the table, drivers and
`ParserOptions` of a `Parser`. -/
structure Engine (σ V ε : Type) where
  table : Table
  actions : Actions σ V ε
  /-- How many tokens must be shifted after an error before the next one is reported. -/
  discardCount : Nat := 3
  /-- How many scans the search for one token may take. -/
  scanLimit : Nat

/-- The state of a parse beside its lexer. The journal has no influence on what the parser does.
Reference: the stacks, track, tokens and counts of a `Parser`. -/
structure Session (σ V : Type) where
  /-- The state of the actions. -/
  user : σ
  stack : Stack V := []
  /-- The record of the current or last recovery. -/
  record : Recovery V := {}
  /-- The token ahead. -/
  lookahead : Option Token := none
  /-- The token at which an error was found, while the error token made for it is ahead. -/
  held : Option Token := none
  /-- The last token consumed. -/
  consumed : Token := {}
  /-- How many tokens are to be shifted before the parser is over the last error. -/
  recovering : Nat := 0
  /-- The height of the stack after the last recovery at the end of the input. -/
  endHeight : Option Nat := none
  stats : ParserStats := {}
  /-- The events of the parse, last one first. -/
  journal : List (ParserEvent V) := []

/-- The state of a parse: the lexer, and all else. Reference: `Parser`. -/
structure Config (σ V : Type) where
  lexer : Lexer
  session : Session σ V

/-- How a parse ends. Reference: `Stop`, and the value that `Parser::run` returns. -/
inductive Stop (V ε : Type)
  /-- The input was accepted. -/
  | accepted (value : V)
  /-- The verdict on an error was a value. -/
  | answered (value : V)
  | failed (error : ParseError V ε)
  /-- No end was reached within the allowed number of steps. -/
  | exhausted
deriving Repr

/-- A parse that has ended, and the state it ended in. Reference: the result of `Parser::run`. -/
structure Halt (σ V ε : Type) where
  stop : Stop V ε
  config : Config σ V

namespace Session

variable {σ V : Type}

/-- The session with an event in its journal. -/
def note (session : Session σ V) (event : ParserEvent V) : Session σ V :=
  { session with journal := event :: session.journal }

/-- The session with its counts changed. Reference: `ParserStats`. -/
def count (session : Session σ V) (f : ParserStats → ParserStats) : Session σ V :=
  { session with stats := f session.stats }

/-- The events of the parse in order, first one first. -/
def events (session : Session σ V) : List (ParserEvent V) := session.journal.reverse

end Session

namespace Config

variable {σ V ε : Type}

/-- The parse with its session changed and its lexer left alone. -/
def update (c : Config σ V) (f : Session σ V → Session σ V) : Config σ V :=
  { c with session := f c.session }

/-- The parse with an event in its journal. -/
def note (c : Config σ V) (event : ParserEvent V) : Config σ V := c.update (·.note event)

/-- The end of a parse by an internal fault. Reference: `Parser::internal`. -/
def fault (c : Config σ V) (fault : InternalFault) : Halt σ V ε := ⟨.failed (.internal fault), c⟩

/-- The parse at the start of an input: one slot at the bottom of the stack, no token ahead and no
error to recover from. The counts and the actions' state go on. Reference: `Parser::reset`. -/
def reset [Inhabited V] (c : Config σ V) (input : String) : Config σ V :=
  let lexer := c.lexer.setInput input
  let start := lexer.location
  ⟨lexer,
    { user := c.session.user
      stack := [⟨SymbolId.accept, 0, default, start⟩]
      consumed := { location := start }
      stats := c.session.stats }⟩

/-- The parse after its end: nothing is left of the stack, the record and the tokens ahead.
Reference: `Parser::cleanup`. -/
def cleanup (c : Config σ V) : Config σ V :=
  c.update fun session =>
    { session with stack := [], record := {}, lookahead := none, held := none, recovering := 0 }

end Config

namespace Engine

variable {σ V ε : Type}

/-- How many tokens must be shifted after an error before the next one is reported; one at least.
Reference: `Parser::discard_count`. -/
def quietCount (e : Engine σ V ε) : Nat := max e.discardCount 1

/-! ## Errors -/

/-- Hands an error to the actions for their verdict, and takes the standard one if they have none.
Reference: the calls of `ParserDriver::parse_error`. -/
def judge (e : Engine σ V ε) (info : ErrorInfo V) (session : Session σ V) :
    Verdict V ε × Session σ V :=
  let session := session.note (.reported info)
  match e.actions.judge info session.user with
  | (some verdict, user) => (verdict, { session with user })
  | (none, user) =>
    let session := { session with user }
    (standardVerdict info,
      if info.recoverable then session.note (.tolerated info.message) else session)

/-- The answer to a lexer that is stuck: the actions' verdict on the error. To go on means an error
token, but only if the lexer's options make the error recoverable. Reference: `Routed::lex_error`.
-/
def answerStuck (e : Engine σ V ε) (info : Unrecognized) (session : Session σ V) :
    Except (Stop V ε) (Option SymbolId) × Session σ V :=
  let error := ErrorInfo.ofUnrecognized e.table session.stack info
  let session := session.count fun stats => { stats with errors := stats.errors + 1 }
  match e.judge error session with
  | (.resume, session) =>
    (if info.recoverable then .ok (some SymbolId.error) else .error (.failed (.lexical error)),
      session)
  | (.answer value, session) => (.error (.answered value), session)
  | (.raise error, session) => (.error (.failed error), session)

/-- The host of the parser's lexer. Its state is the session, of which rule actions see the user's
state alone. Reference: `Routed`. -/
def lexerHost (e : Engine σ V ε) : LexerHost (Session σ V) ε (Stop V ε) where
  action rule lexer session :=
    let (result, lexer, user) := e.actions.rule rule lexer session.user
    (result, lexer, { session with user })
  stuck info lexer session :=
    let (answer, session) := e.answerStuck info session
    (answer, lexer, session)
  fail fault := .failed (.ofRuleFault fault)
  note event session := session.note (.lexer event)

/-- Takes the next token from the lexer. Reference: `Parser::fetch`. -/
def fetch (e : Engine σ V ε) (c : Config σ V) : Except (Halt σ V ε) (Token × Config σ V) :=
  match c.lexer.lex e.lexerHost e.scanLimit c.session with
  | (.token token, lexer, session) =>
    let session := session.count fun stats => { stats with tokens := stats.tokens + 1 }
    .ok (token, ⟨lexer, session.note (.fetched token)⟩)
  | (.failed stop, lexer, session) => .error ⟨stop, lexer, session⟩
  | (.exhausted, lexer, session) => .error ⟨.exhausted, lexer, session⟩

/-! ## Actions of the automaton -/

/-- The action of a state: its default reduction, or else its entry for the token ahead, which is
fetched if there is none. Reference: the choice of `action` in `Parser::run`. -/
def chooseAction (e : Engine σ V ε) (state : StateId) (c : Config σ V) :
    Except (Halt σ V ε) (Action × Config σ V) :=
  match e.table.defaultReduction? state with
  | some production => .ok (.reduce production, c)
  | none =>
    match c.session.lookahead with
    | some token => .ok (e.table.action state token.symbol, c)
    | none => do
      let (token, c) ← e.fetch c
      return (e.table.action state token.symbol,
        c.update fun session => { session with lookahead := some token })

/-- The session after a token was consumed: one token less is to be shifted before the parser is
over the last error. An error token of the lexer's own (`lexed`) is an error to recover from.
Reference: the second half of `Parser::shift`. -/
def afterShift (e : Engine σ V ε) (lexed : Bool) (token : Token) (session : Session σ V) :
    Session σ V :=
  let session := { session with consumed := token }
  if lexed then
    { session with recovering := e.quietCount }.count fun stats =>
      { stats with recoveries := stats.recoveries + 1 }
  else
    let after := { session with recovering := session.recovering - 1 }
    if session.recovering = 1 then after.note .recovered else after

/-- Shifts the token ahead. Behind an error token that the recovery made, the token at which the
error was found is ahead again. Reference: `Parser::shift`. -/
def shift (e : Engine σ V ε) (target : StateId) (c : Config σ V) :
    Except (Halt σ V ε) (Config σ V) :=
  let session := c.session
  match session.lookahead with
  | none => .error (c.fault .shiftWithoutLookahead)
  | some token =>
    let lexed := token.symbol == SymbolId.error && session.held.isNone && session.recovering == 0
    let record := if lexed then Recovery.beginAt session.stack.length token else session.record
    let (value, user) := e.actions.tokenValue token session.user
    let session :=
      ({ session with
        user, record
        stack := ⟨token.symbol, target, value, token.location⟩ :: session.stack
        lookahead := session.held
        held := none }.count fun stats => { stats with shifts := stats.shifts + 1 }).note
        (.shifted token c.session.held.isSome)
    .ok { c with
      session := if c.session.held.isSome then session else e.afterShift lexed token session }

/-- What the action of a production sees when it reduces the top of a stack. The location of an
empty right-hand side is the empty one behind the slot below. Reference: `Parser::reduce`. -/
def reductionOf (session : Session σ V) (number : ProductionId) (production : Production) :
    Reduction V :=
  let children := (session.stack.take production.length).reverse
  { production := number
    lhs := production.lhs
    children
    location :=
      match children.head?, session.stack.head? with
      | some first, some last => first.location.merge last.location
      | none, some last => last.location.collapse
      | _, none => {}
    consumed := session.consumed
    recovery := if session.recovering = 0 then none else some session.record }

/-- Puts the left-hand side of a production on the stack below its children. Reference: the end of
`Parser::reduce`. -/
def goto (e : Engine σ V ε) (lhs : SymbolId) (value : V) (location : Location) (c : Config σ V) :
    Except (Halt σ V ε) (Config σ V) :=
  match c.session.stack.topState? with
  | none => .error (c.fault .emptyStack)
  | some state =>
    match e.table.action state lhs with
    | .goto target =>
      .ok (c.update fun session =>
        { session with stack := ⟨lhs, target, value, location⟩ :: session.stack }.count fun stats =>
          { stats with reductions := stats.reductions + 1 })
    | found => .error (c.fault (.noGoto ((e.table.symbolName? lhs).getD "?") state found))

/-- Reduces by a production. The action runs while the children are on the stack, so a fault of it
leaves them there. Reference: `Parser::reduce`. -/
def reduce [Inhabited V] (e : Engine σ V ε) (number : ProductionId) (c : Config σ V) :
    Except (Halt σ V ε) (Config σ V) :=
  match e.table.production? number with
  | none => .error (c.fault (.unknownProduction number))
  | some production =>
    let height := c.session.stack.length
    if height ≤ production.length then
      .error (c.fault (.stackTooLow number production.length (height - 1)))
    else
      let reduction := reductionOf c.session number production
      let c := c.note (.reduced c.session.stack reduction)
      match e.actions.reduce reduction c.session.user with
      | (.error fault, user) =>
        .error ⟨.failed (.action (.production number) fault),
          c.update fun session => { session with user }⟩
      | (.ok yield, user) =>
        let c := c.update fun session =>
          { session with user, stack := session.stack.drop production.length }
        let c := match yield.remark with
          | some text => c.note (.remarked text)
          | none => c
        e.goto production.lhs (yield.value.getD (reduction.values.head?.getD default))
          (yield.location.getD reduction.location) c

/-! ## Recovery -/

/-- How many slots lie above the nearest state that can take an error. Reference:
`Parser::recovery_depth`. -/
def recoveryDepth? (e : Engine σ V ε) (stack : Stack V) : Option Nat :=
  stack.findIdx? fun slot => e.table.action slot.state SymbolId.error != .error

/-- Reports an error that cannot be recovered from. The actions may still end the parse with a
value. Reference: `Parser::halt`. -/
def halt (e : Engine σ V ε) (cause : ErrorCause) (state : StateId) (token : Token)
    (c : Config σ V) : Halt σ V ε :=
  let info := ErrorInfo.ofToken e.table c.session.stack cause false state token
  let session := (c.session.count fun stats => { stats with errors := stats.errors + 1 }).note
    (.halted info)
  match e.judge info session with
  | (.resume, session) => ⟨.failed (.syntactic info), { c with session }⟩
  | (.answer value, session) => ⟨.answered value, { c with session }⟩
  | (.raise error, session) => ⟨.failed error, { c with session }⟩

/-- Reports an unexpected token, unless it is an error token of the lexer's: that was reported
already. The record is cleared for the new episode. Reference: `Parser::recover`, where no recovery
is going on. -/
def reportToken (e : Engine σ V ε) (state : StateId) (depth : Option Nat) (token : Token)
    (c : Config σ V) : Except (Halt σ V ε) (Config σ V) := do
  let c ←
    if token.symbol = SymbolId.error then pure c
    else
      let cause := ErrorCause.unexpected c.lexer.showPosition
      let info := ErrorInfo.ofToken e.table c.session.stack cause depth.isSome state token
      let session := (c.session.count fun stats => { stats with errors := stats.errors + 1 }).note
        (.detected state depth)
      match e.judge info session with
      | (.answer value, session) => throw ⟨.answered value, { c with session }⟩
      | (.raise error, session) => throw ⟨.failed error, { c with session }⟩
      | (.resume, session) =>
        if depth.isNone then throw ⟨.failed (.syntactic info), { c with session }⟩
        pure { c with session }
  return c.update fun session => { session with record := {} }

/-- Throws a token away that does not fit behind an error, and fetches the next one. The end of the
input cannot be thrown away. Reference: `Parser::recover`, where nothing was shifted since the last
recovery. -/
def discardToken (e : Engine σ V ε) (state : StateId) (token : Token) (c : Config σ V) :
    Except (Halt σ V ε) (Token × Config σ V) :=
  if token.symbol = SymbolId.endOfInput then .error (e.halt .haltedRecovering state token c)
  else
    e.fetch (c.update fun session =>
      ({ session with record := session.record.discard token }.count fun stats =>
        { stats with discarded := stats.discarded + 1 }).note (.discarded token))

/-- At the end of the input a recovery must leave a lower stack than the one before it. Reference:
`eof_residual` in `Parser::recover`. -/
def checkHeight (e : Engine σ V ε) (state : StateId) (token : Token) (height : Nat)
    (c : Config σ V) : Except (Halt σ V ε) (Config σ V) :=
  if token.symbol ≠ SymbolId.endOfInput then .ok c
  else if c.session.endHeight.any (· ≤ height) then
    .error (e.halt .haltedRecovering state token c)
  else .ok (c.update fun session => { session with endHeight := some height })

/-- Pops `depth` slots, and puts an error token ahead of the token that did not fit. Reference: the
end of `Parser::recover`. -/
def popAndRetry (e : Engine σ V ε) (depth : Nat) (token : Token) (session : Session σ V) :
    Session σ V :=
  let (record, stack) := session.record.popFrom session.stack depth token
  let errorToken := { token with
    symbol := SymbolId.error
    location := record.location?.getD token.location }
  ({ session with
    record, stack
    held := if token.symbol = SymbolId.error then none else some token
    lookahead := some errorToken
    recovering := e.quietCount }.count fun stats =>
      { stats with recoveries := stats.recoveries + 1 }).note (.resumed token stack.length)

/-- The token at fault: the one ahead, or the one held back if an error token made for it does not
fit either. Reference: the start of `Parser::recover`. -/
def takeOffending (c : Config σ V) : Except (Halt σ V ε) (Token × Config σ V) :=
  match c.session.lookahead with
  | none => .error (c.fault .errorWithoutLookahead)
  | some token =>
    let c := c.update fun session => { session with lookahead := none }
    if token.symbol = SymbolId.error then
      .ok (c.session.held.getD token, c.update fun session => { session with held := none })
    else .ok (token, c)

/-- Recovers from an error in a state. The depth is found before a token is discarded: discarding
leaves the stack alone. Reference: `Parser::recover`. -/
def recover (e : Engine σ V ε) (state : StateId) (c : Config σ V) :
    Except (Halt σ V ε) (Config σ V) := do
  let (token, c) ← takeOffending c
  let depth := e.recoveryDepth? c.session.stack
  let (token, c) ←
    if c.session.recovering = 0 then
      (e.reportToken state depth token c).map fun c => (token, c)
    else if c.session.recovering = e.quietCount then e.discardToken state token c
    else pure (token, c)
  match depth with
  | none => throw (e.halt .haltedNoRule state token c)
  | some depth =>
    let c ← e.checkHeight state token (c.session.stack.length - depth) c
    return c.update (e.popAndRetry depth token)

/-! ## Runs -/

/-- Performs an action of the automaton. Reference: the actions in `Parser::run`. -/
def perform [Inhabited V] (e : Engine σ V ε) (state : StateId) (c : Config σ V) :
    Action → Except (Halt σ V ε) (Config σ V)
  | .shift target => e.shift target (c.note (.shifting target))
  | .reduce production => e.reduce production (c.note (.reducing production))
  | .accept =>
    let c := c.note .accepting
    match c.session.stack.takeTop? with
    | (some value, stack) =>
      .error ⟨.accepted value, c.update fun session => { session with stack }⟩
    | (none, _) => .error (c.fault .acceptOnEmptyStack)
  | .error => e.recover state c
  | .ambiguous number => .error (c.fault (.ambiguous state (e.table.conflict number)))
  | .goto _ => .error (c.fault (.gotoOnLookahead state))

/-- One step of a parse: the state on top of the stack chooses an action, which is performed.
Reference: one round of the loop in `Parser::run`. -/
def step [Inhabited V] (e : Engine σ V ε) (c : Config σ V) : Except (Halt σ V ε) (Config σ V) :=
  match c.session.stack.topState? with
  | none => .error (c.fault .emptyStack)
  | some state =>
    if e.table.hasState state then do
      let (action, c) ← e.chooseAction state c
      e.perform state (c.note (.atState c.session.stack c.session.lookahead)) action
    else .error (c.fault (.unknownState state))

/-- Steps to the end of a parse, at most `fuel` of them. Reference: `Parser::run`. -/
def run [Inhabited V] (e : Engine σ V ε) : (fuel : Nat) → Config σ V → Halt σ V ε
  | 0, c => ⟨.exhausted, c⟩
  | fuel + 1, c =>
    match e.step c with
    | .ok c => run e fuel c
    | .error halt => halt

/-- The result of a parse: a value, an error, or neither within the allowed number of steps.
Reference: the result of `Parser::parse`. -/
inductive Outcome (α ε : Type)
  | value (value : α)
  | failed (error : ε)
  | exhausted
deriving Repr

/-- What the end of a parse comes to. A verdict that is a value counts like the value of an accepted
input. Reference: `Parser::parse`. -/
def Outcome.ofStop : Stop V ε → Outcome V (ParseError V ε)
  | .accepted v | .answered v => .value v
  | .failed error => .failed error
  | .exhausted => .exhausted

/-- Parses an input, in at most `fuel` steps. Whatever the end, nothing of the parse is left but the
actions' state, the counts and the lexer. Reference: `Parser::parse`. -/
def parse [Inhabited V] (e : Engine σ V ε) (fuel : Nat) (input : String) (c : Config σ V) :
    Outcome V (ParseError V ε) × Config σ V :=
  let halt := e.run fuel (c.reset input)
  (.ofStop halt.stop, halt.config.cleanup)

end Engine

end ShiftReduce
