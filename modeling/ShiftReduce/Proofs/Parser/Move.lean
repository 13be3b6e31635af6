import Mathlib.Logic.Relation
import ShiftReduce.Proofs.Parser.Fetch

/-!
# The moves of a parse

One step of the engine is a few moves of its session, and this module says once what each move does:
a look ahead (`Looks`), a shift (`Shifts`), a reduction (`Reduces`), a token thrown away (`Discards`)
and a recovery (`Resumes`). The token at which a recovery was entered stays ahead, or held back, until
the recovery puts it in its place; so between any two moves no token is on its way. `Ends` lists what
the last step of a parse may add to the journal. `Engine.step_ok` and `Engine.step_error` are the laws
of the step function; later modules derive their invariants from the moves and do not open the
functions of the engine again.
-/

namespace ShiftReduce

section
variable {σ V ε : Type}

/-- The token at fault in a session: the one ahead, or the one held back if an error token made for it
does not fit either. -/
def Session.offending? (s : Session σ V) : Option Token :=
  s.lookahead.map fun token => if token.symbol = SymbolId.error then s.held.getD token else token

/-- Whether the last landmarks are a token thrown away and the one that was fetched in its place. -/
def refetched : List (ParserEvent V) → Bool
  | .fetched _ :: .discarded _ :: _ => true
  | .fetched _ :: .reported _ :: .discarded _ :: _ => true
  | _ => false

namespace Engine

/-! ## The moves -/

/-- The session with a token ahead that was fetched because there was none. -/
inductive Looks (e : Engine σ V ε) (s : Session σ V) : Session σ V → Prop
  | mk {token : Token} {s' : Session σ V} (absent : s.lookahead = none)
      (fetch : Fetches e s token s') : Looks e s { s' with lookahead := some token }

/-- The action that the state on top takes: its default reduction, or its entry for the token ahead. -/
inductive Chooses (e : Engine σ V ε) (s : Session σ V) : StateId → Action → Prop
  | byDefault {state : StateId} {number : ProductionId} (top : s.stack.topState? = some state)
      (known : e.table.hasState state = true)
      (reduction : e.table.defaultReduction? state = some number) :
      Chooses e s state (.reduce number)
  | byToken {state : StateId} {token : Token} (top : s.stack.topState? = some state)
      (known : e.table.hasState state = true) (free : e.table.defaultReduction? state = none)
      (ahead : s.lookahead = some token) :
      Chooses e s state (e.table.action state token.symbol)

/-- A shift of the token ahead. A token of the lexer's own counts for the recovery that is under way,
and an error token among them starts a recovery where none is; behind a token that the recovery made,
the one held back is ahead again. -/
inductive Shifts (e : Engine σ V ε) (s : Session σ V) : Session σ V → Prop
  | plain {state target : StateId} {token : Token} {value : V} {user : σ}
      {journal : List (ParserEvent V)} (chosen : Chooses e s state (.shift target))
      (ahead : s.lookahead = some token) (own : s.held = none)
      (counted : token.symbol = SymbolId.error → s.recovering ≠ 0)
      (valued : e.actions.tokenValue token s.user = (value, user))
      (new : landmarks journal = .shifted token false :: landmarks s.journal) :
      Shifts e s
        { s with
          user, journal
          stack := ⟨token.symbol, target, value, token.location⟩ :: s.stack
          lookahead := none
          held := none
          consumed := token
          recovering := s.recovering - 1
          stats := { s.stats with shifts := s.stats.shifts + 1 } }
  | lexed {state target : StateId} {token : Token} {value : V} {user : σ}
      {journal : List (ParserEvent V)} (chosen : Chooses e s state (.shift target))
      (ahead : s.lookahead = some token) (own : s.held = none)
      (symbol : token.symbol = SymbolId.error) (free : s.recovering = 0)
      (valued : e.actions.tokenValue token s.user = (value, user))
      (new : landmarks journal = .shifted token false :: landmarks s.journal) :
      Shifts e s
        { s with
          user, journal
          stack := ⟨token.symbol, target, value, token.location⟩ :: s.stack
          record := Recovery.beginAt s.stack.length token
          lookahead := none
          held := none
          consumed := token
          recovering := e.quietCount
          stats := { s.stats with
            shifts := s.stats.shifts + 1
            recoveries := s.stats.recoveries + 1 } }
  | synthetic {state target : StateId} {token held : Token} {value : V} {user : σ}
      {journal : List (ParserEvent V)} (chosen : Chooses e s state (.shift target))
      (ahead : s.lookahead = some token) (behind : s.held = some held)
      (valued : e.actions.tokenValue token s.user = (value, user))
      (new : landmarks journal = .shifted token true :: landmarks s.journal) :
      Shifts e s
        { s with
          user, journal
          stack := ⟨token.symbol, target, value, token.location⟩ :: s.stack
          lookahead := some held
          held := none
          stats := { s.stats with shifts := s.stats.shifts + 1 } }

/-- A reduction: the action of the production is called on the top slots of the stack, and what it
yields takes their place. -/
inductive Reduces [Inhabited V] (e : Engine σ V ε) (s : Session σ V) : Session σ V → Prop
  | mk {state below target : StateId} {number : ProductionId} {production : Production}
      {yield : Yield V} {user : σ} {journal : List (ParserEvent V)}
      (chosen : Chooses e s state (.reduce number))
      (found : e.table.production? number = some production)
      (enough : production.length < s.stack.length)
      (called : e.actions.reduce (reductionOf s number production) s.user = (.ok yield, user))
      (uncovered : Stack.topState? (s.stack.drop production.length) = some below)
      (entry : e.table.action below production.lhs = .goto target)
      (new : landmarks journal =
        .reduced s.stack (reductionOf s number production) :: landmarks s.journal) :
      Reduces e s
        { s with
          user, journal
          stack :=
            ⟨production.lhs, target,
              yield.value.getD ((reductionOf s number production).values.head?.getD default),
              yield.location.getD (reductionOf s number production).location⟩ ::
              s.stack.drop production.length
          stats := { s.stats with reductions := s.stats.reductions + 1 } }

/-- A token that does not fit behind an error is thrown away. -/
inductive Discards (e : Engine σ V ε) (s : Session σ V) : Session σ V → Prop
  | mk {state : StateId} {token : Token} {journal : List (ParserEvent V)}
      (chosen : Chooses e s state .error) (offending : s.offending? = some token)
      (full : s.recovering = e.quietCount) (input : token.symbol ≠ SymbolId.endOfInput)
      (new : landmarks journal = .discarded token :: landmarks s.journal) :
      Discards e s
        { s with
          journal
          record := s.record.discard token
          lookahead := none
          held := none
          stats := { s.stats with discarded := s.stats.discarded + 1 } }

/-- What comes before a recovery from an error at a token: nothing, while the parser still recovers or
where the lexer reported the error; a report; or a token thrown away, for which this one was fetched. -/
inductive Settles (e : Engine σ V ε) (s : Session σ V) (token : Token) : Session σ V → Prop
  | silent {state : StateId} {journal : List (ParserEvent V)} (chosen : Chooses e s state .error)
      (begun : s.recovering ≠ e.quietCount)
      (known : s.recovering = 0 → token.symbol = SymbolId.error)
      (new : landmarks journal = landmarks s.journal) : Settles e s token { s with journal }
  | reported {state : StateId} {excerpt : String} {user : σ} {journal : List (ParserEvent V)}
      (chosen : Chooses e s state .error) (due : s.recovering = 0)
      (plain : token.symbol ≠ SymbolId.error)
      (new : landmarks journal =
        .reported (.ofToken e.table s.stack (.unexpected excerpt) true state token) ::
          landmarks s.journal) :
      Settles e s token
        { s with user, journal, stats := { s.stats with errors := s.stats.errors + 1 } }
  | refetched (full : s.recovering = e.quietCount)
      (fresh : refetched (landmarks s.journal) = true) : Settles e s token s

/-- The session after a recovery from an error at a token. The record of an earlier episode is
cleared, and at the end of the input the height of the stack is kept. -/
def resumption (e : Engine σ V ε) (depth : Nat) (token : Token) (s : Session σ V) : Session σ V :=
  e.popAndRetry depth token
    { s with
      record := if s.recovering = 0 then {} else s.record
      endHeight :=
        if token.symbol = SymbolId.endOfInput then some (s.stack.length - depth) else s.endHeight }

section
variable (e : Engine σ V ε) (depth : Nat) (token : Token) (s : Session σ V)

@[simp] theorem resumption_stack : (e.resumption depth token s).stack = s.stack.drop depth := rfl

@[simp] theorem resumption_held :
    (e.resumption depth token s).held =
      if token.symbol = SymbolId.error then none else some token := rfl

@[simp] theorem resumption_recovering :
    (e.resumption depth token s).recovering = e.quietCount := rfl

@[simp] theorem landmarks_resumption :
    landmarks (e.resumption depth token s).journal =
      .resumed token (s.stack.drop depth).length :: landmarks s.journal := rfl

end

/-- A parser is silent for one token at least. -/
theorem quietCount_pos (e : Engine σ V ε) : 0 < e.quietCount := by
  unfold quietCount
  omega

/-- A recovery cuts the stack back to the nearest state that can take an error. At the end of the
input the stack must be lower than after the recovery before it. -/
inductive Resumes (e : Engine σ V ε) (s : Session σ V) : Session σ V → Prop
  | mk {token : Token} {depth : Nat} {s₁ : Session σ V} (offending : s.offending? = some token)
      (settled : Settles e s token s₁) (nearest : e.recoveryDepth? s.stack = some depth)
      (lower : token.symbol = SymbolId.endOfInput →
        ∀ height ∈ s.endHeight, s.stack.length - depth < height) :
      Resumes e s (e.resumption depth token s₁)

/-- A move of a session: one of the six things that a step is made of. Laws are proved of each and
hold of all steps by that. -/
inductive Move [Inhabited V] (e : Engine σ V ε) (s : Session σ V) : Session σ V → Prop
  | remark {journal : List (ParserEvent V)} (new : landmarks journal = landmarks s.journal) :
      Move e s { s with journal }
  | look {s' : Session σ V} : Looks e s s' → Move e s s'
  | shift {s' : Session σ V} : Shifts e s s' → Move e s s'
  | reduce {s' : Session σ V} : Reduces e s s' → Move e s s'
  | discard {s' : Session σ V} : Discards e s s' → Move e s s'
  | resume {s' : Session σ V} : Resumes e s s' → Move e s s'

/-- Any number of moves, one after the other. -/
abbrev Moves [Inhabited V] (e : Engine σ V ε) : Session σ V → Session σ V → Prop :=
  Relation.ReflTransGen (Move e)

/-! ## The end of a parse -/

/-- The landmarks of a journal when the last step of a parse ends it, after moves to the session `s`.
At most one more call of the actions is made for a verdict or a reduction; but the report of an
unexpected token can be followed by that of the end of the input. -/
inductive Ends (e : Engine σ V ε) (s : Session σ V) : List (ParserEvent V) → Prop
  | silent : Ends e s (landmarks s.journal)
  | reduction {state : StateId} {number : ProductionId} {production : Production}
      (chosen : Chooses e s state (.reduce number))
      (found : e.table.production? number = some production)
      (enough : production.length < s.stack.length) :
      Ends e s (.reduced s.stack (reductionOf s number production) :: landmarks s.journal)
  | lexical {info : Unrecognized} (absent : s.lookahead = none) :
      Ends e s (.reported (.ofUnrecognized e.table s.stack info) :: landmarks s.journal)
  | unexpected {state : StateId} {token : Token} {excerpt : String} {recoverable : Bool}
      (chosen : Chooses e s state .error) (offending : s.offending? = some token)
      (due : s.recovering = 0) (plain : token.symbol ≠ SymbolId.error) :
      Ends e s
        (.reported (.ofToken e.table s.stack (.unexpected excerpt) recoverable state token) ::
          landmarks s.journal)
  | halted {state : StateId} {token : Token} {cause : ErrorCause}
      (top : s.stack.topState? = some state) (kind : cause.kind = .syntactic) :
      Ends e s (.reported (.ofToken e.table s.stack cause false state token) :: landmarks s.journal)
  | haltedAfter {state : StateId} {token : Token} {cause : ErrorCause} {s₁ : Session σ V}
      (offending : s.offending? = some token) (settled : Settles e s token s₁)
      (top : s.stack.topState? = some state) (kind : cause.kind = .syntactic) :
      Ends e s (.reported (.ofToken e.table s.stack cause false state token) :: landmarks s₁.journal)

end Engine

end

end ShiftReduce
