import Mathlib.Algebra.GroupWithZero.Nat
import ShiftReduce.Calculator.Evaluator
import ShiftReduce.Proofs.Calculator.LexerRules
import ShiftReduce.Proofs.Calculator.Reading
import ShiftReduce.Proofs.Lexer.Calls

/-!
# The calculator's lexer reads lexemes

A search for a token of the calculator's lexer finds the first lexeme of the text ahead, and leaves the
text with the other ones (`Calculator.lex_finds`). The search goes through the text by scans, each of
which takes what one rule matches and goes from place to place, between tokens or within a comment
(`Calculator.Moves`, `Calculator.At.scan`); a comment takes several of them. All of this is said of any
host that acts as the calculator does (`LexerHost.Calculates`), be it a lexer on its own or a parser's.

The induction is on the limit of scans. Its step is one scan: a rule that leads on without a token
goes on with what is left of the text (`Calculator.At.skips`), and the other scans end the search,
with a token (`Calculator.At.emits`), a stray character (`Calculator.At.strays`), the end of the
text (`Calculator.At.finishes`) or a comment that does not end (`Calculator.At.breaksOff`). Which of
these it is depends on the characters ahead alone (`Calculator.searches_between`,
`Calculator.searches_inside`).
-/

namespace ShiftReduce

open Calculator

section
variable {τ φ : Type}

/-- A host that runs the calculator's rules over the context in its state, leaves a lexer that is stuck
alone, and takes an error token for an answer where the lexer's errors are recoverable. Elsewhere it
refuses. -/
structure LexerHost.Calculates (host : LexerHost τ Fault φ) (seen : τ → Context)
    (refuses : Unrecognized → φ → Prop) : Prop where
  action : ∀ rule lexer t, ∃ t',
    host.action rule lexer t =
      ((ruleAction rule lexer (seen t)).1, (ruleAction rule lexer (seen t)).2.1, t') ∧
    seen t' = (ruleAction rule lexer (seen t)).2.2
  note : ∀ event t, seen (host.note event t) = seen t
  stuck : ∀ info lexer t, ∃ answer t', host.stuck info lexer t = (answer, lexer, t') ∧
    (seen t').comments = (seen t).comments ∧
    if info.recoverable then answer = .ok (some SymbolId.error)
    else ∃ reason, answer = .error reason ∧ refuses info reason

/-- The lexer on its own acts as the calculator does. -/
theorem LexerHost.alone_calculates :
    (LexerHost.alone ruleAction).Calculates (·.1) fun info reason => reason = .unrecognized info where
  action _ _ _ := ⟨_, rfl, rfl⟩
  note _ _ := rfl
  stuck info lexer t := by
    refine ⟨_, _, rfl, rfl, ?_⟩
    unfold Lexer.standardAnswer
    split
    · rfl
    · exact ⟨_, rfl, rfl⟩

end

namespace Calculator

/-- Behind the longest start of a text in a set of characters comes what the start leaves. -/
theorem drop_takeWhile (p : Char → Bool) (cs : List Char) :
    cs.drop (cs.takeWhile p).length = cs.dropWhile p := by
  calc cs.drop (cs.takeWhile p).length
      = (cs.takeWhile p ++ cs.dropWhile p).drop (cs.takeWhile p).length := by
        rw [List.takeWhile_append_dropWhile]
    _ = cs.dropWhile p := List.drop_left

/-- The longest start of a text in a set of characters, by its length. -/
theorem take_takeWhile (p : Char → Bool) (cs : List Char) :
    cs.take (cs.takeWhile p).length = cs.takeWhile p :=
  (List.prefix_iff_eq_take.mp (List.takeWhile_prefix p)).symm

/-! ## Places -/

/-- Where a lexer is in a text: between tokens, or within a comment. Comments do not nest. -/
inductive Place
  | between
  | inside

namespace Place

/-- The start conditions at a place, active one first. Reference: `CalcLexerDriver::action`. -/
def conditions : Place → List String
  | between => [initialCondition]
  | inside => [commentCondition, initialCondition]

/-- The condition that is active at a place, with its rules. -/
def condition : Place → Condition
  | between => betweenTokens
  | inside => insideComment

/-- The lexemes of a text that starts at a place. -/
def reading : Place → List Char → List Found
  | between => Calculator.reading
  | inside => readingInside

end Place

/-- A lexer between two scans, at a place in front of a text. -/
structure At (options : LexerOptions) (place : Place) (cs : List Char) (lexer : Lexer) : Prop where
  reads : Reads options lexer.rules
  sound : lexer.Sound lexer.rules
  rest : lexer.rest = cs
  conditions : lexer.conditions = place.conditions
  more : lexer.more = false
  done : lexer.done = false

/-- A rule that leads from place to place, what it emits, and how many comments it opens. -/
inductive Moves : RuleId → Place → Place → Option SymbolId → Nat → Prop
  | blanks : Moves Rule.blanks .between .between none 0
  | opening : Moves Rule.commentOpen .between .inside none 1
  | closing : Moves Rule.commentClose .inside .between none 0
  | text : Moves Rule.commentText .inside .inside none 0
  | star : Moves Rule.commentStar .inside .inside none 0
  | number : Moves Rule.number .between .between (some Terminal.number) 0
  | semicolon : Moves Rule.semicolon .between .between (some Terminal.semicolon) 0
  | plusSign : Moves Rule.plusSign .between .between (some Terminal.plusSign) 0
  | minusSign : Moves Rule.minusSign .between .between (some Terminal.minusSign) 0

/-- What the run of a rule comes to, whose action emits a symbol or skips the match. -/
def trialOf {φ : Type} (lexer : Lexer) : Option SymbolId → Trial φ
  | some symbol => .token (lexer.token symbol)
  | none => .skip

/-- What a scan that takes a match comes to, by what the action emits. -/
def outcomeOf {φ : Type} (lexer : Lexer) : Option SymbolId → Scan φ
  | some symbol => .token (lexer.token symbol)
  | none => .skip

section
variable {options : LexerOptions} {place place' : Place} {c : Char} {cs : List Char} {lexer : Lexer}
  {rule : RuleId} {emitted : Option SymbolId} {opened length : Nat}

/-- The conditions of a place are declared, and the initial one lies at the bottom. -/
theorem Place.conditions_sound {rules : LexerRules} (reads : Reads options rules) (place : Place) :
    place.conditions.getLast? = some initialCondition ∧
      ∀ name ∈ place.conditions, (rules.condition? name).isSome = true := by
  simp only [LexerRules.condition?, reads.conditions]
  cases place with
  | between => exact ⟨rfl, by simp only [conditions, List.forall_mem_cons]; exact ⟨rfl, nofun⟩⟩
  | inside =>
    exact ⟨rfl, by simp only [conditions, List.forall_mem_cons]; exact ⟨rfl, rfl, nofun⟩⟩

/-- The action of a rule that moves from place to place changes nothing but the conditions and the number
of comments. -/
theorem Moves.action (moves : Moves rule place place' emitted opened)
    (reads : Reads options lexer.rules) (sound : lexer.Sound lexer.rules)
    (conditions : lexer.conditions = place.conditions) (context : Context) :
    ∃ active, ruleAction rule lexer context =
        (.ok emitted, { lexer with conditions := place'.conditions, active },
          { context with comments := context.comments + opened }) ∧
      ({ lexer with conditions := place'.conditions, active } : Lexer).Sound lexer.rules := by
  obtain ⟨bottom, declared⟩ := place'.conditions_sound reads
  have hmoved : ({ lexer with conditions := place'.conditions, active := none } : Lexer).Sound
      lexer.rules := ⟨rfl, sound.exact, bottom, declared, nofun⟩
  have hstays : place.conditions = place'.conditions →
      ({ lexer with conditions := place'.conditions } : Lexer) = lexer := by
    intro hplace
    rw [← hplace, ← conditions]
  cases moves with
  | opening =>
    refine ⟨none, ?_, hmoved⟩
    have hpush : lexer.pushCondition commentCondition =
        .ok { lexer with conditions := Place.inside.conditions, active := none } := by
      have hdeclared := declared commentCondition List.mem_cons_self
      unfold Lexer.pushCondition
      rw [Option.isNone_eq_false_iff.mpr hdeclared, conditions]
      rfl
    simp only [ruleAction, hpush]
    rfl
  | closing =>
    refine ⟨none, ?_, hmoved⟩
    have hpop : lexer.popCondition.2 =
        { lexer with conditions := Place.between.conditions, active := none } := by
      unfold Lexer.popCondition
      rw [conditions]
      rfl
    simp only [ruleAction, hpop]
    rfl
  | _ =>
    refine ⟨lexer.active, ?_, ?_⟩
    · rw [hstays rfl]
      rfl
    · rw [hstays rfl]
      exact sound

/-! ## Scans -/

/-- A lexer that begins a scan of the calculator at a place: nothing is pending, and the condition
of the place is active. -/
structure Ready (options : LexerOptions) (place : Place) (cs : List Char) (lexer : Lexer) : Prop where
  reads : Reads options lexer.rules
  sound : lexer.Sound lexer.rules
  rest : lexer.rest = cs
  conditions : lexer.conditions = place.conditions
  more : lexer.more = false
  done : lexer.done = cs.isEmpty
  text : lexer.text = []
  active : lexer.active.isSome = true

/-- A scan tries what can be taken at the place of the lexer. -/
theorem At.scan_eq {τ φ : Type} (h : At options place cs lexer) (host : LexerHost τ Fault φ) (t : τ) :
    ∃ begun, Ready options place cs begun ∧
      lexer.scan host t = Lexer.tryAll host (begun.trials place.condition) begun t := by
  have hbegun : lexer.beginScan.Sound lexer.rules := h.sound.same rfl rfl rfl rfl
  refine ⟨lexer.beginScan.activate.2,
    ⟨h.reads, hbegun.activate, h.rest, h.conditions, h.more, ?_, ?_, rfl⟩, ?_⟩
  · show (lexer.done || lexer.rest.isEmpty) = _
    rw [h.done, h.rest, Bool.false_or]
  · show (if lexer.more then lexer.text else []) = []
    rw [h.more]
    rfl
  · have hcondition : lexer.beginScan.activate.1 = place.condition := by
      have hactive := hbegun.active_condition
      have htop : lexer.beginScan.topCondition 0 = place.condition.name := by
        show lexer.conditions[0]?.getD initialCondition = _
        rw [h.conditions]
        cases place <;> rfl
      rw [hbegun.governed, htop, LexerRules.condition?, h.reads.conditions] at hactive
      cases place <;> exact (Option.some.inj hactive).symm
    unfold Lexer.scan
    rw [h.done, if_neg Bool.false_ne_true, ← hcondition]

variable {τ φ : Type} {host : LexerHost τ Fault φ} {seen : τ → Context}
  {refuses : Unrecognized → φ → Prop} {others : List Candidate}

/-- What is tried first where one rule takes at least as much as any other. -/
theorem Ready.trials_eq (h : Ready options place cs lexer)
    (chosen : candidatesAt place.condition cs = (rule, length) :: others)
    (longest : ∀ other ∈ others, other.2 ≤ length) :
    ∃ more, lexer.trials place.condition = (rule, length) :: more := by
  rw [← h.rest] at chosen
  refine List.head?_eq_some_iff.mp ?_
  rw [Lexer.head?_trials, choice?_of_candidates h.reads chosen longest]

/-- Nothing is tried where no rule matches. -/
theorem Ready.trials_nil (h : Ready options place cs lexer)
    (none : candidatesAt place.condition cs = []) : lexer.trials place.condition = [] := by
  rw [← h.rest] at none
  refine List.head?_eq_none_iff.mp ?_
  rw [Lexer.head?_trials, choice?_of_no_candidates h.reads none]

/-- A lexer that took a match is behind it, at the place where the rule leads. -/
theorem Ready.moved (h : Ready options place (c :: cs) lexer) (place' : Place) (length : Nat)
    {active : Option Nat}
    (sound : ({ lexer.consume length with conditions := place'.conditions, active } : Lexer).Sound
      lexer.rules) :
    let after : Lexer := { lexer.consume length with conditions := place'.conditions, active }
    At options place' ((c :: cs).drop length) after ∧ after.text = (c :: cs).take length := by
  refine ⟨⟨h.reads, sound, congrArg (List.drop length) h.rest, rfl, rfl, h.done⟩, ?_⟩
  show lexer.text ++ lexer.rest.take length = _
  rw [h.text, h.rest, List.nil_append]

/-- A rule that matched is run, and leads on as it says. The action moves the lexer to a place and
counts the comments it opens. It does not reject its match, and since the match is not empty it is
never taken for one that changes nothing. -/
theorem Ready.fire (calculates : host.Calculates seen refuses) (h : Ready options place (c :: cs) lexer)
    (moves : Moves rule place place' emitted opened) (progress : 0 < length) (t : τ) :
    ∃ after t', lexer.fire host t rule length = (trialOf after emitted, after, t') ∧
      At options place' ((c :: cs).drop length) after ∧ after.text = (c :: cs).take length ∧
      (seen t').comments = (seen t).comments + opened := by
  generalize hnoted : host.note (.matched ((lexer.consume length).topCondition 0) rule
    (((lexer.consume length).rules.rules[rule]?.map (·.source)).getD "")
    (lexer.consume length).matchedText) t = noted
  have hreads : Reads options (lexer.consume length).rules := h.reads
  obtain ⟨active, haction, hsound⟩ :=
    moves.action hreads (h.sound.consume length) h.conditions (seen noted)
  obtain ⟨t', hacts, hcontext⟩ := calculates.action rule (lexer.consume length) noted
  obtain ⟨hat, htext⟩ := h.moved place' length hsound
  have hkept : ({ lexer.consume length with conditions := place'.conditions, active } : Lexer).rejected =
      false := rfl
  rw [haction] at hacts hcontext
  generalize ({ lexer.consume length with conditions := place'.conditions, active } : Lexer) = after
    at hacts hat htext hkept
  have hreopen : after.reopen = after := by
    unfold Lexer.reopen
    rw [hat.done]
    rfl
  have hmoved : after.stalled lexer length = false := by
    simp only [Lexer.stalled, beq_eq_false_iff_ne.mpr (Nat.ne_of_gt progress), Bool.false_and]
  refine ⟨after, t', ?_, hat, htext, ?_⟩
  · unfold Lexer.fire
    simp only [hnoted, hacts]
    rw [hkept, hreopen, if_neg Bool.false_ne_true, hmoved]
    cases emitted <;> rfl
  · rw [hcontext, ← calculates.note _ t, hnoted]

/-- A scan takes what a rule matches, and goes on as the rule says. -/
theorem At.scan (calculates : host.Calculates seen refuses) (h : At options place (c :: cs) lexer)
    (moves : Moves rule place place' emitted opened)
    (chosen : candidatesAt place.condition (c :: cs) = (rule, length) :: others)
    (longest : ∀ other ∈ others, other.2 ≤ length) (progress : 0 < length) (t : τ) :
    ∃ lexer' t', lexer.scan host t = (outcomeOf lexer' emitted, lexer', t') ∧
      At options place' ((c :: cs).drop length) lexer' ∧ lexer'.text = (c :: cs).take length ∧
      (seen t').comments = (seen t).comments + opened := by
  obtain ⟨begun, hready, hscan⟩ := h.scan_eq host t
  obtain ⟨more, htrials⟩ := hready.trials_eq chosen longest
  obtain ⟨after, t', hfire, hafter⟩ := hready.fire calculates moves progress t
  refine ⟨after, t', ?_, hafter⟩
  rw [hscan, htrials, Lexer.tryAll, hfire]
  cases emitted <;> rfl

/-- A scan that finds nothing to try in front of a character is stuck there. -/
theorem At.scan_stuck (h : At options place (c :: cs) lexer)
    (none : candidatesAt place.condition (c :: cs) = []) (host : LexerHost τ Fault φ) (t : τ) :
    ∃ begun, Ready options place (c :: cs) begun ∧
      lexer.scan host t = (.stuck begun.unrecognized, begun, t) := by
  obtain ⟨begun, hready, hscan⟩ := h.scan_eq host t
  refine ⟨begun, hready, ?_⟩
  rw [hscan, hready.trials_nil none, Lexer.tryAll, Lexer.unmatched, hready.rest]
  rfl

/-- A lexer between tokens that skips a character is behind it, and the character is its match. A
carriage return is set apart, since one with a line feed behind it would be skipped together with
that; it is a blank here, and never skipped. -/
theorem Ready.skipUnit (h : Ready options place (c :: cs) lexer) (single : c ≠ '\r') :
    At options place cs lexer.skipUnit ∧ lexer.skipUnit.text = [c] := by
  have hunit : Lexer.unitLength (c :: cs) = 1 := by
    unfold Lexer.unitLength
    split
    · next heq => cases heq
    · next heq =>
      cases heq
      exact absurd rfl single
    · rfl
  have hskip : lexer.skipUnit =
      { lexer.skipUnit with
        reader := lexer.reader.forward 1
        text := [c]
        conditions := place.conditions
        more := false
        done := false } := by
    unfold Lexer.skipUnit Lexer.input
    have hrest : ({ lexer with
        text := if lexer.more = true then lexer.text else []
        location := lexer.here } : Lexer).rest = c :: cs := h.rest
    rw [hrest, hunit]
    simp only [h.more, h.conditions, h.done]
    rfl
  have hskipped := h.sound.skipUnit
  have hrules : lexer.skipUnit.rules = lexer.rules := hskipped.governed
  refine ⟨⟨?_, ?_, ?_, ?_, ?_, ?_⟩, ?_⟩
  · rw [hrules]
    exact h.reads
  · rw [hrules]
    exact hskipped
  · rw [hskip]
    exact congrArg (List.drop 1) h.rest
  all_goals rw [hskip]

/-! ## Searches -/

/-- What a search for a token comes to at a lexeme: its token, an error token or a refusal of a
stray character, the end of the input, or the fault of a comment that does not end. -/
inductive Lexeme.Gives (host : LexerHost τ Fault φ) (refuses : Unrecognized → φ → Prop)
    (options : LexerOptions) : Lexeme → Lexed φ → Prop
  | token {symbol : SymbolId} {text : List Char} {token : Token} (is : token.symbol = symbol)
      (reads : token.text = String.ofList text) :
      Gives host refuses options (.token symbol text) (.token token)
  | tolerated {c : Char} {token : Token} (recoverable : options.errorsRecoverable = true)
      (is : token.symbol = SymbolId.error) (reads : token.text = String.ofList [c]) :
      Gives host refuses options (.stray c) (.token token)
  | refused {c : Char} {info : Unrecognized} {reason : φ}
      (unrecoverable : options.errorsRecoverable = false) (shows : info.unexpected = some c)
      (refused : refuses info reason) : Gives host refuses options (.stray c) (.failed reason)
  | finish {token : Token} (is : token.symbol = SymbolId.endOfInput) (reads : token.text = "") :
      Gives host refuses options .finish (.token token)
  | unclosed {line : Nat} : Gives host refuses options .unclosed
      (.failed (host.fail (.action Rule.commentEnd (.unterminatedComment line))))

/-- A search for a token, from a text on, finds a lexeme and leaves the others. -/
structure Finds (host : LexerHost τ Fault φ) (seen : τ → Context) (refuses : Unrecognized → φ → Prop)
    (options : LexerOptions) (cs : List Char) (t : τ) (outcome : Lexed φ × Lexer × τ) (found : Found)
    (others : List Found) : Prop where
  gives : found.lexeme.Gives host refuses options outcome.1
  comments : (seen outcome.2.2).comments = (seen t).comments + found.opened
  conditions : found.lexeme ≠ .unclosed → outcome.2.1.conditions = [initialCondition]
  ahead : others ≠ [] → ∃ cs', At options .between cs' outcome.2.1 ∧ reading cs' = others ∧
    cs'.length ≤ cs.length

variable {limit : Nat}

/-- What a search comes to that begins with a scan that emits nothing. The search goes on at the
place that the rule leads to, and comes to the lexeme found from there, with the comments that the
rule opened. -/
theorem At.skips (calculates : host.Calculates seen refuses) (h : At options place (c :: cs) lexer)
    (moves : Moves rule place place' none opened)
    (chosen : candidatesAt place.condition (c :: cs) = (rule, length) :: others)
    (longest : ∀ other ∈ others, other.2 ≤ length) (progress : 0 < length) (t : τ)
    (ih : ∀ lexer' t', At options place' ((c :: cs).drop length) lexer' →
      ∃ found others, place'.reading ((c :: cs).drop length) = found :: others ∧
        Finds host seen refuses options ((c :: cs).drop length) t' (lexer'.lex host limit t') found
          others) :
    ∃ found others, place'.reading ((c :: cs).drop length) = found :: others ∧
      Finds host seen refuses options (c :: cs) t (lexer.lex host (limit + 1) t)
        ⟨found.opened + opened, found.lexeme⟩ others := by
  obtain ⟨lexer', t', hscan, hat, -, hcomments⟩ := h.scan calculates moves chosen longest progress t
  have hlex : lexer.lex host (limit + 1) t = lexer'.lex host limit t' := by
    rw [Lexer.lex, hscan]
    rfl
  obtain ⟨found, later, hreading, hfinds⟩ := ih lexer' t' hat
  refine ⟨found, later, hreading, ?_⟩
  rw [hlex]
  refine ⟨hfinds.gives, ?_, hfinds.conditions, ?_⟩
  · rw [hfinds.comments, hcomments, Nat.add_assoc, Nat.add_comm opened]
  · intro hlater
    obtain ⟨cs', hat', hreading', hle⟩ := hfinds.ahead hlater
    refine ⟨cs', hat', hreading', Nat.le_trans hle ?_⟩
    rw [List.length_drop]
    exact Nat.sub_le _ _

/-- What a search comes to that begins with a scan that emits a token. -/
theorem At.emits (calculates : host.Calculates seen refuses) {symbol : SymbolId}
    (h : At options .between (c :: cs) lexer) (moves : Moves rule .between .between (some symbol) 0)
    (chosen : candidatesAt betweenTokens (c :: cs) = (rule, length) :: others)
    (longest : ∀ other ∈ others, other.2 ≤ length) (progress : 0 < length) (t : τ) :
    Finds host seen refuses options (c :: cs) t (lexer.lex host (limit + 1) t)
      ⟨0, .token symbol ((c :: cs).take length)⟩ (reading ((c :: cs).drop length)) := by
  obtain ⟨lexer', t', hscan, hat, htext, hcomments⟩ :=
    h.scan calculates moves chosen longest progress t
  have hlex : lexer.lex host (limit + 1) t =
      (.token (lexer'.token symbol), lexer'.countToken,
        host.note (.token (lexer'.token symbol)) t') := by
    rw [Lexer.lex, hscan]
    rfl
  rw [hlex]
  refine ⟨.token rfl (congrArg String.ofList htext), ?_, fun _ => hat.conditions, fun _ =>
    ⟨_, ⟨hat.reads, hat.sound.same rfl rfl rfl rfl, hat.rest, hat.conditions, hat.more, hat.done⟩, rfl, ?_⟩⟩
  · rw [calculates.note, hcomments]
  · rw [List.length_drop]
    exact Nat.sub_le _ _

/-- What a search comes to at a character that nothing starts with. If errors are tolerated, the
host answers with an error token whose text is that character; otherwise the search fails with the
refusal of the host. In both cases the lexer is behind the character. -/
theorem At.strays (calculates : host.Calculates seen refuses)
    (h : At options .between (c :: cs) lexer) (single : c ≠ '\r')
    (none : candidatesAt betweenTokens (c :: cs) = []) (t : τ) :
    Finds host seen refuses options (c :: cs) t (lexer.lex host (limit + 1) t) ⟨0, .stray c⟩
      (reading cs) := by
  obtain ⟨begun, hready, hscan⟩ := h.scan_stuck none host t
  obtain ⟨hskipped, htext⟩ := hready.skipUnit single
  obtain ⟨answer, t', hstuck, hcomments, hanswer⟩ :=
    calculates.stuck begun.unrecognized begun (host.note (.unrecognized begun.offset) t)
  rw [calculates.note] at hcomments
  have halone : begun.leftAlone begun = true := by
    simp only [Lexer.leftAlone, beq_self_eq_true, hready.active, Bool.and_self]
  have hresolve : begun.resolve host t begun.unrecognized = (answer, begun.skipUnit, t') := by
    unfold Lexer.resolve
    simp only [hstuck, halone, if_true]
  have hoptions : begun.unrecognized.recoverable = options.errorsRecoverable := by
    show begun.rules.options.errorsRecoverable = _
    rw [hready.reads.chosen]
  rw [hoptions] at hanswer
  cases hrecoverable : options.errorsRecoverable with
  | true =>
    rw [hrecoverable, if_pos rfl] at hanswer
    have hlex : lexer.lex host (limit + 1) t =
        (.token (begun.skipUnit.countToken.token SymbolId.error), begun.skipUnit.countToken, t') := by
      rw [Lexer.lex, hscan]
      simp only [hresolve, hanswer]
    rw [hlex]
    refine ⟨.tolerated hrecoverable rfl (congrArg String.ofList htext), hcomments,
      fun _ => hskipped.conditions, fun _ => ⟨cs, ?_, rfl, Nat.le_succ _⟩⟩
    exact ⟨hskipped.reads, hskipped.sound.same rfl rfl rfl rfl, hskipped.rest, hskipped.conditions, hskipped.more,
      hskipped.done⟩
  | false =>
    rw [hrecoverable, if_neg Bool.false_ne_true] at hanswer
    obtain ⟨reason, rfl, hrefused⟩ := hanswer
    have hlex : lexer.lex host (limit + 1) t = (.failed reason, begun.skipUnit, t') := by
      rw [Lexer.lex, hscan]
      simp only [hresolve]
    rw [hlex]
    exact ⟨.refused hrecoverable (congrArg List.head? hready.rest) hrefused, hcomments,
      fun _ => hskipped.conditions, fun _ => ⟨cs, hskipped, rfl, Nat.le_succ _⟩⟩

/-- What a search comes to at the end of the text. -/
theorem At.finishes (calculates : host.Calculates seen refuses) (h : At options .between [] lexer)
    (t : τ) :
    Finds host seen refuses options [] t (lexer.lex host (limit + 1) t) ⟨0, .finish⟩ [] := by
  obtain ⟨begun, hready, hscan⟩ := h.scan_eq host t
  generalize hended : ({ begun with done := true } : Lexer) = ended
  have hlex : lexer.lex host (limit + 1) t =
      (.token ended.endToken, ended.countToken, host.note (.token ended.endToken) t) := by
    rw [Lexer.lex, hscan, hready.trials_nil rfl, Lexer.tryAll, Lexer.unmatched, hready.rest, ← hended]
    rfl
  rw [hlex]
  refine ⟨.finish rfl rfl, congrArg Context.comments (calculates.note _ _), fun _ => ?_, absurd rfl⟩
  rw [← hended]
  exact hready.conditions

/-- What a search comes to at the end of the text within a comment. -/
theorem At.breaksOff (calculates : host.Calculates seen refuses) (h : At options .inside [] lexer)
    (t : τ) :
    Finds host seen refuses options [] t (lexer.lex host (limit + 1) t) ⟨0, .unclosed⟩ [] := by
  obtain ⟨begun, hready, hscan⟩ := h.scan_eq host t
  have hchosen : candidatesAt Place.inside.condition [] = [(Rule.commentEnd, 0)] := rfl
  obtain ⟨more, htrials⟩ := hready.trials_eq hchosen nofun
  generalize hnoted : host.note (.matched ((begun.consume 0).topCondition 0) Rule.commentEnd
    (((begun.consume 0).rules.rules[Rule.commentEnd]?.map (·.source)).getD "")
    (begun.consume 0).matchedText) t = noted
  obtain ⟨t', hacts, hcontext⟩ := calculates.action Rule.commentEnd (begun.consume 0) noted
  have hlex : lexer.lex host (limit + 1) t =
      (.failed (host.fail (.action Rule.commentEnd
        (.unterminatedComment ((begun.consume 0).lineNo + 1)))), begun.consume 0, t') := by
    rw [Lexer.lex, hscan, htrials, Lexer.tryAll, Lexer.fire]
    simp only [hnoted, hacts]
    rfl
  rw [hlex]
  refine ⟨.unclosed, ?_, fun h => absurd rfl h, absurd rfl⟩
  rw [hcontext, ← calculates.note _ t, hnoted]
  rfl

/-- A run of characters of a set that begins with one is not empty. -/
theorem length_takeWhile_pos {p : Char → Bool} (cs : List Char) (first : p c = true) :
    0 < ((c :: cs).takeWhile p).length := by
  rw [List.takeWhile_cons_of_pos first]
  exact Nat.succ_pos _

/-- What a search for a token does from a place on: it finds the first lexeme there, and leaves the
others. -/
def Searches (host : LexerHost τ Fault φ) (seen : τ → Context) (refuses : Unrecognized → φ → Prop)
    (options : LexerOptions) (limit : Nat) (place : Place) (cs : List Char) : Prop :=
  ∀ lexer t, At options place cs lexer → ∃ found others, place.reading cs = found :: others ∧
    Finds host seen refuses options cs t (lexer.lex host limit t) found others

/-- A search between tokens, with those from later places on. The characters ahead decide: blanks
and the opening of a comment lead on, digits, signs and semicolons are tokens, and anything else is
a stray character. -/
theorem searches_between (calculates : host.Calculates seen refuses)
    (ih : ∀ place length, 0 < length →
      Searches host seen refuses options limit place ((c :: cs).drop length)) :
    Searches host seen refuses options (limit + 1) .between (c :: cs) := by
  intro lexer t h
  show ∃ found others, reading (c :: cs) = found :: others ∧ _
  cases blank : Text.isBlank c with
  | true =>
    have hpos := length_takeWhile_pos cs blank
    have hskips := h.skips calculates .blanks (candidatesAt_blank blank) nofun hpos t
      (ih .between _ hpos)
    rw [drop_takeWhile, List.dropWhile_cons_of_pos blank] at hskips
    rw [reading_blank blank]
    exact hskips
  | false =>
    cases digit : c.isDigit with
    | true =>
      have hemits : Finds host seen refuses options (c :: cs) t (lexer.lex host (limit + 1) t) _ _ :=
        h.emits calculates .number (candidatesAt_digit blank digit) nofun
          (length_takeWhile_pos cs digit) t
      rw [drop_takeWhile, take_takeWhile, List.dropWhile_cons_of_pos digit,
        List.takeWhile_cons_of_pos digit] at hemits
      exact ⟨_, _, reading_digit blank digit, hemits⟩
    | false =>
      by_cases opening : c = '/' ∧ cs.head? = some '*'
      · obtain ⟨rfl, hstar⟩ := opening
        obtain ⟨cs, rfl⟩ := List.head?_eq_some_iff.mp hstar
        obtain ⟨found, others, hreading, hfinds⟩ := h.skips calculates .opening candidatesAt_open nofun
          (by decide) t (ih .inside _ (by decide))
        refine ⟨_, others, ?_, hfinds⟩
        rw [reading_open]
        exact congrArg commented hreading
      · cases sign : sign? c with
        | some symbol =>
          refine ⟨_, _, reading_sign sign, ?_⟩
          unfold sign? at sign
          split at sign <;> cases sign
          · exact h.emits calculates .semicolon candidatesAt_semicolon nofun (by decide) t
          · exact h.emits calculates .plusSign candidatesAt_plus nofun (by decide) t
          · exact h.emits calculates .minusSign candidatesAt_minus nofun (by decide) t
        | none =>
          refine ⟨_, _, reading_stray blank digit opening sign, h.strays calculates ?_ ?_ t⟩
          · rintro rfl
            exact absurd blank (by decide)
          · refine candidatesAt_stray blank digit opening ?_ ?_ ?_ <;> rintro rfl <;> cases sign

/-- A search within a comment, with those from later places on. -/
theorem searches_inside (calculates : host.Calculates seen refuses)
    (ih : ∀ place length, 0 < length →
      Searches host seen refuses options limit place ((c :: cs).drop length)) :
    Searches host seen refuses options (limit + 1) .inside (c :: cs) := by
  intro lexer t h
  show ∃ found others, readingInside (c :: cs) = found :: others ∧ _
  by_cases star : c = '*'
  · subst star
    by_cases ends : cs.head? = some '/'
    · obtain ⟨cs, rfl⟩ := List.head?_eq_some_iff.mp ends
      rw [readingInside_close]
      exact h.skips calculates .closing candidatesAt_close (by simp) (by decide) t
        (ih .between _ (by decide))
    · rw [readingInside_cons fun h => ends h.2]
      exact h.skips calculates .star (candidatesAt_star ends) nofun (by decide) t
        (ih .inside _ (by decide))
  · have hother : (c != '*') = true := bne_iff_ne.mpr star
    have hpos : 0 < ((c :: cs).takeWhile (· != '*')).length := length_takeWhile_pos cs hother
    have hskips := h.skips calculates .text (candidatesAt_text star) nofun hpos t (ih .inside _ hpos)
    rw [drop_takeWhile] at hskips
    rw [← readingInside_text]
    exact hskips

/-- A search for a token finds the first lexeme of the text ahead, in any place, and leaves the
others. Each scan but the last one takes a character, so that the scans do not run out. The
induction is on the limit of scans, over both kinds of places at once. -/
theorem lex_finds (calculates : host.Calculates seen refuses) (place : Place)
    (enough : cs.length < limit) : Searches host seen refuses options limit place cs := by
  induction limit generalizing place cs with
  | zero => exact absurd enough (Nat.not_lt_zero _)
  | succ limit ih =>
    cases cs with
    | nil =>
      intro lexer t h
      cases place with
      | between => exact ⟨_, _, reading_nil, h.finishes calculates t⟩
      | inside => exact ⟨_, _, readingInside_nil, h.breaksOff calculates t⟩
    | cons c cs =>
      have hrest : ∀ place length, 0 < length →
          Searches host seen refuses options limit place ((c :: cs).drop length) := by
        intro place length hpos
        refine ih place ?_
        rw [List.length_cons] at enough
        rw [List.length_drop, List.length_cons]
        omega
      cases place with
      | between => exact searches_between calculates hrest
      | inside => exact searches_inside calculates hrest

/-! ## Runs -/

/-- A lexer with the calculator's rules, at the start of an input. -/
theorem at_setInput (reads : Reads options lexer.rules) (input : String) :
    At options .between input.toList (lexer.setInput input) :=
  have hinitial := (Place.between.conditions_sound reads).2 initialCondition List.mem_cons_self
  ⟨reads, Lexer.sound_setInput hinitial rfl input, rfl, rfl, rfl, rfl⟩

/-- Searches one after the other find the lexemes one after the other. By induction on the searches;
each leaves the lexer between tokens in front of what is left to read, which is no longer than
before, so that the limits are enough for all of them. -/
theorem lexAll_reads (calculates : host.Calculates seen refuses) (h : At options .between cs lexer)
    (limits : List Nat) (enough : ∀ limit ∈ limits, cs.length < limit)
    (within : limits.length ≤ (reading cs).length) (t : τ) :
    let found := (reading cs).take limits.length
    let run := lexer.lexAll host limits t
    List.Forall₂ (fun found result => found.lexeme.Gives host refuses options result) found run.1 ∧
    (seen run.2.2).comments = (seen t).comments + (found.map (·.opened)).sum ∧
    ((∀ f ∈ found, f.lexeme ≠ .unclosed) → run.2.1.conditions = [initialCondition]) := by
  induction limits generalizing cs lexer t with
  | nil => exact ⟨.nil, rfl, fun _ => h.conditions⟩
  | cons limit limits ih =>
    obtain ⟨hlimit, hlimits⟩ := List.forall_mem_cons.mp enough
    obtain ⟨found, others, hreading, hfinds⟩ := lex_finds calculates .between hlimit lexer t h
    have hreading : reading cs = found :: others := hreading
    rw [hreading] at within ⊢
    have hwithin : limits.length ≤ others.length := Nat.le_of_succ_le_succ within
    simp only [Lexer.lexAll, List.length_cons, List.take_succ_cons, List.map_cons, List.sum_cons,
      List.forall_mem_cons]
    cases limits with
    | nil =>
      exact ⟨.cons hfinds.gives .nil, hfinds.comments, fun hclosed => hfinds.conditions hclosed.1⟩
    | cons limit' limits =>
      have hothers : others ≠ [] := List.ne_nil_of_length_pos (Nat.lt_of_lt_of_le (Nat.succ_pos _) hwithin)
      obtain ⟨cs', hat, hreading', hle⟩ := hfinds.ahead hothers
      subst hreading'
      obtain ⟨hgives, hcomments, hconditions⟩ := ih hat
        (fun limit hmem => Nat.lt_of_le_of_lt hle (hlimits limit hmem)) hwithin
        (lexer.lex host limit t).2.2
      refine ⟨.cons hfinds.gives hgives, ?_, fun hclosed => hconditions hclosed.2⟩
      rw [hcomments, hfinds.comments, Nat.add_assoc]

end

/-- The calculator's lexer, under any options and by any compiler that gives its patterns their
usual meaning, finds the lexemes of an input one after the other: tokens and, where errors are
recoverable, error tokens, each with the text that it stands for; an unrecognized character
elsewhere; and a fault of the rule for the end of the input within a comment that does not end. It
counts the comments on the way, and is in the initial condition alone after every search but the one
that fails in a comment. Reference: `lexer_data` and `CalcLexerDriver::action`. -/
theorem lexer_finds_lexemes {compile : PatternCompiler} (usual : ReadsPatterns compile)
    (options : LexerOptions) (input : String) (context : Context)
    (limits : List Nat) (enough : ∀ limit ∈ limits, input.length < limit)
    (within : limits.length ≤ (reading input.toList).length) :
    ∃ rules, lexerRules options compile = .ok rules ∧
      let found := (reading input.toList).take limits.length
      let run := ((Lexer.new rules).setInput input).lexAll (.alone ruleAction) limits (context, [])
      List.Forall₂ (fun found result => found.lexeme.Gives (.alone ruleAction)
        (fun info reason => reason = .unrecognized info) options result) found run.1 ∧
      run.2.2.1.comments = context.comments + (found.map (·.opened)).sum ∧
      ((∀ f ∈ found, f.lexeme ≠ .unclosed) → run.2.1.conditions = [initialCondition]) := by
  obtain ⟨rules, hbuilt, hreads⟩ := lexerRules_built usual options
  have hnew : Reads options (Lexer.new rules).rules := hreads
  exact ⟨rules, hbuilt, lexAll_reads LexerHost.alone_calculates (at_setInput hnew input) limits enough
    within (context, [])⟩

/-- A number and a semicolon with a comment between them: three searches find both and the end, and the
comment is counted. -/
theorem comment_between_tokens :
    ∃ rules, lexerRules {} = .ok rules ∧
      let run := ((Lexer.new rules).setInput "7/**/;").lexAll (.alone ruleAction) [7, 7, 7] ({}, [])
      List.Forall₂ (fun (found : Found) result => found.lexeme.Gives (.alone ruleAction)
          (fun info reason => reason = .unrecognized info) {} result)
        [⟨0, .token Terminal.number ['7']⟩, ⟨1, .token Terminal.semicolon [';']⟩, ⟨0, .finish⟩]
        run.1 ∧
      run.2.2.1.comments = 1 ∧ run.2.1.conditions = [initialCondition] := by
  have hreading : reading "7/**/;".toList = [⟨0, .token Terminal.number ['7']⟩,
      ⟨1, .token Terminal.semicolon [';']⟩, ⟨0, .finish⟩] := by
    have hsemicolon : reading [';'] = [⟨0, .token Terminal.semicolon [';']⟩, ⟨0, .finish⟩] := by
      rw [reading_sign rfl, reading_nil]
    show reading ('7' :: '/' :: '*' :: '*' :: '/' :: [';']) = _
    rw [reading_digit rfl rfl]
    show ⟨0, .token Terminal.number ['7']⟩ :: reading ('/' :: '*' :: '*' :: '/' :: [';']) = _
    rw [reading_open, readingInside_close, hsemicolon]
    rfl
  obtain ⟨rules, hrules, hgives, hcomments, hconditions⟩ :=
    lexer_finds_lexemes readsPatterns_compile {} "7/**/;" {} [7, 7, 7] (by decide) (by rw [hreading]; decide)
  rw [hreading] at hgives hcomments hconditions
  exact ⟨rules, hrules, hgives, hcomments, hconditions (by decide)⟩

end Calculator

end ShiftReduce
