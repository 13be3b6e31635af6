import ShiftReduce.Proofs.Calculator.Construction
import ShiftReduce.Proofs.Lexer.Operation
import ShiftReduce.Proofs.Source.Reader

/-!
# The representation of a lexer is sound

A lexer keeps a cursor that it moves along with its text, a stack of start conditions, and the place of
the one on top as a cache. Every operation and every part of a scan keep the three in step
(`Lexer.Sound`), although text is exchanged under the cursor, a rejected match brings an old state back,
and actions may change the stack in the middle of a scan. `Lexer.reachable_lexers_are_sound` says what
this means for all states that a lexer can come to.

A lexer is reached by operations and by searches under any hosts that do nothing but operations to
it (`Lexer.Reachable`). The invariant is kept by each operation (`Lexer.Sound.perform`), and hence
by whatever a host does; a search adds matches and rejections of its own.
-/

namespace ShiftReduce

/-! ## Rules -/

/-- A declaration keeps the conditions that were declared. -/
theorem LexerDeclaration.any_declareCondition {conditions : List (String × Bool)} {name : String}
    (h : conditions.any (·.1 == name) = true) (declaration : LexerDeclaration) :
    (declareCondition conditions declaration).any (·.1 == name) = true := by
  cases declaration with
  | rule members pattern => exact h
  | condition other inclusive =>
    obtain ⟨c, hmem, hname⟩ := List.any_eq_true.mp h
    simp only [declareCondition]
    split
    · exact h
    · split
      · refine List.any_eq_true.mpr ⟨_, List.mem_map_of_mem hmem, ?_⟩
        split
        · next hother => rw [← hother]; exact hname
        · exact hname
      · rw [List.any_append, h]
        rfl

namespace LexerRules

/-- A condition has a place if and only if it is declared. -/
theorem isSome_conditionIndex? (rules : LexerRules) (name : String) :
    (rules.conditionIndex? name).isSome = (rules.condition? name).isSome := by
  unfold conditionIndex? condition?
  rw [List.findIdx?_isSome, List.isSome_find?]

/-- Built rules declare the initial condition. -/
theorem build_initial {options : LexerOptions} {declarations : List LexerDeclaration}
    {compile : PatternCompiler} {rules : LexerRules}
    (built : build options declarations compile = .ok rules) :
    (rules.condition? initialCondition).isSome = true := by
  have hnames : (LexerDeclaration.conditionsOf declarations).any (·.1 == initialCondition) = true :=
    List.foldlRecOn declarations LexerDeclaration.declareCondition
      (motive := fun conditions : List (String × Bool) =>
        conditions.any (·.1 == initialCondition) = true)
      rfl fun _ hdeclared declaration _ => LexerDeclaration.any_declareCondition hdeclared declaration
  simp only [build, bind, Except.bind] at built
  split at built
  · cases built
  · cases built
    unfold condition?
    rw [List.isSome_find?, List.any_map]
    exact hnames

end LexerRules

namespace Lexer

/-- A lexer for a set of rules whose cursor is that of the text before it, whose stack holds declared
conditions above the initial one, and whose cache is right if there is one. -/
structure Sound (rules : LexerRules) (lexer : Lexer) : Prop where
  governed : lexer.rules = rules
  exact : lexer.reader.Exact
  bottom : lexer.conditions.getLast? = some initialCondition
  declared : ∀ name ∈ lexer.conditions, (rules.condition? name).isSome = true
  cached : ∀ index ∈ lexer.active, rules.conditionIndex? (lexer.topCondition 0) = some index

variable {rules : LexerRules} {lexer lexer' saved : Lexer}

/-- A lexer that has gone to another place in its text is as sound. -/
theorem Sound.moved (h : lexer.Sound rules) (sameRules : lexer'.rules = lexer.rules)
    (moved : lexer'.reader.Exact) (sameConditions : lexer'.conditions = lexer.conditions)
    (sameActive : lexer'.active = lexer.active) : lexer'.Sound rules := by
  refine ⟨?_, moved, ?_, ?_, ?_⟩
  · rw [sameRules]; exact h.governed
  · rw [sameConditions]; exact h.bottom
  · rw [sameConditions]; exact h.declared
  · unfold topCondition
    rw [sameConditions, sameActive]
    exact h.cached

/-- A lexer with the same rules, text, conditions and cache is as sound. -/
theorem Sound.same (h : lexer.Sound rules) (sameRules : lexer'.rules = lexer.rules)
    (sameReader : lexer'.reader = lexer.reader) (sameConditions : lexer'.conditions = lexer.conditions)
    (sameActive : lexer'.active = lexer.active) : lexer'.Sound rules := by
  have hexact : lexer'.reader.Exact := by
    rw [sameReader]
    exact h.exact
  exact h.moved sameRules hexact sameConditions sameActive

/-! ## Operations -/

/-- A lexer at the start of an input is sound if its rules declare the initial condition. -/
theorem sound_setInput (initial : (rules.condition? initialCondition).isSome = true)
    (h : lexer.rules = rules) (input : String) : (lexer.setInput input).Sound rules where
  governed := h
  exact := Reader.exact_ofString input
  bottom := rfl
  declared := List.forall_mem_cons.mpr ⟨initial, nofun⟩
  cached := nofun

/-- Reading a character keeps a lexer sound. Reference: `Lexer::input`. -/
theorem Sound.input (h : lexer.Sound rules) : lexer.input.2.Sound rules := by
  unfold Lexer.input
  split
  · exact h
  · exact h.moved rfl (h.exact.forward _) rfl rfl

/-- Handing text back keeps a lexer sound. Reference: `Lexer::unput`. -/
theorem Sound.unput (h : lexer.Sound rules) (text : List Char) : (lexer.unput text).Sound rules :=
  h.moved rfl ((h.exact.backward _).replaceRest _) rfl rfl

/-- Leaving a condition keeps a lexer sound: the lowest one stays. Reference: `Lexer::pop_state`. -/
theorem Sound.popCondition (h : lexer.Sound rules) : lexer.popCondition.2.Sound rules := by
  have hbottom := h.bottom
  have hdeclared := h.declared
  unfold Lexer.popCondition
  split
  · next top next below hconditions =>
    rw [hconditions] at hbottom hdeclared
    rw [List.getLast?_cons_cons] at hbottom
    exact ⟨h.governed, h.exact, hbottom, (List.forall_mem_cons.mp hdeclared).2, nofun⟩
  · exact ⟨h.governed, h.exact, hbottom, hdeclared, nofun⟩

/-- Every operation keeps a lexer sound. There is a case for each operation. What changes the input
takes the cursor back, or starts anew; what changes the conditions forgets the place of the active
one, and pushes only conditions that are declared. -/
theorem Sound.perform (initial : (rules.condition? initialCondition).isSome = true)
    (h : lexer.Sound rules) {operation : Operation} (performed : lexer.perform operation = .ok lexer') :
    lexer'.Sound rules := by
  cases operation with
  | setInput input => cases performed; exact sound_setInput initial h.governed input
  | setText text => cases performed; exact h.same rfl rfl rfl rfl
  | push condition =>
    simp only [Lexer.perform, pushCondition] at performed
    split at performed
    · cases performed
    · next hdeclared =>
      cases performed
      refine ⟨h.governed, h.exact, ?_, ?_, nofun⟩
      · rw [List.getLast?_cons, h.bottom]
        rfl
      · rw [h.governed, Option.isNone_iff_eq_none, ← ne_eq, ← Option.isSome_iff_ne_none] at hdeclared
        exact List.forall_mem_cons.mpr ⟨hdeclared, h.declared⟩
  | pop => cases performed; exact h.popCondition
  | keepMatch => cases performed; exact h.same rfl rfl rfl rfl
  | reject =>
    simp only [Lexer.perform, reject] at performed
    split at performed
    · cases performed; exact h.same rfl rfl rfl rfl
    · cases performed
  | unput text => cases performed; exact h.unput text
  | less n => cases performed; exact h.unput _
  | input => cases performed; exact h.input

/-! ## Scans -/

/-- The condition on top is declared. -/
theorem Sound.top_declared (h : lexer.Sound rules) :
    (rules.condition? (lexer.topCondition 0)).isSome = true := by
  have hbottom := h.bottom
  have hdeclared := h.declared
  unfold topCondition
  cases hconditions : lexer.conditions with
  | nil => rw [hconditions] at hbottom; cases hbottom
  | cons top below =>
    rw [hconditions] at hdeclared
    exact hdeclared top List.mem_cons_self

/-- Finding the active condition fills the cache with the place of the condition on top. -/
theorem Sound.activate (h : lexer.Sound rules) : lexer.activate.2.Sound rules := by
  refine ⟨h.governed, h.exact, h.bottom, h.declared, ?_⟩
  intro index hindex
  have hplaced := rules.isSome_conditionIndex? (lexer.topCondition 0)
  rw [h.top_declared] at hplaced
  obtain ⟨place, hplace⟩ := Option.isSome_iff_exists.mp hplaced
  have htop : lexer.activate.2.topCondition 0 = lexer.topCondition 0 := rfl
  rw [htop, hplace]
  unfold Lexer.activate at hindex
  cases hactive : lexer.active with
  | none =>
    rw [hactive, h.governed, hplace] at hindex
    exact hindex
  | some cached =>
    have hcached := h.cached cached hactive
    rw [hplace] at hcached
    rw [hactive] at hindex
    exact hcached.trans hindex

/-- Consuming a match keeps a lexer sound. Reference: `Lexer::test_match`. -/
theorem Sound.consume (h : lexer.Sound rules) (length : Nat) : (lexer.consume length).Sound rules :=
  h.moved rfl (h.exact.forward _) rfl rfl

/-- A rejected match brings the text and the conditions before it back. The cache is dropped, or
else it was filled for the same conditions. Reference: `Lexer::restore`. -/
theorem Sound.restore (h : lexer.Sound rules) (before : saved.Sound rules) :
    (lexer.restore saved).Sound rules := by
  refine ⟨h.governed, before.exact, before.bottom, before.declared, ?_⟩
  intro index hindex
  unfold Lexer.restore at hindex
  dsimp only at hindex
  split at hindex
  · next hsame =>
    have hcached := h.cached index hindex
    unfold topCondition at hcached ⊢
    rw [hsame] at hcached
    exact hcached
  · cases hindex

/-- A rejection keeps a lexer sound. Reference: `Lexer::restore`. -/
theorem Sound.afterReject (h : lexer.Sound rules) (before : saved.Sound rules) :
    (lexer.afterReject saved).Sound rules := by
  unfold Lexer.afterReject
  dsimp only
  split
  · exact (h.restore before).same rfl rfl rfl rfl
  · exact h.same rfl rfl rfl rfl

/-- Taking back the end of the input keeps a lexer sound. -/
theorem Sound.reopen (h : lexer.Sound rules) : lexer.reopen.Sound rules := by
  unfold Lexer.reopen
  split
  · exact h.same rfl rfl rfl rfl
  · exact h

/-- Skipping a unit of input keeps a lexer sound. Reference: the forced `Lexer::input` in
`Lexer::lex`. -/
theorem Sound.skipUnit (h : lexer.Sound rules) : lexer.skipUnit.Sound rules :=
  Sound.input (h.same rfl rfl rfl rfl)

section
variable {τ ε φ : Type} {host : LexerHost τ ε φ} {t : τ}

/-- Running the action of a rule keeps a lexer sound. Reference: `Lexer::test_match`. -/
theorem Sound.fire (initial : (rules.condition? initialCondition).isSome = true)
    (operates : host.Operates) (h : lexer.Sound rules) (t : τ) (rule : RuleId) (length : Nat) :
    (lexer.fire host t rule length).2.1.Sound rules := by
  have hacted : ∀ t, (host.action rule (lexer.consume length) t).2.1.Sound rules := fun t =>
    (operates.action rule _ t).keeps (fun _ hperformed hsound => hsound.perform initial hperformed)
      (h.consume length)
  unfold Lexer.fire
  dsimp only
  split
  · next heq => exact (congrArg (Sound rules ·.2.1) heq).mp (hacted _)
  · next heq =>
    have hsound := (congrArg (Sound rules ·.2.1) heq).mp (hacted _)
    split
    · exact hsound.afterReject h
    · split
      · exact hsound.reopen
      · split <;> exact hsound.reopen

/-- Trying candidates keeps a lexer sound. Reference: the loop over the candidates in `Lexer::scan`.
-/
theorem Sound.tryAll (initial : (rules.condition? initialCondition).isSome = true)
    (operates : host.Operates) (candidates : List Candidate) (h : lexer.Sound rules) (t : τ) :
    (tryAll host candidates lexer t).2.1.Sound rules := by
  induction candidates generalizing lexer t with
  | nil =>
    unfold Lexer.tryAll unmatched
    dsimp only
    split
    · exact h.same rfl rfl rfl rfl
    · exact h
  | cons candidate others ih =>
    have hfire := h.fire initial operates t candidate.1 candidate.2
    unfold Lexer.tryAll
    split <;> next heq =>
      rw [heq] at hfire
      first
      | exact hfire
      | split
        · exact ih hfire _
        · exact hfire

/-- A scan keeps a lexer sound. Reference: `Lexer::scan`. -/
theorem Sound.scan (initial : (rules.condition? initialCondition).isSome = true)
    (operates : host.Operates) (h : lexer.Sound rules) (t : τ) :
    (lexer.scan host t).2.1.Sound rules := by
  unfold Lexer.scan
  split
  · exact h
  · have hbegun : lexer.beginScan.Sound rules := h.same rfl rfl rfl rfl
    exact hbegun.activate.tryAll initial operates _ t

/-- The answer to unrecognized input keeps a lexer sound. Reference: the case of unmatched input in
`Lexer::lex`. -/
theorem Sound.resolve (initial : (rules.condition? initialCondition).isSome = true)
    (operates : host.Operates) (h : lexer.Sound rules) (t : τ) (info : Unrecognized) :
    (lexer.resolve host t info).2.1.Sound rules := by
  have hanswered : ∀ t, (host.stuck info lexer t).2.1.Sound rules := fun t =>
    (operates.stuck info lexer t).keeps
      (fun _ hperformed hsound => hsound.perform initial hperformed) h
  unfold Lexer.resolve
  dsimp only
  split
  · exact (hanswered _).skipUnit
  · exact hanswered _

/-- A search for a token keeps a lexer sound. Reference: `Lexer::lex`. -/
theorem Sound.lex (initial : (rules.condition? initialCondition).isSome = true)
    (operates : host.Operates) (limit : Nat) (h : lexer.Sound rules) (t : τ) :
    (lexer.lex host limit t).2.1.Sound rules := by
  induction limit generalizing lexer t with
  | zero => exact h
  | succ limit ih =>
    have hscan := h.scan initial operates t
    unfold Lexer.lex
    split
    · next heq => rw [heq] at hscan; exact hscan.same rfl rfl rfl rfl
    · next heq => rw [heq] at hscan; exact hscan
    · next heq => rw [heq] at hscan; exact ih hscan _
    · next info stuck t' heq =>
      rw [heq] at hscan
      have hresolve := hscan.resolve initial operates t' info
      split
      · next hanswer => rw [hanswer] at hresolve; exact hresolve
      · next hanswer => rw [hanswer] at hresolve; exact ih hresolve _
      · next hanswer => rw [hanswer] at hresolve; exact hresolve.same rfl rfl rfl rfl

end

/-! ## Reachable lexers -/

/-- Every state that a lexer can come to is sound. -/
theorem Reachable.sound (initial : (rules.condition? initialCondition).isSome = true)
    (h : lexer.Reachable rules) : lexer.Sound rules := by
  induction h with
  | new => exact sound_setInput initial rfl ""
  | perform _ _ hperformed ih => exact ih.perform initial hperformed
  | lex _ _ hoperates limit t ih => exact ih.lex initial hoperates limit t

/-- Whatever the compiler of its patterns is, in every state that a lexer with built rules can come
to, the offset is a border between two characters of the input, or one of its ends, and the lexer's
reader is a fresh one moved there; at the bottom of the stack of conditions is the initial one, all
of them are declared, and a cached place is that of the one on top. Reference: `Lexer`, under
`Lexer::lex` and all methods that change it. -/
theorem reachable_lexers_are_sound {options : LexerOptions} {declarations : List LexerDeclaration}
    {compile : PatternCompiler} (built : LexerRules.build options declarations compile = .ok rules)
    (reachable : lexer.Reachable rules) :
    String.Pos.Raw.IsValid lexer.source ⟨lexer.offset⟩ ∧
    (Reader.ofString lexer.source).advanceTo? lexer.offset = some lexer.reader ∧
    lexer.conditions.getLast? = some initialCondition ∧
    (∀ name ∈ lexer.conditions, (rules.condition? name).isSome = true) ∧
    ∀ index ∈ lexer.active, rules.conditionIndex? (lexer.topCondition 0) = some index := by
  have hsound := reachable.sound (LexerRules.build_initial built)
  exact ⟨hsound.exact.isValid, hsound.exact.advanceTo?_offset, hsound.bottom, hsound.declared,
    hsound.cached⟩

end Lexer

/-! ## A lexer within a comment -/

namespace Calculator

/-- The actions of the calculator's rules push and pop conditions, and do nothing else to the lexer. -/
theorem ruleAction_operates : (LexerHost.alone ruleAction).Operates where
  action rule lexer t := by
    show Lexer.Edits _ lexer (ruleAction rule lexer t.1).2.1
    unfold ruleAction
    split
    · exact .refl
    · exact .refl
    · exact .refl
    · split
      · next hpushed => exact .single ⟨.push commentCondition, trivial, hpushed⟩
      · exact .refl
    · exact .single ⟨.pop, trivial, rfl⟩
    all_goals exact .refl
  stuck info lexer t := .refl

/-- The calculator's lexer after the number at the start of an input. -/
def behindNumber : Lexed (LexError Fault) × Lexer × Context × List LexerEvent :=
  (tolerant.config.lexer.setInput "12\r\n/* 3").lex (LexerHost.alone ruleAction) 10 ({}, [])

/-- The lexer after the comment behind the number, which does not end, with another text handed back
for the last characters. -/
def inComment : Lexer :=
  (behindNumber.2.1.lex (LexerHost.alone ruleAction) 10 behindNumber.2.2).2.1.unput ['é', '\n', '4']

/-- The lexer within a comment can be come to, and is sound. It is come to by an input, two searches
and a text that is handed back, so it stands behind a line break, and its stack holds two
conditions. -/
theorem sound_in_comment :
    let rules := tolerant.config.lexer.rules
    LexerRules.build { errorsRecoverable := true } lexerDeclarations = .ok rules ∧
    inComment.Reachable rules ∧ inComment.offset = 5 ∧
    inComment.conditions = [commentCondition, initialCondition] ∧
    inComment.rest = ['é', '\n', '4'] ∧
    String.Pos.Raw.IsValid inComment.source ⟨inComment.offset⟩ ∧
    (Reader.ofString inComment.source).advanceTo? inComment.offset = some inComment.reader ∧
    inComment.conditions.getLast? = some initialCondition ∧
    (∀ name ∈ inComment.conditions, (rules.condition? name).isSome = true) ∧
    ∀ index ∈ inComment.active, rules.conditionIndex? (inComment.topCondition 0) = some index := by
  obtain ⟨hbuilt, hnew⟩ := build_rules new_tolerant
  have hstart : tolerant.config.lexer.Reachable tolerant.config.lexer.rules := by
    have hreached : (Lexer.new tolerant.config.lexer.rules).Reachable tolerant.config.lexer.rules :=
      .new
    rw [← hnew] at hreached
    exact hreached
  have hinput := hstart.perform (.setInput "12\r\n/* 3") rfl
  have hnumber : behindNumber.2.1.Reachable tolerant.config.lexer.rules :=
    hinput.lex _ ruleAction_operates 10 ({}, [])
  have hcomment := hnumber.lex _ ruleAction_operates 10 behindNumber.2.2
  have hreached : inComment.Reachable tolerant.config.lexer.rules :=
    hcomment.perform (.unput ['é', '\n', '4']) rfl
  refine ⟨hbuilt, hreached, by decide +kernel, by decide +kernel, by decide +kernel, ?_⟩
  exact Lexer.reachable_lexers_are_sound hbuilt hreached

end Calculator

end ShiftReduce
