import ShiftReduce.Proofs.Lexer.Advance
import ShiftReduce.Proofs.Lexer.Course
import ShiftReduce.Proofs.Lexer.Script

/-!
# Rules that change nothing

A rule that matches no text, skips its match and changes nothing would be run again and again. A lexer
means to stop there (`Firing.Idle`), but it does not compare its states: it looks at the offset, at the
place of the active condition, which is kept as long as the stack of conditions is not touched, and at
the flag for the end of the input (`Firing.SeemsIdle`). `Lexer.idle_rules_are_reported` says that a search
stops at the rules that seem idle and no others, and under which hosts these are the idle ones. Two
scripts at the end are examples of the other cases: text is put in before the start of the input, and a
condition is left at the bottom of the stack.
-/

namespace ShiftReduce

section
variable {τ ε φ : Type}

namespace Firing

/-- Whether the rule changes nothing, and leaves the lexer `after`: it matches no text, skips its match,
and there is input ahead; the place in the input, the input and the stack of conditions are as before. -/
structure Idle (host : LexerHost τ ε φ) (firing : Firing τ) (after : Lexer) : Prop where
  skips : firing.Skips host after
  empty : firing.length = 0
  ahead : after.rest ≠ []
  place : after.offset = firing.lexer.offset
  source : after.source = firing.lexer.source
  conditions : after.conditions = firing.lexer.conditions

/-- Whether the lexer takes the rule to change nothing, where it leaves the lexer `after`. -/
structure SeemsIdle (host : LexerHost τ ε φ) (firing : Firing τ) (after : Lexer) : Prop where
  skips : firing.Skips host after
  empty : firing.length = 0
  ahead : after.done = false ∨ after.rest ≠ []
  place : after.offset = firing.lexer.offset
  cached : after.active.isSome = true

/-- Whether the lexer takes the rule to change nothing, at an offset. -/
def IdlesAt (host : LexerHost τ ε φ) (rule : RuleId) (offset : Nat) (firing : Firing τ) : Prop :=
  firing.rule = rule ∧ firing.lexer.offset = offset ∧ ∃ after, firing.SeemsIdle host after

end Firing

namespace LexerHost

/-- The host that keeps the faults of rules apart from the failures of its answers to unrecognized
input. -/
def separated (host : LexerHost τ ε φ) : LexerHost τ ε (φ ⊕ RuleFault ε) where
  action := host.action
  stuck info lexer t :=
    let (answer, after, t) := host.stuck info lexer t
    (answer.mapError .inl, after, t)
  fail := .inr
  note := host.note

/-- Actions show what they do. Those that reject their match do not touch the stack of conditions. Those
that skip it do not either, or leave another stack; and they hand no text back, or leave the same text
around the same place, with some of it ahead. -/
structure Candid (host : LexerHost τ ε φ) : Prop where
  rejecting : host.RejectsCalmly
  conditions : ∀ rule lexer t after t', host.action rule lexer t = (.ok none, after, t') →
    after.rejected = false →
      Lexer.Edits (·.touchesConditions = false) lexer after ∨ after.conditions ≠ lexer.conditions
  text : ∀ rule lexer t after t', host.action rule lexer t = (.ok none, after, t') →
    after.rejected = false →
      Lexer.Edits (·.handsBack = false) lexer after ∨
        after.rest ≠ [] ∧ (after.offset = lexer.offset → after.source = lexer.source)

/-- Failures that are kept apart are those of the host once they are put together again. -/
theorem separated_alike (host : LexerHost τ ε φ) :
    host.separated.Alike host (fun _ => True) Eq (fun cause reason => cause.elim id host.fail = reason)
    where
  note event t₁ t₂ h := congrArg (host.note event) h
  action rule lexer t₁ t₂ h := by subst h; exact ⟨rfl, rfl⟩
  stuck info lexer t₁ t₂ h _ := by
    subst h
    refine ⟨?_, rfl⟩
    cases (host.stuck info lexer t₁).1 with
    | error reason => exact .error rfl
    | ok emitted => exact .ok rfl
  fail fault := rfl
  lost := ⟨fun _ _ h => (h trivial).elim, fun _ _ _ h => (h trivial).elim⟩
  lostStuck _ _ _ h := (h trivial).elim

end LexerHost

namespace Lexer

variable {host : LexerHost τ ε φ} {lexer after : Lexer} {t t' : τ} {rule : RuleId} {offset : Nat}

/-! ## The same course -/

/-- The rules that are run do not depend on how failures are told. -/
theorem tries_separated (candidates : List Candidate) (lexer : Lexer) (t : τ) :
    tries host.separated candidates lexer t = tries host candidates lexer t := by
  induction candidates generalizing lexer t with
  | nil => rfl
  | cons candidate others ih =>
    have hfired := fire_alike host.separated_alike lexer candidate.1 candidate.2 (rfl : t = t)
    simp only [tries]
    generalize lexer.fire host.separated t _ _ = first at hfired ⊢
    generalize lexer.fire host t _ _ = second at hfired ⊢
    obtain ⟨htrials, rfl⟩ := hfired
    cases htrials with
    | token | skip | failed => rfl
    | rejected => dsimp only; rw [ih]

/-- A search goes on in the same place. -/
theorem next?_separated (lexer : Lexer) (t : τ) :
    lexer.next? host.separated t = lexer.next? host t := by
  have hscanned := scan_alike host.separated_alike lexer (rfl : t = t)
  unfold next?
  generalize lexer.scan host.separated t = first at hscanned ⊢
  generalize lexer.scan host t = second at hscanned ⊢
  obtain ⟨hscans, rfl⟩ := hscanned
  cases hscans with
  | token | skip | failed => rfl
  | @stuck info =>
    next stuck t₁ =>
    have hresolved := resolve_alike host.separated_alike stuck info (rfl : t₁ = t₁) trivial
    dsimp only
    generalize stuck.resolve host.separated t₁ info = first at hresolved ⊢
    generalize stuck.resolve host t₁ info = second at hresolved ⊢
    obtain ⟨hanswers, rfl⟩ := hresolved
    cases hanswers with
    | error => rfl
    | @ok emitted _ hemitted => subst hemitted; cases emitted <;> rfl

/-! ## What the lexer goes by -/

/-- A lexer is taken to be stalled if the rule seems idle. -/
theorem stalled_iff {firing : Firing τ} (skips : firing.Skips host after) :
    after.reopen.stalled firing.lexer firing.length = true ↔ firing.SeemsIdle host after := by
  have hreopen : after.reopen.offset = after.offset ∧ after.reopen.active = after.active ∧
      (after.reopen.done = false ↔ after.done = false ∨ after.rest ≠ []) := by
    unfold reopen
    split
    · next hopen =>
      simp only [Bool.and_eq_true, Bool.not_eq_true', List.isEmpty_eq_false_iff] at hopen
      exact ⟨rfl, rfl, fun _ => .inr hopen.2, fun _ => rfl⟩
    · next hopen =>
      simp only [Bool.and_eq_true, Bool.not_eq_true', List.isEmpty_eq_false_iff, not_and] at hopen
      refine ⟨rfl, rfl, .inl, ?_⟩
      rintro (hdone | hrest)
      · exact hdone
      · exact Bool.eq_false_iff.mpr fun hdone => hopen hdone hrest
  obtain ⟨hoffset, hactive, hdone⟩ := hreopen
  unfold stalled
  simp only [Bool.and_eq_true, Bool.not_eq_true', beq_iff_eq, hoffset, hactive, hdone]
  constructor
  · rintro ⟨⟨⟨hempty, hplace⟩, hcached⟩, hahead⟩
    exact ⟨skips, hempty, hahead, hplace, hcached⟩
  · rintro ⟨-, hempty, hahead, hplace, hcached⟩
    exact ⟨⟨⟨hempty, hplace⟩, hcached⟩, hahead⟩

/-- What comes of a rule is the report that it changes nothing if and only if it seems idle. Of the
five outcomes of running a rule only a skipped match can be such a report, and it is one where the
lexer is stalled. -/
theorem comes_noProgress (rule : RuleId) (offset : Nat) {firing : Firing τ}
    {outcome : Trial (φ ⊕ RuleFault ε) × Lexer × τ} (h : firing.Comes host.separated outcome) :
    outcome.1 = .failed (.inr (.noProgress rule offset)) ↔ firing.IdlesAt host rule offset := by
  constructor
  · intro hreport
    cases h with
    | failed | rejected | token | skip => cases hreport
    | @stalled after t hacted hkept hstalled =>
      cases hreport
      have hskips : firing.Skips host after := ⟨t, hacted, hkept⟩
      exact ⟨rfl, rfl, after, (stalled_iff hskips).mp hstalled⟩
  · rintro ⟨rfl, rfl, after, hidle⟩
    obtain ⟨t, hacted, hkept⟩ := hidle.skips
    have hstalled := (stalled_iff hidle.skips).mpr hidle
    cases h with
    | failed hacted' => cases hacted'.symm.trans hacted
    | token hacted' => cases hacted'.symm.trans hacted
    | rejected hacted' hrejects =>
      cases hacted'.symm.trans hacted
      rw [hkept] at hrejects
      cases hrejects
    | stalled => rfl
    | skip hacted' _ hmoved =>
      cases hacted'.symm.trans hacted
      rw [hstalled] at hmoved
      cases hmoved

/-- Trying candidates ends with the report if and only if one of the rules that are run seems idle.
Reference: the loop over the candidates in `Lexer::scan`. -/
theorem tryAll_noProgress (candidates : List Candidate) (lexer : Lexer) (t : τ) :
    (tryAll host.separated candidates lexer t).1 = .failed (.inr (.noProgress rule offset)) ↔
      ∃ firing ∈ tries host candidates lexer t, firing.IdlesAt host rule offset := by
  rw [← tries_separated]
  induction candidates generalizing lexer t with
  | nil =>
    simp only [tryAll, unmatched, tries, List.not_mem_nil, false_and, exists_false, iff_false]
    split <;> simp
  | cons candidate others ih =>
    have hcomes := Firing.comes host.separated lexer t candidate.1 candidate.2
    have hreport := comes_noProgress rule offset hcomes
    simp only [tryAll, tries]
    generalize lexer.fire host.separated t _ _ = fired at hreport ⊢
    obtain ⟨trial, next, t'⟩ := fired
    cases trial with
    | token token => simpa using hreport
    | skip => simpa using hreport
    | failed reason => simpa using hreport
    | rejected =>
      dsimp only
      simp only [List.mem_cons, or_and_right, exists_or, exists_eq_left]
      rw [← hreport]
      split
      · simpa using ih next t'
      · simp

/-- A scan ends with the report if and only if one of the rules that it runs seems idle. Reference:
`Lexer::scan`. -/
theorem scan_noProgress (lexer : Lexer) (t : τ) :
    (lexer.scan host.separated t).1 = .failed (.inr (.noProgress rule offset)) ↔
      ∃ firing ∈ lexer.firings host t, firing.IdlesAt host rule offset := by
  unfold scan firings
  split
  · simp
  · exact tryAll_noProgress _ _ _

/-- A failure of an answer to unrecognized input is not that of a rule. Reference: the case of
unmatched input in `Lexer::lex`. -/
theorem resolve_separated (host : LexerHost τ ε φ) (lexer : Lexer) (t : τ) (info : Unrecognized)
    (fault : RuleFault ε) :
    (lexer.resolve host.separated t info).1 ≠ .error (.inr fault) := by
  show (host.stuck info lexer (host.note (.unrecognized lexer.offset) t)).1.mapError Sum.inl ≠ _
  cases (host.stuck info lexer (host.note (.unrecognized lexer.offset) t)).1 with
  | error reason => exact fun h => nomatch h
  | ok emitted => exact fun h => nomatch h

/-- A search of one scan fails for a rule if and only if the scan does. Reference: `Lexer::lex`. -/
theorem lex_one_fault (host : LexerHost τ ε φ) (lexer : Lexer) (t : τ) (fault : RuleFault ε) :
    (lexer.lex host.separated 1 t).1 = .failed (.inr fault) ↔
      (lexer.scan host.separated t).1 = .failed (.inr fault) := by
  simp only [lex]
  generalize lexer.scan host.separated t = scanned
  obtain ⟨scan, next, t₁⟩ := scanned
  cases scan with
  | token token => simp
  | skip => simp
  | failed reason => simp
  | stuck info =>
    have hanswer := resolve_separated host next t₁ info fault
    dsimp only
    generalize next.resolve host.separated t₁ info = resolved at hanswer ⊢
    obtain ⟨reason | _ | symbol, after, t₂⟩ := resolved
    · simpa using hanswer
    · simp
    · simp

/-- A search ends with the report if and only if one of the rules that it runs seems idle.
Reference: `Lexer::lex`. -/
theorem lex_noProgress (limit : Nat) (lexer : Lexer) (t : τ) :
    (lexer.lex host.separated limit t).1 = .failed (.inr (.noProgress rule offset)) ↔
      ∃ firing ∈ lexer.firingsAll host limit t, firing.IdlesAt host rule offset := by
  induction limit generalizing lexer t with
  | zero => simp [lex, firingsAll, scans]
  | succ limit ih =>
    have hone := lex_one_fault host lexer t (.noProgress rule offset)
    rw [scan_noProgress] at hone
    unfold firingsAll scans
    cases hnext : lexer.next? host t with
    | none =>
      rw [← next?_separated] at hnext
      rw [(lex_over hnext).2 limit, hone]
      simp
    | some following =>
      rw [← next?_separated] at hnext
      -- The search goes on: the scan did not end with the report.
      have hnone : ¬ ∃ firing ∈ lexer.firings host t, firing.IdlesAt host rule offset := by
        rw [← hone, lex_next hnext 0]
        simp [lex]
      rw [lex_next hnext limit, ih, List.flatMap_cons]
      simp only [List.mem_append, or_and_right, exists_or, hnone, false_or]
      rfl

/-! ## Candid hosts -/

/-- An action that rejects its match under such a host does not touch the stack of conditions. -/
theorem acted_calm (calm : host.RejectsCalmly) {firing : Firing τ}
    {answer : Except ε (Option SymbolId)} (acted : firing.acted host = (answer, after, t))
    (rejects : after.rejected = true) :
    after.active = firing.lexer.active ∧ after.conditions = firing.lexer.conditions := by
  have hedits := calm firing.rule firing.seen (host.note firing.event firing.state)
  rw [show host.action firing.rule firing.seen _ = _ from acted] at hedits
  exact (hedits rejects).calm fun _ hallowed => hallowed

/-- Every rule is run within a scan, if actions that reject their match keep off the stack of
conditions. The next candidate is tried from where the lexer was restored to, with the place of the
active condition only if the action left the stack alone. -/
theorem scanning_firings (calm : host.RejectsCalmly) (lexer : Lexer) (t : τ) :
    ∀ firing ∈ lexer.firings host t, firing.lexer.Scanning := by
  have htries : ∀ (candidates : List Candidate) (lexer : Lexer) (t : τ), lexer.Scanning →
      ∀ firing ∈ tries host candidates lexer t, firing.lexer.Scanning := by
    intro candidates
    induction candidates with
    | nil => exact fun lexer t _ firing hmem => absurd hmem List.not_mem_nil
    | cons candidate others ih =>
      intro lexer t hscanning
      have hcomes := Firing.comes host lexer t candidate.1 candidate.2
      simp only [tries]
      generalize lexer.fire host t _ _ = fired at hcomes ⊢
      refine List.forall_mem_cons.mpr ⟨hscanning, ?_⟩
      cases hcomes with
      | failed | token | stalled | skip => exact fun firing hmem => absurd hmem List.not_mem_nil
      | @rejected emitted after t' hacted hrejects =>
        dsimp only
        split
        · next hbacktracks =>
          obtain ⟨hactive, hconditions⟩ := acted_calm calm hacted hrejects
          rw [options_afterReject] at hbacktracks
          exact ih _ _ (hscanning.afterReject hbacktracks hactive hconditions).1
        · exact fun firing hmem => absurd hmem List.not_mem_nil
  unfold firings
  split
  · exact fun firing hmem => absurd hmem List.not_mem_nil
  · next hrunning => exact htries _ _ _ (scanning_begin (Bool.eq_false_iff.mpr hrunning))

/-- Where the host is candid, the rules that seem idle are the idle ones. If a candid host hands
text back, input is left ahead, and the same offset means the same input; if it touches the stack of
conditions, it leaves another stack behind. So what the lexer looks at tells whether anything
changed. -/
theorem seemsIdle_iff (operates : host.Operates) (candid : host.Candid) {firing : Firing τ}
    (h : firing.lexer.Scanning) : firing.SeemsIdle host after ↔ firing.Idle host after := by
  have hseen : firing.length = 0 → firing.seen.reader = firing.lexer.reader := by
    intro hempty
    show firing.lexer.reader.forward firing.length = firing.lexer.reader
    rw [hempty, Reader.forward_of_rest List.take_zero]
  constructor
  · rintro ⟨hskips, hempty, hahead, hplace, hcached⟩
    obtain ⟨t, hacted, hkept⟩ := hskips
    have hedits := Firing.edits_acted operates.action hacted
    have hconditions : after.conditions = firing.lexer.conditions := (hedits.active hcached).2
    have hstart : firing.seen.offset = firing.lexer.offset := congrArg (·.cursor.offset) (hseen hempty)
    rcases candid.text _ _ _ _ _ hacted hkept with honward | ⟨hrest, hsource⟩
    · -- The lexer has not moved in the text; were it at the end, it would have noticed.
      have honward := honward.onward fun _ hallowed => hallowed
      have hreader : after.reader = firing.lexer.reader :=
        (honward.reader_eq (hplace.trans hstart.symm)).trans (hseen hempty)
      have hrest : after.rest = firing.lexer.rest := congrArg (·.buffer.rest) hreader
      have hdone : after.done = firing.lexer.rest.isEmpty := honward.done.trans h.ended
      refine ⟨⟨t, hacted, hkept⟩, hempty, ?_, hplace, congrArg (·.buffer.source) hreader, hconditions⟩
      rcases hahead with hopen | hahead
      · rw [hdone] at hopen
        rw [hrest]
        exact List.isEmpty_eq_false_iff.mp hopen
      · exact hahead
    · have hsame : firing.seen.source = firing.lexer.source := congrArg (·.buffer.source) (hseen hempty)
      exact ⟨⟨t, hacted, hkept⟩, hempty, hrest, hplace,
        (hsource (hplace.trans hstart.symm)).trans hsame, hconditions⟩
  · rintro ⟨hskips, hempty, hahead, hplace, -, hconditions⟩
    refine ⟨hskips, hempty, .inr hahead, hplace, ?_⟩
    obtain ⟨t, hacted, hkept⟩ := hskips
    rcases candid.conditions _ _ _ _ _ hacted hkept with hcalm | hchanged
    · obtain ⟨hactive, -⟩ := hcalm.calm fun _ hallowed => hallowed
      rw [hactive]
      exact h.active
    · exact absurd hconditions hchanged

/-- A search reports that a rule changes nothing if and only if one of the rules that it runs seems
idle; it is that rule, at its offset. The report is told apart from what the host answers to
unrecognized input, and is otherwise the host's own failure. Where actions are operations and
candid, the search reports a rule if and only if it does change nothing. Reference:
`LexError::NoProgress` in `Lexer::test_match`. -/
theorem idle_rules_are_reported (host : LexerHost τ ε φ) (limit : Nat) (lexer : Lexer) (t : τ) :
    let search := lexer.lex host.separated limit t
    LexedAlike (fun cause reason => cause.elim id host.fail = reason) search.1
      (lexer.lex host limit t).1 ∧
    (∀ rule offset, search.1 = .failed (.inr (.noProgress rule offset)) ↔
      ∃ firing ∈ lexer.firingsAll host limit t, firing.rule = rule ∧ firing.lexer.offset = offset ∧
        ∃ after, firing.SeemsIdle host after) ∧
    (host.Operates → host.Candid → ∀ rule offset,
      search.1 = .failed (.inr (.noProgress rule offset)) ↔
        ∃ firing ∈ lexer.firingsAll host limit t, firing.rule = rule ∧ firing.lexer.offset = offset ∧
          ∃ after, firing.Idle host after) := by
  intro search
  have hreports : ∀ rule offset, search.1 = .failed (.inr (.noProgress rule offset)) ↔
      ∃ firing ∈ lexer.firingsAll host limit t, firing.IdlesAt host rule offset :=
    fun rule offset => lex_noProgress limit lexer t
  refine ⟨?_, hreports, ?_⟩
  · have hsame := lex_alike host.separated_alike limit lexer (rfl : t = t) trivial
    show LexedAlike _ (lexer.lex host.separated limit t).1 _
    generalize lexer.lex host.separated limit t = first at hsame ⊢
    generalize lexer.lex host limit t = second at hsame ⊢
    cases hsame with
    | intro hresults => exact hresults
  · intro operates candid rule offset
    rw [hreports]
    refine exists_congr fun firing => and_congr_right fun hmem => ?_
    obtain ⟨begun, -, hfiring⟩ := List.mem_flatMap.mp hmem
    have hscanning := scanning_firings candid.rejecting begun.1 begun.2 firing hfiring
    unfold Firing.IdlesAt
    simp only [seemsIdle_iff operates candid hscanning]

end Lexer
end

/-! ## Scripts that change nothing, or something -/

namespace Script

/-- A script is candid if its actions neither hand text back nor touch the stack of conditions. -/
theorem candid {script : Script} (h : ∀ rule, ∀ operation ∈ (script.rule rule).1,
    operation.handsBack = false ∧ operation.touchesConditions = false) : script.host.Candid where
  rejecting rule lexer t _ :=
    Lexer.edits_performAll (fun operation hmem => (h rule operation hmem).2) lexer
  conditions rule lexer t after t' hacted _ := by
    obtain rfl : lexer.performAll (script.rule rule).1 = after := congrArg (·.2.1) hacted
    exact .inl (Lexer.edits_performAll (fun operation hmem => (h rule operation hmem).2) lexer)
  text rule lexer t after t' hacted _ := by
    obtain rfl : lexer.performAll (script.rule rule).1 = after := congrArg (·.2.1) hacted
    exact .inl (Lexer.edits_performAll (fun operation hmem => (h rule operation hmem).1) lexer)

/-- What it is for a rule of a script to change nothing. -/
theorem idle_iff (script : Script) (firing : Firing Unit) :
    (∃ after, firing.Idle script.host after) ↔
      let after := (firing.acted script.host).2.1
      (script.rule firing.rule).2 = none ∧ after.rejected = false ∧ firing.length = 0 ∧
        after.rest ≠ [] ∧ after.offset = firing.lexer.offset ∧ after.source = firing.lexer.source ∧
        after.conditions = firing.lexer.conditions := by
  constructor
  · rintro ⟨after, ⟨t, hacted, hkept⟩, hempty, hahead, hplace, hsource, hconditions⟩
    obtain rfl : (firing.acted script.host).2.1 = after := congrArg (·.2.1) hacted
    exact ⟨Except.ok.inj (congrArg (·.1) hacted), hkept, hempty, hahead, hplace, hsource, hconditions⟩
  · rintro ⟨hnone, hkept, hempty, hahead, hplace, hsource, hconditions⟩
    have hacted : firing.acted script.host = (.ok none, (firing.acted script.host).2.1, ()) :=
      Prod.ext (congrArg Except.ok hnone) rfl
    exact ⟨_, ⟨(), hacted, hkept⟩, hempty, hahead, hplace, hsource, hconditions⟩

end Script

namespace Idlers

/-- Any number of a letter, none included. -/
def rules : LexerRules :=
  (LexerRules.build {} [.rule [] "a*"]).toOption.get (by decide +kernel)

/-- Every match is skipped after some operations. -/
def script (operations : List Operation) : Script where
  rule _ := (operations, none)

/-- The lexer at the start of an input. -/
def start (input : String) : Lexer := (Lexer.new rules).setInput input

/-- Behind the letters the rule matches nothing. It keeps a match and names it otherwise, which is no change:
the search reports the rule there. -/
theorem idle_rule_is_reported :
    let host := (script [.keepMatch, .setText "x"]).host
    host.Operates ∧ host.Candid ∧
    (((start "aab").firingsAll host 9 ()).map fun firing => (firing.candidate, firing.lexer.offset)) =
      [((0, 2), 0), ((0, 0), 2)] ∧
    ((start "aab").lex host.separated 9 ()).1 = .failed (.inr (.noProgress 0 2)) ∧
    ∃ firing ∈ (start "aab").firingsAll host 9 (), firing.rule = 0 ∧ firing.lexer.offset = 2 ∧
      ∃ after, firing.SeemsIdle host after := by
  intro host
  have hoperates : host.Operates := Script.host_operates _
  have hcandid : host.Candid := Script.candid <| by
    simp [script, Operation.handsBack, Operation.touchesConditions]
  obtain ⟨-, hseems, hidle⟩ := Lexer.idle_rules_are_reported host 9 (start "aab") ()
  have hreported : ((start "aab").lex host.separated 9 ()).1 = .failed (.inr (.noProgress 0 2)) := by
    refine (hidle hoperates hcandid 0 2).mpr ?_
    simp only [host, Script.idle_iff]
    decide +kernel
  exact ⟨hoperates, hcandid, by decide +kernel, hreported, (hseems 0 2).mp hreported⟩

/-- The report is wrong about a rule that puts text before the start of the input: it is reported, although
the input is another one. There is no report about a rule that leaves a condition at the bottom of the
stack, although nothing is changed by that; the search goes on with it. -/
theorem report_is_wrong :
    let putting := (script [.unput ['a']]).host
    let leaving := (script [.pop]).host
    ((start "b").lex putting.separated 9 ()).1 = .failed (.inr (.noProgress 0 0)) ∧
    ((start "b").lex putting.separated 9 ()).2.1.source = "ab" ∧
    (∀ firing ∈ (start "b").firingsAll putting 9 (), ¬ ∃ after, firing.Idle putting after) ∧
    ((start "b").lex leaving.separated 9 ()).1 = .exhausted ∧
    ∀ firing ∈ (start "b").firingsAll leaving 9 (), ∃ after, firing.Idle leaving after := by
  intro putting leaving
  simp only [putting, leaving, Script.idle_iff]
  refine ⟨rfl, by decide +kernel, by decide +kernel, rfl, by decide +kernel⟩

end Idlers

end ShiftReduce
