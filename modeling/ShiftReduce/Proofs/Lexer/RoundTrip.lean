import ShiftReduce.Proofs.Lexer.Course
import ShiftReduce.Proofs.Lexer.Lossless

/-!
# Tokens that are handed back come again

A host that keeps nothing between its calls and leaves every lexer as it is (`LexerHost.Stateless`) can
hand the text of a token back: the reader is where the match began, and what is left of the first search
are the counts and, until a rule matches, the location (`Lexer.remembering`); the rest of the lexer is as
it was before the scan (`Lexer.Repeats`). A host that asks for neither (`LexerHost.Oblivious`) gets the
same token again, while one that answers by them gets another one (`Words.token_does_not_come_again`).
The token at the end of the input is left out, for it has no text of its own.

The steps, in the order of the module:

* a lexer is at rest between searches (`Lexer.AtRest`), and the last scan of a search for a token
  begins at rest (`Lexer.AtRest.last_scan`);
* a token that such a scan comes to is found there whatever the state of the host is (`Lexer.Finds`,
  `Lexer.finds_of_lex`);
* handing its text back leads to where the scan began (`Lexer.Repeats`, `Lexer.Finds.repeats`);
* from there the scan comes to the token again (`Lexer.Finds.again`,
  `Lexer.handed_back_token_comes_again`).

What stands in front of the token, comments or unrecognized input, is not read again; so it is the
last scan that is repeated, and not the search.
-/

namespace ShiftReduce

section
variable {τ ε φ : Type}

/-- The lexer with another location and other counts of earlier matches. Reference: the fields `yylloc` and
`stats` of a `Lexer`, which outlive a match. -/
def Lexer.remembering (lexer : Lexer) (location : Location) (stats : LexerStats) : Lexer :=
  { lexer with location, stats }

/-- A host that keeps nothing between its calls and leaves every lexer as it is: its answers do not depend
on its own state. Reference: a stateless `LexerDriver` whose `action` and `lex_error` only read the lexer. -/
structure LexerHost.Stateless (host : LexerHost τ ε φ) : Prop where
  actionReads : ∀ rule lexer t, (host.action rule lexer t).2.1 = lexer
  stuckReads : ∀ info lexer t, (host.stuck info lexer t).2.1 = lexer
  actionSame : ∀ rule lexer t t', (host.action rule lexer t').1 = (host.action rule lexer t).1
  stuckSame : ∀ info lexer t t', (host.stuck info lexer t').1 = (host.stuck info lexer t).1

/-- A stateless host whose answers do not depend on what lexers keep of earlier matches either. The action
of a rule does not ask for the counts; where no rule matches, the host asks neither for the counts nor for
the location, which is that of the last match there. Reference: a driver that does not call
`Lexer::stats`, nor `Lexer::yylloc` in `lex_error`. -/
structure LexerHost.Oblivious (host : LexerHost τ ε φ) : Prop extends host.Stateless where
  actionForgets : ∀ rule lexer t stats,
    (host.action rule (lexer.remembering lexer.location stats) t).1 = (host.action rule lexer t).1
  stuckForgets : ∀ info lexer t location stats,
    (host.stuck info (lexer.remembering location stats) t).1 = (host.stuck info lexer t).1

namespace Lexer

/-- A lexer of which nothing is asked, and which has reached the end of its input only if there is
no more of it. -/
structure AtRest (lexer : Lexer) : Prop where
  fresh : lexer.more = false
  kept : lexer.rejected = false
  ended : lexer.done = true → lexer.rest = []

/-- The lexer that a scan looks for rules with: a new match is begun, and the active condition is
found. -/
def begun (lexer : Lexer) : Lexer := lexer.beginScan.activate.2

/-- The candidates that a scan tries, in order. Reference: `Lexer::scan`. -/
def choices (lexer : Lexer) : List Candidate := lexer.begun.trials lexer.beginScan.activate.1

/-- A scan that finds the end of the input: there is no more of it, and no rule is run. -/
def FindsEnd (host : LexerHost τ ε φ) (lexer : Lexer) (t : τ) : Prop :=
  lexer.rest = [] ∧ lexer.firings host t = []

/-- How the next scan of a lexer finds a token, with the lexer it leaves: the first candidate's
action emits it for the match, or the host answers with it where no rule matches. -/
inductive Finds (host : LexerHost τ ε φ) (lexer : Lexer) : Token → Lexer → Prop
  | matched {rule : RuleId} {length : Nat} {others : List Candidate} {symbol : SymbolId} {t : τ}
      (choices : lexer.choices = (rule, length) :: others)
      (emits : (host.action rule (lexer.begun.consume length) t).1 = .ok (some symbol)) :
      Finds host lexer ((lexer.begun.consume length).token symbol) (lexer.begun.consume length)
  | answered {symbol : SymbolId} {t : τ} (choices : lexer.choices = []) (rest : lexer.rest ≠ [])
      (emits : (host.stuck lexer.begun.unrecognized lexer.begun t).1 = .ok (some symbol)) :
      Finds host lexer (lexer.begun.skipUnit.token symbol) lexer.begun.skipUnit

variable {host : LexerHost τ ε φ} {lexer back left found : Lexer} {token : Token} {t : τ}

/-! ## Searches of a host that keeps nothing -/

/-- A scan tries its candidates. Reference: `Lexer::scan`. -/
theorem scan_choices (running : lexer.done = false) (t : τ) :
    lexer.scan host t = tryAll host lexer.choices lexer.begun t := by
  unfold scan
  rw [running]
  rfl

/-- The rule of a candidate consumes its match and leaves it at that. A token comes of it if and
only if the action emits one. Reference: `Lexer::test_match`. -/
theorem fire_stateless (stateless : host.Stateless) (ended : lexer.done = true → lexer.rest = [])
    (rule : RuleId) (length : Nat) (t : τ) :
    ∃ trial t', lexer.fire host t rule length = (trial, lexer.consume length, t') ∧
      trial ≠ .rejected ∧
      ∀ token, trial = .token token ↔ ∃ symbol,
        (host.action rule (lexer.consume length) t).1 = .ok (some symbol) ∧
        token = (lexer.consume length).token symbol := by
  let firing : Firing τ := ⟨lexer, t, rule, length⟩
  have hleft : (firing.acted host).2.1 = lexer.consume length := stateless.actionReads _ _ _
  have hanswer : (firing.acted host).1 = (host.action rule (lexer.consume length) t).1 :=
    stateless.actionSame rule (lexer.consume length) t _
  have hended : (lexer.consume length).done = true → (lexer.consume length).rest = [] := by
    intro hdone
    show lexer.rest.drop length = []
    rw [ended hdone, List.drop_nil]
  have hreopen := reopen_eq hended
  have hcomes := Firing.comes host lexer t rule length
  cases hfired : lexer.fire host t rule length with
  | mk trial outcome =>
  rw [hfired] at hcomes
  cases hcomes with
  | failed hacted =>
    rw [hacted] at hleft hanswer
    obtain rfl := hleft
    exact ⟨_, _, rfl, nofun, fun _ => ⟨nofun, fun ⟨_, hemits, _⟩ => nomatch hanswer.trans hemits⟩⟩
  | rejected hacted hrejects =>
    rw [hacted] at hleft
    obtain rfl := hleft
    cases hrejects
  | @token symbol _ _ hacted =>
    rw [hacted] at hleft hanswer
    obtain rfl := hleft
    rw [hreopen]
    refine ⟨_, _, rfl, nofun, fun token => ⟨fun h => ⟨symbol, hanswer.symm, ?_⟩, ?_⟩⟩
    · cases h
      rfl
    · rintro ⟨other, hemits, rfl⟩
      cases hanswer.trans hemits
      rfl
  | stalled hacted =>
    rw [hacted] at hleft hanswer
    obtain rfl := hleft
    rw [hreopen]
    exact ⟨_, _, rfl, nofun, fun _ => ⟨nofun, fun ⟨_, hemits, _⟩ => nomatch hanswer.trans hemits⟩⟩
  | skip hacted =>
    rw [hacted] at hleft hanswer
    obtain rfl := hleft
    rw [hreopen]
    exact ⟨_, _, rfl, nofun, fun _ => ⟨nofun, fun ⟨_, hemits, _⟩ => nomatch hanswer.trans hemits⟩⟩

/-- Unrecognized input is skipped whatever the host answers. Reference: the case of unmatched input
in `Lexer::lex`. -/
theorem resolve_stateless (stateless : host.Stateless) (active : lexer.active.isSome = true) (t : τ)
    (info : Unrecognized) :
    ∃ t', lexer.resolve host t info = ((host.stuck info lexer t).1, lexer.skipUnit, t') := by
  have halone : lexer.leftAlone lexer = true := by simp [leftAlone, active]
  have hreads := stateless.stuckReads info lexer (host.note (.unrecognized lexer.offset) t)
  have hsame := stateless.stuckSame info lexer t (host.note (.unrecognized lexer.offset) t)
  refine ⟨(host.stuck info lexer (host.note (.unrecognized lexer.offset) t)).2.2, ?_⟩
  unfold resolve
  simp only [hreads, hsame, halone, if_true]

/-- Where no rule matches, a scan is stuck or finds the end of the input. Reference: `Lexer::scan`.
-/
theorem scan_unmatched (running : lexer.done = false) (none : lexer.choices = []) (t : τ) :
    lexer.scan host t =
      (if lexer.rest.isEmpty then
        (.token lexer.begun.endToken, { lexer.begun with done := true }, t)
      else (.stuck lexer.begun.unrecognized, lexer.begun, t)) := by
  have hrest : lexer.begun.rest = lexer.rest := rfl
  rw [scan_choices running, none]
  simp only [tryAll, unmatched, hrest]
  split <;> rfl

/-- Where a rule matches, a scan consumes the match of the first candidate. A token comes of it if
and only if the action emits one. Reference: `Lexer::scan`. -/
theorem scan_matched (stateless : host.Stateless) (rest : lexer.begun.AtRest)
    (running : lexer.done = false) {rule : RuleId} {length : Nat} {others : List Candidate}
    (first : lexer.choices = (rule, length) :: others) (t : τ) :
    ∃ scan t', lexer.scan host t = (scan, lexer.begun.consume length, t') ∧
      (∀ info, scan ≠ .stuck info) ∧
      ∀ token, scan = .token token ↔ ∃ symbol,
        (host.action rule (lexer.begun.consume length) t).1 = .ok (some symbol) ∧
        token = (lexer.begun.consume length).token symbol := by
  obtain ⟨trial, t', hfired, hkept, hemits⟩ := fire_stateless stateless rest.ended rule length t
  rw [scan_choices running, first]
  simp only [tryAll, hfired]
  cases trial with
  | token token => exact ⟨_, _, rfl, by simp, fun other => by simpa using hemits other⟩
  | skip => exact ⟨_, _, rfl, by simp, fun other => by simpa using hemits other⟩
  | failed failure => exact ⟨_, _, rfl, by simp, fun other => by simpa using hemits other⟩
  | rejected => exact absurd rfl hkept

/-! ## Lexers at rest -/

/-- A lexer at the start of an input is at rest. -/
theorem atRest_setInput (lexer : Lexer) (input : String) : (lexer.setInput input).AtRest :=
  ⟨rfl, rfl, nofun⟩

/-- A scan begins at rest. -/
theorem AtRest.begun (h : lexer.AtRest) : lexer.begun.AtRest where
  fresh := h.fresh
  kept := h.kept
  ended hdone := by
    rcases Bool.or_eq_true_iff.mp hdone with hdone | hempty
    · exact h.ended hdone
    · exact List.isEmpty_iff.mp hempty

/-- A match that is consumed leaves a lexer at rest. Reference: `Lexer::test_match`. -/
theorem AtRest.consume (h : lexer.AtRest) (length : Nat) : (lexer.consume length).AtRest where
  fresh := rfl
  kept := rfl
  ended hdone := by
    show lexer.rest.drop length = []
    rw [h.ended hdone, List.drop_nil]

/-- A unit that is skipped is consumed like a match; only the location is another one, and where the
lexer does not track positions it is left at the start of the unit. Reference: the forced
`Lexer::input` in `Lexer::lex`. -/
theorem skipUnit_shape (fresh : lexer.more = false) (rest : lexer.rest ≠ []) :
    ∃ location, lexer.skipUnit = { lexer with
      reader := lexer.reader.forward (unitLength lexer.rest)
      text := lexer.rest.take (unitLength lexer.rest)
      location } := by
  have hunit := unitLength_pos rest
  unfold skipUnit input
  split
  · next hnone => exact absurd hnone (Nat.ne_of_gt hunit)
  · exact ⟨_, by simp only [fresh]; rfl⟩

/-- A unit that is skipped leaves a lexer at rest. Reference: the forced `Lexer::input` in
`Lexer::lex`. -/
theorem AtRest.skipUnit (h : lexer.AtRest) (rest : lexer.rest ≠ []) : lexer.skipUnit.AtRest := by
  obtain ⟨location, hshape⟩ := skipUnit_shape h.fresh rest
  rw [hshape]
  refine ⟨h.fresh, h.kept, ?_⟩
  intro hdone
  exact absurd (h.ended hdone) rest

/-- Counting a token leaves a lexer at rest. -/
theorem AtRest.countToken (h : lexer.AtRest) : lexer.countToken.AtRest := ⟨h.fresh, h.kept, h.ended⟩

/-- A scan leaves a lexer at rest, with input ahead if no rule matched. Reference: `Lexer::scan`. -/
theorem AtRest.scan (stateless : host.Stateless) (h : lexer.AtRest) (t : τ) :
    (lexer.scan host t).2.1.AtRest ∧
      ∀ info, (lexer.scan host t).1 = .stuck info →
        (lexer.scan host t).2.1.rest ≠ [] ∧ (lexer.scan host t).2.1.active.isSome = true := by
  cases hdone : lexer.done with
  | true =>
    have hscan : lexer.scan host t = (.token lexer.endToken, lexer, t) := if_pos hdone
    rw [hscan]
    exact ⟨h, nofun⟩
  | false =>
    cases hchoices : lexer.choices with
    | nil =>
      rw [scan_unmatched hdone hchoices]
      split
      · next hempty => exact ⟨⟨h.begun.fresh, h.begun.kept, fun _ => List.isEmpty_iff.mp hempty⟩, nofun⟩
      · next hahead => exact ⟨h.begun, fun _ _ => ⟨fun hnil => hahead (List.isEmpty_iff.mpr hnil), rfl⟩⟩
    | cons candidate others =>
      obtain ⟨scan, t', hscan, hmatched, -⟩ := scan_matched stateless h.begun hdone hchoices t
      rw [hscan]
      exact ⟨h.begun.consume _, fun info hstuck => absurd hstuck (hmatched info)⟩

/-- A search leaves a lexer at rest. Reference: `Lexer::lex`. -/
theorem AtRest.lex (stateless : host.Stateless) (limit : Nat) (h : lexer.AtRest) (t : τ) :
    (lexer.lex host limit t).2.1.AtRest := by
  induction limit generalizing lexer t with
  | zero => exact h
  | succ limit ih =>
    obtain ⟨hleft, hstuck⟩ := h.scan stateless t
    simp only [Lexer.lex]
    generalize lexer.scan host t = scanned at hleft hstuck ⊢
    obtain ⟨scan, left, t'⟩ := scanned
    cases scan with
    | token token => exact hleft.countToken
    | failed failure => exact hleft
    | skip => exact ih hleft t'
    | stuck info =>
      obtain ⟨hrest, hactive⟩ := hstuck info rfl
      obtain ⟨t₁, hresolve⟩ := resolve_stateless stateless hactive t' info
      have hskipped := hleft.skipUnit hrest
      simp only [hresolve]
      generalize (host.stuck info left t').1 = answer
      obtain _ | _ | symbol := answer
      · exact hskipped
      · exact ih hskipped _
      · exact hskipped.countToken

/-- Searches leave a lexer at rest. -/
theorem AtRest.lexAll (stateless : host.Stateless) (limits : List Nat) (h : lexer.AtRest) (t : τ) :
    (lexer.lexAll host limits t).2.1.AtRest := by
  induction limits generalizing lexer t with
  | nil => exact h
  | cons limit limits ih => exact ih (h.lex stateless limit t) _

/-- A search that came to a token has a last scan, which begins at rest and finds the token. -/
theorem AtRest.last_scan (stateless : host.Stateless) {limit : Nat} (h : lexer.AtRest) {t' : τ}
    (lexed : lexer.lex host limit t = (.token token, found, t')) :
    ∃ last ∈ (lexer.scans host limit t).getLast?,
      last.1.AtRest ∧ last.1.lex host 1 last.2 = (.token token, found, t') := by
  induction limit generalizing lexer t with
  | zero => cases lexed
  | succ limit ih =>
    unfold scans
    cases hnext : lexer.next? host t with
    | none => exact ⟨_, rfl, h, ((lex_over hnext).2 limit).symm.trans lexed⟩
    | some following =>
      obtain ⟨next, t₁⟩ := following
      rw [lex_next hnext] at lexed
      have hrest : next.AtRest := by
        have hfirst := h.lex stateless 1 t
        rw [lex_next hnext] at hfirst
        exact hfirst
      obtain ⟨last, hlast, hends⟩ := ih hrest lexed
      refine ⟨last, ?_, hends⟩
      -- The search goes on, so its last scan is that of the rest.
      show last ∈ ((lexer, t) :: next.scans host limit t₁).getLast?
      rw [List.getLast?_cons, Option.mem_def.mp hlast]
      rfl

/-! ## Finding a token -/

/-- A token that the first scan of a search comes to, and that is not the end of the input, is
found. -/
theorem finds_of_lex (stateless : host.Stateless) (rest : lexer.AtRest)
    (more : ¬ lexer.FindsEnd host t) {t' : τ} (lexed : lexer.lex host 1 t = (.token token, found, t')) :
    lexer.done = false ∧ ∃ left, lexer.Finds host token left ∧ found = left.countToken := by
  have hrunning : lexer.done = false := by
    rw [Bool.eq_false_iff]
    intro hdone
    exact more ⟨rest.ended hdone, if_pos hdone⟩
  refine ⟨hrunning, ?_⟩
  simp only [lex] at lexed
  cases hchoices : lexer.choices with
  | nil =>
    have hahead : lexer.rest ≠ [] := by
      intro hnil
      refine more ⟨hnil, ?_⟩
      unfold firings
      rw [hrunning]
      show tries host lexer.choices lexer.begun t = []
      rw [hchoices]
      rfl
    have hactive : lexer.begun.active.isSome = true := rfl
    obtain ⟨t₁, hresolve⟩ := resolve_stateless stateless hactive t lexer.begun.unrecognized
    rw [scan_unmatched hrunning hchoices, if_neg (fun h => hahead (List.isEmpty_iff.mp h))] at lexed
    simp only [hresolve] at lexed
    cases hanswer : (host.stuck lexer.begun.unrecognized lexer.begun t).1 with
    | error failure =>
      rw [hanswer] at lexed
      cases lexed
    | ok emitted =>
      rw [hanswer] at lexed
      cases emitted with
      | none => cases lexed
      | some symbol =>
        cases lexed
        exact ⟨_, .answered hchoices hahead hanswer, rfl⟩
  | cons candidate others =>
    obtain ⟨scan, t₁, hscan, hmatched, hemits⟩ :=
      scan_matched stateless rest.begun hrunning hchoices t
    rw [hscan] at lexed
    cases scan with
    | skip => cases lexed
    | failed failure => cases lexed
    | stuck info => exact absurd rfl (hmatched info)
    | token emitted =>
      cases lexed
      obtain ⟨symbol, hanswer, rfl⟩ := (hemits token).mp rfl
      exact ⟨_, .matched hchoices hanswer, rfl⟩

/-- A token that can be found is what the next search comes to, whatever the host's state.
Reference: `Lexer::lex`. -/
theorem Finds.lex (stateless : host.Stateless) (rest : lexer.AtRest) (running : lexer.done = false)
    (finds : lexer.Finds host token left) (more : Nat) (t : τ) :
    ∃ t', lexer.lex host (more + 1) t = (.token token, left.countToken, t') := by
  simp only [Lexer.lex]
  cases finds with
  | @matched rule length others symbol t₀ hchoices hanswer =>
    obtain ⟨scan, t₁, hscan, -, hemits⟩ := scan_matched stateless rest.begun running hchoices t
    have hsame := stateless.actionSame rule (lexer.begun.consume length) t₀ t
    obtain rfl := (hemits _).mpr ⟨symbol, hsame.trans hanswer, rfl⟩
    rw [hscan]
    exact ⟨_, rfl⟩
  | @answered symbol t₀ hchoices hahead hanswer =>
    have hactive : lexer.begun.active.isSome = true := rfl
    obtain ⟨t₁, hresolve⟩ := resolve_stateless stateless hactive t lexer.begun.unrecognized
    have hsame : (host.stuck lexer.begun.unrecognized lexer.begun t).1 = .ok (some symbol) :=
      (stateless.stuckSame _ lexer.begun t₀ t).trans hanswer
    rw [scan_unmatched running hchoices, if_neg (fun h => hahead (List.isEmpty_iff.mp h))]
    simp only [hresolve, hsame]
    exact ⟨_, rfl⟩

/-! ## Handing the token back -/

/-- A lexer that stands where another one begins a scan: but for the location and the counts it
comes to the same scan. -/
structure Repeats (lexer back : Lexer) : Prop where
  rules : back.rules = lexer.rules
  reader : back.reader = lexer.reader
  edition : back.edition = lexer.edition
  conditions : back.conditions = lexer.conditions
  active : back.active = lexer.begun.active
  rest : back.AtRest
  running : back.done = false

/-- A scan that is repeated looks for rules with the same lexer, but for the location and the
counts, and tries the same candidates. Reference: `Lexer::scan`. -/
theorem Repeats.scan (h : lexer.Repeats back) (rest : lexer.AtRest) (running : lexer.done = false) :
    back.begun = lexer.begun.remembering back.location back.stats ∧ back.choices = lexer.choices := by
  obtain ⟨hrules, hreader, hedition, hconditions, hactive, ⟨hfresh, hkept, -⟩, hrunning⟩ := h
  obtain ⟨rules, reader, edition, text, location, conditions, active, more, rejected, done, stats⟩ := back
  dsimp only at hrules hreader hedition hconditions hactive hfresh hkept hrunning
  subst hrules hreader hedition hconditions hactive hfresh hkept hrunning
  have hbegun : begun ⟨lexer.rules, lexer.reader, lexer.edition, text, location, lexer.conditions,
      lexer.begun.active, false, false, false, stats⟩ = lexer.begun.remembering location stats := by
    simp [begun, beginScan, activate, remembering, rest.fresh, rest.kept, running, Lexer.rest]
  refine ⟨hbegun, ?_⟩
  unfold choices
  rw [hbegun]
  rfl

/-- Handing back what was just read restores the reader and leaves the input as it is. Reference:
`Lexer::unput`. -/
theorem unput_forward {r : Reader} {n : Nat} (reader : lexer.reader = r.forward n) :
    (lexer.unput (r.buffer.rest.take n)).reader = r ∧
      (lexer.unput (r.buffer.rest.take n)).edition = lexer.edition := by
  have hback : lexer.reader.backward (r.buffer.rest.take n).length = r := by
    rw [reader, Reader.backward_forward]
  have hahead : r.buffer.rest.take n ++ lexer.rest = r.buffer.rest := by
    show _ ++ lexer.reader.buffer.rest = _
    rw [reader]
    exact List.take_append_drop n _
  have hreplaced : (lexer.consumed.take (r.buffer.rest.take n).length).reverse =
      r.buffer.rest.take n := by
    show (lexer.reader.buffer.consumed.take _).reverse = _
    rw [reader]
    show (((r.buffer.rest.take n).reverse ++ _).take _).reverse = _
    rw [← List.length_reverse, List.take_left, List.reverse_reverse]
  unfold unput
  dsimp only
  rw [hback, hahead, if_pos hreplaced]
  exact ⟨rfl, rfl⟩

/-- The lexer left behind a token has read the text of the token, from where the scan began. -/
theorem Finds.reads (finds : lexer.Finds host token left) (rest : lexer.AtRest) :
    token.text.toList = left.text ∧ ∃ n location stats,
      left = { lexer.begun with
        reader := lexer.reader.forward n
        text := lexer.rest.take n
        location
        stats } := by
  have htext : lexer.begun.text = [] := if_neg (Bool.eq_false_iff.mp rest.fresh)
  cases finds with
  | @matched rule length =>
    refine ⟨String.toList_ofList, length, (lexer.begun.consume length).location,
      (lexer.begun.consume length).stats, ?_⟩
    dsimp only
    rw [rest.begun.fresh, rest.begun.kept]
    unfold consume
    rw [htext, List.nil_append]
    rfl
  | answered _ hahead =>
    refine ⟨String.toList_ofList, unitLength lexer.rest, ?_⟩
    obtain ⟨location, hshape⟩ := skipUnit_shape rest.begun.fresh hahead
    exact ⟨location, lexer.begun.stats, hshape⟩

/-- Handing back the text of a token leads to where the scan that found it began. -/
theorem Finds.repeats (finds : lexer.Finds host token left) (rest : lexer.AtRest) :
    lexer.Repeats (left.countToken.unput token.text.toList) := by
  obtain ⟨htext, n, location, stats, hleft⟩ := finds.reads rest
  have hback : left.text = lexer.reader.buffer.rest.take n := by rw [hleft]; rfl
  have hforward : left.countToken.reader = lexer.reader.forward n := by rw [hleft]; rfl
  rw [htext, hback]
  obtain ⟨hreader, hedition⟩ := unput_forward hforward
  subst hleft
  exact ⟨rfl, hreader, hedition, rfl, rfl, ⟨rest.fresh, rest.kept, nofun⟩, rfl⟩

/-- A match is consumed alike whatever is left of earlier ones, if the location is not: where the
lexer tracks positions it is a new one. Reference: `Lexer::test_match`. -/
theorem consume_remembering (fresh : lexer.more = false) (location : Location) (stats : LexerStats)
    (kept : lexer.options.trackPosition = false → location = lexer.location) (length : Nat) :
    ∃ counted, (lexer.remembering location stats).consume length =
      (lexer.consume length).remembering (lexer.consume length).location counted := by
  have hlocation : ((lexer.remembering location stats).consume length).location =
      (lexer.consume length).location := by
    show (if lexer.options.trackPosition then
        (lexer.remembering location stats).matchLocation lexer.reader.cursor
          (lexer.reader.forward length).cursor
        else location) =
      if lexer.options.trackPosition then
        lexer.matchLocation lexer.reader.cursor (lexer.reader.forward length).cursor
        else lexer.location
    cases htracking : lexer.options.trackPosition with
    | true =>
      have hfresh : (lexer.remembering location stats).more = false := fresh
      simp only [matchLocation, fresh, hfresh]
      rfl
    | false => exact kept htracking
  refine ⟨{ stats with matched := stats.matched + 1 }, ?_⟩
  rw [← hlocation]
  rfl

/-- A unit of input is skipped alike whatever is left of earlier matches. Reference: the forced
`Lexer::input` in `Lexer::lex`. -/
theorem skipUnit_remembering (location : Location) (stats : LexerStats) :
    (lexer.remembering location stats).skipUnit =
      lexer.skipUnit.remembering lexer.skipUnit.location stats := by
  have hinput : ∀ lexer : Lexer, (lexer.remembering lexer.location stats).input.2 =
      lexer.input.2.remembering lexer.input.2.location stats := by
    intro lexer
    have hrest : (lexer.remembering lexer.location stats).rest = lexer.rest := rfl
    unfold input
    rw [hrest]
    split <;> rfl
  exact hinput { lexer with text := if lexer.more then lexer.text else [], location := lexer.here }

/-- A token that a scan finds is found again by a scan that repeats it, with the lexer left at the
same place, if the location has stayed where positions are not tracked. -/
theorem Finds.again (oblivious : host.Oblivious) (finds : lexer.Finds host token left)
    (rest : lexer.AtRest) (running : lexer.done = false) (repeats : lexer.Repeats back)
    (kept : lexer.options.trackPosition = false → lexer.choices ≠ [] →
      back.location = lexer.location) :
    ∃ again, back.Finds host token again ∧ again.reader = left.reader := by
  obtain ⟨hbegun, hchoices⟩ := repeats.scan rest running
  cases finds with
  | @matched rule length others symbol t₀ hfirst hemits =>
    have hkept : lexer.begun.options.trackPosition = false → back.location = lexer.begun.location := by
      intro htracking
      refine kept htracking ?_
      rw [hfirst]
      nofun
    obtain ⟨counted, hseen⟩ :=
      consume_remembering rest.begun.fresh back.location back.stats hkept length
    rw [← hbegun] at hseen
    have hsame : (host.action rule (back.begun.consume length) t₀).1 = .ok (some symbol) := by
      rw [hseen]
      exact (oblivious.actionForgets rule _ t₀ counted).trans hemits
    have hfinds := Finds.matched (hchoices.trans hfirst) hsame
    rw [hseen] at hfinds
    exact ⟨_, hfinds, rfl⟩
  | @answered symbol t₀ hnone hahead hemits =>
    have hrest : back.rest ≠ [] := by
      show back.reader.buffer.rest ≠ []
      rw [repeats.reader]
      exact hahead
    have hsame : (host.stuck back.begun.unrecognized back.begun t₀).1 = .ok (some symbol) := by
      rw [hbegun]
      exact (oblivious.stuckForgets _ lexer.begun t₀ back.location back.stats).trans hemits
    have hfinds := Finds.answered (hchoices.trans hnone) hrest hsame
    rw [hbegun, skipUnit_remembering] at hfinds
    exact ⟨_, hfinds, rfl⟩

/-- Where positions are not tracked, neither a match nor its handing back changes the location. -/
theorem Finds.location (finds : lexer.Finds host token left)
    (untracked : lexer.options.trackPosition = false) (some : lexer.choices ≠ []) (text : List Char) :
    (left.countToken.unput text).location = lexer.location := by
  cases finds with
  | @matched rule length =>
    have hmatched : (lexer.begun.consume length).location = lexer.location :=
      if_neg (Bool.eq_false_iff.mp untracked)
    have hback : ((lexer.begun.consume length).countToken.unput text).location =
        (lexer.begun.consume length).location := if_neg (Bool.eq_false_iff.mp untracked)
    rw [hback, hmatched]
  | answered hnone => exact absurd hnone some

/-- Let a host that keeps nothing between its calls and asks for nothing that a lexer keeps of
earlier matches search an input for tokens as often as it likes. Unless the last of these searches
comes to the end of the input, handing back the text of the token that it comes to leaves the input
as it is and takes the reader, with all that its cursor counts, to where the last scan began;
whatever the host's state is by then, the next search comes to the same token, with its text,
location and line number, and leaves the reader where it was before the text was handed back.
Reference: `Lexer::unput`. -/
theorem handed_back_token_comes_again (host : LexerHost τ ε φ) (oblivious : host.Oblivious)
    (lexer : Lexer) (input : String) (limits : List Nat) (limit : Nat) (t : τ) :
    let earlier := (lexer.setInput input).lexAll host limits t
    let lexed := earlier.2.1.lex host limit earlier.2.2
    ∀ token, lexed.1 = .token token →
      ∃ last ∈ (earlier.2.1.scans host limit earlier.2.2).getLast?, ¬ last.1.FindsEnd host last.2 →
        let back := lexed.2.1.unput token.text.toList
        back.source = lexed.2.1.source ∧ back.reader = last.1.reader ∧
        ∀ more t', ∃ again t'', back.lex host (more + 1) t' = (.token token, again, t'') ∧
          again.reader = lexed.2.1.reader := by
  intro earlier lexed token htoken
  have stateless := oblivious.toStateless
  have hearlier : earlier.2.1.AtRest := (atRest_setInput lexer input).lexAll stateless limits t
  have hlexed : earlier.2.1.lex host limit earlier.2.2 = (.token token, lexed.2.1, lexed.2.2) :=
    Prod.ext htoken rfl
  obtain ⟨last, hlast, hrest, hfirst⟩ := hearlier.last_scan stateless hlexed
  refine ⟨last, hlast, fun hmore => ?_⟩
  intro back
  obtain ⟨hrunning, left, hfinds, hfound⟩ := finds_of_lex stateless hrest hmore hfirst
  have hback : back = left.countToken.unput token.text.toList := by rw [← hfound]
  have hrepeats := hfinds.repeats hrest
  obtain ⟨again, hagain, hreader⟩ := hfinds.again oblivious hrest hrunning hrepeats
    (fun htracking hsome => hfinds.location htracking hsome _)
  rw [← hback] at hrepeats hagain
  obtain ⟨-, n, _, _, hleft⟩ := hfinds.reads hrest
  have hsource : last.1.source = lexed.2.1.source := by
    rw [hfound, hleft]
    exact congrArg String.ofList (Buffer.toList_forward _ n).symm
  refine ⟨?_, hrepeats.reader, ?_⟩
  · rw [← hsource]
    exact congrArg (·.buffer.source) hrepeats.reader
  · intro more t'
    obtain ⟨t'', hlex⟩ := hagain.lex stateless hrepeats.rest hrepeats.running more t'
    refine ⟨again.countToken, t'', hlex, ?_⟩
    rw [hfound]
    exact hreader

end Lexer

end

/-! ## An error token that is handed back -/

namespace Words

/-- What the host that emits words answers depends on the rule or on what is not recognized alone. -/
theorem host_oblivious : host.Oblivious where
  actionReads _ _ _ := rfl
  stuckReads _ _ _ := rfl
  actionSame _ _ _ _ := rfl
  stuckSame _ _ _ _ := rfl
  actionForgets _ _ _ _ := rfl
  stuckForgets _ _ _ _ _ := rfl

/-- The search for the first of two lines' tokens. -/
def wordLexed : List (Lexed (LexError Empty)) × Lexer × (Unit × List LexerEvent) :=
  ((Lexer.new rules).setInput "ab\r\n?c").lexAll host [4] ((), [])

/-- The search behind it, which passes a line break before it comes to a character that no rule
matches. -/
def errorLexed : Lexed (LexError Empty) × Lexer × (Unit × List LexerEvent) :=
  wordLexed.2.1.lex host 4 wordLexed.2.2

/-- The error token for a character. -/
def errorToken : Token := ⟨SymbolId.error, "?", ⟨⟨2, 0⟩, ⟨2, 1⟩, some (4, 5)⟩, 1⟩

/-- The error token comes again behind the line break, which is not read a second time. -/
theorem error_comes_again :
    host.Oblivious ∧ errorLexed.1 = .token errorToken ∧
    ∃ last ∈ (wordLexed.2.1.scans host 4 wordLexed.2.2).getLast?,
      ¬ last.1.FindsEnd host last.2 ∧
      last.1.reader.cursor = ⟨4, 4, ⟨2, 0⟩, [2]⟩ ∧
      (errorLexed.2.1.unput ['?']).source = errorLexed.2.1.source ∧
      (errorLexed.2.1.unput ['?']).reader = last.1.reader ∧
      ∀ more t', ∃ again t'',
        (errorLexed.2.1.unput ['?']).lex host (more + 1) t' = (.token errorToken, again, t'') ∧
        again.reader = errorLexed.2.1.reader := by
  have htoken : errorLexed.1 = .token errorToken := by rfl
  obtain ⟨last, hlast, hback⟩ := Lexer.handed_back_token_comes_again host host_oblivious
    (Lexer.new rules) "ab\r\n?c" [4] 4 ((), []) errorToken htoken
  have hplace : ((wordLexed.2.1.scans host 4 wordLexed.2.2).getLast?.map (·.1.reader)) =
      some ⟨⟨['\n', '\r', 'b', 'a'], ['?', 'c']⟩, ⟨4, 4, ⟨2, 0⟩, [2]⟩⟩ := by decide +kernel
  have hreader : last.1.reader = ⟨⟨['\n', '\r', 'b', 'a'], ['?', 'c']⟩, ⟨4, 4, ⟨2, 0⟩, [2]⟩⟩ := by
    rw [show (wordLexed.2.1.scans host 4 wordLexed.2.2).getLast? = some last from hlast] at hplace
    exact Option.some.inj hplace
  have hmore : ¬ last.1.FindsEnd host last.2 := by
    rintro ⟨hend, -⟩
    have hrest : last.1.rest = ['?', 'c'] := congrArg (·.buffer.rest) hreader
    rw [hrest] at hend
    cases hend
  exact ⟨host_oblivious, htoken, last, hlast, hmore, congrArg (·.cursor) hreader, hback hmore⟩

/-! ## Answers by what is kept of earlier matches -/

/-- Emits every match under the number of matches so far, and an error token under how often text was
handed back. -/
def countingHost : LexerHost (Unit × List LexerEvent) Empty (LexError Empty) :=
  { host with
    action := fun _ lexer t => (.ok (some (10 + lexer.stats.matched)), lexer, t)
    stuck := fun _ lexer t => (.ok (some (10 + lexer.stats.unputs)), lexer, t) }

/-- Emits words, and an error token under the column where the last match begins. -/
def placingHost : LexerHost (Unit × List LexerEvent) Empty (LexError Empty) :=
  { host with stuck := fun _ lexer t => (.ok (some (10 + lexer.location.start.column)), lexer, t) }

theorem countingHost_stateless : countingHost.Stateless where
  actionReads _ _ _ := rfl
  stuckReads _ _ _ := rfl
  actionSame _ _ _ _ := rfl
  stuckSame _ _ _ _ := rfl

theorem placingHost_stateless : placingHost.Stateless where
  actionReads _ _ _ := rfl
  stuckReads _ _ _ := rfl
  actionSame _ _ _ _ := rfl
  stuckSame _ _ _ _ := rfl

/-- The search of a counting host for the start of an input. -/
def countedLexed (input : String) : Lexed (LexError Empty) × Lexer × (Unit × List LexerEvent) :=
  ((Lexer.new rules).setInput input).lex countingHost 3 ((), [])

/-- The search of a placing host for the letter before a character that no rule matches. -/
def letterLexed : Lexed (LexError Empty) × Lexer × (Unit × List LexerEvent) :=
  ((Lexer.new rules).setInput "a?").lex placingHost 3 ((), [])

/-- The search for the character behind it. -/
def placedLexed : Lexed (LexError Empty) × Lexer × (Unit × List LexerEvent) :=
  letterLexed.2.1.lex placingHost 3 letterLexed.2.2

/-- A stateless host that answers by the counts, for a rule or where no rule matches, or by the
location where no rule matches, gets another token for the text that it hands back. Reference:
`Lexer::stats` and `Lexer::yylloc`, which a driver may read. -/
theorem token_does_not_come_again :
    (countingHost.Stateless ∧
      (countedLexed "ab").1 = .token ⟨11, "ab", ⟨⟨1, 0⟩, ⟨1, 2⟩, some (0, 2)⟩, 0⟩ ∧
      (((countedLexed "ab").2.1.unput ['a', 'b']).lex countingHost 3 (countedLexed "ab").2.2).1 =
        .token ⟨12, "ab", ⟨⟨1, 0⟩, ⟨1, 2⟩, some (0, 2)⟩, 0⟩ ∧
      (countedLexed "?").1 = .token ⟨10, "?", ⟨⟨1, 0⟩, ⟨1, 1⟩, some (0, 1)⟩, 0⟩ ∧
      (((countedLexed "?").2.1.unput ['?']).lex countingHost 3 (countedLexed "?").2.2).1 =
        .token ⟨11, "?", ⟨⟨1, 0⟩, ⟨1, 1⟩, some (0, 1)⟩, 0⟩) ∧
    placingHost.Stateless ∧
      placedLexed.1 = .token ⟨10, "?", ⟨⟨1, 1⟩, ⟨1, 2⟩, some (1, 2)⟩, 0⟩ ∧
      ((placedLexed.2.1.unput ['?']).lex placingHost 3 placedLexed.2.2).1 =
        .token ⟨11, "?", ⟨⟨1, 1⟩, ⟨1, 2⟩, some (1, 2)⟩, 0⟩ :=
  ⟨⟨countingHost_stateless, by rfl, by rfl, by rfl, by rfl⟩, placingHost_stateless, by rfl, by rfl⟩

end Words

end ShiftReduce
