import ShiftReduce.Proofs.Lexer.Calls
import ShiftReduce.Proofs.Lexer.Operation

/-!
# The course of a search

A search for a token is a row of scans, and a scan is a row of rules that are run until one of them does
not reject its match. Both rows are listed here, each scan and each rule with the lexer and the host's
state it begins with (`Lexer.scans`, `Lexer.firings`). The lists are what happens: a search takes as many
scans as are listed (`Lexer.lex_scans`), and the rules that are listed are those whose actions the host
is called for, in order (`Lexer.scan_recorded`, `Lexer.lex_recorded`).
-/

namespace ShiftReduce

/-- A rule that is run on its match, with the lexer before the match and the host's state. -/
structure Firing (τ : Type) where
  lexer : Lexer
  state : τ
  rule : RuleId
  length : Nat

section
variable {τ ε φ : Type}

/-- Whether a call is for the action of a rule, not for an answer to unrecognized input. -/
def HostCall.isAction : HostCall ε φ → Bool
  | .action _ _ _ => true
  | .stuck _ _ _ => false

@[simp] theorem HostCall.isAction_action (rule : RuleId) (seen : Lexer)
    (answer : Except ε (Option SymbolId)) :
    (HostCall.action rule seen answer : HostCall ε φ).isAction = true := rfl

@[simp] theorem HostCall.isAction_stuck (info : Unrecognized) (seen : Lexer)
    (answer : Except φ (Option SymbolId)) :
    (HostCall.stuck info seen answer : HostCall ε φ).isAction = false := rfl

namespace Firing

/-- The rule and the number of characters it matches, as the scan found them. -/
def candidate (firing : Firing τ) : Candidate := (firing.rule, firing.length)

/-- The lexer that the action of the rule sees: the match is consumed. -/
def seen (firing : Firing τ) : Lexer := firing.lexer.consume firing.length

/-- The note that is taken of the match, before the action runs. Reference: `Lexer::test_match`. -/
def event (firing : Firing τ) : LexerEvent :=
  .matched (firing.seen.topCondition 0) firing.rule
    ((firing.seen.rules.rules[firing.rule]?.map (·.source)).getD "") firing.seen.matchedText

/-- What the action of the rule does, with the match consumed and noted. -/
def acted (host : LexerHost τ ε φ) (firing : Firing τ) : Except ε (Option SymbolId) × Lexer × τ :=
  host.action firing.rule firing.seen (host.note firing.event firing.state)

/-- The call that the host gets for the action of the rule. -/
def call (host : LexerHost τ ε φ) (firing : Firing τ) : HostCall ε φ :=
  .action firing.rule firing.seen (firing.acted host).1

/-- Whether the action of the rule rejects the match and does not fail. Reference: `Lexer::reject`.
-/
def Rejects (host : LexerHost τ ε φ) (firing : Firing τ) : Prop :=
  ∃ emitted after t, firing.acted host = (.ok emitted, after, t) ∧ after.rejected = true

/-- Whether the action of the rule skips the match, and leaves the lexer `after`. -/
def Skips (host : LexerHost τ ε φ) (firing : Firing τ) (after : Lexer) : Prop :=
  ∃ t, firing.acted host = (.ok none, after, t) ∧ after.rejected = false

/-- What the action of a rule does are operations of the kind that the host keeps to. -/
theorem edits_acted {host : LexerHost τ ε φ} {allowed : Operation → Prop}
    (acts : ∀ rule lexer t, Lexer.Edits allowed lexer (host.action rule lexer t).2.1)
    {firing : Firing τ} {answer : Except ε (Option SymbolId)} {after : Lexer} {t : τ}
    (acted : firing.acted host = (answer, after, t)) : Lexer.Edits allowed firing.seen after := by
  have hedits := acts firing.rule firing.seen (host.note firing.event firing.state)
  rwa [show host.action firing.rule firing.seen _ = _ from acted] at hedits

/-- What comes of running a rule: its action fails, rejects the match, emits a token, skips the match and
leaves the lexer where it was, or skips the match and does not. -/
inductive Comes (host : LexerHost τ ε φ) (firing : Firing τ) : Trial φ × Lexer × τ → Prop
  | failed {fault : ε} {after : Lexer} {t : τ} (acted : firing.acted host = (.error fault, after, t)) :
      Comes host firing (.failed (host.fail (.action firing.rule fault)), after, t)
  | rejected {emitted : Option SymbolId} {after : Lexer} {t : τ}
      (acted : firing.acted host = (.ok emitted, after, t)) (rejects : after.rejected = true) :
      Comes host firing
        (.rejected, after.afterReject firing.lexer, host.note (.rejected firing.rule) t)
  | token {symbol : SymbolId} {after : Lexer} {t : τ}
      (acted : firing.acted host = (.ok (some symbol), after, t)) (kept : after.rejected = false) :
      Comes host firing (.token (after.reopen.token symbol), after.reopen, t)
  | stalled {after : Lexer} {t : τ} (acted : firing.acted host = (.ok none, after, t))
      (kept : after.rejected = false)
      (stalled : after.reopen.stalled firing.lexer firing.length = true) :
      Comes host firing
        (.failed (host.fail (.noProgress firing.rule firing.lexer.offset)), after.reopen, t)
  | skip {after : Lexer} {t : τ} (acted : firing.acted host = (.ok none, after, t))
      (kept : after.rejected = false)
      (moved : after.reopen.stalled firing.lexer firing.length = false) :
      Comes host firing (.skip, after.reopen, t)

/-- Running a rule comes to one of the five: a fault, a rejection, a token, no progress, or a
skipped match. Reference: `Lexer::test_match`. -/
theorem comes (host : LexerHost τ ε φ) (lexer : Lexer) (t : τ) (rule : RuleId) (length : Nat) :
    Comes host ⟨lexer, t, rule, length⟩ (lexer.fire host t rule length) := by
  cases hacted : (⟨lexer, t, rule, length⟩ : Firing τ).acted host with
  | mk answer left =>
    obtain ⟨after, t'⟩ := left
    have hcalled : host.action rule (lexer.consume length) (host.note
        (.matched ((lexer.consume length).topCondition 0) rule
          (((lexer.consume length).rules.rules[rule]?.map (·.source)).getD "")
          (lexer.consume length).matchedText) t) = (answer, after, t') := hacted
    simp only [Lexer.fire, hcalled]
    cases answer with
    | error fault => exact .failed hacted
    | ok emitted =>
      cases hrejected : after.rejected with
      | true => simpa [hrejected] using Comes.rejected hacted hrejected
      | false =>
        cases emitted with
        | some symbol => simpa [hrejected] using Comes.token hacted hrejected
        | none =>
          cases hstalled : after.reopen.stalled lexer length with
          | true => simpa [hrejected, hstalled] using Comes.stalled hacted hrejected hstalled
          | false => simpa [hrejected, hstalled] using Comes.skip hacted hrejected hstalled

/-- The trial is rejected if and only if the action rejects the match. -/
theorem Comes.rejected_iff {host : LexerHost τ ε φ} {firing : Firing τ} {outcome : Trial φ × Lexer × τ}
    (h : firing.Comes host outcome) : outcome.1 = .rejected ↔ firing.Rejects host := by
  constructor
  · intro hrejected
    cases h with
    | rejected hacted hrejects => exact ⟨_, _, _, hacted, hrejects⟩
    | failed | token | stalled | skip => cases hrejected
  · rintro ⟨emitted, after, t, hemitted, hrejects⟩
    cases h with
    | rejected => rfl
    | failed hacted => cases hacted.symm.trans hemitted
    | token hacted hkept | stalled hacted hkept | skip hacted hkept =>
      cases hacted.symm.trans hemitted
      rw [hkept] at hrejects
      cases hrejects

end Firing

namespace Lexer

/-- The rules that are run when candidates are tried, in order, each with the lexer that it is run
on. Reference: the loop over the candidates in `Lexer::scan`. -/
def tries (host : LexerHost τ ε φ) : List Candidate → Lexer → τ → List (Firing τ)
  | [], _, _ => []
  | (rule, length) :: others, lexer, t =>
    ⟨lexer, t, rule, length⟩ ::
      match lexer.fire host t rule length with
      | (.rejected, next, t) => if next.options.backtrack then tries host others next t else []
      | _ => []

/-- The rules that a scan runs, in order; none once the end of the input was reached. Reference:
`Lexer::scan`. -/
def firings (host : LexerHost τ ε φ) (lexer : Lexer) (t : τ) : List (Firing τ) :=
  if lexer.done then []
  else
    let (condition, begun) := lexer.beginScan.activate
    tries host (begun.trials condition) begun t

/-- Where a search for a token goes on behind the first scan: the match was skipped, or unrecognized input
was. The search is over where there is nothing. -/
def next? (host : LexerHost τ ε φ) (lexer : Lexer) (t : τ) : Option (Lexer × τ) :=
  match lexer.scan host t with
  | (.skip, next, t) => some (next, t)
  | (.stuck info, stuck, t) =>
    match stuck.resolve host t info with
    | (.ok none, next, t) => some (next, t)
    | _ => none
  | _ => none

/-- The scans of a search for a token: the lexer and the host's state at the start of each of them. -/
def scans (host : LexerHost τ ε φ) : (limit : Nat) → Lexer → τ → List (Lexer × τ)
  | 0, _, _ => []
  | limit + 1, lexer, t =>
    (lexer, t) ::
      match lexer.next? host t with
      | some (next, t) => scans host limit next t
      | none => []

/-- The scans of as many searches as there are limits, one search behind the other. -/
def scansAll (host : LexerHost τ ε φ) : (limits : List Nat) → Lexer → τ → List (Lexer × τ)
  | [], _, _ => []
  | limit :: limits, lexer, t =>
    lexer.scans host limit t ++
      scansAll host limits (lexer.lex host limit t).2.1 (lexer.lex host limit t).2.2

/-- The rules that a search runs, scan by scan. Reference: `Lexer::lex`. -/
def firingsAll (host : LexerHost τ ε φ) (limit : Nat) (lexer : Lexer) (t : τ) : List (Firing τ) :=
  (lexer.scans host limit t).flatMap fun begun => begun.1.firings host begun.2

variable {host : LexerHost τ ε φ}

/-! ## One scan after the other -/

/-- A search that goes on behind the first scan is the search from there. -/
theorem lex_next {lexer next : Lexer} {t t' : τ} (h : lexer.next? host t = some (next, t'))
    (limit : Nat) : lexer.lex host (limit + 1) t = next.lex host limit t' := by
  unfold next? at h
  simp only [lex]
  generalize lexer.scan host t = scanned at h ⊢
  obtain ⟨scan, stuck, t₁⟩ := scanned
  cases scan with
  | token token => cases h
  | failed reason => cases h
  | skip => cases h; rfl
  | stuck info =>
    dsimp only at h ⊢
    generalize stuck.resolve host t₁ info = resolved at h ⊢
    obtain ⟨_ | _ | symbol, after, t₂⟩ := resolved
    · cases h
    · cases h; rfl
    · cases h

/-- A search that is over behind the first scan has come to something, whatever its limit. -/
theorem lex_over {lexer : Lexer} {t : τ} (h : lexer.next? host t = none) :
    (lexer.lex host 1 t).1 ≠ .exhausted ∧
      ∀ limit, lexer.lex host (limit + 1) t = lexer.lex host 1 t := by
  unfold next? at h
  simp only [lex]
  generalize lexer.scan host t = scanned at h ⊢
  obtain ⟨scan, stuck, t₁⟩ := scanned
  cases scan with
  | token token => exact ⟨by simp, fun _ => rfl⟩
  | failed reason => exact ⟨by simp, fun _ => rfl⟩
  | skip => cases h
  | stuck info =>
    dsimp only at h ⊢
    generalize stuck.resolve host t₁ info = resolved at h ⊢
    obtain ⟨_ | _ | symbol, after, t₂⟩ := resolved
    · exact ⟨by simp, fun _ => rfl⟩
    · cases h
    · exact ⟨by simp, fun _ => rfl⟩

/-- A search takes as many scans as are listed, and comes to nothing within fewer of them. So the
list of scans is what the limit of a search counts, and nothing beside it. -/
theorem lex_scans (host : LexerHost τ ε φ) (limit : Nat) (lexer : Lexer) (t : τ) :
    lexer.lex host (lexer.scans host limit t).length t = lexer.lex host limit t ∧
      ∀ fewer < (lexer.scans host limit t).length, (lexer.lex host fewer t).1 = .exhausted := by
  induction limit generalizing lexer t with
  | zero => exact ⟨rfl, nofun⟩
  | succ limit ih =>
    unfold scans
    cases hnext : lexer.next? host t with
    | none =>
      refine ⟨((lex_over hnext).2 limit).symm, ?_⟩
      intro fewer hfewer
      obtain rfl : fewer = 0 := by simpa using hfewer
      rfl
    | some following =>
      obtain ⟨next, t'⟩ := following
      obtain ⟨hsame, hfewer⟩ := ih next t'
      refine ⟨?_, ?_⟩
      · rw [List.length_cons, lex_next hnext, lex_next hnext, hsame]
      · rintro (_ | fewer) hlt
        · rfl
        · rw [lex_next hnext]
          exact hfewer fewer (by simpa using hlt)

/-! ## The calls of the host -/

/-- A rule is run alike for a host that records its calls; its action is the call that is recorded.
So what the list of firings says is what the host was asked. -/
theorem fire_recorded (lexer : Lexer) (t : τ) (calls : List (HostCall ε φ)) (rule : RuleId)
    (length : Nat) :
    let fired := lexer.fire host t rule length
    lexer.fire host.recorded (t, calls) rule length =
      (fired.1, fired.2.1, fired.2.2, calls ++ [(⟨lexer, t, rule, length⟩ : Firing τ).call host]) := by
  generalize hfired : lexer.fire host t rule length = fired
  simp only [fire, LexerHost.recorded_note] at hfired ⊢
  generalize hacted : host.action rule (lexer.consume length) _ = acted at hfired
  obtain ⟨answer, after, t'⟩ := acted
  rw [LexerHost.recorded_action hacted]
  have hcall : (⟨lexer, t, rule, length⟩ : Firing τ).call host =
      .action rule (lexer.consume length) answer := by
    have hanswer : ((⟨lexer, t, rule, length⟩ : Firing τ).acted host).1 = answer :=
      congrArg Prod.fst hacted
    rw [← hanswer]
    rfl
  rw [hcall, ← hfired]
  cases answer with
  | error fault => rfl
  | ok emitted =>
    dsimp only
    split
    · rfl
    · cases emitted with
      | some symbol => rfl
      | none => dsimp only; split <;> rfl

/-- Candidates are tried alike for a host that records its calls; it is called for the rules that are
run. -/
theorem tryAll_recorded (candidates : List Candidate) (lexer : Lexer) (t : τ)
    (calls : List (HostCall ε φ)) :
    let tried := tryAll host candidates lexer t
    tryAll host.recorded candidates lexer (t, calls) =
      (tried.1, tried.2.1, tried.2.2,
        calls ++ (tries host candidates lexer t).map (·.call host)) := by
  induction candidates generalizing lexer t calls with
  | nil => simp [tryAll, tries]
  | cons candidate others ih =>
    obtain ⟨rule, length⟩ := candidate
    simp only [tryAll, tries, fire_recorded]
    generalize lexer.fire host t rule length = fired
    obtain ⟨trial, next, t'⟩ := fired
    cases trial with
    | token token => rfl
    | skip => rfl
    | failed reason => rfl
    | rejected =>
      dsimp only
      split
      · rw [ih]
        simp
      · rfl

/-- A scan runs alike for a host that records its calls; it is called for the rules that are run. -/
theorem scan_recorded (lexer : Lexer) (t : τ) (calls : List (HostCall ε φ)) :
    let scanned := lexer.scan host t
    lexer.scan host.recorded (t, calls) =
      (scanned.1, scanned.2.1, scanned.2.2, calls ++ (lexer.firings host t).map (·.call host)) := by
  unfold scan firings
  split
  · simp
  · exact tryAll_recorded _ _ _ _

/-- Unrecognized input is treated alike for a host that records its calls; no action is called. -/
theorem resolve_recorded (lexer : Lexer) (t : τ) (calls : List (HostCall ε φ)) (info : Unrecognized) :
    let resolved := lexer.resolve host t info
    lexer.resolve host.recorded (t, calls) info =
      (resolved.1, resolved.2.1, resolved.2.2, calls ++ [.stuck info lexer resolved.1]) := by
  unfold resolve
  rw [LexerHost.recorded_note]
  cases hanswered : host.stuck info lexer (host.note (.unrecognized lexer.offset) t) with
  | mk answer left =>
    obtain ⟨after, t'⟩ := left
    rw [LexerHost.recorded_stuck hanswered]

/-- A search runs alike for a host that records its calls, and the actions it is called for are those of
the rules that are run. -/
theorem lex_recorded (limit : Nat) (lexer : Lexer) (t : τ) (calls : List (HostCall ε φ)) :
    let lexed := lexer.lex host limit t
    let recorded := lexer.lex host.recorded limit (t, calls)
    recorded = (lexed.1, lexed.2.1, lexed.2.2, recorded.2.2.2) ∧
      recorded.2.2.2.filter (·.isAction) =
        calls.filter (·.isAction) ++ (lexer.firingsAll host limit t).map (·.call host) := by
  induction limit generalizing lexer t calls with
  | zero => exact ⟨rfl, by simp [firingsAll, scans, lex]⟩
  | succ limit ih =>
    have hactions : ∀ firings : List (Firing τ),
        (firings.map (·.call host)).filter (·.isAction) = firings.map (·.call host) := by
      intro firings
      refine List.filter_eq_self.mpr ?_
      simp [Firing.call]
    simp only [firingsAll, scans, next?, lex, scan_recorded, List.flatMap_cons, List.map_append]
    generalize lexer.scan host t = scanned
    obtain ⟨scan, next, t'⟩ := scanned
    cases scan with
    | token token => exact ⟨rfl, by simp [LexerHost.recorded_note, hactions]⟩
    | failed reason => exact ⟨rfl, by simp [hactions]⟩
    | skip =>
      obtain ⟨hsame, hcalls⟩ := ih next t' (calls ++ (lexer.firings host t).map (·.call host))
      refine ⟨hsame, ?_⟩
      simp [hcalls, hactions, firingsAll]
    | stuck info =>
      simp only [resolve_recorded]
      generalize next.resolve host t' info = resolved
      obtain ⟨_ | _ | symbol, after, t''⟩ := resolved
      · exact ⟨rfl, by simp [hactions]⟩
      · obtain ⟨hsame, hcalls⟩ := ih after t'' _
        refine ⟨hsame, hcalls.trans ?_⟩
        simp [hactions, firingsAll]
      · exact ⟨rfl, by simp [hactions]⟩

end Lexer

end

end ShiftReduce
