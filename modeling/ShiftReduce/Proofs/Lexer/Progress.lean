import ShiftReduce.Proofs.Lexer.Operation
import ShiftReduce.Proofs.Source.Reader

/-!
# Progress over unrecognized input

A scan that finds no rule to accept leaves the text where it was, and the host is asked what to do. If
the host leaves everything as it found it, the lexer is to consume one unit of input by itself. Whether
it does depends on the cached place of the active condition, which a rejected action loses if it touches
the stack of conditions, although the rejection brings the stack back. `Lexer.unrecognized_is_consumed`
says exactly when the unit is consumed; and where rejecting actions keep off the stack and text is not
handed back, no offset is reported twice. A letter whose action changes the conditions before it rejects
the match is an example of the other case: the lexer stays in front of it for good.
-/

namespace ShiftReduce

/-- Whether an operation hands text back to the input, or exchanges the input. -/
def Operation.handsBack : Operation → Bool
  | .setInput _ | .unput _ | .less _ => true
  | _ => false

/-- What a hook leaves as it found it: the text and the place in it, and the stack of conditions. -/
structure Lexer.Untouched (before after : Lexer) : Prop where
  reader : after.reader = before.reader
  edition : after.edition = before.edition
  conditions : after.conditions = before.conditions
  active : after.active = before.active

section
variable {τ ε φ : Type} {host : LexerHost τ ε φ}

namespace LexerHost

/-- Actions that reject their match do not touch the stack of conditions. -/
def RejectsCalmly (host : LexerHost τ ε φ) : Prop :=
  ∀ rule lexer t, (host.action rule lexer t).2.1.rejected = true →
    Lexer.Edits (·.touchesConditions = false) lexer (host.action rule lexer t).2.1

/-- Actions hand nothing back to the input, so no rule moves the cursor back. -/
def ReadsOnward (host : LexerHost τ ε φ) : Prop :=
  ∀ rule lexer t, Lexer.Edits (·.handsBack = false) lexer (host.action rule lexer t).2.1

/-- The answers to unrecognized input leave the lexer alone, as the provided one does. Reference:
`LexerDriver::lex_error`. -/
def LeavesAlone (host : LexerHost τ ε φ) : Prop :=
  ∀ info lexer t, Lexer.Untouched lexer (host.stuck info lexer t).2.1

/-- A host's log of the offsets at which input was unrecognized, last one first. -/
structure Logs (host : LexerHost τ ε φ) (log : τ → List Nat) : Prop where
  unrecognized : ∀ offset t, log (host.note (.unrecognized offset) t) = offset :: log t
  note : ∀ event t, (∀ offset, event ≠ .unrecognized offset) → log (host.note event t) = log t
  action : ∀ rule lexer t, log (host.action rule lexer t).2.2 = log t
  stuck : ∀ info lexer t, log (host.stuck info lexer t).2.2 = log t

end LexerHost

namespace Lexer

variable {lexer lexer' stuck : Lexer} {t t' : τ} {log : τ → List Nat}

/-! ## Operations -/

/-- An operation that does not touch the stack of conditions keeps it, and the cached place. -/
theorem perform_calm {operation : Operation} (calm : operation.touchesConditions = false)
    (performed : lexer.perform operation = .ok lexer') :
    lexer'.active = lexer.active ∧ lexer'.conditions = lexer.conditions := by
  cases operation with
  | setInput input => cases calm
  | push condition => cases calm
  | pop => cases calm
  | setText text => cases performed; exact ⟨rfl, rfl⟩
  | keepMatch => cases performed; exact ⟨rfl, rfl⟩
  | reject =>
    simp only [perform, reject] at performed
    split at performed
    · cases performed; exact ⟨rfl, rfl⟩
    · cases performed
  | unput text => cases performed; exact ⟨rfl, rfl⟩
  | less n => cases performed; exact ⟨rfl, rfl⟩
  | input =>
    cases performed
    unfold input
    split <;> exact ⟨rfl, rfl⟩

/-- Going forward does not lower the offset. -/
theorem offset_forward (r : Reader) (n : Nat) :
    (r.forward n).cursor.offset = r.cursor.offset + Buffer.byteLength (r.buffer.rest.take n) :=
  Cursor.offset_advance _ _ _

/-- An operation that hands nothing back does not lower the offset. Operations on the text and on
the conditions leave the reader alone, and reading a character goes forward. -/
theorem perform_onward {operation : Operation} (onward : operation.handsBack = false)
    (performed : lexer.perform operation = .ok lexer') : lexer.offset ≤ lexer'.offset := by
  cases operation with
  | setInput input => cases onward
  | unput text => cases onward
  | less n => cases onward
  | setText text => cases performed; exact Nat.le_refl _
  | push condition =>
    simp only [perform, pushCondition] at performed
    split at performed
    · cases performed
    · cases performed; exact Nat.le_refl _
  | pop =>
    cases performed
    unfold popCondition
    split <;> exact Nat.le_refl _
  | keepMatch => cases performed; exact Nat.le_refl _
  | reject =>
    simp only [perform, reject] at performed
    split at performed
    · cases performed; exact Nat.le_refl _
    · cases performed
  | input =>
    cases performed
    unfold input
    split
    · exact Nat.le_refl _
    · exact Nat.le.intro (offset_forward _ _).symm

/-! ## Scans that are stuck -/

/-- The lexer after a rejected match has the text before it, if it tries another rule; and its
cached place, unless the action touched the stack of conditions. Reference: `Lexer::test_match`. -/
theorem fire_rejected {rule : RuleId} {length : Nat}
    (h : lexer.fire host t rule length = (.rejected, lexer', t'))
    (backtracks : lexer'.options.backtrack = true) :
    lexer'.reader = lexer.reader ∧ (host.RejectsCalmly → lexer'.active = lexer.active) := by
  unfold fire at h
  dsimp only at h
  split at h
  · cases h
  · next emitted acted t₁ hacted =>
    split at h
    · next hrejected =>
      cases h
      have hagain : acted.options.backtrack = true := by
        unfold afterReject at backtracks
        dsimp only at backtracks
        split at backtracks <;> exact backtracks
      unfold afterReject
      rw [if_pos hagain]
      refine ⟨rfl, ?_⟩
      intro calm
      have hedits := calm _ _ _ ((congrArg (·.2.1.rejected) hacted).trans hrejected)
      rw [hacted] at hedits
      obtain ⟨hactive, hconditions⟩ := hedits.keeps
        (P := fun l => l.active = lexer.active ∧ l.conditions = lexer.conditions)
        (fun hcalm hperformed ⟨hactive, hconditions⟩ =>
          have hkept := perform_calm hcalm hperformed
          ⟨hkept.1.trans hactive, hkept.2.trans hconditions⟩)
        ⟨rfl, rfl⟩
      show (if acted.conditions = lexer.conditions then acted.active else none) = lexer.active
      rw [if_pos hconditions, hactive]
    · split at h
      · cases h
      · split at h <;> cases h

/-- Trying candidates to no avail leaves the text where it was, with input ahead. Reference: the
loop over the candidates in `Lexer::scan`. -/
theorem tryAll_stuck {candidates : List Candidate} {info : Unrecognized}
    (h : tryAll host candidates lexer t = (.stuck info, stuck, t')) :
    stuck.reader = lexer.reader ∧ lexer.rest ≠ [] ∧
      (host.RejectsCalmly → stuck.active = lexer.active) := by
  induction candidates generalizing lexer t with
  | nil =>
    unfold tryAll unmatched at h
    dsimp only at h
    split at h
    · cases h
    · next hrest => cases h; exact ⟨rfl, fun hnil => hrest (by rw [hnil]; rfl), fun _ => rfl⟩
  | cons candidate others ih =>
    unfold tryAll at h
    split at h
    · cases h
    · cases h
    · cases h
    · next next t₁ hfire =>
      split at h
      · next hbacktracks =>
        obtain ⟨hreader, hactive⟩ := fire_rejected hfire hbacktracks
        obtain ⟨hreader', hrest, hactive'⟩ := ih h
        refine ⟨hreader'.trans hreader, ?_, fun calm => (hactive' calm).trans (hactive calm)⟩
        unfold rest at hrest ⊢
        rw [← hreader]
        exact hrest
      · cases h

/-- A scan that is stuck has left the text where it was, with input ahead. The place of the active
condition is cached, unless a rejected action touched the stack of conditions. Reference:
`Lexer::scan`. -/
theorem scan_stuck {info : Unrecognized} (h : lexer.scan host t = (.stuck info, stuck, t')) :
    stuck.reader = lexer.reader ∧ lexer.rest ≠ [] ∧
      (host.RejectsCalmly → stuck.active.isSome = true) := by
  unfold scan at h
  split at h
  · cases h
  · obtain ⟨hreader, hrest, hactive⟩ := tryAll_stuck h
    refine ⟨hreader, hrest, ?_⟩
    intro calm
    rw [hactive calm]
    rfl

/-- A unit of input has a character at least, and no more than there are ahead. -/
theorem unitLength_pos {rest : List Char} (h : rest ≠ []) : 0 < unitLength rest := by
  unfold unitLength
  split
  · exact absurd rfl h
  · decide
  · decide

/-- Skipping a unit moves the reader by it. -/
theorem reader_skipUnit (lexer : Lexer) :
    lexer.skipUnit.reader = lexer.reader.forward (unitLength lexer.rest) := by
  have hrest : ∀ skipped : Lexer, skipped.rest = lexer.rest → skipped.reader = lexer.reader →
      skipped.input.2.reader = lexer.reader.forward (unitLength lexer.rest) := by
    intro skipped hrest hreader
    unfold input
    rw [hrest]
    split
    · next hnone => rw [hnone, hreader]; rfl
    · rw [hreader]
  exact hrest _ rfl rfl

/-- The reader behind unrecognized input, if the host left it where it was: a unit is consumed if the
host handed no text back and forth, and the cached place is there. -/
theorem reader_resolve (info : Unrecognized)
    (reader : (host.stuck info stuck (host.note (.unrecognized stuck.offset) t)).2.1.reader =
      stuck.reader) :
    let after := (host.stuck info stuck (host.note (.unrecognized stuck.offset) t)).2.1
    (stuck.resolve host t info).2.1.reader =
      if after.edition = stuck.edition ∧ after.active.isSome = true then
        stuck.reader.forward (unitLength stuck.rest)
      else stuck.reader := by
  intro after
  have halone : after.leftAlone stuck = true ↔
      after.edition = stuck.edition ∧ after.active.isSome = true := by
    unfold leftAlone offset
    rw [reader]
    simp
  have hrest : after.rest = stuck.rest := congrArg (·.buffer.rest) reader
  show (if after.leftAlone stuck = true then after.skipUnit else after).reader = _
  by_cases h : after.edition = stuck.edition ∧ after.active.isSome = true
  · rw [if_pos h, if_pos (halone.mpr h), reader_skipUnit, hrest, reader]
  · rw [if_neg h, if_neg (fun hleft => h (halone.mp hleft)), reader]

/-! ## Runs -/

/-- The offsets of a log fall towards its end, and the lexer is behind all of them. -/
structure Ahead (lexer : Lexer) (offsets : List Nat) : Prop where
  falling : offsets.Pairwise (· > ·)
  below : ∀ offset ∈ offsets, offset < lexer.offset

/-- A lexer that is further on is ahead of the same offsets. -/
theorem Ahead.mono {offsets : List Nat} (h : lexer.Ahead offsets)
    (further : lexer.offset ≤ lexer'.offset) : lexer'.Ahead offsets :=
  ⟨h.falling, fun offset hmem => Nat.lt_of_lt_of_le (h.below offset hmem) further⟩

/-- Running the action of a rule does not lower the offset, and logs nothing. A rejected match leads
back to where the rule was run, and no further. Reference: `Lexer::test_match`. -/
theorem fire_onward (onward : host.ReadsOnward) (logs : host.Logs log) (lexer : Lexer) (t : τ)
    (rule : RuleId) (length : Nat) :
    lexer.offset ≤ (lexer.fire host t rule length).2.1.offset ∧
      log (lexer.fire host t rule length).2.2 = log t := by
  have hacted : ∀ {event : LexerEvent} {r : Except ε (Option SymbolId) × Lexer × τ},
      host.action rule (lexer.consume length) (host.note event t) = r →
        (∀ offset, event ≠ .unrecognized offset) →
          lexer.offset ≤ r.2.1.offset ∧ log r.2.2 = log t := by
    rintro event r rfl hevent
    refine ⟨?_, (logs.action _ _ _).trans (logs.note event t hevent)⟩
    refine (onward rule _ _).keeps (P := fun l => lexer.offset ≤ l.offset) ?_ ?_
    · exact fun honward hperformed hle => Nat.le_trans hle (perform_onward honward hperformed)
    · exact Nat.le.intro (offset_forward _ _).symm
  unfold fire
  dsimp only
  split
  · next heq => exact hacted heq fun _ => nofun
  · next emitted acted t₁ heq =>
    obtain ⟨hle, hlog⟩ := hacted heq fun _ => nofun
    split
    · refine ⟨?_, (logs.note (.rejected rule) t₁ fun _ => nofun).trans hlog⟩
      unfold afterReject
      dsimp only
      split
      · exact Nat.le_refl _
      · exact hle
    · have hreopen : acted.reopen.offset = acted.offset := by
        unfold reopen
        split <;> rfl
      rw [← hreopen] at hle
      split
      · exact ⟨hle, hlog⟩
      · split <;> exact ⟨hle, hlog⟩

/-- Trying candidates does not lower the offset, and logs nothing. Reference: the loop over the
candidates in `Lexer::scan`. -/
theorem tryAll_onward (onward : host.ReadsOnward) (logs : host.Logs log)
    (candidates : List Candidate) (lexer : Lexer) (t : τ) :
    lexer.offset ≤ (tryAll host candidates lexer t).2.1.offset ∧
      log (tryAll host candidates lexer t).2.2 = log t := by
  induction candidates generalizing lexer t with
  | nil =>
    unfold tryAll unmatched
    dsimp only
    split <;> exact ⟨Nat.le_refl _, rfl⟩
  | cons candidate others ih =>
    have hfire := fire_onward onward logs lexer t candidate.1 candidate.2
    unfold tryAll
    split <;> next heq =>
      rw [heq] at hfire
      first
      | exact hfire
      | split
        · obtain ⟨hle, hlog⟩ := ih _ _
          exact ⟨Nat.le_trans hfire.1 hle, hlog.trans hfire.2⟩
        · exact hfire

/-- A scan does not lower the offset, and logs nothing. Reference: `Lexer::scan`. -/
theorem scan_onward (onward : host.ReadsOnward) (logs : host.Logs log) (lexer : Lexer) (t : τ) :
    lexer.offset ≤ (lexer.scan host t).2.1.offset ∧ log (lexer.scan host t).2.2 = log t := by
  unfold scan
  split
  · exact ⟨Nat.le_refl _, rfl⟩
  · exact tryAll_onward onward logs _ lexer.beginScan.activate.2 t

/-- Unrecognized input is logged, and the lexer is behind it. The host has left the lexer alone and
the place of the condition is there, so the lexer skips a unit by itself; a unit has a byte at
least. Reference: the case of unmatched input in `Lexer::lex`. -/
theorem resolve_ahead (alone : host.LeavesAlone) (logs : host.Logs log) (info : Unrecognized)
    (rest : stuck.rest ≠ []) (active : stuck.active.isSome = true) (h : stuck.Ahead (log t)) :
    (stuck.resolve host t info).2.1.Ahead (log (stuck.resolve host t info).2.2) := by
  have huntouched := alone info stuck (host.note (.unrecognized stuck.offset) t)
  have hreader := reader_resolve info huntouched.reader
  have hactive : (host.stuck info stuck
      (host.note (.unrecognized stuck.offset) t)).2.1.active.isSome = true := by
    rw [huntouched.active]
    exact active
  dsimp only at hreader
  rw [if_pos ⟨huntouched.edition, hactive⟩] at hreader
  have hlog : log (stuck.resolve host t info).2.2 = stuck.offset :: log t :=
    (logs.stuck _ _ _).trans (logs.unrecognized _ _)
  have hfurther : stuck.offset < (stuck.resolve host t info).2.1.offset := by
    have hpos := unitLength_pos rest
    unfold offset
    rw [hreader, offset_forward]
    unfold Lexer.rest at rest hpos
    cases hchars : stuck.reader.buffer.rest with
    | nil => exact absurd hchars rest
    | cons c cs =>
      obtain ⟨n, hn⟩ := Nat.exists_eq_succ_of_ne_zero (Nat.pos_iff_ne_zero.mp hpos)
      unfold Lexer.rest
      rw [hchars] at hn
      rw [hchars, hn, List.take_succ_cons, Buffer.byteLength]
      have hbytes := c.utf8Size_pos
      omega
  rw [hlog]
  refine ⟨List.pairwise_cons.mpr ⟨h.below, h.falling⟩, ?_⟩
  exact List.forall_mem_cons.mpr
    ⟨hfurther, fun offset hmem => Nat.lt_trans (h.below offset hmem) hfurther⟩

/-- A search for a token keeps the lexer ahead of all that was unrecognized. By induction on the
scans. `Lexer.Ahead` says that the offsets that were logged fall from the last one to the first and
that the lexer is behind the last one; so no offset is logged twice. Reference: `Lexer::lex`. -/
theorem lex_ahead (calm : host.RejectsCalmly) (onward : host.ReadsOnward) (alone : host.LeavesAlone)
    (logs : host.Logs log) (limit : Nat) (h : lexer.Ahead (log t)) :
    (lexer.lex host limit t).2.1.Ahead (log (lexer.lex host limit t).2.2) := by
  induction limit generalizing lexer t with
  | zero => exact h
  | succ limit ih =>
    obtain ⟨hle, hlog⟩ := scan_onward onward logs lexer t
    unfold lex
    split
    · next token next t' heq =>
      rw [heq] at hle hlog
      dsimp only at hle hlog ⊢
      rw [logs.note (.token token) t' fun _ => nofun, hlog]
      exact h.mono hle
    · next heq =>
      rw [heq] at hle hlog
      dsimp only
      rw [hlog]
      exact h.mono hle
    · next heq =>
      rw [heq] at hle hlog
      exact ih (hlog ▸ h.mono hle)
    · next info stuck t' heq =>
      obtain ⟨hreader, hrest, hactive⟩ := scan_stuck heq
      rw [heq] at hle hlog
      have hahead : stuck.Ahead (log t') := hlog ▸ h.mono hle
      have hstuck : stuck.rest ≠ [] := by
        unfold rest at hrest ⊢
        rw [hreader]
        exact hrest
      have hresolved := resolve_ahead alone logs info hstuck (hactive calm) hahead
      split
      · next hanswer => rw [hanswer] at hresolved; exact hresolved
      · next hanswer => rw [hanswer] at hresolved; exact ih hresolved
      · next hanswer => rw [hanswer] at hresolved; exact ⟨hresolved.falling, hresolved.below⟩

/-- Where a scan is stuck and the host leaves the text and the place in it as they were, whatever it
answers, the lexer consumes exactly one unit of input if the host exchanged no text and the place of
the active condition is cached; otherwise it stays where it is. So it does consume the unit if the
host leaves the stack of conditions alone as well and rejecting actions do not touch that stack. If
moreover no text is handed back, the offsets at which input is unrecognized increase strictly over
any search for a token. Reference: `LexerDriver::lex_error`, and what `Lexer::lex` does after it. -/
theorem unrecognized_is_consumed (host : LexerHost τ ε φ) :
    (∀ (lexer stuck : Lexer) (t t' : τ) (info : Unrecognized),
      lexer.scan host t = (.stuck info, stuck, t') →
      let after := (host.stuck info stuck (host.note (.unrecognized stuck.offset) t')).2.1
      after.reader = stuck.reader →
        0 < unitLength lexer.rest ∧
        (stuck.resolve host t' info).2.1.reader =
          (if after.edition = stuck.edition ∧ after.active.isSome = true then
            lexer.reader.forward (unitLength lexer.rest)
          else lexer.reader) ∧
        (host.RejectsCalmly → stuck.Untouched after →
          (stuck.resolve host t' info).2.1.reader =
            lexer.reader.forward (unitLength lexer.rest))) ∧
    (host.RejectsCalmly → host.ReadsOnward → host.LeavesAlone →
      ∀ log : τ → List Nat, host.Logs log → ∀ (limit : Nat) (lexer : Lexer) (t : τ),
        lexer.Ahead (log t) →
          (lexer.lex host limit t).2.1.Ahead (log (lexer.lex host limit t).2.2)) := by
  refine ⟨?_, ?_⟩
  · intro lexer stuck t t' info hscan after hafter
    obtain ⟨hreader, hrest, hactive⟩ := scan_stuck hscan
    have hresolved := reader_resolve info hafter
    have hunit : stuck.rest = lexer.rest := congrArg (·.buffer.rest) hreader
    rw [hreader, hunit] at hresolved
    refine ⟨unitLength_pos hrest, hresolved, ?_⟩
    intro calm untouched
    have hcached : after.active.isSome = true := by
      rw [untouched.active]
      exact hactive calm
    rw [hresolved, if_pos ⟨untouched.edition, hcached⟩]
  · intro calm onward alone log logs limit lexer t hahead
    exact lex_ahead calm onward alone logs limit hahead

end Lexer

end

/-! ## Lexers that run on their own -/

/-- Whether a scan found no rule to accept, and so asks for an answer. -/
def Scan.isStuck {φ : Type} : Scan φ → Bool
  | .stuck _ => true
  | _ => false

/-- A scan that found no rule to accept reports what it came upon. -/
theorem Scan.eq_stuck {φ : Type} {scan : Scan φ} (h : scan.isStuck = true) :
    ∃ info, scan = .stuck info := by
  cases scan with
  | stuck info => exact ⟨info, rfl⟩
  | _ => cases h

/-- The offset that an event reports as unrecognized. Reference: the log record of unmatched input
in `Lexer::lex`. -/
def LexerEvent.unrecognized? : LexerEvent → Option Nat
  | .unrecognized offset => some offset
  | _ => none

namespace LexerHost

variable {τ ε : Type} (action : RuleId → Lexer → τ → Except ε (Option SymbolId) × Lexer × τ)

/-- The log of a lexer that runs on its own is read off its events. -/
def logOf (t : τ × List LexerEvent) : List Nat := t.2.filterMap (·.unrecognized?)

/-- A lexer that runs on its own logs what is unrecognized. -/
theorem alone_logs : (alone action).Logs logOf where
  unrecognized offset t := rfl
  note event t hevent := by
    cases event with
    | unrecognized offset => exact absurd rfl (hevent offset)
    | _ => rfl
  action rule lexer t := rfl
  stuck info lexer t := by
    show List.filterMap _ (if info.recoverable then _ :: t.2 else t.2) = _
    split <;> rfl

/-- A lexer that runs on its own is left alone where input is unrecognized. -/
theorem alone_leavesAlone : (alone action).LeavesAlone := fun _ _ _ => ⟨rfl, rfl, rfl, rfl⟩

end LexerHost

/-! ## A rule that rejects its match -/

namespace Letters

/-- One letter is matched, and a second condition is declared. -/
def rules : LexerRules :=
  (LexerRules.build { backtrack := true } [.condition "S" true, .rule [] "a"]).toOption.get
    (by decide +kernel)

/-- The lexer at the start of an input. -/
def start (input : String) : Lexer := (Lexer.new rules).setInput input

/-- Rejects the match. -/
def rejectMatch (_ : RuleId) (lexer : Lexer) (t : Unit) :
    Except GrammarError (Option SymbolId) × Lexer × Unit :=
  match lexer.reject with
  | .ok rejected => (.ok none, rejected, t)
  | .error fault => (.error fault, lexer, t)

/-- Activates the second condition, and then rejects the match. -/
def pushAndReject (rule : RuleId) (lexer : Lexer) (t : Unit) :
    Except GrammarError (Option SymbolId) × Lexer × Unit :=
  match lexer.pushCondition "S" with
  | .ok pushed => rejectMatch rule pushed t
  | .error fault => (.error fault, lexer, t)

/-- A lexer whose rule rejects its match. -/
def calmHost : LexerHost (Unit × List LexerEvent) GrammarError (LexError GrammarError) :=
  .alone rejectMatch

/-- A lexer whose rule touches the stack of conditions before it rejects its match. -/
def restlessHost : LexerHost (Unit × List LexerEvent) GrammarError (LexError GrammarError) :=
  .alone pushAndReject

/-- A rejection is one operation. -/
theorem edits_rejectMatch (allowed : Operation → Prop) (h : allowed .reject) (rule : RuleId)
    (lexer : Lexer) (t : Unit) : Lexer.Edits allowed lexer (rejectMatch rule lexer t).2.1 := by
  unfold rejectMatch
  split
  · next hrejected => exact .single ⟨.reject, h, hrejected⟩
  · exact .refl

/-- The letter that is rejected is consumed as unrecognized, and so is the line break behind it.
Here the action leaves the stack of conditions alone, and the hook finds the place of the condition
as the scan left it. -/
theorem rejected_letter_is_consumed :
    calmHost.RejectsCalmly ∧ calmHost.ReadsOnward ∧ calmHost.LeavesAlone ∧
    calmHost.Logs LexerHost.logOf ∧
    (∃ info stuck t, (start "a\r\n").scan calmHost ((), []) = (.stuck info, stuck, t) ∧
      (stuck.resolve calmHost t info).2.1.reader = (start "a\r\n").reader.forward 1) ∧
    let first := (start "a\r\n").lex calmHost 4 ((), [])
    let second := first.2.1.lex calmHost 4 first.2.2
    LexerHost.logOf second.2.2 = [1, 0] ∧ second.2.1.offset = 3 ∧
      second.2.1.Ahead (LexerHost.logOf second.2.2) := by
  obtain ⟨hstep, hrun⟩ := Lexer.unrecognized_is_consumed calmHost
  have hcalm : calmHost.RejectsCalmly := fun rule lexer t _ =>
    edits_rejectMatch (·.touchesConditions = false) rfl rule lexer t.1
  have honward : calmHost.ReadsOnward := fun rule lexer t =>
    edits_rejectMatch (·.handsBack = false) rfl rule lexer t.1
  have halone : calmHost.LeavesAlone := LexerHost.alone_leavesAlone _
  have hlogs : calmHost.Logs LexerHost.logOf := LexerHost.alone_logs _
  have hstart : (start "a\r\n").Ahead (LexerHost.logOf ((), [])) := ⟨.nil, nofun⟩
  have hfirst := hrun hcalm honward halone _ hlogs 4 _ ((), []) hstart
  have hsecond := hrun hcalm honward halone _ hlogs 4 _ _ hfirst
  refine ⟨hcalm, honward, halone, hlogs, ?_, by decide +kernel, by decide +kernel, hsecond⟩
  obtain ⟨info, hinfo⟩ : ∃ info, ((start "a\r\n").scan calmHost ((), [])).1 = .stuck info :=
    Scan.eq_stuck (by decide +kernel)
  have hscan : (start "a\r\n").scan calmHost ((), []) =
      (.stuck info, ((start "a\r\n").scan calmHost ((), [])).2) := Prod.ext hinfo rfl
  obtain ⟨-, -, hconsumed⟩ := hstep _ _ _ _ _ hscan rfl
  exact ⟨info, _, _, hscan, hconsumed hcalm (halone _ _ _)⟩

/-- A letter whose rejection follows a change of the conditions is not consumed, although nobody
touches the lexer afterwards: its offset is unrecognized again and again. Reference:
`Lexer::restore`, which clears the place that `Lexer::lex` asks for. -/
theorem letter_stays_after_push :
    restlessHost.LeavesAlone ∧
    let first := (start "a").lex restlessHost 4 ((), [])
    let second := first.2.1.lex restlessHost 4 first.2.2
    LexerHost.logOf second.2.2 = [0, 0] ∧ second.2.1.offset = 0 ∧ second.2.1.source = "a" :=
  ⟨LexerHost.alone_leavesAlone _, by decide +kernel, by decide +kernel, by decide +kernel⟩

end Letters

end ShiftReduce
