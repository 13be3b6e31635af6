import ShiftReduce.Proofs.Lexer.Advance
import ShiftReduce.Proofs.Lexer.Course
import ShiftReduce.Proofs.Lexer.Lossless
import ShiftReduce.Proofs.Lexer.Script

/-!
# Searches that end

A search for a token goes on as long as matches are skipped or rejected and unrecognized input is passed
over. If the host hands nothing back and keeps off the stack of conditions, every scan behind which the
search goes on consumes something, or is the one that finds the end of the input; so there are no more
scans than characters, and two at the end (`Lexer.searches_end`). Once the end was found all searches
find it, without the host.

The measure is `Lexer.scansAhead`. What a scan leads to is said once (`Lexer.ScanLeads`): behind a
skipped match the measure is lower, in front of unrecognized input something is ahead, and an end
that is there was noticed. The rules for the end of the input are tried in one scan at most, since
that scan finds the end (`Lexer.endsAhead_lex_one`).
-/

namespace ShiftReduce

/-- Whether an operation neither hands text back nor touches the stack of conditions. -/
def Operation.MovesOn (operation : Operation) : Prop :=
  operation.handsBack = false ∧ operation.touchesConditions = false

namespace Lexer

variable {τ ε φ : Type} {host : LexerHost τ ε φ} {lexer before after : Lexer} {t : τ}

/-- The most scans that a search can take: one for each character ahead and two at the end, or one where
the end was found. -/
def scansAhead (lexer : Lexer) : Nat := if lexer.done then 1 else lexer.rest.length + 2

theorem scansAhead_le (lexer : Lexer) : lexer.scansAhead ≤ lexer.rest.length + 2 := by
  unfold scansAhead
  split <;> omega

theorem scansAhead_pos (lexer : Lexer) : 0 < lexer.scansAhead := by
  unfold scansAhead
  split <;> omega

/-! ## Rules and candidates -/

/-- The action of a rule moves on from its match, and leaves the stack of conditions alone. -/
theorem acted_movesOn (moves : host.Performs Operation.MovesOn) {firing : Firing τ}
    {answer : Except ε (Option SymbolId)}
    (h : firing.acted host = (answer, after, t)) :
    Edits Operation.MovesOn firing.seen after ∧ firing.seen.Onward after ∧
      after.active = firing.lexer.active ∧ after.conditions = firing.lexer.conditions := by
  have hedits := Firing.edits_acted moves.action h
  exact ⟨hedits, hedits.onward fun _ hallowed => hallowed.1, hedits.calm fun _ hallowed => hallowed.2⟩

/-- Consuming a match goes forward. -/
theorem onward_seen (firing : Firing τ) : firing.lexer.Onward firing.seen :=
  ⟨⟨firing.length, rfl⟩, rfl, rfl⟩

/-- A match that is skipped without the lexer being stalled leaves less input ahead, if there was any. -/
theorem rest_length_lt_of_skip {firing : Firing τ} (h : firing.lexer.Scanning)
    (rest : firing.lexer.rest ≠ []) (onward : firing.seen.Onward after)
    (active : after.active = firing.lexer.active)
    (moved : after.stalled firing.lexer firing.length = false) :
    after.rest.length < firing.lexer.rest.length := by
  refine ((onward_seen firing).trans onward).rest_length_lt fun hreader => ?_
  -- Where the reader is the same, the match was empty: this is what the lexer takes for a stall.
  have hsame : after.rest.length = firing.lexer.rest.length := congrArg (·.buffer.rest.length) hreader
  have hlength : firing.length = 0 := by
    have hle := onward.rest_length_le
    have hdrop : firing.seen.rest = firing.lexer.rest.drop firing.length := rfl
    have hpos := List.length_pos_iff.mpr rest
    rw [hsame, hdrop, List.length_drop] at hle
    omega
  have hoffset : after.offset = firing.lexer.offset := congrArg (·.cursor.offset) hreader
  have hdone : after.done = false := by
    rw [onward.done]
    exact h.done_false rest
  unfold stalled at moved
  rw [hlength, hoffset, active, h.active, hdone] at moved
  simp at moved

/-- What a scan leads to from a lexer in the middle of it. -/
structure ScanLeads (lexer : Lexer) (outcome : Scan φ × Lexer × τ) : Prop where
  ended : lexer.rest = [] → outcome.2.1.done = true
  skip : outcome.1 = .skip → outcome.2.1.scansAhead < lexer.rest.length + 2
  stuck : ∀ info, outcome.1 = .stuck info →
    lexer.rest ≠ [] ∧ outcome.2.1.reader = lexer.reader ∧ outcome.2.1.Scanning

/-- A rejected match leaves the lexer within the scan, in the same place. -/
theorem scanning_afterReject (moves : host.Performs Operation.MovesOn) {firing : Firing τ}
    (h : firing.lexer.Scanning)
    {emitted : Option SymbolId} (acted : firing.acted host = (.ok emitted, after, t))
    (rejected : after.rejected = true) :
    (after.afterReject firing.lexer).Scanning ∧
      (after.afterReject firing.lexer).reader = firing.lexer.reader ∧
      (after.afterReject firing.lexer).options.backtrack = true := by
  obtain ⟨hedits, -, hactive, hconditions⟩ := acted_movesOn moves acted
  exact h.afterReject (hedits.backtracks rfl rejected) hactive hconditions

/-- Trying candidates leads a scan on. Behind a match that was skipped, less is ahead than before,
or the end of the input was found; a rule that changes neither stalls the lexer and ends the search.
Reference: the loop over the candidates in `Lexer::scan`. -/
theorem tryAll_leads (moves : host.Performs Operation.MovesOn) (candidates : List Candidate)
    (h : lexer.Scanning) :
    lexer.ScanLeads (tryAll host candidates lexer t) := by
  induction candidates generalizing lexer t with
  | nil =>
    unfold tryAll unmatched
    dsimp only
    split
    · exact ⟨fun _ => rfl, by simp, by simp⟩
    · next hrest =>
      have hahead : lexer.rest ≠ [] := fun hnil => hrest (List.isEmpty_iff.mpr hnil)
      exact ⟨fun hnil => absurd hnil hahead, by simp, fun _ _ => ⟨hahead, rfl, h⟩⟩
  | cons candidate others ih =>
    have hcomes := Firing.comes host lexer t candidate.1 candidate.2
    have hended : lexer.rest = [] → lexer.done = true := by
      intro hrest
      rw [h.ended, hrest]
      rfl
    unfold tryAll
    generalize lexer.fire host t candidate.1 candidate.2 = fired at hcomes ⊢
    cases hcomes with
    | failed hacted =>
      obtain ⟨-, honward, -⟩ := acted_movesOn moves hacted
      exact ⟨fun hrest => honward.done.trans (hended hrest), by simp, by simp⟩
    | token hacted =>
      obtain ⟨-, honward, -⟩ := acted_movesOn moves hacted
      rw [h.reopen_eq ((onward_seen _).trans honward)]
      exact ⟨fun hrest => honward.done.trans (hended hrest), by simp, by simp⟩
    | stalled hacted =>
      obtain ⟨-, honward, -⟩ := acted_movesOn moves hacted
      rw [h.reopen_eq ((onward_seen _).trans honward)]
      exact ⟨fun hrest => honward.done.trans (hended hrest), by simp, by simp⟩
    | @skip after t' hacted hkept hmoved =>
      obtain ⟨-, honward, hactive, -⟩ := acted_movesOn moves hacted
      rw [h.reopen_eq ((onward_seen _).trans honward)] at hmoved ⊢
      refine ⟨fun hrest => honward.done.trans (hended hrest), fun _ => ?_, by simp⟩
      have hdone : after.done = lexer.done := honward.done
      unfold scansAhead
      by_cases hrest : lexer.rest = []
      · rw [hdone, hended hrest]
        simp
      · have hlt := rest_length_lt_of_skip h hrest honward hactive hmoved
        rw [hdone, h.done_false hrest]
        simpa using hlt
    | @rejected emitted after t' hacted hrejects =>
      obtain ⟨hscanning, hreader, hbacktracks⟩ := scanning_afterReject moves h hacted hrejects
      obtain ⟨hended, hskip, hstuck⟩ := ih (t := host.note (.rejected candidate.1) t') hscanning
      have hrest : (after.afterReject lexer).rest = lexer.rest := congrArg (·.buffer.rest) hreader
      dsimp only
      rw [if_pos hbacktracks]
      rw [hrest] at hended hskip hstuck
      refine ⟨hended, hskip, fun info hinfo => ?_⟩
      obtain ⟨hahead, hsame, hscanning'⟩ := hstuck info hinfo
      exact ⟨hahead, hsame.trans hreader, hscanning'⟩

/-! ## One scan -/

/-- A scan leads on from where it begins. Reference: `Lexer::scan`. -/
theorem scan_leads (moves : host.Performs Operation.MovesOn) (running : lexer.done = false) :
    lexer.ScanLeads (lexer.scan host t) := by
  unfold scan
  rw [running]
  obtain ⟨hended, hskip, hstuck⟩ := tryAll_leads (t := t) moves
    (lexer.beginScan.activate.2.trials lexer.beginScan.activate.1) (scanning_begin running)
  exact ⟨hended, hskip, hstuck⟩

/-- Once the end was found a search finds it, and the host is not called. Reference: `Lexer::lex`.
-/
theorem lex_done (host : LexerHost τ ε φ) (t : τ) (h : lexer.done = true) (limit : Nat) :
    lexer.lex host (limit + 1) t =
      (.token lexer.endToken, lexer.countToken, host.note (.token lexer.endToken) t) := by
  have hscan : lexer.scan host t = (.token lexer.endToken, lexer, t) := by
    unfold scan
    rw [if_pos h]
  simp only [lex, hscan]

/-- Unrecognized input is passed over, by the host or by the lexer. If the host leaves the lexer
alone it skips a unit by itself. If not, it has gone forward, since there is nothing else that the
host may do to it that shows. Reference: the case of unmatched input in `Lexer::lex`. -/
theorem resolve_scansAhead (moves : host.Performs Operation.MovesOn) (h : lexer.Scanning)
    (rest : lexer.rest ≠ [])
    (info : Unrecognized) :
    (lexer.resolve host t info).2.1.scansAhead < lexer.rest.length + 2 := by
  have hless : ∀ next : Lexer, next.done = false → next.rest.length < lexer.rest.length →
      next.scansAhead < lexer.rest.length + 2 := by
    intro next hdone hlt
    unfold scansAhead
    rw [hdone]
    simpa using hlt
  have hedits := moves.stuck info lexer (host.note (.unrecognized lexer.offset) t)
  unfold resolve
  dsimp only
  generalize (host.stuck info lexer (host.note (.unrecognized lexer.offset) t)).2.1 = after
    at hedits ⊢
  have honward := hedits.onward fun _ hallowed => hallowed.1
  obtain ⟨hactive, -⟩ := hedits.calm fun _ hallowed => hallowed.2
  have hdone : after.done = false := by
    rw [honward.done]
    exact h.done_false rest
  split
  · next halone =>
    simp only [leftAlone, Bool.and_eq_true, beq_iff_eq] at halone
    have hreader := honward.reader_eq halone.1.1
    have hahead : after.rest = lexer.rest := congrArg (·.buffer.rest) hreader
    have hskipped : after.skipUnit.rest = after.rest.drop (unitLength after.rest) :=
      congrArg (·.buffer.rest) (reader_skipUnit after)
    refine hless _ ?_ ?_
    · unfold skipUnit input
      split <;> exact hdone
    · have hunit := unitLength_pos rest
      have hpos := List.length_pos_iff.mpr rest
      rw [hskipped, List.length_drop, hahead]
      omega
  · next halone =>
    refine hless _ hdone (honward.rest_length_lt fun hreader => halone ?_)
    unfold leftAlone offset
    rw [hreader, honward.edition, hactive, h.active]
    simp

/-- Where a search goes on it has fewer scans ahead. This is the measure of the search: `scansAhead`
counts a scan for each character ahead and two at the end. -/
theorem next?_scansAhead (moves : host.Performs Operation.MovesOn) {next : Lexer} {t' : τ}
    (h : lexer.next? host t = some (next, t')) : next.scansAhead < lexer.scansAhead := by
  cases hdone : lexer.done with
  | true =>
    have hover : lexer.next? host t = none := by
      unfold next? scan
      rw [hdone]
      rfl
    rw [hover] at h
    cases h
  | false =>
    have hahead : lexer.scansAhead = lexer.rest.length + 2 := by
      unfold scansAhead
      rw [hdone]
      rfl
    obtain ⟨-, hskip, hstuck⟩ := scan_leads (t := t) moves hdone
    unfold next? at h
    rw [hahead]
    generalize lexer.scan host t = scanned at h hskip hstuck
    obtain ⟨scan, after, t₁⟩ := scanned
    cases scan with
    | token token => cases h
    | failed reason => cases h
    | skip => cases h; exact hskip rfl
    | stuck info =>
      obtain ⟨hrest, hreader, hscanning⟩ := hstuck info rfl
      have hsame : after.rest = lexer.rest := congrArg (·.buffer.rest) hreader
      rw [← hsame] at hrest ⊢
      have hless := resolve_scansAhead (t := t₁) moves hscanning hrest info
      dsimp only at h
      generalize after.resolve host t₁ info = resolved at h hless
      obtain ⟨_ | _ | symbol, next', t₂⟩ := resolved
      · cases h
      · cases h; exact hless
      · cases h

/-! ## Searches -/

/-- A search takes no more scans than it has ahead. -/
theorem length_scans_le (moves : host.Performs Operation.MovesOn) (limit : Nat) (lexer : Lexer) (t : τ) :
    (lexer.scans host limit t).length ≤ lexer.scansAhead := by
  induction limit generalizing lexer t with
  | zero => exact Nat.zero_le _
  | succ limit ih =>
    unfold scans
    cases hnext : lexer.next? host t with
    | none => exact lexer.scansAhead_pos
    | some following =>
      have hless := next?_scansAhead moves hnext
      have hle := ih following.1 following.2
      simp only [List.length_cons]
      omega

/-- A search that may take as many scans as it has ahead comes to something, and takes no more.
Reference: `Lexer::lex`. -/
theorem lex_enough (moves : host.Performs Operation.MovesOn) (limit : Nat) (lexer : Lexer) (t : τ)
    (enough : lexer.scansAhead ≤ limit) :
    (lexer.lex host limit t).1 ≠ .exhausted ∧
      ∀ more, lexer.lex host (limit + more) t = lexer.lex host limit t := by
  induction limit generalizing lexer t with
  | zero => exact absurd lexer.scansAhead_pos (Nat.not_lt.mpr enough)
  | succ limit ih =>
    cases hnext : lexer.next? host t with
    | none =>
      obtain ⟨hfound, hsame⟩ := lex_over hnext
      rw [hsame limit]
      exact ⟨hfound, fun more => by rw [Nat.succ_add, hsame]⟩
    | some following =>
      have hless := next?_scansAhead moves hnext
      obtain ⟨hfound, hsame⟩ := ih following.1 following.2 (by omega)
      rw [lex_next hnext]
      exact ⟨hfound, fun more => by rw [Nat.succ_add, lex_next hnext, hsame]⟩

/-! ## The end of the input -/

/-- Whether a scan that begins with the lexer tries rules although no input is left. -/
def triesAtEnd (lexer : Lexer) : Bool := lexer.rest.isEmpty && !lexer.done

/-- The number of times that rules may still be tried at the end of the input. -/
def endsAhead (lexer : Lexer) : Nat := if lexer.done then 0 else 1

/-- Where a scan begins at the end of the input, the end is found behind it. Reference:
`Lexer::lex`. -/
theorem lex_one_done (moves : host.Performs Operation.MovesOn) (h : lexer.done = true ∨ lexer.rest = []) :
    (lexer.lex host 1 t).2.1.done = true := by
  cases hdone : lexer.done with
  | true =>
    rw [lex_done host t hdone]
    exact hdone
  | false =>
    have hrest : lexer.rest = [] := h.resolve_left (by rw [hdone]; exact Bool.false_ne_true)
    obtain ⟨hended, -, hstuck⟩ := scan_leads (t := t) moves hdone
    specialize hended hrest
    simp only [lex]
    generalize lexer.scan host t = scanned at hended hstuck ⊢
    obtain ⟨scan, after, t₁⟩ := scanned
    cases scan with
    | token token => exact hended
    | failed reason => exact hended
    | skip => exact hended
    | stuck info => exact absurd hrest (hstuck info rfl).1

/-- A scan that tries rules at the end of the input is the last to do so. -/
theorem endsAhead_lex_one (moves : host.Performs Operation.MovesOn) (lexer : Lexer) (t : τ) :
    (if lexer.triesAtEnd then 1 else 0) + (lexer.lex host 1 t).2.1.endsAhead ≤ lexer.endsAhead := by
  have hdone : lexer.done = true ∨ lexer.rest = [] → (lexer.lex host 1 t).2.1.done = true :=
    lex_one_done moves
  have hle : ∀ l : Lexer, l.endsAhead ≤ 1 := by
    intro l
    unfold endsAhead
    split <;> omega
  unfold triesAtEnd
  by_cases hend : lexer.done = true ∨ lexer.rest = []
  · have hnone : (lexer.lex host 1 t).2.1.endsAhead = 0 := by
      unfold endsAhead
      rw [if_pos (hdone hend)]
    rw [hnone]
    unfold endsAhead
    cases lexer.done <;> simp
    split <;> omega
  · rw [not_or] at hend
    have hrest := List.isEmpty_eq_false_iff.mpr hend.2
    have hone : lexer.endsAhead = 1 := by
      unfold endsAhead
      rw [if_neg hend.1]
    rw [hrest, hone]
    simpa using hle _

/-- Over a search, rules are tried once at the end of the input, if at all. -/
theorem countP_scans (moves : host.Performs Operation.MovesOn) (limit : Nat) (lexer : Lexer) (t : τ) :
    (lexer.scans host limit t).countP (·.1.triesAtEnd) + (lexer.lex host limit t).2.1.endsAhead ≤
      lexer.endsAhead := by
  induction limit generalizing lexer t with
  | zero => simp [scans, lex]
  | succ limit ih =>
    have hone := endsAhead_lex_one moves lexer t
    unfold scans
    rw [List.countP_cons]
    cases hnext : lexer.next? host t with
    | none =>
      rw [(lex_over hnext).2 limit]
      simpa [Nat.add_comm] using hone
    | some following =>
      rw [lex_next hnext 0] at hone
      rw [lex_next hnext limit]
      have hle := ih following.1 following.2
      dsimp only [lex] at hone ⊢
      omega

/-- Over any number of searches, rules are tried once at the end of the input, if at all. -/
theorem countP_scansAll (moves : host.Performs Operation.MovesOn) (limits : List Nat)
    (lexer : Lexer) (t : τ) :
    (lexer.scansAll host limits t).countP (·.1.triesAtEnd) ≤ lexer.endsAhead := by
  induction limits generalizing lexer t with
  | nil => exact Nat.zero_le _
  | cons limit limits ih =>
    have hfirst := countP_scans moves limit lexer t
    have hothers := ih (lexer.lex host limit t).2.1 (lexer.lex host limit t).2.2
    rw [scansAll, List.countP_append]
    omega

/-! ## Once the end was found -/

/-- Whether a lexer comes out of another one by searches for tokens and operations that hand nothing
back, whatever the hosts are. -/
inductive Later (lexer : Lexer) : Lexer → Prop
  | refl : Later lexer lexer
  | perform {before after : Lexer} (earlier : Later lexer before) (operation : Operation)
      (onward : operation.handsBack = false) (performed : before.perform operation = .ok after) :
      Later lexer after
  | lex {before : Lexer} {τ ε φ : Type} (earlier : Later lexer before) (host : LexerHost τ ε φ)
      (limit : Nat) (t : τ) : Later lexer (before.lex host limit t).2.1

/-- An end that was found stays found. -/
theorem Later.done {later : Lexer} (h : lexer.Later later) (done : lexer.done = true) :
    later.done = true := by
  induction h with
  | refl => exact done
  | perform _ operation honward hperformed ih =>
    rw [(onward_perform honward hperformed).done]
    exact ih
  | lex _ host limit t ih =>
    cases limit with
    | zero => exact ih
    | succ limit =>
      rw [lex_done host t ih]
      exact ih

/-- Searches end. A search under a host that moves on takes no more scans than two more than there
are characters ahead: with that many allowed it comes to something, and any number more changes
nothing. Over any number of such searches, one scan at most tries rules where no input is left. And
once the end was found, every search later on comes to the end of the input, with an empty text and
an empty location at the cursor, and calls nobody, as long as no text is handed back and no input
set, whoever the host is then. Reference: `Lexer::lex`. -/
theorem searches_end (host : LexerHost τ ε φ) (moves : host.Performs Operation.MovesOn) (lexer : Lexer)
    (t : τ) :
    (∀ limit, (lexer.scans host limit t).length ≤ lexer.rest.length + 2) ∧
    (lexer.lex host (lexer.rest.length + 2) t).1 ≠ .exhausted ∧
    (∀ more, lexer.lex host (lexer.rest.length + 2 + more) t =
      lexer.lex host (lexer.rest.length + 2) t) ∧
    (∀ limits, (lexer.scansAll host limits t).countP (·.1.triesAtEnd) ≤ 1) ∧
    ∀ ended later : Lexer, ended.done = true → ended.Later later →
      later.done = true ∧
      later.endToken.symbol = SymbolId.endOfInput ∧ later.endToken.text = "" ∧
      later.endToken.location.start = later.position ∧
      later.endToken.location.stop = later.position ∧
      ∀ {τ' ε' φ' : Type} (host' : LexerHost τ' ε' φ') (limit : Nat) (t' : τ')
        (calls : List (HostCall ε' φ')),
        later.lex host'.recorded (limit + 1) (t', calls) =
          (.token later.endToken, later.countToken, host'.note (.token later.endToken) t', calls) := by
  obtain ⟨hfound, hmore⟩ := lex_enough moves (lexer.rest.length + 2) lexer t lexer.scansAhead_le
  refine ⟨?_, hfound, hmore, ?_, ?_⟩
  · exact fun limit => Nat.le_trans (length_scans_le moves limit lexer t) lexer.scansAhead_le
  · intro limits
    refine Nat.le_trans (countP_scansAll moves limits lexer t) ?_
    unfold endsAhead
    split <;> omega
  · intro ended later hended hlater
    have hdone := hlater.done hended
    exact ⟨hdone, rfl, rfl, rfl, rfl,
      fun host' limit t' calls => lex_done host'.recorded (t', calls) hdone limit⟩

end Lexer

/-! ## A text that is skimmed -/

namespace Skimming

/-- A letter, any number of another letter, and the end of the input. -/
def rules : LexerRules :=
  (LexerRules.build { backtrack := true } [.rule [] "a", .rule [] "b*", .rule [] endPattern]).toOption.get
    (by decide +kernel)

/-- Nothing is emitted: the first letter is kept for the next match, the others are rejected after more was
read, and what is not recognized is passed over. -/
def script : Script where
  rule
    | 0 => ([.keepMatch], none)
    | 1 => ([.setText "", .input, .reject], none)
    | _ => ([], none)
  stuck := ([.input], none)

/-- The lexer at the start of an input. -/
def start : Lexer := (Lexer.new rules).setInput "ab#"

/-- The script moves on. -/
theorem script_movesOn : script.host.Performs Operation.MovesOn := by
  refine Script.host_performs (fun rule => ?_) ?_
  · simp only [script]
    split <;> simp [Operation.MovesOn, Operation.handsBack, Operation.touchesConditions]
  · simp [script, Operation.MovesOn, Operation.handsBack, Operation.touchesConditions]

/-- The input of three characters takes five scans, one of which runs the rule for the end of the input;
and the lexer comes to the end again after another condition was left and more was read. -/
theorem skimming_ends :
    script.host.Performs Operation.MovesOn ∧ start.rest.length = 3 ∧
    (start.scans script.host 9 ()).length = 5 ∧ (start.scans script.host 9 ()).length ≤ 3 + 2 ∧
    (start.lex script.host 4 ()).1.token? = none ∧ (start.lex script.host 5 ()).1 ≠ .exhausted ∧
    (start.scansAll script.host [9, 9] ()).countP (·.1.triesAtEnd) = 1 ∧
    let ended := (start.lex script.host 5 ()).2.1
    let later := ended.popCondition.2.input.2
    ended.done = true ∧ later.endToken.text = "" ∧ later.endToken.location.start = later.position ∧
    later.lex (script.host.recorded) 1 ((), []) = (.token later.endToken, later.countToken, (), []) := by
  obtain ⟨hscans, hfound, -, -, hended⟩ :=
    Lexer.searches_end script.host script_movesOn start ()
  have hdone : (start.lex script.host 5 ()).2.1.done = true := by decide +kernel
  have hlater : (start.lex script.host 5 ()).2.1.Later
      (start.lex script.host 5 ()).2.1.popCondition.2.input.2 :=
    .perform (.perform .refl .pop rfl rfl) .input rfl rfl
  obtain ⟨-, -, htext, hplace, -, hlex⟩ := hended _ _ hdone hlater
  exact ⟨script_movesOn, rfl, by decide +kernel, hscans 9, by decide +kernel, hfound, by decide +kernel,
    hdone, htext, hplace, hlex script.host 0 () []⟩

end Skimming

end ShiftReduce
