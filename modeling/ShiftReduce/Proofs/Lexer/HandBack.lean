import ShiftReduce.Proofs.Lexer.Course
import ShiftReduce.Proofs.Lexer.Lossless
import ShiftReduce.Proofs.Lexer.Representation

/-!
# Handing text back

Text that is handed back stands at the front of the input ahead, in the place of as many consumed
characters. What is consumed and what lies ahead is said here of the input as a whole, cut at the
byte offset (`Lexer.CutAs`): there is one such cut, and handing back a text moves it over whole
characters, whatever they are and whether the text is the one that was read, longer than all that
was consumed, or half of a line break. That the cursor moves along is `Lexer.Sound`, which holds
wherever text can be handed back: between two searches, in the action of a rule, and in the answer
to unrecognized input (`Lexer.Arises`).
-/

namespace ShiftReduce

namespace Lexer

/-- The bytes of the input up to the offset are those of `past`, and `ahead` is what remains. -/
structure CutAs (lexer : Lexer) (past ahead : List Char) : Prop where
  whole : lexer.source.toList = past ++ ahead
  bytes : lexer.offset = Buffer.byteLength past

variable {rules : LexerRules} {lexer : Lexer} {past ahead : List Char}

/-- There is one cut of the input at the offset. -/
theorem CutAs.unique (h : lexer.CutAs past ahead) {past' ahead' : List Char}
    (h' : lexer.CutAs past' ahead') : past' = past ∧ ahead' = ahead :=
  Buffer.append_inj_byteLength (h'.whole.symm.trans h.whole) (h'.bytes.symm.trans h.bytes)

/-- A sound lexer cuts its input behind what it has consumed. -/
theorem Sound.cutAs (h : lexer.Sound rules) : lexer.CutAs lexer.consumed.reverse lexer.rest where
  whole := String.toList_ofList
  bytes := by
    have hoffset := Cursor.offset_ofBuffer lexer.reader.buffer
    rw [← h.exact] at hoffset
    rw [Buffer.byteLength_reverse]
    exact hoffset

/-! ## Where text can be handed back -/

/-- The states in which a program can hand text back to a lexer for a set of rules: those between
two searches, those that the actions of rules see, those that the answer to unrecognized input sees,
and what operations make of them. -/
inductive Arises (rules : LexerRules) : Lexer → Prop
  | new : Arises rules (Lexer.new rules)
  | perform {lexer lexer' : Lexer} (before : Arises rules lexer) (operation : Operation)
      (performed : lexer.perform operation = .ok lexer') : Arises rules lexer'
  | lex {τ ε φ : Type} {lexer : Lexer} (before : Arises rules lexer) (host : LexerHost τ ε φ)
      (operates : host.Operates) (limit : Nat) (t : τ) : Arises rules (lexer.lex host limit t).2.1
  | action {τ ε φ : Type} {lexer : Lexer} (before : Arises rules lexer) (host : LexerHost τ ε φ)
      (operates : host.Operates) {limit : Nat} {t : τ} {begun : Lexer × τ} {firing : Firing τ}
      (begins : begun ∈ lexer.scans host limit t) (fires : firing ∈ begun.1.firings host begun.2) :
      Arises rules firing.seen
  | answer {τ ε φ : Type} {lexer stuck : Lexer} (before : Arises rules lexer) (host : LexerHost τ ε φ)
      (operates : host.Operates) {limit : Nat} {t t' : τ} {begun : Lexer × τ} {info : Unrecognized}
      (begins : begun ∈ lexer.scans host limit t)
      (scanned : begun.1.scan host begun.2 = (.stuck info, stuck, t')) : Arises rules stuck

section
variable {τ ε φ : Type} {host : LexerHost τ ε φ} {t : τ}

/-- A search goes on with a sound lexer. -/
theorem Sound.next (initial : (rules.condition? initialCondition).isSome = true)
    (operates : host.Operates) (h : lexer.Sound rules) {next : Lexer} {t' : τ}
    (goes : lexer.next? host t = some (next, t')) : next.Sound rules := by
  have hscan := h.scan initial operates t
  unfold Lexer.next? at goes
  split at goes
  · next heq =>
    rw [heq] at hscan
    cases goes
    exact hscan
  · next info stuck t₁ heq =>
    rw [heq] at hscan
    have hresolve := hscan.resolve initial operates t₁ info
    split at goes
    · next hanswer =>
      rw [hanswer] at hresolve
      cases goes
      exact hresolve
    · cases goes
  · cases goes

/-- All scans of a search begin with a sound lexer. -/
theorem Sound.scans (initial : (rules.condition? initialCondition).isSome = true)
    (operates : host.Operates) (limit : Nat) (h : lexer.Sound rules) {begun : Lexer × τ}
    (begins : begun ∈ lexer.scans host limit t) : begun.1.Sound rules := by
  induction limit generalizing lexer t with
  | zero => cases begins
  | succ limit ih =>
    unfold Lexer.scans at begins
    rcases List.mem_cons.mp begins with rfl | hlater
    · exact h
    · split at hlater
      · next hgoes => exact ih (h.next initial operates hgoes) hlater
      · cases hlater

/-- All rules that are tried begin with a sound lexer. -/
theorem Sound.tries (initial : (rules.condition? initialCondition).isSome = true)
    (operates : host.Operates) (candidates : List Candidate) (h : lexer.Sound rules)
    {firing : Firing τ} (fires : firing ∈ Lexer.tries host candidates lexer t) :
    firing.lexer.Sound rules := by
  induction candidates generalizing lexer t with
  | nil => cases fires
  | cons candidate others ih =>
    have hfire := h.fire initial operates t candidate.1 candidate.2
    unfold Lexer.tries at fires
    rcases List.mem_cons.mp fires with rfl | hlater
    · exact h
    · split at hlater
      · next heq =>
        rw [heq] at hfire
        split at hlater
        · exact ih hfire hlater
        · cases hlater
      · cases hlater

/-- All rules that a scan runs begin with a sound lexer. -/
theorem Sound.firings (initial : (rules.condition? initialCondition).isSome = true)
    (operates : host.Operates) (h : lexer.Sound rules) {firing : Firing τ}
    (fires : firing ∈ lexer.firings host t) : firing.lexer.Sound rules := by
  unfold Lexer.firings at fires
  split at fires
  · cases fires
  · have hbegun : lexer.beginScan.Sound rules := h.same rfl rfl rfl rfl
    exact hbegun.activate.tries initial operates _ fires

end

/-- Wherever text can be handed back the lexer is sound. -/
theorem Arises.sound (initial : (rules.condition? initialCondition).isSome = true)
    (h : lexer.Arises rules) : lexer.Sound rules := by
  induction h with
  | new => exact sound_setInput initial rfl ""
  | perform _ _ hperformed ih => exact ih.perform initial hperformed
  | lex _ _ hoperates limit t ih => exact ih.lex initial hoperates limit t
  | action _ _ hoperates hbegins hfires ih =>
    exact ((ih.scans initial hoperates _ hbegins).firings initial hoperates hfires).consume _
  | answer _ _ hoperates hbegins hscanned ih =>
    have hbegun := ih.scans initial hoperates _ hbegins
    exact (congrArg (Sound rules ·.2.1) hscanned).mp (hbegun.scan initial hoperates _)

/-! ## What handing back does -/

/-- A text that is handed back takes the place of the last characters before the cut. Reference:
`Lexer::unput`. -/
theorem CutAs.unput (h : lexer.Sound rules) (cut : lexer.CutAs past ahead) (text : List Char) :
    (lexer.unput text).CutAs (past.take (past.length - text.length)) (text ++ ahead) := by
  obtain ⟨rfl, rfl⟩ := h.cutAs.unique cut
  have hafter := (h.unput text).cutAs
  rwa [consumed_unput, rest_unput, List.reverse_drop, ← List.length_reverse] at hafter

/-- Handing back the end of the current match leaves the input as it is, cut behind what is kept of
the match. -/
theorem CutAs.less (h : lexer.Sound rules) {front : List Char}
    (cut : lexer.CutAs (front ++ lexer.text) ahead) (n : Nat) :
    (lexer.less n).CutAs (front ++ lexer.text.take n) (lexer.text.drop n ++ ahead) := by
  have hkept : (front ++ lexer.text).take
      ((front ++ lexer.text).length - (lexer.text.drop n).length) = front ++ lexer.text.take n := by
    have hsplit : front ++ lexer.text = (front ++ lexer.text.take n) ++ lexer.text.drop n := by
      rw [List.append_assoc, List.take_append_drop]
    rw [hsplit, List.length_append, Nat.add_sub_cancel]
    exact List.take_left
  have hafter := CutAs.unput h cut (lexer.text.drop n)
  rwa [hkept] at hafter

/-- Wherever text can be handed back, the input has one cut at the offset. A text that is handed
back comes before the rest of the input, what was consumed loses as many characters at its end, and
so does the current match, as far as there are any; the reader is a fresh one of the new input moved
to the new offset. So if the current match is the end of what was consumed, handing back all of it
but the first `n` characters leaves the input as it is, keeps these `n` characters, or all there
are, and puts the others before the rest. Reference: `Lexer::unput` and `Lexer::less`. -/
theorem handed_back_text_comes_next {options : LexerOptions} {declarations : List LexerDeclaration}
    {compile : PatternCompiler} (built : LexerRules.build options declarations compile = .ok rules)
    (arises : lexer.Arises rules) :
    ∃ past ahead, lexer.CutAs past ahead ∧
      (∀ past' ahead', lexer.CutAs past' ahead' → past' = past ∧ ahead' = ahead) ∧
      (∀ text,
        (lexer.unput text).CutAs (past.take (past.length - min text.length past.length))
          (text ++ ahead) ∧
        (lexer.unput text).text =
          lexer.text.take (lexer.text.length - min text.length lexer.text.length) ∧
        (Reader.ofString (lexer.unput text).source).advanceTo? (lexer.unput text).offset =
          some (lexer.unput text).reader) ∧
      ∀ front, past = front ++ lexer.text → ∀ n,
        (lexer.less n).source = lexer.source ∧ (lexer.less n).text = lexer.text.take n ∧
        (lexer.less n).CutAs (front ++ lexer.text.take n) (lexer.text.drop n ++ ahead) := by
  have hsound := arises.sound (LexerRules.build_initial built)
  have hcut := hsound.cutAs
  refine ⟨lexer.consumed.reverse, lexer.rest, hcut, fun _ _ => hcut.unique, ?_, ?_⟩
  · intro text
    refine ⟨?_, ?_, (hsound.unput text).exact.advanceTo?_offset⟩
    · rw [Nat.min_comm, ← Nat.sub_eq_sub_min]
      exact CutAs.unput hsound hcut text
    · rw [Nat.min_comm, ← Nat.sub_eq_sub_min]
      rfl
  · intro front hfront n
    rw [hfront] at hcut
    have hafter := CutAs.less hsound hcut n
    refine ⟨String.toList_injective ?_, ?_, hafter⟩
    · rw [hafter.whole, hcut.whole, List.append_assoc, ← List.append_assoc (lexer.text.take n),
        List.take_append_drop, List.append_assoc]
    · show lexer.text.take (lexer.text.length - (lexer.text.drop n).length) = lexer.text.take n
      rw [List.length_drop, List.take_eq_take_iff]
      omega

end Lexer

/-! ## Handing back half of a line break -/

namespace Words

/-- The search for the first word of two lines. -/
def firstWord : Lexed (LexError Empty) × Lexer × (Unit × List LexerEvent) :=
  ((Lexer.new rules).setInput "ab\r\n?c").lex host 4 ((), [])

/-- The rule that is run on the return behind the first word. -/
def atReturn : Firing (Unit × List LexerEvent) :=
  (firstWord.2.1.firings host firstWord.2.2).head?.get (by decide +kernel)

/-- The action of the rule for a return can hand back the return alone, and the line break is whole
again; or a text longer than all that was consumed, which then begins the input. -/
theorem return_is_handed_back :
    LexerRules.build { longestMatch := true, ranges := true, errorsRecoverable := true }
      [.rule [] "[a-z]+", .rule [] "\r", .rule [] "\n"] = .ok rules ∧
    atReturn.seen.Arises rules ∧ atReturn.seen.text = ['\r'] ∧
    atReturn.seen.CutAs ['a', 'b', '\r'] ['\n', '?', 'c'] ∧
    (atReturn.seen.less 0).source = "ab\r\n?c" ∧ (atReturn.seen.less 0).text = [] ∧
    (atReturn.seen.less 0).CutAs ['a', 'b'] ['\r', '\n', '?', 'c'] ∧
    (atReturn.seen.unput ['é', '\r', '\n', 'c']).CutAs [] ['é', '\r', '\n', 'c', '\n', '?', 'c'] ∧
    (atReturn.seen.unput ['é', '\r', '\n', 'c']).text = [] := by
  have hbuilt : LexerRules.build { longestMatch := true, ranges := true, errorsRecoverable := true }
      [.rule [] "[a-z]+", .rule [] "\r", .rule [] "\n"] = .ok rules := Calculator.eq_ok_get _
  have hoperates : host.Operates := ⟨fun _ _ _ => .refl, fun _ _ _ => .refl⟩
  have hinput : ((Lexer.new rules).setInput "ab\r\n?c").Arises rules :=
    .perform .new (.setInput "ab\r\n?c") rfl
  have hword : firstWord.2.1.Arises rules := hinput.lex host hoperates 4 ((), [])
  have hbegins : (firstWord.2.1, firstWord.2.2) ∈ firstWord.2.1.scans host 1 firstWord.2.2 :=
    List.mem_cons_self
  have hfires : atReturn ∈ firstWord.2.1.firings host firstWord.2.2 :=
    List.mem_of_mem_head? (Option.get_mem _)
  have harises : atReturn.seen.Arises rules := hword.action host hoperates hbegins hfires
  have htext : atReturn.seen.text = ['\r'] := by decide +kernel
  have hcut : atReturn.seen.CutAs ['a', 'b', '\r'] ['\n', '?', 'c'] :=
    ⟨by decide +kernel, by decide +kernel⟩
  obtain ⟨past, ahead, -, hunique, hunput, hless⟩ :=
    Lexer.handed_back_text_comes_next hbuilt harises
  obtain ⟨rfl, rfl⟩ := hunique _ _ hcut
  obtain ⟨hlonger, hlost, -⟩ := hunput ['é', '\r', '\n', 'c']
  rw [htext] at hless hlost
  obtain ⟨hsource, hkept, hwhole⟩ := hless ['a', 'b'] rfl 0
  exact ⟨hbuilt, harises, htext, hcut, hsource.trans (by decide +kernel), hkept, hwhole, hlonger, hlost⟩

end Words

end ShiftReduce
