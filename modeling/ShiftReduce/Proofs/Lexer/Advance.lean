import ShiftReduce.Proofs.Lexer.Counts
import ShiftReduce.Proofs.Lexer.Lossless
import ShiftReduce.Proofs.Lexer.Selection

/-!
# Operations that hand nothing back

Operations that hand nothing back to the input take a lexer forward in it and nowhere else
(`Lexer.Onward`). Whether the stack of start conditions was touched shows in the place of the active
condition, which is kept for the next scan: it is there only if nothing happened to the stack
(`Lexer.Edits.active`). Rejections take a lexer back to where it was in its scan, under actions that keep
off the stack (`Lexer.Scanning.afterReject`).
-/

namespace ShiftReduce

/-! ## Readers -/

namespace Reader

variable {r : Reader} {n : Nat}

/-- Going forward in two portions is going forward once. -/
theorem forward_forward (r : Reader) (m n : Nat) : (r.forward m).forward n = r.forward (m + n) := by
  have htake : r.buffer.rest.take (m + n) = r.buffer.rest.take m ++ (r.buffer.rest.drop m).take n :=
    List.take_add
  unfold forward Buffer.forward
  dsimp only
  rw [htake, Cursor.advance_append, List.reverse_append, List.append_assoc, List.drop_drop]

/-- Where nothing is left, going forward leads nowhere. -/
theorem forward_of_rest (h : r.buffer.rest.take n = []) : r.forward n = r := by
  obtain ⟨⟨consumed, rest⟩, cursor⟩ := r
  have hdrop : rest.drop n = rest := by
    have hsplit := List.take_append_drop n rest
    rwa [show rest.take n = [] from h, List.nil_append] at hsplit
  unfold forward Buffer.forward
  dsimp only at h ⊢
  rw [h, hdrop]
  rfl

/-- A reader that went forward to the same offset has not moved. -/
theorem forward_eq_self (h : (r.forward n).cursor.offset = r.cursor.offset) : r.forward n = r := by
  refine forward_of_rest ?_
  rw [Lexer.offset_forward] at h
  cases htake : r.buffer.rest.take n with
  | nil => rfl
  | cons c cs =>
    rw [htake, Buffer.byteLength] at h
    have hbytes := c.utf8Size_pos
    omega

end Reader

namespace Lexer

variable {lexer lexer' before after : Lexer} {allowed : Operation → Prop}

/-! ## Going forward -/

/-- Whether a lexer went forward from another one, or stayed, in the same input: an end that was reached
is one still. -/
structure Onward (before after : Lexer) : Prop where
  reader : ∃ n, after.reader = before.reader.forward n
  edition : after.edition = before.edition
  done : after.done = before.done

/-- A lexer with the same reader has gone nowhere. -/
theorem Onward.same (reader : after.reader = before.reader) (edition : after.edition = before.edition)
    (done : after.done = before.done) : before.Onward after := by
  refine ⟨⟨0, ?_⟩, edition, done⟩
  rw [reader, Reader.forward_of_rest List.take_zero]

/-- An operation that hands nothing back goes forward, if anywhere. Only three operations hand text
back: a new input, a text that is put in front of the rest, and the end of the match. -/
theorem onward_perform {operation : Operation} (onward : operation.handsBack = false)
    (performed : lexer.perform operation = .ok lexer') : lexer.Onward lexer' := by
  cases operation with
  | setInput input => cases onward
  | unput text => cases onward
  | less n => cases onward
  | setText text => cases performed; exact .same rfl rfl rfl
  | keepMatch => cases performed; exact .same rfl rfl rfl
  | push condition =>
    simp only [perform, pushCondition] at performed
    split at performed
    · cases performed
    · cases performed; exact .same rfl rfl rfl
  | pop =>
    cases performed
    unfold popCondition
    split <;> exact .same rfl rfl rfl
  | reject =>
    simp only [perform, reject] at performed
    split at performed
    · cases performed; exact .same rfl rfl rfl
    · cases performed
  | input =>
    cases performed
    unfold input
    split
    · exact .same rfl rfl rfl
    · exact ⟨⟨_, rfl⟩, rfl, rfl⟩

/-- Going forward twice is going forward. -/
theorem Onward.trans (h : lexer.Onward before) (h' : before.Onward after) : lexer.Onward after := by
  obtain ⟨⟨m, hm⟩, hedition, hdone⟩ := h
  obtain ⟨⟨n, hn⟩, hedition', hdone'⟩ := h'
  refine ⟨⟨m + n, ?_⟩, hedition'.trans hedition, hdone'.trans hdone⟩
  rw [hn, hm, Reader.forward_forward]

/-- Operations that hand nothing back go forward, if anywhere. -/
theorem Edits.onward (h : Edits allowed lexer lexer')
    (onward : ∀ operation, allowed operation → operation.handsBack = false) :
    lexer.Onward lexer' :=
  h.keeps (P := lexer.Onward) (fun hallowed hperformed honward =>
    honward.trans (onward_perform (onward _ hallowed) hperformed)) (.same rfl rfl rfl)

/-- A lexer that went forward to the same offset has not moved. -/
theorem Onward.reader_eq (h : before.Onward after) (place : after.offset = before.offset) :
    after.reader = before.reader := by
  obtain ⟨⟨n, hn⟩, -, -⟩ := h
  unfold offset at place
  rw [hn] at place ⊢
  exact Reader.forward_eq_self place

/-- A lexer that went forward has no more ahead than before. -/
theorem Onward.rest_length_le (h : before.Onward after) : after.rest.length ≤ before.rest.length := by
  obtain ⟨⟨n, hn⟩, -, -⟩ := h
  have hrest : after.rest = before.rest.drop n := congrArg (·.buffer.rest) hn
  rw [hrest, List.length_drop]
  omega

/-- A lexer that went forward to another place has less ahead than before. -/
theorem Onward.rest_length_lt (h : before.Onward after) (moved : after.reader ≠ before.reader) :
    after.rest.length < before.rest.length := by
  obtain ⟨⟨n, hn⟩, -, -⟩ := h
  have hrest : after.rest = before.rest.drop n := congrArg (·.buffer.rest) hn
  have htaken : before.rest.take n ≠ [] := fun hnone => moved (hn.trans (Reader.forward_of_rest hnone))
  have hsplit := congrArg List.length (List.take_append_drop n before.rest)
  have hpos := List.length_pos_iff.mpr htaken
  rw [List.length_append] at hsplit
  rw [hrest]
  omega

/-! ## The stack of start conditions -/

/-- Operations that do not touch the stack of conditions keep it, and the place of the active one. -/
theorem Edits.calm (h : Edits allowed lexer lexer')
    (calm : ∀ operation, allowed operation → operation.touchesConditions = false) :
    lexer'.active = lexer.active ∧ lexer'.conditions = lexer.conditions :=
  h.keeps (P := fun l => l.active = lexer.active ∧ l.conditions = lexer.conditions)
    (fun hallowed hperformed ⟨hactive, hconditions⟩ =>
      have hkept := perform_calm (calm _ hallowed) hperformed
      ⟨hkept.1.trans hactive, hkept.2.trans hconditions⟩)
    ⟨rfl, rfl⟩

/-- An operation that touches the stack of conditions forgets the place of the active one. -/
theorem perform_touching {operation : Operation} (touches : operation.touchesConditions = true)
    (performed : lexer.perform operation = .ok lexer') : lexer'.active = none := by
  cases operation with
  | setInput input => cases performed; rfl
  | push condition =>
    simp only [perform, pushCondition] at performed
    split at performed
    · cases performed
    · cases performed; rfl
  | pop =>
    cases performed
    unfold popCondition
    split <;> rfl
  | setText text | keepMatch | reject | unput text | less n | input => cases touches

/-- Where the place of the active condition is still there after some operations, nothing happened
to the stack of conditions. Pushing and popping a condition forget the place, and nothing within an
action or an answer finds it anew. This is how a lexer tells whether the stack was touched. -/
theorem Edits.active (h : Edits allowed lexer lexer') (cached : lexer'.active.isSome = true) :
    lexer'.active = lexer.active ∧ lexer'.conditions = lexer.conditions := by
  refine h.keeps (P := fun l => l.active.isSome = true →
    l.active = lexer.active ∧ l.conditions = lexer.conditions) ?_ (fun _ => ⟨rfl, rfl⟩) cached
  intro l l' operation _ hperformed hkept hcached
  cases htouches : operation.touchesConditions with
  | true =>
    rw [perform_touching htouches hperformed] at hcached
    cases hcached
  | false =>
    obtain ⟨hactive, hconditions⟩ := perform_calm htouches hperformed
    obtain ⟨hactive', hconditions'⟩ := hkept (hactive ▸ hcached)
    exact ⟨hactive.trans hactive', hconditions.trans hconditions'⟩

/-! ## Rejections -/

/-- Only the actions of a lexer that backtracks can reject their match. -/
theorem Edits.backtracks (h : Edits allowed lexer lexer') (kept : lexer.rejected = false)
    (rejected : lexer'.rejected = true) : lexer'.options.backtrack = true := by
  refine h.keeps (P := fun l => l.rejected = true → l.options.backtrack = true) ?_ ?_ rejected
  · intro l l' operation _ hperformed hbacktracks hrejected
    have hsame : l'.options = l.options := congrArg (·.options) (perform_rules hperformed)
    rw [hsame]
    by_cases hreject : operation = .reject
    · subst hreject
      simp only [perform, reject] at hperformed
      split at hperformed
      · next hbacktrack => exact hbacktrack
      · cases hperformed
    · refine hbacktracks (Bool.of_not_eq_false fun hl => ?_)
      rw [perform_rejected hreject hperformed hl] at hrejected
      cases hrejected
  · intro h
    rw [kept] at h
    cases h

/-- A rejection changes no option. -/
@[simp] theorem options_afterReject (lexer saved : Lexer) :
    (lexer.afterReject saved).options = lexer.options := by
  unfold afterReject
  dsimp only
  split <;> rfl

/-! ## Within a scan -/

/-- A lexer in the middle of a scan: it has noticed the end of the input if it is there, and the place of
the active condition is found. -/
structure Scanning (lexer : Lexer) : Prop where
  ended : lexer.done = lexer.rest.isEmpty
  active : lexer.active.isSome = true

/-- A scan begins with such a lexer. -/
theorem scanning_begin (running : lexer.done = false) : lexer.beginScan.activate.2.Scanning where
  ended := by
    show (lexer.done || lexer.rest.isEmpty) = lexer.rest.isEmpty
    rw [running, Bool.false_or]
  active := rfl

/-- A lexer that has input ahead has not noticed an end. -/
theorem Scanning.done_false (h : lexer.Scanning) (rest : lexer.rest ≠ []) : lexer.done = false := by
  rw [h.ended]
  exact List.isEmpty_eq_false_iff.mpr rest

/-- A lexer that went on from within a scan does not take an end back. -/
theorem Scanning.reopen_eq (h : before.Scanning) (onward : before.Onward after) :
    after.reopen = after := by
  refine Lexer.reopen_eq fun hdone => ?_
  rw [onward.done, h.ended, List.isEmpty_iff] at hdone
  have hlength := onward.rest_length_le
  rw [hdone] at hlength
  exact List.eq_nil_of_length_eq_zero (Nat.le_zero.mp hlength)

/-- A rejected match leaves the lexer within the scan, in the same place, if the action left the
stack of conditions alone. Reference: `Lexer::restore`. -/
theorem Scanning.afterReject (h : before.Scanning) (backtracks : after.options.backtrack = true)
    (sameActive : after.active = before.active) (sameConditions : after.conditions = before.conditions) :
    (after.afterReject before).Scanning ∧ (after.afterReject before).reader = before.reader ∧
      (after.afterReject before).options.backtrack = true := by
  unfold Lexer.afterReject
  rw [if_pos backtracks]
  refine ⟨⟨h.ended, ?_⟩, rfl, backtracks⟩
  show (if after.conditions = before.conditions then after.active else none).isSome = true
  rw [if_pos sameConditions, sameActive]
  exact h.active

end Lexer

end ShiftReduce
