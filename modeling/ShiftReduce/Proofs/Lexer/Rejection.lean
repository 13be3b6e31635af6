import ShiftReduce.Proofs.Lexer.Advance
import ShiftReduce.Proofs.Lexer.Course
import ShiftReduce.Proofs.Lexer.Script

/-!
# Rejections are undone

A lexer that backtracks finds the candidates of a scan once, and then runs them on a lexer that the
actions before may have changed in every way. What makes this sound is that a rejection brings back all
that a match depends on (`Lexer.Restored`): so every rule that is run starts where the first one did, and
if all of them reject, the scan ends as if there had been no candidate (`Lexer.rejections_are_undone`).

The candidates are those of the lexer that the scan began with, in the order that the option for the
longest match asks for; running a rule does not add to them or change their order.
-/

namespace ShiftReduce

/-! ## The order of rules and candidates -/

/-- The numbers of the rules of a condition, each as often as its rule is active there, do not fall. -/
theorem pairwise_flatMap_zipIdx {α : Type} (xs : List α) (first : Nat) (times : α → Nat) :
    ((xs.zipIdx first).flatMap fun x => List.replicate (times x.1) x.2).Pairwise (· ≤ ·) := by
  induction xs generalizing first with
  | nil => exact .nil
  | cons x xs ih =>
    rw [List.zipIdx_cons, List.flatMap_cons]
    refine List.pairwise_append.mpr ⟨List.pairwise_replicate.mpr (.inr (Nat.le_refl _)), ih _, ?_⟩
    intro number hnumber later hlater
    obtain ⟨y, hy, hlater⟩ := List.mem_flatMap.mp hlater
    have hbound := List.le_snd_of_mem_zipIdx hy
    rw [List.eq_of_mem_replicate hnumber, List.eq_of_mem_replicate hlater]
    omega

namespace LexerRules

variable {options : LexerOptions} {declarations : List LexerDeclaration} {compile : PatternCompiler}
  {rules : LexerRules}

/-- Built rules have the options they were built with. -/
theorem build_options (built : build options declarations compile = .ok rules) : rules.options = options := by
  simp only [build, bind, Except.bind] at built
  split at built
  · cases built
  · cases built; rfl

/-- The rules of a condition stand in the order of their declarations. -/
theorem build_ordered (built : build options declarations compile = .ok rules) {name : String}
    {condition : Condition} (found : rules.condition? name = some condition) :
    condition.rules.Pairwise (· ≤ ·) := by
  have hmem := List.mem_of_find?_eq_some found
  simp only [build, bind, Except.bind] at built
  split at built
  · cases built
  · cases built
    obtain ⟨declared, -, rfl⟩ := List.mem_map.mp hmem
    exact pairwise_flatMap_zipIdx _ 0 fun rule : List String × String =>
      LexerDeclaration.multiplicity rule.1 declared.1 declared.2

end LexerRules

/-- A list of candidates in the order in which they are tried: that of the rules, or that of the lengths,
longer matches first, in which case matches of one length keep the order of the rules. -/
structure TriedInOrder (longestMatch : Bool) (all tried : List Candidate) : Prop where
  perm : tried.Perm all
  byRule : longestMatch = false → tried = all
  byLength : longestMatch = true → tried.Pairwise fun a b => b.2 ≤ a.2
  ties : ∀ length, tried.filter (·.2 = length) = all.filter (·.2 = length)

namespace Lexer

/-- A lexer that backtracks tries all candidates in that order. -/
theorem trials_inOrder (lexer : Lexer) (condition : Condition)
    (backtracks : lexer.options.backtrack = true) :
    TriedInOrder lexer.options.longestMatch (lexer.candidates condition)
      (lexer.trials condition) := by
  unfold trials
  dsimp only
  rw [if_pos backtracks]
  split
  · next hlongest =>
    refine ⟨List.mergeSort_perm _ _, ?_, fun _ => pairwise_byLength _, filter_byLength _⟩
    rw [hlongest]
    nofun
  · next hlongest => exact ⟨.refl _, fun _ => rfl, fun h => absurd h hlongest, fun _ => rfl⟩

/-! ## One rejection -/

/-- Whether a lexer is `base` again in all that matches and actions depend on. What may differ are the
counts and the place of the active condition that is kept for the next scan. -/
structure Restored (base lexer : Lexer) : Prop where
  rules : lexer.rules = base.rules
  reader : lexer.reader = base.reader
  edition : lexer.edition = base.edition
  text : lexer.text = base.text
  location : lexer.location = base.location
  conditions : lexer.conditions = base.conditions
  more : lexer.more = base.more
  done : lexer.done = base.done

/-- A lexer is itself. -/
theorem Restored.refl (lexer : Lexer) : lexer.Restored lexer := ⟨rfl, rfl, rfl, rfl, rfl, rfl, rfl, rfl⟩

variable {τ ε φ : Type} {host : LexerHost τ ε φ} {base lexer after : Lexer} {t : τ}

/-- After a rejection the lexer is again what it was before the match, whatever the action has done
to it. Reference: `Lexer::restore`. -/
theorem Restored.afterReject (h : base.Restored lexer) (sameRules : after.rules = lexer.rules)
    (backtracks : lexer.options.backtrack = true) : base.Restored (after.afterReject lexer) := by
  have hbacktracks : after.options.backtrack = true := by
    rw [options, sameRules]
    exact backtracks
  unfold Lexer.afterReject
  rw [if_pos hbacktracks]
  exact ⟨sameRules.trans h.rules, h.reader, h.edition, h.text, h.location, h.conditions, h.more, h.done⟩

/-- Where no candidate is left, a lexer that was restored comes to what `base` comes to. -/
theorem Restored.unmatched (h : base.Restored lexer) :
    (lexer.unmatched : Scan φ × Lexer).1 = base.unmatched.1 ∧
      (base.unmatched : Scan φ × Lexer).2.Restored (lexer.unmatched : Scan φ × Lexer).2 := by
  obtain ⟨hrules, hreader, hedition, htext, hlocation, hconditions, hmore, hdone⟩ := h
  have hrest : lexer.rest = base.rest := congrArg (·.buffer.rest) hreader
  have hstuck : lexer.unrecognized = base.unrecognized := by
    obtain ⟨rules, reader, edition, text, location, conditions, active, more, rejected, done, stats⟩ :=
      lexer
    subst hrules hreader hedition htext hlocation hconditions hmore hdone
    rfl
  have hended : lexer.endToken = base.endToken := by
    unfold endToken here lineNo options
    rw [hreader, hrules]
  unfold Lexer.unmatched
  rw [hrest]
  split
  · exact ⟨congrArg Scan.token hended,
      hrules, hreader, hedition, htext, hlocation, hconditions, hmore, rfl⟩
  · exact ⟨congrArg Scan.stuck hstuck,
      hrules, hreader, hedition, htext, hlocation, hconditions, hmore, hdone⟩

/-! ## One candidate after the other -/

/-- Behind a candidate that does not reject its match none is tried. Behind one that does the others are
tried, on the lexer after the rejection. -/
theorem tries_cons (operates : host.Operates) (backtracks : lexer.options.backtrack = true)
    (candidate : Candidate) (others : List Candidate) {firing : Firing τ}
    (h : firing = ⟨lexer, t, candidate.1, candidate.2⟩) :
    (¬ firing.Rejects host ∧ tries host (candidate :: others) lexer t = [firing]) ∨
    ∃ (after : Lexer) (t' : τ), firing.Rejects host ∧ after.rules = lexer.rules ∧
      tries host (candidate :: others) lexer t =
        firing :: tries host others (after.afterReject lexer) t' ∧
      tryAll host (candidate :: others) lexer t = tryAll host others (after.afterReject lexer) t' := by
  subst h
  have hcomes := Firing.comes host lexer t candidate.1 candidate.2
  simp only [tries, tryAll]
  generalize lexer.fire host t candidate.1 candidate.2 = fired at hcomes ⊢
  have hrejected := hcomes.rejected_iff
  cases hcomes with
  | failed | token | stalled | skip => exact .inl ⟨fun h => absurd (hrejected.mpr h) (by simp), rfl⟩
  | @rejected emitted after t' hacted =>
    have hsame : after.rules = lexer.rules :=
      (Firing.edits_acted operates.action hacted).keeps (P := (·.rules = lexer.rules))
        (fun _ hperformed hkept => (perform_rules hperformed).trans hkept) rfl
    have hbacktracks : (after.afterReject lexer).options.backtrack = true := by
      rw [options_afterReject, options, hsame]
      exact backtracks
    refine .inr ⟨after, host.note (.rejected candidate.1) t', hrejected.mp rfl, hsame, ?_, ?_⟩
    · dsimp only
      rw [if_pos hbacktracks]
    · dsimp only
      rw [if_pos hbacktracks]

/-- What the rules are that are run on a lexer like `base`, and what comes of them. -/
structure TriesFrom (host : LexerHost τ ε φ) (base : Lexer) (candidates : List Candidate)
    (firings : List (Firing τ)) (outcome : Scan φ × Lexer × τ) : Prop where
  first : firings.map (·.candidate) <+: candidates
  rejecting : ∀ firing ∈ firings.dropLast, firing.Rejects host
  restored : ∀ firing ∈ firings, base.Restored firing.lexer
  exhausted : (∀ firing ∈ firings, firing.Rejects host) →
    firings.map (·.candidate) = candidates ∧ outcome.1 = (base.unmatched : Scan φ × Lexer).1 ∧
      (base.unmatched : Scan φ × Lexer).2.Restored outcome.2.1

/-- The rules that are run are the first candidates. All of them start on a lexer like the first one, all
but the last reject their match, and if the last does so as well there are no more candidates. -/
theorem tries_from (operates : host.Operates) (backtracks : base.options.backtrack = true)
    (candidates : List Candidate) (h : base.Restored lexer) :
    TriesFrom host base candidates (tries host candidates lexer t)
      (tryAll host candidates lexer t) := by
  -- A rejection leads from one lexer like `base` to the next.
  induction candidates generalizing lexer t with
  | nil =>
    refine ⟨List.prefix_rfl, by simp [tries], by simp [tries], fun _ => ?_⟩
    simp only [tries, tryAll, List.map_nil, true_and]
    exact h.unmatched
  | cons candidate others ih =>
    have hbacktracks : lexer.options.backtrack = true := by
      unfold options
      rw [h.rules]
      exact backtracks
    rcases tries_cons (t := t) operates hbacktracks candidate others rfl with
      ⟨hlast, htries⟩ | ⟨after, t', hrejects, hsame, htries, htried⟩
    · rw [htries]
      refine ⟨?_, by simp, ?_, fun hall => absurd (hall _ List.mem_cons_self) hlast⟩
      · exact List.cons_prefix_cons.mpr ⟨rfl, List.nil_prefix⟩
      · exact List.forall_mem_singleton.mpr h
    · obtain ⟨hfirst, hrejecting, hrestored, hexhausted⟩ :=
        ih (t := t') (h.afterReject hsame hbacktracks)
      rw [htries, htried]
      refine ⟨?_, ?_, ?_, ?_⟩
      · exact List.cons_prefix_cons.mpr ⟨rfl, hfirst⟩
      · intro firing hmem
        cases hothers : tries host others (after.afterReject lexer) t' with
        | nil => rw [hothers] at hmem; cases hmem
        | cons next more =>
          rw [hothers] at hmem hrejecting
          rcases List.mem_cons.mp hmem with rfl | hmem
          · exact hrejects
          · exact hrejecting firing hmem
      · exact List.forall_mem_cons.mpr ⟨h, hrestored⟩
      · intro hall
        obtain ⟨hcandidates, houtcome⟩ := hexhausted (List.forall_mem_cons.mp hall).2
        exact ⟨congrArg (candidate :: ·) hcandidates, houtcome⟩

/-! ## One scan -/

/-- Rejections are undone completely. Take any state that a lexer which backtracks can come to, and
a scan that it begins there, with `base` for the lexer before any match. The host is called for the
actions of some rules, all but the last of which reject their match. Each of them starts on a lexer
that is like `base` in its text and place, pending text and location, conditions and flags, whatever
the actions before it did; and sees it with its own match consumed. The rules are the first of the
candidates: all rules of the active condition that match, in their order or by decreasing length. If
all of them reject their match they were all candidates, and the scan comes to the end of the input,
or is stuck, as `base` does where no rule matches. Reference: `Lexer::reject`, with
`Lexer::snapshot` and `Lexer::restore`. -/
theorem rejections_are_undone {options : LexerOptions} {declarations : List LexerDeclaration}
    {compile : PatternCompiler} {rules : LexerRules} (built : LexerRules.build options declarations compile = .ok rules)
    (backtracks : options.backtrack = true) (reachable : lexer.Reachable rules) (host : LexerHost τ ε φ)
    (operates : host.Operates) (t : τ) (calls : List (HostCall ε φ)) :
    let base := lexer.beginScan.activate.2
    let firings := lexer.firings host t
    let scanned := lexer.scan host t
    lexer.scan host.recorded (t, calls) =
      (scanned.1, scanned.2.1, scanned.2.2, calls ++ firings.map (·.call host)) ∧
    (∀ firing ∈ firings.dropLast, firing.Rejects host) ∧
    (∀ firing ∈ firings, base.Restored firing.lexer) ∧
    (lexer.done = false → ∃ condition tried,
      rules.condition? (lexer.topCondition 0) = some condition ∧
      condition.rules.Pairwise (· ≤ ·) ∧
      TriedInOrder options.longestMatch (lexer.candidates condition) tried ∧
      firings.map (·.candidate) <+: tried ∧
      ((∀ firing ∈ firings, firing.Rejects host) →
        firings.map (·.candidate) = tried ∧
        scanned.1 = (base.unmatched : Scan φ × Lexer).1 ∧
        (base.unmatched : Scan φ × Lexer).2.Restored scanned.2.1)) := by
  intro base firings scanned
  have hsound := reachable.sound (LexerRules.build_initial built)
  have hoptions : lexer.options = options := by
    rw [← LexerRules.build_options built, ← hsound.governed]
    rfl
  refine ⟨scan_recorded lexer t calls, ?_⟩
  cases hdone : lexer.done with
  | true =>
    have hnone : firings = [] := by
      show Lexer.firings host lexer t = []
      unfold Lexer.firings
      rw [if_pos hdone]
    simp [hnone]
  | false =>
    have hfirings : firings = tries host (base.trials lexer.beginScan.activate.1) base t := by
      show Lexer.firings host lexer t = _
      unfold Lexer.firings
      rw [hdone]
      rfl
    have hscanned : scanned = tryAll host (base.trials lexer.beginScan.activate.1) base t := by
      show lexer.scan host t = _
      unfold scan
      rw [hdone]
      rfl
    have hbacktracks : base.options.backtrack = true := by
      rw [← hoptions] at backtracks
      exact backtracks
    obtain ⟨hfirst, hrejecting, hrestored, hexhausted⟩ :=
      tries_from (t := t) operates hbacktracks (base.trials lexer.beginScan.activate.1) (.refl base)
    have hactive := hsound.active_condition
    have hbegun : lexer.beginScan.activate.1 = lexer.activate.1 := rfl
    have horder := trials_inOrder base lexer.activate.1 hbacktracks
    rw [hsound.governed] at hactive
    rw [hfirings, hscanned, hbegun] at *
    refine ⟨hrejecting, hrestored, fun _ => ⟨lexer.activate.1, _, hactive,
      LexerRules.build_ordered built hactive, ?_, hfirst, hexhausted⟩⟩
    rw [← hoptions]
    exact horder

end Lexer

/-! ## Rules that change their minds -/

/-- An action of a script rejects its match if and only if it leaves the flag set. -/
theorem Script.rejects_iff (script : Script) (firing : Firing Unit) :
    firing.Rejects script.host ↔ (firing.acted script.host).2.1.rejected = true := by
  constructor
  · rintro ⟨emitted, after, t, hacted, hrejected⟩
    rw [hacted]
    exact hrejected
  · exact fun h => ⟨_, _, _, rfl, h⟩

namespace Attempts

/-- Rules that match at the same place, two of them more text than the others. -/
def rules : LexerRules :=
  (LexerRules.build { backtrack := true, longestMatch := true }
    [.condition "S" true, .rule [] "a", .rule [] "ab", .rule [] "a.", .rule [] "a*"]).toOption.get
    (by decide +kernel)

/-- Three of the rules change all that they can, and then reject their match. -/
def script (last : List Operation × Option SymbolId) : Script where
  rule
    | 0 => ([.input, .keepMatch, .reject], none)
    | 1 => ([.setInput "zz", .push "S", .reject], none)
    | 2 => ([.unput ['x', 'y', 'z'], .less 1, .setText "q", .pop, .reject], none)
    | _ => last

/-- The lexer within an input, behind a match that is to be continued. -/
def start : Lexer := ((Lexer.new rules).setInput "cabc").input.2.keepMatch

/-- All four rules match, and the longer matches are tried first. -/
theorem firings_start (host : LexerHost Unit Empty (LexError Empty)) :
    start.firings host () =
      Lexer.tries host [(1, 2), (2, 2), (0, 1), (3, 1)] start.beginScan.activate.2 () := by
  have hcandidates : start.beginScan.activate.2.candidates start.beginScan.activate.1 =
      [(0, 1), (1, 2), (2, 2), (3, 1)] := by decide +kernel
  have hsorted : Lexer.byLength [(0, 1), (1, 2), (2, 2), (3, 1)] = [(1, 2), (2, 2), (0, 1), (3, 1)] := by
    simp [Lexer.byLength, List.mergeSort, List.MergeSort.Internal.splitInTwo]
  rw [← hsorted, ← hcandidates]
  rfl

/-- The rules are run longest match first, each on the lexer that the first one was run on. The last one
emits the text that is pending, with its own match behind it; and if it rejects as well, the same text is
pending where the input is not recognized. -/
theorem attempts_start_alike :
    start.Reachable rules ∧
    (∀ last, ∀ firing ∈ start.firings (script last).host (),
      start.beginScan.activate.2.Restored firing.lexer) ∧
    (start.firings (script ([], some 3)).host ()).map (·.candidate) = [(1, 2), (2, 2), (0, 1), (3, 1)] ∧
    (∀ firing ∈ (start.firings (script ([], some 3)).host ()).dropLast,
      firing.Rejects (script ([], some 3)).host) ∧
    ((start.firings (script ([], some 3)).host ()).map fun firing => firing.seen.text) =
      [['c', 'a', 'b'], ['c', 'a', 'b'], ['c', 'a'], ['c', 'a']] ∧
    (start.scan (script ([.reject], none)).host ()).1 = .stuck start.unrecognized := by
  have hbuilt : LexerRules.build { backtrack := true, longestMatch := true }
      [.condition "S" true, .rule [] "a", .rule [] "ab", .rule [] "a.", .rule [] "a*"] = .ok rules :=
    Calculator.eq_ok_get _
  have hreachable : start.Reachable rules :=
    .perform (.perform (.perform .new (.setInput "cabc") rfl) .input rfl) .keepMatch rfl
  have hundone := fun last => Lexer.rejections_are_undone hbuilt rfl hreachable (script last).host
    (script last).host_operates () []
  obtain ⟨-, hrejecting, -, -⟩ := hundone ([], some 3)
  obtain ⟨-, -, -, htried⟩ := hundone ([.reject], none)
  obtain ⟨condition, tried, -, -, -, -, hexhausted⟩ := htried (by decide +kernel)
  have hall : ∀ firing ∈ start.firings (script ([.reject], none)).host (),
      firing.Rejects (script ([.reject], none)).host := by
    simp only [Script.rejects_iff, firings_start]
    decide +kernel
  obtain ⟨-, hstuck, -⟩ := hexhausted hall
  refine ⟨hreachable, fun last => (hundone last).2.2.1, ?_, hrejecting, ?_, hstuck⟩
  · rw [firings_start]
    decide +kernel
  · rw [firings_start]
    decide +kernel

end Attempts

end ShiftReduce
