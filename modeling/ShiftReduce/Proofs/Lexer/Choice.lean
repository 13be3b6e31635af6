import Mathlib.Data.List.Induction
import ShiftReduce.Proofs.Lexer.Representation

/-!
# Which rule is selected

A lexer that backtracks lists all rules that match and sorts them; one that does not keeps only the best.
Both begin with the same candidate (`Lexer.head?_trials`): the first rule of the active condition that
matches, or the first of those with the longest match. `Lexer.Selects` says which rule that is without
speaking of lists of candidates.

The list of candidates has one for each rule of the active condition that matches, in the order of
the rules. A rule with a shorter match can stand before the longest one, and one with as long a
match behind it; both are what sorting has to leave alone.
-/

namespace ShiftReduce

namespace Lexer

/-! ## The longest candidate -/

/-- The candidate that is tried first, in either mode. Reference: `best` and the sorted candidates
in `Lexer::scan`. -/
def choice? (lexer : Lexer) (condition : Condition) : Option Candidate :=
  if lexer.options.longestMatch then longest? (lexer.candidates condition)
  else (lexer.candidates condition).head?

/-- The longest candidate is the first of its length, and none is longer. The induction is on the
candidates from their end, since the best one so far is replaced by a longer one only. -/
theorem longest?_spec {candidates : List Candidate} {best : Candidate}
    (h : longest? candidates = some best) :
    ∃ earlier later, candidates = earlier ++ best :: later ∧
      (∀ other ∈ earlier, other.2 < best.2) ∧ ∀ other ∈ later, other.2 ≤ best.2 := by
  cases candidates with
  | nil => cases h
  | cons first more =>
    simp only [longest?, Option.some.injEq] at h
    induction more using List.reverseRecOn generalizing best with
    | nil => exact ⟨[], [], by simpa using h, nofun, nofun⟩
    | append_singleton more last ih =>
      rw [List.foldl_append, List.foldl_cons, List.foldl_nil] at h
      obtain ⟨earlier, later, hsplit, hearlier, hlater⟩ := ih rfl
      split at h
      · next hlonger =>
        subst h
        refine ⟨first :: more, [], rfl, ?_, nofun⟩
        intro other hmem
        rw [hsplit, List.mem_append, List.mem_cons] at hmem
        rcases hmem with hmem | rfl | hmem
        · exact Nat.lt_trans (hearlier other hmem) hlonger
        · exact hlonger
        · exact Nat.lt_of_le_of_lt (hlater other hmem) hlonger
      · next hshorter =>
        subst h
        refine ⟨earlier, later ++ [last], ?_, hearlier, ?_⟩
        · rw [← List.cons_append, hsplit, List.append_assoc, List.cons_append]
        · intro other hmem
          rcases List.mem_append.mp hmem with hmem | hmem
          · exact hlater other hmem
          · rw [List.mem_singleton.mp hmem]
            exact Nat.le_of_not_lt hshorter

/-- Sorting by length keeps the order of the candidates of one length. -/
theorem filter_byLength (candidates : List Candidate) (length : Nat) :
    (byLength candidates).filter (·.2 = length) = candidates.filter (·.2 = length) := by
  have hperm : (byLength candidates).Perm candidates := List.mergeSort_perm _ _
  have htied : (candidates.filter (·.2 = length)).Pairwise fun a b => decide (b.2 ≤ a.2) := by
    refine List.pairwise_of_forall_mem_list ?_
    intro a ha b hb
    simp only [List.mem_filter, decide_eq_true_eq] at ha hb ⊢
    omega
  have hsublist : (candidates.filter (·.2 = length)).Sublist (byLength candidates) := by
    refine List.sublist_mergeSort ?_ ?_ htied List.filter_sublist
    · intro a b c hab hbc
      simp only [decide_eq_true_eq] at hab hbc ⊢
      omega
    · intro a b
      simp only [Bool.or_eq_true, decide_eq_true_eq]
      omega
  have hkept := hsublist.filter (·.2 = length)
  rw [List.filter_filter] at hkept
  simp only [Bool.and_self] at hkept
  exact (hkept.eq_of_length (hperm.filter _).length_eq.symm).symm

/-- Sorting by length puts no candidate behind a shorter one. -/
theorem pairwise_byLength (candidates : List Candidate) :
    (byLength candidates).Pairwise fun a b => b.2 ≤ a.2 := by
  have hsorted : (byLength candidates).Pairwise fun a b => decide (b.2 ≤ a.2) = true := by
    refine List.pairwise_mergeSort ?_ ?_ candidates
    · simp only [decide_eq_true_eq]
      omega
    · simp only [Bool.or_eq_true, decide_eq_true_eq]
      omega
  exact hsorted.imp of_decide_eq_true

/-- The head of the candidates sorted by length is the first of the longest. Sorting keeps the order
of the candidates of one length (`filter_byLength`), and the longest come first
(`pairwise_byLength`). -/
theorem head?_byLength (candidates : List Candidate) :
    (byLength candidates).head? = longest? candidates := by
  have hperm : (byLength candidates).Perm candidates := List.mergeSort_perm _ _
  have hsorted := pairwise_byLength candidates
  cases hbest : longest? candidates with
  | none =>
    cases candidates with
    | nil => rw [hperm.eq_nil]; rfl
    | cons first more => cases hbest
  | some best =>
    obtain ⟨earlier, later, hsplit, hearlier, hlater⟩ := longest?_spec hbest
    have hfilter := filter_byLength candidates best.2
    have hmem : best ∈ byLength candidates := hperm.mem_iff.mpr (by rw [hsplit]; simp)
    have hlongest : ∀ other ∈ byLength candidates, other.2 ≤ best.2 := by
      intro other hother
      have hother := hperm.mem_iff.mp hother
      rw [hsplit, List.mem_append, List.mem_cons] at hother
      rcases hother with hother | rfl | hother
      · exact Nat.le_of_lt (hearlier other hother)
      · exact Nat.le_refl _
      · exact hlater other hother
    have hnone : earlier.filter (·.2 = best.2) = [] := by
      rw [List.filter_eq_nil_iff]
      intro other hother
      simpa using Nat.ne_of_lt (hearlier other hother)
    cases hlist : byLength candidates with
    | nil => rw [hlist] at hmem; cases hmem
    | cons top others =>
      rw [hlist] at hmem hlongest hsorted
      -- Nothing is longer than the first of the longest, so that the top is of its length.
      have htop : top.2 = best.2 := by
        refine Nat.le_antisymm (hlongest top List.mem_cons_self) ?_
        rcases List.mem_cons.mp hmem with rfl | hmem
        · exact Nat.le_refl _
        · exact List.rel_of_pairwise_cons hsorted hmem
      rw [hlist, hsplit, List.filter_append, hnone, List.nil_append,
        List.filter_cons_of_pos (by simpa using htop), List.filter_cons_of_pos (by simp)] at hfilter
      rw [List.head?_cons, (List.cons.inj hfilter).1]

/-- In either mode the candidates that are tried begin with the same one. -/
theorem head?_trials (lexer : Lexer) (condition : Condition) :
    (lexer.trials condition).head? = lexer.choice? condition := by
  unfold trials choice?
  dsimp only
  split
  · split
    · exact head?_byLength _
    · rfl
  · split
    · cases longest? (lexer.candidates condition) <;> rfl
    · rw [candidates, List.head?_filterMap]
      cases condition.rules.findSome? lexer.candidate? <;> rfl

/-! ## The selected rule -/

/-- The active condition of a sound lexer is that on top of the stack. -/
theorem Sound.active_condition {rules : LexerRules} {lexer : Lexer} (h : lexer.Sound rules) :
    lexer.rules.condition? (lexer.topCondition 0) = some lexer.activate.1 := by
  obtain ⟨place, hcached⟩ : ∃ place, lexer.activate.2.active = some place := ⟨_, rfl⟩
  have hplace : lexer.rules.conditionIndex? (lexer.topCondition 0) = some place := by
    rw [h.governed]
    exact h.activate.cached place hcached
  have hfound : lexer.activate.1 = lexer.rules.conditions[place]?.getD default := by
    rw [← Option.some.inj hcached]
    rfl
  obtain ⟨hbound, hname, hbefore⟩ := List.findIdx?_eq_some_iff_getElem.mp hplace
  rw [hfound, List.getElem?_eq_getElem hbound, Option.getD_some]
  refine List.find?_eq_some_iff_getElem.mpr ⟨hname, place, hbound, rfl, ?_⟩
  intro earlier hearlier
  simpa using hbefore earlier hearlier

end Lexer

end ShiftReduce
