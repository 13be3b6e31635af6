import ShiftReduce.Pattern.Matcher

/-!
# What simple automata match

The automata of four kinds of patterns, with what they match at any place of a text: a character of a
set (`Automaton.one`), two characters of two sets (`Automaton.two`), a run of characters of a set that
is as long as can be (`Automaton.run`), and the end of the text (`Automaton.finish`). The threads of
these automata do not depend on the place, but for the end of the text; so they are followed by
evaluation from one character to the next.
-/

namespace ShiftReduce

namespace Automaton

/-- The automaton of a character of a set, with the accepting node first. -/
def one (chars : CharSet) : Automaton := ⟨#[.accept, .take chars 0], 1⟩

/-- The automaton of a character of one set and a character of another behind it. -/
def two (first second : CharSet) : Automaton := ⟨#[.accept, .take first 2, .take second 0], 1⟩

/-- The automaton of one or more characters of a set; the fork behind a character prefers to go on.
-/
def run (chars : CharSet) : Automaton := ⟨#[.accept, .fork 2 0, .take chars 1], 2⟩

/-- The automaton of the end of a text. Reference: `EOF_PATTERN`. -/
def finish : Automaton := ⟨#[.accept, .look .textEnd 0], 1⟩

/-! ## Following threads -/

/-- An automaton that asks for no words of other scripts, so that both ways to unfold its threads go
on to the end. -/
def Plain (a : Automaton) : Prop := a.nodes.any (·.asksForWords) = false

section
variable {a : Automaton} {before rest : List Char} {threads : List Nat} {taken : Nat}
  {best : Option Nat} {c : Char}

/-- A plain automaton never gives up. -/
theorem Plain.goesOn (plain : a.Plain) (c : Char) : a.givesUp .stepwise c = false := by
  unfold Plain at plain
  simp only [givesUp, plain, Bool.and_false]

/-- A plain automaton matches what it is followed to. -/
theorem Plain.matchLength? {found : Option Nat} (plain : a.Plain)
    (h : a.follow .stepwise before rest [a.start] 0 none = some found) :
    a.matchLength? before rest = found := by
  have hgoes : before.head?.any (a.givesUp .stepwise) = false := by
    cases before with
    | nil => rfl
    | cons c before => exact plain.goesOn c
  have hrun : a.run? .stepwise before rest = some found := by
    unfold run?
    rw [hgoes]
    exact h
  unfold Automaton.matchLength?
  rw [hrun]

/-- Without threads nothing more is matched. -/
theorem Plain.follow_nil (plain : a.Plain) :
    a.follow .stepwise before rest [] taken best = some best := by
  cases rest with
  | nil => rfl
  | cons c rest =>
    unfold follow
    rw [plain.goesOn]
    rfl

/-- Where a thread accepts, the threads before it are followed from the next character on. -/
theorem Plain.follow_accepting (plain : a.Plain)
    (accepts : a.accepts (a.threadsAt .stepwise before (c :: rest) threads) = true) :
    a.follow .stepwise before (c :: rest) threads taken best =
      a.follow .stepwise (c :: before) rest (a.after c (a.threadsAt .stepwise before (c :: rest) threads))
        (taken + 1) (some taken) := by
  rw [follow, plain.goesOn]
  simp only [accepts, if_true, Bool.false_eq_true, if_false]

/-- Where no thread accepts, the threads are followed from the next character on. -/
theorem Plain.follow_waiting (plain : a.Plain)
    (accepts : a.accepts (a.threadsAt .stepwise before (c :: rest) threads) = false) :
    a.follow .stepwise before (c :: rest) threads taken best =
      a.follow .stepwise (c :: before) rest (a.after c (a.threadsAt .stepwise before (c :: rest) threads))
        (taken + 1) best := by
  rw [follow, plain.goesOn]
  simp only [accepts, Bool.false_eq_true, if_false]
  split
  · next hnone =>
    rw [List.isEmpty_iff.mp hnone, plain.follow_nil]
  · rfl

/-- A thread that accepts ends the match there. -/
theorem Plain.follow_accept (plain : a.Plain)
    (stays : ∀ before rest, a.threadsAt .stepwise before rest [0] = [0])
    (accept : a.node 0 = .accept) :
    a.follow .stepwise before rest [0] taken best = some (some taken) := by
  have haccepts : a.accepts [0] = true := by simp [accepts, accept]
  have hafter : ∀ c, a.after c [0] = [] := by simp [after, accept]
  cases rest with
  | nil =>
    unfold follow
    rw [stays, haccepts]
    rfl
  | cons c rest =>
    rw [plain.follow_accepting (by rw [stays]; exact haccepts), stays, hafter]
    exact plain.follow_nil

end

variable (chars first second : CharSet) (before rest : List Char) (c : Char)

theorem plain_one : (one chars).Plain := by simp [Plain, one, Node.asksForWords]

theorem plain_two : (two first second).Plain := by simp [Plain, two, Node.asksForWords]

theorem plain_run : (run chars).Plain := by simp [Plain, run, Node.asksForWords]

theorem plain_finish : finish.Plain := by simp [Plain, finish, Node.asksForWords]

/-- The thread that is preferred goes on if it takes the character; those behind it that accept are cut
off. -/
theorem after_take {a : Automaton} {n next : Nat} {others : List Nat}
    (takes : a.node n = .take chars next) (accept : others.all (a.node · == .accept) = true) :
    a.after c (n :: others) = if chars.mem c then [next] else [] := by
  have hothers : others.takeWhile (a.node · != .accept) = [] := by
    cases others with
    | nil => rfl
    | cons m others =>
      rw [List.all_cons, Bool.and_eq_true, beq_iff_eq] at accept
      exact List.takeWhile_cons_of_neg (by simp [accept.1])
  unfold after
  rw [List.takeWhile_cons_of_pos (by simp [takes]), hothers, List.filterMap_cons, takes]
  simp only [Node.after?, List.filterMap_nil]
  cases chars.mem c <;> rfl

/-! ## What is matched -/

/-- A character of a set is matched where it stands. -/
theorem matchLength?_one :
    (one chars).matchLength? before rest = if rest.head?.any chars.mem then some 1 else none := by
  have hplain := plain_one chars
  refine hplain.matchLength? ?_
  cases rest with
  | nil => rfl
  | cons c rest =>
    rw [hplain.follow_waiting rfl]
    show (one chars).follow .stepwise (c :: before) rest ((one chars).after c [1]) 1 none = _
    rw [after_take chars c rfl rfl, List.head?_cons, Option.any_some]
    split
    · exact hplain.follow_accept (fun _ _ => rfl) rfl
    · exact hplain.follow_nil

/-- Two characters of two sets are matched where they stand. Either character may fail to be there
or not to be in its set, and then nothing is matched. -/
theorem matchLength?_two :
    (two first second).matchLength? before rest =
      if rest.head?.any first.mem && rest.tail.head?.any second.mem then some 2 else none := by
  have hplain := plain_two first second
  refine hplain.matchLength? ?_
  cases rest with
  | nil => rfl
  | cons c rest =>
    rw [hplain.follow_waiting rfl]
    show (two first second).follow .stepwise (c :: before) rest ((two first second).after c [1]) 1 none = _
    rw [after_take first c rfl rfl, List.head?_cons, Option.any_some, List.tail_cons]
    cases hfirst : first.mem c with
    | false => exact hplain.follow_nil
    | true =>
      rw [if_pos rfl, Bool.true_and]
      cases rest with
      | nil => rfl
      | cons d rest =>
        rw [hplain.follow_waiting rfl]
        show (two first second).follow .stepwise (d :: c :: before) rest
          ((two first second).after d [2]) 2 none = _
        rw [after_take second d rfl rfl, List.head?_cons, Option.any_some]
        split
        · exact hplain.follow_accept (fun _ _ => rfl) rfl
        · exact hplain.follow_nil

/-- A run that has begun is followed to its end. By induction on the text ahead. Behind each
character the thread that goes on comes before the one that accepts, so that the run is as long as
can be. -/
theorem follow_run (taken : Nat) (best : Option Nat) :
    (run chars).follow .stepwise before rest [1] taken best =
      some (some (taken + (rest.takeWhile chars.mem).length)) := by
  induction rest generalizing before taken best with
  | nil => rfl
  | cons c rest ih =>
    rw [(plain_run chars).follow_accepting rfl]
    show (run chars).follow .stepwise (c :: before) rest ((run chars).after c [2, 0]) _ _ = _
    rw [after_take chars c rfl rfl]
    cases hmem : chars.mem c with
    | true =>
      rw [if_pos rfl, ih, List.takeWhile_cons_of_pos hmem, List.length_cons]
      congr 2
      omega
    | false =>
      rw [if_neg Bool.false_ne_true, List.takeWhile_cons_of_neg (by simp [hmem])]
      exact (plain_run chars).follow_nil

/-- A run of characters of a set is matched as far as it goes. -/
theorem matchLength?_run :
    (run chars).matchLength? before rest =
      if rest.head?.any chars.mem then some (rest.takeWhile chars.mem).length else none := by
  refine (plain_run chars).matchLength? ?_
  cases rest with
  | nil => rfl
  | cons c rest =>
    rw [(plain_run chars).follow_waiting rfl]
    show (run chars).follow .stepwise (c :: before) rest ((run chars).after c [2]) 1 none = _
    rw [after_take chars c rfl rfl, List.head?_cons, Option.any_some]
    cases hmem : chars.mem c with
    | true =>
      rw [if_pos rfl, if_pos rfl, follow_run, List.takeWhile_cons_of_pos hmem, List.length_cons,
        Nat.add_comm]
    | false => exact (plain_run chars).follow_nil

/-- The end of a text is matched there alone. -/
theorem matchLength?_finish :
    finish.matchLength? before rest = if rest.isEmpty then some 0 else none := by
  refine plain_finish.matchLength? ?_
  cases rest with
  | nil => rfl
  | cons c rest =>
    rw [plain_finish.follow_waiting rfl]
    exact plain_finish.follow_nil

end Automaton

end ShiftReduce
