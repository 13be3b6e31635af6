import ShiftReduce.Pattern.Automaton

/-!
# Matching a pattern

A pattern is matched at a place of a text by following all ways through its automaton at once, in the
order of preference. A thread is the number of a node that waits at the place. Threads are unfolded
through forks and assertions, each node once; a thread that accepts cuts off all threads behind it. The
last place at which a thread accepted is the end of the match, so that of all ways to match the most
preferred one is found.

There are two ways to unfold the threads of a place. Step by step, the place is entered with what the
text before it settles; once the next character is known, the threads found so far are unfolded again
if that settles an assertion among them. This way knows ASCII words only, so where a pattern asks for
words of all scripts and the text is not ASCII, the threads are unfolded at once, with both sides of
the place in view. The match lies within the text (`Automaton.matchLength?_le`).
-/

namespace ShiftReduce

namespace Node

/-- A node that is only on the way to others. -/
def isFork : Node → Bool
  | .fork _ _ => true
  | _ => false

/-- A node that depends on the words of all scripts. -/
def asksForWords : Node → Bool
  | .look (.word ascii _) _ => !ascii
  | _ => false

/-- A node that checks an assertion which the text behind a place settles. -/
def isSettledBehind (before rest : List Char) : Node → Bool
  | .look assertion _ => assertion.holds before rest && !assertion.settled before
  | _ => false

/-- The node that comes next after a character, if the node takes it. -/
def after? (c : Char) : Node → Option Nat
  | .take chars next => if chars.mem c then some next else none
  | _ => none

end Node

namespace Automaton

/-- The node with a number. -/
def node (a : Automaton) (n : Nat) : Node := a.nodes.getD n .accept

/-- The nodes reached from pending ones without taking a character, most preferred first; `seen` holds
those reached so far, last one first. A node that was reached before is not entered again, which also
ends a loop around an empty match. -/
def reach (a : Automaton) (holds : Look → Bool) : (fuel : Nat) → (pending seen : List Nat) → List Nat
  | 0, _, seen => seen.reverse
  | _ + 1, [], seen => seen.reverse
  | fuel + 1, n :: pending, seen =>
    if n ∈ seen then reach a holds fuel pending seen
    else
      match a.node n with
      | .fork first second => reach a holds fuel (first :: second :: pending) (n :: seen)
      | .look assertion next =>
        reach a holds fuel (if holds assertion then next :: pending else pending) (n :: seen)
      | _ => reach a holds fuel pending (n :: seen)

/-- Unfolds threads. Every node is unfolded once at most, so there is enough fuel. -/
def unfold (a : Automaton) (holds : Look → Bool) (threads : List Nat) : List Nat :=
  (a.reach holds (2 * a.nodes.size + threads.length + 1) threads []).filter fun n => !(a.node n).isFork

/-- How the threads of a place are unfolded. -/
inductive Unfolding
  | stepwise
  | atOnce
deriving Repr, DecidableEq

/-- The threads of a place between the text `before`, last character first, and `rest`. -/
def threadsAt (a : Automaton) (unfolding : Unfolding) (before rest : List Char) (threads : List Nat) :
    List Nat :=
  match unfolding with
  | .atOnce => a.unfold (·.holds before rest) threads
  | .stepwise =>
    let entered := a.unfold (·.settled before) threads
    if entered.any fun n => (a.node n).isSettledBehind before rest then
      a.unfold (·.holds before rest) entered
    else entered

/-- Whether one of the threads accepts. -/
def accepts (a : Automaton) (threads : List Nat) : Bool := threads.any (a.node · == .accept)

/-- The threads after a character; those behind one that accepts are cut off. -/
def after (a : Automaton) (c : Char) (threads : List Nat) : List Nat :=
  (threads.takeWhile (a.node · != .accept)).filterMap fun n => (a.node n).after? c

/-- Whether an unfolding gives up at a character. -/
def givesUp (a : Automaton) (unfolding : Unfolding) (c : Char) : Bool :=
  unfolding == .stepwise && 128 ≤ c.toNat && a.nodes.any (·.asksForWords)

/-- Follows threads through the rest of a text. `taken` characters lead to this place, and `best` is
the last place before it at which a thread accepted. Nothing is answered where the unfolding gives
up. -/
def follow (a : Automaton) (unfolding : Unfolding) : (before rest : List Char) →
    (threads : List Nat) → (taken : Nat) → (best : Option Nat) → Option (Option Nat)
  | before, [], threads, taken, best =>
    some (if a.accepts (a.threadsAt unfolding before [] threads) then some taken else best)
  | before, c :: rest, threads, taken, best =>
    if a.givesUp unfolding c then none
    else
      let here := a.threadsAt unfolding before (c :: rest) threads
      let next := a.after c here
      if a.accepts here then follow a unfolding (c :: before) rest next (taken + 1) (some taken)
      else if next.isEmpty then some best
      else follow a unfolding (c :: before) rest next (taken + 1) best

/-- Follows the automaton from its start. -/
def run? (a : Automaton) (unfolding : Unfolding) (before rest : List Char) : Option (Option Nat) :=
  if before.head?.any (a.givesUp unfolding) then none
  else a.follow unfolding before rest [a.start] 0 none

/-- The number of characters that an automaton matches between the text `before`, last character
first, and `rest`; none if it does not match there. Reference: the anchored search of
`LexerRule::match_at`. -/
def matchLength? (a : Automaton) (before rest : List Char) : Option Nat :=
  match a.run? .stepwise before rest with
  | some found => found
  | none => (a.run? .atOnce before rest).join

theorem follow_le (a : Automaton) (unfolding : Unfolding) (before rest : List Char) (threads : List Nat)
    (taken : Nat) (best : Option Nat) {found : Option Nat} {n : Nat} (hbest : ∀ m ∈ best, m ≤ taken)
    (h : a.follow unfolding before rest threads taken best = some found) (hn : n ∈ found) :
    n ≤ taken + rest.length := by
  induction rest generalizing before threads taken best with
  | nil =>
    simp only [follow, Option.some.injEq] at h
    subst h
    split at hn
    · cases hn; exact Nat.le_add_right _ _
    · exact Nat.le_trans (hbest n hn) (Nat.le_add_right _ _)
  | cons c rest ih =>
    simp only [follow] at h
    split at h
    · cases h
    · have hstep : ∀ best : Option Nat, (∀ m ∈ best, m ≤ taken) →
          ∀ next, a.follow unfolding (c :: before) rest next (taken + 1) best = some found →
          n ≤ taken + (c :: rest).length := by
        intro best hb next h
        have := ih _ _ _ _ (fun m hm => Nat.le_succ_of_le (hb m hm)) h
        simp only [List.length_cons]
        omega
      split at h
      · exact hstep _ (fun m hm => by cases hm; exact Nat.le_refl _) _ h
      · split at h
        · cases h
          exact Nat.le_trans (hbest n hn) (Nat.le_add_right _ _)
        · exact hstep _ hbest _ h

theorem run?_le {a : Automaton} {unfolding : Unfolding} {before rest : List Char} {found : Option Nat}
    {n : Nat} (h : a.run? unfolding before rest = some found) (hn : n ∈ found) : n ≤ rest.length := by
  simp only [run?] at h
  split at h
  · cases h
  · simpa using a.follow_le unfolding before rest _ _ _ (by simp) h hn

/-- A match ends within the text. -/
theorem matchLength?_le {a : Automaton} {before rest : List Char} {n : Nat}
    (h : a.matchLength? before rest = some n) : n ≤ rest.length := by
  simp only [matchLength?] at h
  split at h
  · rename_i hrun
    exact run?_le hrun h
  · exact run?_le (Option.join_eq_some_iff.1 h) rfl

end Automaton

end ShiftReduce
