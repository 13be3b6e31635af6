import ShiftReduce.Text.Blank
import ShiftReduce.Text.CaseFold
import ShiftReduce.Text.DecimalDigit
import ShiftReduce.Text.Word

/-!
# Sets of characters

The character sets a pattern can name: ranges, the classes of digits, blanks and word characters, and
what the set operations make of them. Equal sets are equal values, however they are written.
-/

namespace ShiftReduce

/-- A set of characters, by their code points. -/
structure CharSet where
  ranges : CodePoints
deriving Repr, DecidableEq, Inhabited

namespace CharSet

/-- No character. -/
def empty : CharSet := ⟨[]⟩

/-- The characters with code points from `lo` to `hi`. -/
def range (lo hi : Nat) : CharSet := ⟨[(lo, hi)]⟩

/-- The set of one character. -/
def single (c : Char) : CharSet := range c.toNat c.toNat

/-- The characters from `lo` to `hi`. -/
def span (lo hi : Char) : CharSet := range lo.toNat hi.toNat

/-- The decimal digits. -/
def digit : CharSet := ⟨Text.decimalDigitTable⟩

/-- The blank characters. -/
def blank : CharSet := ⟨Text.blankTable⟩

/-- The word characters. -/
def word : CharSet := ⟨Text.wordTable⟩

/-- The characters of either set. -/
def union (a b : CharSet) : CharSet := ⟨a.ranges.union b.ranges⟩

/-- The union of a list of sets. -/
def unions (sets : List CharSet) : CharSet := sets.foldl union empty

/-- The characters of both sets. -/
def inter (a b : CharSet) : CharSet := ⟨a.ranges.inter b.ranges⟩

/-- The characters of the first set alone. -/
def diff (a b : CharSet) : CharSet := ⟨a.ranges.diff b.ranges⟩

/-- The characters of one set alone. -/
def symmDiff (a b : CharSet) : CharSet := ⟨a.ranges.symmDiff b.ranges⟩

/-- All other characters. -/
def compl (a : CharSet) : CharSet := ⟨a.ranges.compl⟩

/-- The characters that are equal to one of a set up to case, as `folds` has it. -/
def upToCase (folds : List (Nat × Nat)) (a : CharSet) : CharSet := ⟨Text.upToCase folds a.ranges⟩

/-- Whether no character is in a set. -/
def isEmpty (a : CharSet) : Bool := a.ranges.isEmpty

/-- Whether exactly one character is in a set. -/
def isSingle (a : CharSet) : Bool :=
  match a.ranges with
  | [(lo, hi)] => lo == hi
  | _ => false

/-- Membership of a character. -/
def mem (set : CharSet) (c : Char) : Bool := set.ranges.contains c.toNat

/-- A set of one character has that character alone. -/
theorem mem_single {c d : Char} : (single c).mem d = true ↔ d = c := by
  simp only [mem, single, range, CodePoints.contains, Bool.or_false]
  constructor
  · intro h
    split at h
    · cases h
    · rename_i hn
      exact Char.toNat_inj.1 (Nat.le_antisymm (of_decide_eq_true h) (Nat.not_lt.1 hn))
  · rintro rfl; simp

end CharSet

end ShiftReduce
