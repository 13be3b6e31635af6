/-!
# Sets of code points

A set of code points is a table of ranges in increasing order. Membership stops at the first range
that lies beyond the code point, so it is decided by the ranges up to it. The set operations keep the
ranges apart from each other, so that a set has one table.
-/

namespace ShiftReduce

/-- A set of code points: ranges, both ends included, in increasing order. -/
abbrev CodePoints := List (Nat × Nat)

namespace CodePoints

/-- Membership in a table of increasing ranges. -/
def contains : CodePoints → Nat → Bool
  | [], _ => false
  | (lo, hi) :: rest, n => if n < lo then false else n ≤ hi || contains rest n

/-! ## Operations -/

/-- The last code point. -/
def last : Nat := 0x10ffff

/-- A set with one more range, which takes up the ranges that it meets or touches. -/
def addRange (lo hi : Nat) : CodePoints → CodePoints
  | [] => [(lo, hi)]
  | (a, b) :: rest =>
    if hi + 1 < a then (lo, hi) :: (a, b) :: rest
    else if b + 1 < lo then (a, b) :: addRange lo hi rest
    else addRange (min lo a) (max hi b) rest

/-- The code points of either of two sets. -/
def union (s t : CodePoints) : CodePoints := t.foldl (fun s (lo, hi) => s.addRange lo hi) s

/-- The code points from `start` on that are not in a set. -/
def gaps (start : Nat) : CodePoints → CodePoints
  | [] => if start ≤ last then [(start, last)] else []
  | (lo, hi) :: rest => if start < lo then (start, lo - 1) :: gaps (hi + 1) rest else gaps (hi + 1) rest

/-- All other code points. -/
def compl (s : CodePoints) : CodePoints := s.gaps 0

/-- The code points of both of two sets. -/
def inter (s t : CodePoints) : CodePoints := (s.compl.union t.compl).compl

/-- The code points of one set that are not in another. -/
def diff (s t : CodePoints) : CodePoints := (s.compl.union t).compl

/-- The code points of one of two sets alone. -/
def symmDiff (s t : CodePoints) : CodePoints := (s.diff t).union (t.diff s)

end CodePoints

end ShiftReduce
