import ShiftReduce.Pattern.Basic

/-!
# Automata of patterns

A pattern is matched by an automaton whose nodes take a character, check an assertion, fork into two
ways of which the first is preferred, or accept. The nodes of a pattern are laid out from a first
number on and lead to the node that comes next (`Pattern.layout`). A body that is repeated any number of
times has a single fork in front of it if it takes a character in any case; otherwise a fork behind
the body leads back to it, so that a way through the body that takes nothing ends the repetition.
Automata may not grow beyond a limit, which is judged by the room that a pattern takes before it is
laid out (`Pattern.room`).
-/

namespace ShiftReduce

/-- A node of an automaton, which names others by their numbers. -/
inductive Node
  | accept
  | take (chars : CharSet) (next : Nat)
  | look (assertion : Look) (next : Nat)
  | fork (first second : Nat)
deriving Repr, DecidableEq, Inhabited

namespace Node

/-- A fork between going on and stopping; a greedy one prefers to go on. -/
def loop (greedy : Bool) (again stop : Nat) : Node := if greedy then .fork again stop else .fork stop again

end Node

/-- An automaton and the node it starts at. -/
structure Automaton where
  nodes : Array Node
  start : Nat
deriving Repr, DecidableEq, Inhabited

/-- Nodes laid out in a row, and the number of the node to enter them by. -/
structure Layout where
  entry : Nat
  nodes : List Node
deriving Repr, DecidableEq

namespace Layout

/-- The layout with one more node before its first, which is entered first. -/
def push (number : Nat) (node : Node) (layout : Layout) : Layout := ⟨number, node :: layout.nodes⟩

/-- Lays out `n` copies of a body of `size` nodes from the number `base` on, before a layout that they
lead to. -/
def copies (body : (base next : Nat) → List Node → Layout) (size base : Nat) : Nat → Layout → Layout
  | 0, layout => layout
  | n + 1, layout =>
    copies body size base n (body (base + n * size) layout.entry layout.nodes)

/-- Lays out `n` copies of a body, each behind a fork that may skip to the node `stop`. -/
def optionals (body : (base next : Nat) → List Node → Layout) (size base stop : Nat) (greedy : Bool) :
    Nat → Layout → Layout
  | 0, layout => layout
  | n + 1, layout =>
    let number := base + n * (size + 1)
    let copy := body (number + 1) layout.entry layout.nodes
    optionals body size base stop greedy n (copy.push number (.loop greedy copy.entry stop))

end Layout

namespace Pattern

/-- Whether a pattern takes a character in any case. -/
def takesOne (p : Pattern) : Bool := p.minLength?.any (0 < ·)

/-- The number of nodes of a pattern. -/
def size : Pattern → Nat
  | .empty => 0
  | .oneOf _ | .look _ => 1
  | .seq a b => a.size + b.size
  | .alt a b => a.size + b.size + 1
  | .times _ least (some most) body => least * body.size + (most - least) * (body.size + 1)
  | .times _ 0 none body => if body.takesOne then body.size + 1 else body.size + 2
  | .times _ least none body => least * body.size + 1
  | .group _ body => body.size

/-- Lays out the nodes of a pattern from the number `base` on, before the nodes `after`. The pattern
leads to the node `next`. -/
def layout : Pattern → (base next : Nat) → (after : List Node) → Layout
  | .empty, _, next, after => ⟨next, after⟩
  | .oneOf chars, base, next, after => ⟨base, .take chars next :: after⟩
  | .look assertion, base, next, after => ⟨base, .look assertion next :: after⟩
  | .seq a b, base, next, after =>
    let second := b.layout (base + a.size) next after
    a.layout base second.entry second.nodes
  | .alt a b, base, next, after =>
    let second := b.layout (base + 1 + a.size) next after
    let first := a.layout (base + 1) next second.nodes
    first.push base (.fork first.entry second.entry)
  | .times greedy least (some most) body, base, next, after =>
    .copies body.layout body.size base least
      (.optionals body.layout body.size (base + least * body.size) next greedy (most - least)
        ⟨next, after⟩)
  | .times greedy 0 none body, base, next, after =>
    if body.takesOne then
      let again := body.layout (base + 1) base after
      again.push base (.loop greedy again.entry next)
    else
      let again := body.layout (base + 2) (base + 1) after
      let behind := again.push (base + 1) (.loop greedy again.entry next)
      behind.push base (.loop greedy again.entry next)
  | .times greedy (least + 1) none body, base, next, after =>
    let behind := base + least * body.size
    let last := body.layout (behind + 1) behind after
    .copies body.layout body.size base least
      ⟨last.entry, .loop greedy last.entry next :: last.nodes⟩
  | .group _ body, base, next, after => body.layout base next after

/-! ## Room -/

/-- The ranges of bytes that encode the code points from `lo` to `hi`, where all of them have `k` bytes
behind the first one. -/
def byteRanges : (k lo hi : Nat) → List (List (Nat × Nat))
  | 0, lo, hi => [[(lo, hi)]]
  | k + 1, lo, hi =>
    let block := Nat.pow 64 (k + 1)
    let full := List.replicate (k + 1) (0, 63)
    let (a, b) := (lo / block, hi / block)
    if a = b then (byteRanges k (lo % block) (hi % block)).map ((a, a) :: ·)
    else
      let front := if lo % block = 0 then [] else
        (byteRanges k (lo % block) (block - 1)).map ((a, a) :: ·)
      let back := if hi % block = block - 1 then [] else
        (byteRanges k 0 (hi % block)).map ((b, b) :: ·)
      let a := if front.isEmpty then a else a + 1
      let b := if back.isEmpty then b + 1 else b
      front ++ (if a < b then [(a, b - 1) :: full] else []) ++ back

/-- The code points that have the same number of bytes: this number less one, the first and the last. -/
def encodings : List (Nat × Nat × Nat) :=
  [(0, 0, 0x7f), (1, 0x80, 0x7ff), (2, 0x800, 0xd7ff), (2, 0xe000, 0xffff), (3, 0x10000, 0x10ffff)]

/-- The ranges of bytes that encode a range of code points. -/
def byteRangesOf (lo hi : Nat) : List (List (Nat × Nat)) :=
  encodings.flatMap fun (k, first, last) =>
    let (lo, hi) := (max lo first, min hi last)
    if lo ≤ hi then byteRanges k lo hi else []

/-- The number of ranges that are not shared with the encoding before. -/
def unshared : List (Nat × Nat) → List (Nat × Nat) → Nat
  | r :: rs, q :: qs => if r = q then unshared rs qs else qs.length + 1
  | _, qs => qs.length

/-- The room that a set of characters takes. -/
def roomOfSet (chars : CharSet) : Nat :=
  match chars.ranges with
  | [(lo, hi)] =>
    if lo = hi then 32 * (Char.ofNat lo).utf8Size
    else if hi < 128 then 64 else roomOfEncodings [(lo, hi)]
  | ranges => if ranges.all (·.2 < 128) then 64 + 8 * ranges.length else roomOfEncodings ranges
where
  /-- The room of ranges that are not ASCII. -/
  roomOfEncodings (ranges : CodePoints) : Nat :=
    let all := ranges.flatMap fun (lo, hi) => byteRangesOf lo hi
    let ranges := (List.zipWith unshared ([] :: all) all).foldl (· + ·) 0
    32 * (2 + ranges) + 4 * all.length

/-- The room that a pattern takes. Alternatives in a row share one fork; `inner` says that a fork is
there already. -/
def room (inner : Bool) : Pattern → Nat
  | .empty | .look _ => 32
  | .oneOf chars => roomOfSet chars
  | .seq a b => a.room false + b.room false
  | .alt a b => a.room true + b.room true + if inner then 4 else 72
  | .times _ 0 (some 1) body => body.room false + 72
  | .times _ least (some most) body =>
    if least = most then least * body.room false
    else (if least = 0 then 32 else least * body.room false) + 32
      + (most - least) * (body.room false + 40)
  | .times _ 0 none body => if body.takesOne then body.room false + 40 else body.room false + 112
  | .times _ least none body => least * body.room false + 40
  | .group _ body => body.room false + 64

/-- The room that every pattern takes. -/
def commonRoom : Nat := 200

/-- The room that a pattern may take. -/
def roomLimit : Nat := 10 * 1024 * 1024

end Pattern

namespace Automaton

/-- The automaton of a pattern, if the pattern is not too large. The first node accepts. -/
def ofPattern? (p : Pattern) : Option Automaton :=
  if p.room false + Pattern.commonRoom ≤ Pattern.roomLimit then
    let layout := p.layout 1 0 []
    some ⟨(Node.accept :: layout.nodes).toArray, layout.entry⟩
  else none

end Automaton

end ShiftReduce
