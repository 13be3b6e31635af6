import ShiftReduce.Text.CodePoints

/-!
# Simple case folding

Two characters are equal up to case when they fold to the same character. The table holds runs of
code points that fold by the same distance; a run of step two takes every other code point, as
scripts that alternate capital and small letters need.
-/

namespace ShiftReduce.Text

/-- A run of code points `lo`, `lo + step`, up to `hi`, each folding to the code point
`shift` further on. -/
structure FoldRun where
  lo : Nat
  hi : Nat
  step : Nat
  shift : Int

/-- The foldings of a run: each of its code points and the code point it folds to. -/
def FoldRun.pairs (run : FoldRun) : List (Nat × Nat) :=
  (List.range ((run.hi - run.lo) / run.step + 1)).map fun i =>
    let n := run.lo + run.step * i
    (n, ((n : Int) + run.shift).toNat)

/-- The simple case foldings, in increasing order. -/
def foldRuns : List FoldRun :=
  [⟨0x41, 0x5a, 0x1, 0x20⟩, ⟨0xb5, 0xb5, 0x1, 0x307⟩, ⟨0xc0, 0xd6, 0x1, 0x20⟩, ⟨0xd8, 0xde, 0x1, 0x20⟩,
   ⟨0x100, 0x12e, 0x2, 0x1⟩, ⟨0x132, 0x136, 0x2, 0x1⟩, ⟨0x139, 0x147, 0x2, 0x1⟩, ⟨0x14a, 0x176, 0x2, 0x1⟩,
   ⟨0x178, 0x178, 0x1, -121⟩, ⟨0x179, 0x17d, 0x2, 0x1⟩, ⟨0x17f, 0x17f, 0x1, -268⟩, ⟨0x181, 0x181, 0x1, 0xd2⟩,
   ⟨0x182, 0x184, 0x2, 0x1⟩, ⟨0x186, 0x186, 0x1, 0xce⟩, ⟨0x187, 0x187, 0x1, 0x1⟩, ⟨0x189, 0x18a, 0x1, 0xcd⟩,
   ⟨0x18b, 0x18b, 0x1, 0x1⟩, ⟨0x18e, 0x18e, 0x1, 0x4f⟩, ⟨0x18f, 0x18f, 0x1, 0xca⟩, ⟨0x190, 0x190, 0x1, 0xcb⟩,
   ⟨0x191, 0x191, 0x1, 0x1⟩, ⟨0x193, 0x193, 0x1, 0xcd⟩, ⟨0x194, 0x194, 0x1, 0xcf⟩, ⟨0x196, 0x196, 0x1, 0xd3⟩,
   ⟨0x197, 0x197, 0x1, 0xd1⟩, ⟨0x198, 0x198, 0x1, 0x1⟩, ⟨0x19c, 0x19c, 0x1, 0xd3⟩, ⟨0x19d, 0x19d, 0x1, 0xd5⟩,
   ⟨0x19f, 0x19f, 0x1, 0xd6⟩, ⟨0x1a0, 0x1a4, 0x2, 0x1⟩, ⟨0x1a6, 0x1a6, 0x1, 0xda⟩, ⟨0x1a7, 0x1a7, 0x1, 0x1⟩,
   ⟨0x1a9, 0x1a9, 0x1, 0xda⟩, ⟨0x1ac, 0x1ac, 0x1, 0x1⟩, ⟨0x1ae, 0x1ae, 0x1, 0xda⟩, ⟨0x1af, 0x1af, 0x1, 0x1⟩,
   ⟨0x1b1, 0x1b2, 0x1, 0xd9⟩, ⟨0x1b3, 0x1b5, 0x2, 0x1⟩, ⟨0x1b7, 0x1b7, 0x1, 0xdb⟩, ⟨0x1b8, 0x1b8, 0x1, 0x1⟩,
   ⟨0x1bc, 0x1bc, 0x1, 0x1⟩, ⟨0x1c4, 0x1c4, 0x1, 0x2⟩, ⟨0x1c5, 0x1c5, 0x1, 0x1⟩, ⟨0x1c7, 0x1c7, 0x1, 0x2⟩,
   ⟨0x1c8, 0x1c8, 0x1, 0x1⟩, ⟨0x1ca, 0x1ca, 0x1, 0x2⟩, ⟨0x1cb, 0x1db, 0x2, 0x1⟩, ⟨0x1de, 0x1ee, 0x2, 0x1⟩,
   ⟨0x1f1, 0x1f1, 0x1, 0x2⟩, ⟨0x1f2, 0x1f4, 0x2, 0x1⟩, ⟨0x1f6, 0x1f6, 0x1, -97⟩, ⟨0x1f7, 0x1f7, 0x1, -56⟩,
   ⟨0x1f8, 0x21e, 0x2, 0x1⟩, ⟨0x220, 0x220, 0x1, -130⟩, ⟨0x222, 0x232, 0x2, 0x1⟩, ⟨0x23a, 0x23a, 0x1, 0x2a2b⟩,
   ⟨0x23b, 0x23b, 0x1, 0x1⟩, ⟨0x23d, 0x23d, 0x1, -163⟩, ⟨0x23e, 0x23e, 0x1, 0x2a28⟩, ⟨0x241, 0x241, 0x1, 0x1⟩,
   ⟨0x243, 0x243, 0x1, -195⟩, ⟨0x244, 0x244, 0x1, 0x45⟩, ⟨0x245, 0x245, 0x1, 0x47⟩, ⟨0x246, 0x24e, 0x2, 0x1⟩,
   ⟨0x345, 0x345, 0x1, 0x74⟩, ⟨0x370, 0x372, 0x2, 0x1⟩, ⟨0x376, 0x376, 0x1, 0x1⟩, ⟨0x37f, 0x37f, 0x1, 0x74⟩,
   ⟨0x386, 0x386, 0x1, 0x26⟩, ⟨0x388, 0x38a, 0x1, 0x25⟩, ⟨0x38c, 0x38c, 0x1, 0x40⟩, ⟨0x38e, 0x38f, 0x1, 0x3f⟩,
   ⟨0x391, 0x3a1, 0x1, 0x20⟩, ⟨0x3a3, 0x3ab, 0x1, 0x20⟩, ⟨0x3c2, 0x3c2, 0x1, 0x1⟩, ⟨0x3cf, 0x3cf, 0x1, 0x8⟩,
   ⟨0x3d0, 0x3d0, 0x1, -30⟩, ⟨0x3d1, 0x3d1, 0x1, -25⟩, ⟨0x3d5, 0x3d5, 0x1, -15⟩, ⟨0x3d6, 0x3d6, 0x1, -22⟩,
   ⟨0x3d8, 0x3ee, 0x2, 0x1⟩, ⟨0x3f0, 0x3f0, 0x1, -54⟩, ⟨0x3f1, 0x3f1, 0x1, -48⟩, ⟨0x3f4, 0x3f4, 0x1, -60⟩,
   ⟨0x3f5, 0x3f5, 0x1, -64⟩, ⟨0x3f7, 0x3f7, 0x1, 0x1⟩, ⟨0x3f9, 0x3f9, 0x1, -7⟩, ⟨0x3fa, 0x3fa, 0x1, 0x1⟩,
   ⟨0x3fd, 0x3ff, 0x1, -130⟩, ⟨0x400, 0x40f, 0x1, 0x50⟩, ⟨0x410, 0x42f, 0x1, 0x20⟩, ⟨0x460, 0x480, 0x2, 0x1⟩,
   ⟨0x48a, 0x4be, 0x2, 0x1⟩, ⟨0x4c0, 0x4c0, 0x1, 0xf⟩, ⟨0x4c1, 0x4cd, 0x2, 0x1⟩, ⟨0x4d0, 0x52e, 0x2, 0x1⟩,
   ⟨0x531, 0x556, 0x1, 0x30⟩, ⟨0x10a0, 0x10c5, 0x1, 0x1c60⟩, ⟨0x10c7, 0x10c7, 0x1, 0x1c60⟩, ⟨0x10cd, 0x10cd, 0x1, 0x1c60⟩,
   ⟨0x13f8, 0x13fd, 0x1, -8⟩, ⟨0x1c80, 0x1c80, 0x1, -6222⟩, ⟨0x1c81, 0x1c81, 0x1, -6221⟩, ⟨0x1c82, 0x1c82, 0x1, -6212⟩,
   ⟨0x1c83, 0x1c84, 0x1, -6210⟩, ⟨0x1c85, 0x1c85, 0x1, -6211⟩, ⟨0x1c86, 0x1c86, 0x1, -6204⟩, ⟨0x1c87, 0x1c87, 0x1, -6180⟩,
   ⟨0x1c88, 0x1c88, 0x1, 0x89c3⟩, ⟨0x1c89, 0x1c89, 0x1, 0x1⟩, ⟨0x1c90, 0x1cba, 0x1, -3008⟩, ⟨0x1cbd, 0x1cbf, 0x1, -3008⟩,
   ⟨0x1e00, 0x1e94, 0x2, 0x1⟩, ⟨0x1e9b, 0x1e9b, 0x1, -58⟩, ⟨0x1e9e, 0x1e9e, 0x1, -7615⟩, ⟨0x1ea0, 0x1efe, 0x2, 0x1⟩,
   ⟨0x1f08, 0x1f0f, 0x1, -8⟩, ⟨0x1f18, 0x1f1d, 0x1, -8⟩, ⟨0x1f28, 0x1f2f, 0x1, -8⟩, ⟨0x1f38, 0x1f3f, 0x1, -8⟩,
   ⟨0x1f48, 0x1f4d, 0x1, -8⟩, ⟨0x1f59, 0x1f5f, 0x2, -8⟩, ⟨0x1f68, 0x1f6f, 0x1, -8⟩, ⟨0x1f88, 0x1f8f, 0x1, -8⟩,
   ⟨0x1f98, 0x1f9f, 0x1, -8⟩, ⟨0x1fa8, 0x1faf, 0x1, -8⟩, ⟨0x1fb8, 0x1fb9, 0x1, -8⟩, ⟨0x1fba, 0x1fbb, 0x1, -74⟩,
   ⟨0x1fbc, 0x1fbc, 0x1, -9⟩, ⟨0x1fbe, 0x1fbe, 0x1, -7173⟩, ⟨0x1fc8, 0x1fcb, 0x1, -86⟩, ⟨0x1fcc, 0x1fcc, 0x1, -9⟩,
   ⟨0x1fd3, 0x1fd3, 0x1, -7235⟩, ⟨0x1fd8, 0x1fd9, 0x1, -8⟩, ⟨0x1fda, 0x1fdb, 0x1, -100⟩, ⟨0x1fe3, 0x1fe3, 0x1, -7219⟩,
   ⟨0x1fe8, 0x1fe9, 0x1, -8⟩, ⟨0x1fea, 0x1feb, 0x1, -112⟩, ⟨0x1fec, 0x1fec, 0x1, -7⟩, ⟨0x1ff8, 0x1ff9, 0x1, -128⟩,
   ⟨0x1ffa, 0x1ffb, 0x1, -126⟩, ⟨0x1ffc, 0x1ffc, 0x1, -9⟩, ⟨0x2126, 0x2126, 0x1, -7517⟩, ⟨0x212a, 0x212a, 0x1, -8383⟩,
   ⟨0x212b, 0x212b, 0x1, -8262⟩, ⟨0x2132, 0x2132, 0x1, 0x1c⟩, ⟨0x2160, 0x216f, 0x1, 0x10⟩, ⟨0x2183, 0x2183, 0x1, 0x1⟩,
   ⟨0x24b6, 0x24cf, 0x1, 0x1a⟩, ⟨0x2c00, 0x2c2f, 0x1, 0x30⟩, ⟨0x2c60, 0x2c60, 0x1, 0x1⟩, ⟨0x2c62, 0x2c62, 0x1, -10743⟩,
   ⟨0x2c63, 0x2c63, 0x1, -3814⟩, ⟨0x2c64, 0x2c64, 0x1, -10727⟩, ⟨0x2c67, 0x2c6b, 0x2, 0x1⟩, ⟨0x2c6d, 0x2c6d, 0x1, -10780⟩,
   ⟨0x2c6e, 0x2c6e, 0x1, -10749⟩, ⟨0x2c6f, 0x2c6f, 0x1, -10783⟩, ⟨0x2c70, 0x2c70, 0x1, -10782⟩, ⟨0x2c72, 0x2c72, 0x1, 0x1⟩,
   ⟨0x2c75, 0x2c75, 0x1, 0x1⟩, ⟨0x2c7e, 0x2c7f, 0x1, -10815⟩, ⟨0x2c80, 0x2ce2, 0x2, 0x1⟩, ⟨0x2ceb, 0x2ced, 0x2, 0x1⟩,
   ⟨0x2cf2, 0x2cf2, 0x1, 0x1⟩, ⟨0xa640, 0xa66c, 0x2, 0x1⟩, ⟨0xa680, 0xa69a, 0x2, 0x1⟩, ⟨0xa722, 0xa72e, 0x2, 0x1⟩,
   ⟨0xa732, 0xa76e, 0x2, 0x1⟩, ⟨0xa779, 0xa77b, 0x2, 0x1⟩, ⟨0xa77d, 0xa77d, 0x1, -35332⟩, ⟨0xa77e, 0xa786, 0x2, 0x1⟩,
   ⟨0xa78b, 0xa78b, 0x1, 0x1⟩, ⟨0xa78d, 0xa78d, 0x1, -42280⟩, ⟨0xa790, 0xa792, 0x2, 0x1⟩, ⟨0xa796, 0xa7a8, 0x2, 0x1⟩,
   ⟨0xa7aa, 0xa7aa, 0x1, -42308⟩, ⟨0xa7ab, 0xa7ab, 0x1, -42319⟩, ⟨0xa7ac, 0xa7ac, 0x1, -42315⟩, ⟨0xa7ad, 0xa7ad, 0x1, -42305⟩,
   ⟨0xa7ae, 0xa7ae, 0x1, -42308⟩, ⟨0xa7b0, 0xa7b0, 0x1, -42258⟩, ⟨0xa7b1, 0xa7b1, 0x1, -42282⟩, ⟨0xa7b2, 0xa7b2, 0x1, -42261⟩,
   ⟨0xa7b3, 0xa7b3, 0x1, 0x3a0⟩, ⟨0xa7b4, 0xa7c2, 0x2, 0x1⟩, ⟨0xa7c4, 0xa7c4, 0x1, -48⟩, ⟨0xa7c5, 0xa7c5, 0x1, -42307⟩,
   ⟨0xa7c6, 0xa7c6, 0x1, -35384⟩, ⟨0xa7c7, 0xa7c9, 0x2, 0x1⟩, ⟨0xa7cb, 0xa7cb, 0x1, -42343⟩, ⟨0xa7cc, 0xa7cc, 0x1, 0x1⟩,
   ⟨0xa7d0, 0xa7d0, 0x1, 0x1⟩, ⟨0xa7d6, 0xa7da, 0x2, 0x1⟩, ⟨0xa7dc, 0xa7dc, 0x1, -42561⟩, ⟨0xa7f5, 0xa7f5, 0x1, 0x1⟩,
   ⟨0xab70, 0xabbf, 0x1, -38864⟩, ⟨0xfb05, 0xfb05, 0x1, 0x1⟩, ⟨0xff21, 0xff3a, 0x1, 0x20⟩, ⟨0x10400, 0x10427, 0x1, 0x28⟩,
   ⟨0x104b0, 0x104d3, 0x1, 0x28⟩, ⟨0x10570, 0x1057a, 0x1, 0x27⟩, ⟨0x1057c, 0x1058a, 0x1, 0x27⟩, ⟨0x1058c, 0x10592, 0x1, 0x27⟩,
   ⟨0x10594, 0x10595, 0x1, 0x27⟩, ⟨0x10c80, 0x10cb2, 0x1, 0x40⟩, ⟨0x10d50, 0x10d65, 0x1, 0x20⟩, ⟨0x118a0, 0x118bf, 0x1, 0x20⟩,
   ⟨0x16e40, 0x16e5f, 0x1, 0x20⟩, ⟨0x1e900, 0x1e921, 0x1, 0x22⟩]

/-- The simple case foldings: each code point that folds and the code point it folds to. -/
def folds : List (Nat × Nat) := foldRuns.flatMap (·.pairs)

/-- The foldings within ASCII. -/
def asciiFolds : List (Nat × Nat) := folds.filter fun (n, m) => n < 128 && m < 128

/-- A set with the code points that stand on one side of a pair and have a partner in `keys` on the
other. -/
def addPartners (pairs : List (Nat × Nat)) (keys s : CodePoints) : CodePoints :=
  pairs.foldl (fun s (key, partner) => if keys.contains key then s.addRange partner partner else s) s

/-- The code points that fold to the same code point as one of a set. -/
def upToCase (folds : List (Nat × Nat)) (s : CodePoints) : CodePoints :=
  let folded := addPartners folds s s
  addPartners (folds.map Prod.swap) folded folded

end ShiftReduce.Text
