import ShiftReduce.Text.CodePoints

/-!
# Blank characters

The characters with the property White_Space. Beside those that core calls white space, vertical tab,
form feed, next line and the wide spaces are blank.
-/

namespace ShiftReduce.Text

/-- The code points with the property White_Space, as ranges in increasing order. -/
def blankTable : CodePoints :=
  [(0x9, 0xd), (0x20, 0x20), (0x85, 0x85), (0xa0, 0xa0), (0x1680, 0x1680), (0x2000, 0x200a),
   (0x2028, 0x2029), (0x202f, 0x202f), (0x205f, 0x205f), (0x3000, 0x3000)]

/-- A blank character: white space of any kind. Reference: the trimming of lines in
`pretty_print_range`. -/
def isBlank (c : Char) : Bool := blankTable.contains c.toNat

end ShiftReduce.Text
