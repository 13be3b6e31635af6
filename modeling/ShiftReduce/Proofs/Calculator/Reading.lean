import ShiftReduce.Calculator.Language

/-!
# The lexemes of an input

What the calculator's lexer is to find in a text, said without rules and start conditions: blanks are
skipped; a comment goes from a slash with a star to the first star with a slash behind that, and counts
for nothing; digits in a row are a number, a semicolon, a plus and a minus sign are tokens, and any other
character is a stray one (`Calculator.reading`). A text within a comment is read from behind the comment
on (`Calculator.readingInside`).
-/

namespace ShiftReduce.Calculator

/-- What is found in a text, between blanks and comments. -/
inductive Lexeme
  | token (symbol : SymbolId) (text : List Char)
  /-- A character that nothing starts with. -/
  | stray (c : Char)
  /-- The end of the text. -/
  | finish
  /-- A comment that does not end. -/
  | unclosed
deriving Repr, DecidableEq

/-- A lexeme, and how many comments were opened on the way to it. -/
structure Found where
  opened : Nat
  lexeme : Lexeme
deriving Repr, DecidableEq

/-- The lexemes behind the opening of a comment: it counts with the first of them. -/
def commented : List Found → List Found
  | [] => []
  | found :: others => { found with opened := found.opened + 1 } :: others

/-- The token that a sign is; any other character is none. -/
def sign? : Char → Option SymbolId
  | ';' => some Terminal.semicolon
  | '+' => some Terminal.plusSign
  | '-' => some Terminal.minusSign
  | _ => none

/-- What stands behind the end of a comment, if it ends. The first star with a slash behind it is
its end. -/
def afterComment? : List Char → Option (List Char)
  | '*' :: '/' :: rest => some rest
  | _ :: rest => afterComment? rest
  | [] => none

/-- What stands behind a comment is shorter. -/
theorem length_afterComment {cs rest : List Char} (h : afterComment? cs = some rest) :
    rest.length < cs.length := by
  induction cs using afterComment?.induct with
  | case1 rest' =>
    cases h
    simp only [List.length_cons]
    omega
  | case2 c cs hends ih =>
    rw [afterComment?.eq_2 c cs hends] at h
    exact Nat.lt_succ_of_lt (ih h)
  | case3 => cases h

/-- The lexemes of a text, read from the left: blanks and comments are passed over, digits in a row
are one number. This is what the ten rules are to find. Reference: `lexer_data`. -/
def reading : List Char → List Found
  | [] => [⟨0, .finish⟩]
  | c :: cs =>
    if Text.isBlank c then reading (cs.dropWhile Text.isBlank)
    else if c.isDigit then
      ⟨0, .token Terminal.number (c :: cs.takeWhile Char.isDigit)⟩ ::
        reading (cs.dropWhile Char.isDigit)
    else if c = '/' ∧ cs.head? = some '*' then
      match _h : afterComment? cs.tail with
      | some rest => commented (reading rest)
      | none => [⟨1, .unclosed⟩]
    else
      match sign? c with
      | some symbol => ⟨0, .token symbol [c]⟩ :: reading cs
      | none => ⟨0, .stray c⟩ :: reading cs
termination_by cs => cs.length
decreasing_by
  · exact Nat.lt_succ_of_le (List.dropWhile_suffix _).length_le
  · exact Nat.lt_succ_of_le (List.dropWhile_suffix _).length_le
  · have htail := length_afterComment _h
    rw [List.length_tail] at htail
    simp only [List.length_cons]
    omega
  · exact Nat.lt_succ_self _
  · exact Nat.lt_succ_self _

/-- The lexemes of a text that starts within a comment, which may not end. -/
def readingInside (cs : List Char) : List Found :=
  match afterComment? cs with
  | some rest => reading rest
  | none => [⟨0, .unclosed⟩]

section
variable {c : Char} {cs : List Char}

/-! ## One lexeme after the other -/

theorem reading_nil : reading [] = [⟨0, .finish⟩] := by rw [reading]

theorem reading_blank (blank : Text.isBlank c = true) :
    reading (c :: cs) = reading (cs.dropWhile Text.isBlank) := by
  rw [reading, if_pos blank]

theorem reading_digit (blank : Text.isBlank c = false) (digit : c.isDigit = true) :
    reading (c :: cs) = ⟨0, .token Terminal.number (c :: cs.takeWhile Char.isDigit)⟩ ::
      reading (cs.dropWhile Char.isDigit) := by
  rw [reading, blank, if_neg Bool.false_ne_true, if_pos digit]

theorem reading_open : reading ('/' :: '*' :: cs) = commented (readingInside cs) := by
  rw [reading, if_neg (by decide), if_neg (by decide), if_pos ⟨rfl, rfl⟩]
  unfold readingInside
  split
  · next h =>
    rw [List.tail_cons] at h
    rw [h]
  · next h =>
    rw [List.tail_cons] at h
    rw [h]
    rfl

theorem reading_sign {symbol : SymbolId} (sign : sign? c = some symbol) :
    reading (c :: cs) = ⟨0, .token symbol [c]⟩ :: reading cs := by
  have hplain : Text.isBlank c = false ∧ c.isDigit = false ∧ c ≠ '/' := by
    unfold sign? at sign
    split at sign
    · decide
    · decide
    · decide
    · cases sign
  rw [reading, hplain.1, hplain.2.1, if_neg Bool.false_ne_true, if_neg Bool.false_ne_true,
    if_neg fun opening => hplain.2.2 opening.1, sign]

theorem reading_stray (blank : Text.isBlank c = false) (digit : c.isDigit = false)
    (opening : ¬ (c = '/' ∧ cs.head? = some '*')) (sign : sign? c = none) :
    reading (c :: cs) = ⟨0, .stray c⟩ :: reading cs := by
  rw [reading, blank, digit, if_neg Bool.false_ne_true, if_neg Bool.false_ne_true, if_neg opening, sign]

/-! ## Within a comment -/

theorem readingInside_nil : readingInside [] = [⟨0, .unclosed⟩] := rfl

theorem readingInside_close : readingInside ('*' :: '/' :: cs) = reading cs := rfl

theorem readingInside_cons (goesOn : ¬ (c = '*' ∧ cs.head? = some '/')) :
    readingInside (c :: cs) = readingInside cs := by
  have hafter : afterComment? (c :: cs) = afterComment? cs := by
    refine afterComment?.eq_2 c cs ?_
    rintro rest rfl rfl
    exact goesOn ⟨rfl, rfl⟩
  unfold readingInside
  rw [hafter]

theorem readingInside_text : readingInside (cs.dropWhile (· != '*')) = readingInside cs := by
  induction cs with
  | nil => rfl
  | cons c cs ih =>
    rw [List.dropWhile_cons]
    split
    · next hother =>
      rw [ih, readingInside_cons fun h => by simp [h.1] at hother]
    · rfl

end

/-! ## All lexemes of a text -/

/-- The lexemes of a whole text: tokens and stray characters, up to the end of the text or of what can be
read of it. -/
inductive Whole : List Found → Prop
  | finish (opened : Nat) : Whole [⟨opened, .finish⟩]
  | unclosed (opened : Nat) : Whole [⟨opened, .unclosed⟩]
  | number {others : List Found} (opened : Nat) (text : List Char) (rest : Whole others) :
      Whole (⟨opened, .token Terminal.number text⟩ :: others)
  | sign {others : List Found} {c : Char} {symbol : SymbolId} (opened : Nat) (sign : sign? c = some symbol)
      (rest : Whole others) : Whole (⟨opened, .token symbol [c]⟩ :: others)
  | stray {others : List Found} (opened : Nat) (c : Char) (rest : Whole others) :
      Whole (⟨opened, .stray c⟩ :: others)

/-- Comments before a lexeme change nothing of that. -/
theorem Whole.commented {others : List Found} (h : Whole others) :
    Whole (Calculator.commented others) := by
  cases h with
  | finish opened => exact .finish _
  | unclosed opened => exact .unclosed _
  | number opened text rest => exact .number _ text rest
  | sign opened sign rest => exact .sign _ sign rest
  | stray opened c rest => exact .stray _ c rest

theorem reading_whole (cs : List Char) : Whole (reading cs) := by
  fun_induction reading cs with
  | case1 => exact .finish 0
  | case2 c cs blank ih => exact ih
  | case3 c cs blank digit ih => exact .number 0 _ ih
  | case4 c cs blank digit opening rest ends ih => exact ih.commented
  | case5 c cs blank digit opening ends => exact .unclosed 1
  | case6 c cs blank digit opening symbol sign ih => exact .sign 0 sign ih
  | case7 c cs blank digit opening sign ih => exact .stray 0 c ih

theorem length_commented (others : List Found) : (commented others).length = others.length := by
  cases others <;> rfl

/-- There is no more than one lexeme for each character, and one more. -/
theorem length_reading (cs : List Char) : (reading cs).length ≤ cs.length + 1 := by
  fun_induction reading cs with
  | case1 => exact Nat.le_refl _
  | case2 c cs blank ih =>
    exact Nat.le_trans ih (Nat.succ_le_succ (Nat.le_succ_of_le (List.dropWhile_suffix _).length_le))
  | case3 c cs blank digit ih =>
    exact Nat.succ_le_succ (Nat.le_trans ih (Nat.succ_le_succ (List.dropWhile_suffix _).length_le))
  | case4 c cs blank digit opening rest ends ih =>
    have hrest := length_afterComment ends
    rw [List.length_tail] at hrest
    rw [length_commented, List.length_cons]
    omega
  | case5 c cs blank digit opening ends => exact Nat.succ_le_succ (Nat.zero_le _)
  | case6 c cs blank digit opening symbol sign ih => exact Nat.succ_le_succ ih
  | case7 c cs blank digit opening sign ih => exact Nat.succ_le_succ ih

end ShiftReduce.Calculator
