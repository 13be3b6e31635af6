import ShiftReduce.Calculator.Evaluator
import ShiftReduce.Proofs.Grammar.Built

/-!
# The reply to an input

What the calculator is to answer, said of the items of an input without a grammar or a parser
(`Calculator.answer`): the semicolons cut the input into lines and a tail. Of a line, as of the tail,
the numbers are added up as far as it begins like a sum; the first one that does not fit ends the
evaluation. A line that is a sum has a result, any other line has none, and an input with a tail is
unfinished; so there are as many results as semicolons (`Calculator.length_of_answer`). The same answer
is given item by item (`Calculator.reply`), which is how a parser comes to it
(`Calculator.reply_eq_answer`).
-/

namespace ShiftReduce.Calculator

/-- What stands in an input, as a parser of the calculator sees it: texts and signs without their
places. -/
inductive Item
  | number (text : String)
  | sign (op : Operator)
  | semicolon
  /-- A fault in the input. -/
  | fault
deriving Repr, DecidableEq

/-- The item that a token of a symbol and a text is. -/
def Item.of : SymbolId × String → Item
  | (Terminal.number, text) => number text
  | (Terminal.plusSign, _) => sign .plus
  | (Terminal.minusSign, _) => sign .minus
  | (Terminal.semicolon, _) => semicolon
  | _ => fault

/-- Why an input has no results: the action of a production failed, or a line has no end. -/
inductive Refusal
  | misfit (production : ProductionId) (fault : Fault)
  | unfinished
deriving Repr, DecidableEq

/-! ## Numbers -/

/-- The production of a sum that ends with an operation. Reference: `prod::EXPR_ADD` and
`prod::EXPR_SUB`. -/
def Operator.production : Operator → ProductionId
  | .plus => Production.exprAdd
  | .minus => Production.exprSub

/-- The number of a text, if it fits; otherwise the refusal names the production that reads it. -/
def numberOf (production : ProductionId) (text : String) : Except Refusal Int :=
  (Integer.read text).mapError fun cause => .misfit production (.number cause)

/-- The result of an operation with the number of a text, if both fit. -/
def operation (n : Int) (op : Operator) (text : String) : Except Refusal Int := do
  let m ← numberOf op.production text
  match op.result? n m with
  | some result => return result
  | none => throw (.misfit op.production (.overflow op n m))

/-! ## Lines -/

/-- Whether items alternate between numbers and signs, with a number first, or else with a sign first. With
a number first they are a sum, a sum with a sign behind it, or nothing. -/
def alternate (numberFirst : Bool) : List Item → Bool
  | [] => true
  | .number _ :: items => numberFirst && alternate false items
  | .sign _ :: items => !numberFirst && alternate true items
  | _ => false

/-- The longest start of a line that alternates between numbers and signs (`Calculator.viable_longest`). -/
def viable (numberFirst : Bool) : List Item → List Item
  | .number text :: items => if numberFirst then .number text :: viable false items else []
  | .sign op :: items => if numberFirst then [] else .sign op :: viable true items
  | _ => []

/-- The longest start of a line that alternates between numbers and signs. It is what a parser
reduces before it finds an error. -/
structure LongestStart (numberFirst : Bool) (items start : List Item) : Prop where
  begins : start <+: items
  alternates : alternate numberFirst start = true
  longest : ∀ other, other <+: items → alternate numberFirst other = true → other <+: start

/-- No item may come next. -/
theorem LongestStart.nil {numberFirst : Bool} {item : Item} {items : List Item}
    (stops : ∀ items, alternate numberFirst (item :: items) = false) :
    LongestStart numberFirst (item :: items) [] := by
  refine ⟨List.nil_prefix, rfl, ?_⟩
  intro other hbegins halternates
  cases other with
  | nil => exact List.nil_prefix
  | cons first other =>
    obtain ⟨rfl, -⟩ := List.cons_prefix_cons.mp hbegins
    rw [stops] at halternates
    cases halternates

/-- An item comes next, and others behind it. -/
theorem LongestStart.cons {numberFirst next : Bool} {item : Item} {items start : List Item}
    (goes : ∀ items, alternate numberFirst (item :: items) = alternate next items)
    (h : LongestStart next items start) :
    LongestStart numberFirst (item :: items) (item :: start) := by
  refine ⟨List.cons_prefix_cons.mpr ⟨rfl, h.begins⟩, (goes start).trans h.alternates, ?_⟩
  intro other hbegins halternates
  cases other with
  | nil => exact List.nil_prefix
  | cons first other =>
    obtain ⟨rfl, hrest⟩ := List.cons_prefix_cons.mp hbegins
    rw [goes] at halternates
    exact List.cons_prefix_cons.mpr ⟨rfl, h.longest other hrest halternates⟩

/-- The start of a line that is viable is the longest one that alternates. -/
theorem viable_longest (numberFirst : Bool) (items : List Item) :
    LongestStart numberFirst items (viable numberFirst items) := by
  induction items generalizing numberFirst with
  | nil => exact ⟨List.prefix_refl _, rfl, fun _ h _ => h⟩
  | cons item items ih =>
    cases item with
    | number text =>
      cases numberFirst with
      | true => exact .cons (fun _ => rfl) (ih false)
      | false => exact .nil fun _ => rfl
    | sign op =>
      cases numberFirst with
      | true => exact .nil fun _ => rfl
      | false => exact .cons (fun _ => rfl) (ih true)
    | semicolon => exact .nil fun _ => rfl
    | fault => exact .nil fun _ => rfl

/-- A number and what operations there are behind it, from left to right. -/
def totalFrom (n : Int) : List Item → Except Refusal Int
  | .sign op :: .number text :: items => do
    let m ← operation n op text
    totalFrom m items
  | _ => .ok n

/-- The total of a line that begins with a number, from left to right; none for a line that begins
otherwise. -/
def total? : List Item → Except Refusal (Option Int)
  | .number text :: items => do
    let n ← numberOf Production.exprNumber text
    let m ← totalFrom n items
    return some m
  | _ => .ok none

/-- Whether items are signs with numbers behind them, and nothing else. -/
def areOperations : List Item → Bool
  | [] => true
  | .sign _ :: .number _ :: items => areOperations items
  | _ => false

/-- Whether a line is a sum: a number with operations behind it. -/
def isSum : List Item → Bool
  | .number _ :: items => areOperations items
  | _ => false

/-- The result of a line: as much of it as begins like a sum is evaluated, but it has a result only if it
is one. -/
def lineResult (line : List Item) : Except Refusal (Option Int) := do
  let result ← total? (viable true line)
  return if isSum line then result else none

/-- The results of the lines of an input. Its tail is evaluated likewise, but there must not be one. -/
def answer (items : List Item) : Except Refusal Lines := do
  let parts := items.splitOn .semicolon
  let lines ← parts.dropLast.mapM lineResult
  let tail := parts.getLastD []
  let _ ← lineResult tail
  if tail.isEmpty then return lines else throw .unfinished

/-! ## Item by item -/

/-- How far a line has been read, and the sum of what was read. -/
inductive Progress
  | start
  | sum (n : Int)
  | operand (n : Int) (op : Operator)
  /-- The line is no sum. -/
  | skipping
deriving Repr, DecidableEq

namespace Progress

/-- One item further. An item that does not fit makes the rest of the line skipped. -/
def next : Progress → Item → Except Refusal Progress
  | start, .number text => (numberOf Production.exprNumber text).map sum
  | sum n, .sign op => .ok (operand n op)
  | operand n op, .number text => (operation n op text).map sum
  | _, _ => .ok skipping

/-- The result of a line that ends there: none, unless it ends behind a sum. -/
def line : Progress → Option Int
  | sum n => some n
  | _ => none

/-- The line has begun, so the input may not end there. -/
def begun : Progress → Bool
  | start => false
  | _ => true

end Progress

/-- The results of an input behind those of earlier lines, with the first line read so far. -/
def reply (lines : Lines) (progress : Progress) : List Item → Except Refusal Lines
  | [] => if progress.begun then .error .unfinished else .ok lines
  | .semicolon :: items => reply (lines ++ [progress.line]) .start items
  | item :: items => do
    let progress ← progress.next item
    reply lines progress items

/-! ## The same answer -/

section
variable {items line : List Item} {progress : Progress} {lines : Lines}

/-- A line that cannot be a sum any more is skipped to its end. -/
theorem foldlM_skipping (items : List Item) :
    items.foldlM Progress.next Progress.skipping = .ok Progress.skipping := by
  induction items with
  | nil => rfl
  | cons item items ih =>
    rw [List.foldlM_cons]
    exact ih

/-- A line that is skipped has no result. -/
theorem line_of_skipping {item : Item} (skips : progress.next item = .ok .skipping) :
    ((item :: items).foldlM Progress.next progress).map Progress.line = .ok none := by
  rw [List.foldlM_cons, skips]
  exact congrArg (Except.map Progress.line) (foldlM_skipping items)

/-- A line has no result where no number follows a sign. -/
theorem line_of_operand (n : Int) (op : Operator) {item : Item}
    (skips : (Progress.operand n op).next item = .ok .skipping) :
    ((.sign op :: item :: items).foldlM Progress.next (Progress.sum n)).map Progress.line =
      .ok none := by
  show ((item :: items).foldlM Progress.next (.operand n op)).map Progress.line = .ok none
  exact line_of_skipping skips

/-- From a number on, a line has the total of what operations follow, if nothing else does. Pairs of
a sign and a number are added one by one. Whatever else comes makes the line one that is skipped,
with the total of the pairs before it computed all the same. -/
theorem foldlM_sum (n : Int) (items : List Item) :
    (items.foldlM Progress.next (Progress.sum n)).map Progress.line =
      (totalFrom n (viable false items)).map
        fun m => if areOperations items then some m else none := by
  match items with
  | [] => rfl
  | [.sign op] => rfl
  | .sign op :: .number text :: items =>
    have hfold : (Item.sign op :: .number text :: items).foldlM Progress.next (.sum n) =
        operation n op text >>= fun m => items.foldlM Progress.next (.sum m) := by
      rw [List.foldlM_cons]
      show (Item.number text :: items).foldlM Progress.next (.operand n op) = _
      rw [List.foldlM_cons]
      show ((operation n op text).map Progress.sum >>= _) = _
      cases operation n op text <;> rfl
    have htotal : totalFrom n (viable false (.sign op :: .number text :: items)) =
        operation n op text >>= fun m => totalFrom m (viable false items) := rfl
    rw [hfold, htotal]
    cases operation n op text with
    | error refusal => rfl
    | ok m => exact foldlM_sum m items
  | .sign op :: .sign _ :: items => exact line_of_operand n op rfl
  | .sign op :: .semicolon :: items => exact line_of_operand n op rfl
  | .sign op :: .fault :: items => exact line_of_operand n op rfl
  | .number _ :: items => exact line_of_skipping rfl
  | .semicolon :: items => exact line_of_skipping rfl
  | .fault :: items => exact line_of_skipping rfl

/-- What a line comes to item by item is its result. The first item has to be a number; from there
on `foldlM_sum` says the rest. -/
theorem foldlM_start (line : List Item) :
    (line.foldlM Progress.next Progress.start).map Progress.line = lineResult line := by
  match line with
  | [] => rfl
  | .number text :: items =>
    have hfold : (Item.number text :: items).foldlM Progress.next .start =
        numberOf Production.exprNumber text >>= fun n => items.foldlM Progress.next (.sum n) := by
      rw [List.foldlM_cons]
      show ((numberOf Production.exprNumber text).map Progress.sum >>= _) = _
      cases numberOf Production.exprNumber text <;> rfl
    have hresult : lineResult (.number text :: items) =
        numberOf Production.exprNumber text >>= fun n =>
          (totalFrom n (viable false items)).map
            fun m => if areOperations items then some m else none := by
      unfold lineResult
      show ((numberOf Production.exprNumber text >>= fun n => _) >>= _) = _
      cases numberOf Production.exprNumber text with
      | error refusal => rfl
      | ok n =>
        show ((totalFrom n (viable false items) >>= _) >>= _) =
          (totalFrom n (viable false items)).map _
        cases totalFrom n (viable false items) <;> rfl
    rw [hfold, hresult]
    cases numberOf Production.exprNumber text with
    | error refusal => rfl
    | ok n => exact foldlM_sum n items
  | .sign _ :: items => exact line_of_skipping rfl
  | .semicolon :: items => exact line_of_skipping rfl
  | .fault :: items => exact line_of_skipping rfl

/-- A line has begun behind an item. -/
theorem begun_of_next {progress' : Progress} {item : Item} (h : progress.next item = .ok progress') :
    progress'.begun = true := by
  unfold Progress.next at h
  split at h
  · cases hnumber : numberOf Production.exprNumber _ <;> rw [hnumber] at h <;> cases h
    rfl
  · cases h; rfl
  · cases hresult : operation _ _ _ <;> rw [hresult] at h <;> cases h
    rfl
  · cases h; rfl

/-- A line that has begun stays so. -/
theorem begun_of_foldlM {progress' : Progress} (begun : progress.begun = true)
    (h : items.foldlM Progress.next progress = .ok progress') : progress'.begun = true := by
  induction items generalizing progress with
  | nil => cases h; exact begun
  | cons item items ih =>
    obtain ⟨further, hnext, hrest⟩ := bind_eq_ok.mp h
    exact ih (begun_of_next hnext) hrest

/-- An item that ends no line leads further in it. -/
theorem reply_cons {item : Item} (inside : item ≠ .semicolon) :
    reply lines progress (item :: items) =
      progress.next item >>= fun progress => reply lines progress items := by
  cases item with
  | semicolon => exact absurd rfl inside
  | _ => rfl

/-- What comes behind a line is replied to behind its result. -/
theorem reply_line (inside : .semicolon ∉ line) :
    reply lines progress (line ++ .semicolon :: items) =
      line.foldlM Progress.next progress >>= fun progress =>
        reply (lines ++ [progress.line]) .start items := by
  induction line generalizing progress with
  | nil => rfl
  | cons item line ih =>
    have hline := List.not_mem_of_not_mem_cons inside
    rw [List.cons_append, reply_cons (List.ne_of_not_mem_cons inside).symm, List.foldlM_cons, bind_assoc]
    exact congrArg (progress.next item >>= ·) (funext fun progress => ih hline)

/-- A tail is refused, unless there is none. -/
theorem reply_tail (inside : .semicolon ∉ line) :
    reply lines progress line =
      line.foldlM Progress.next progress >>= fun progress =>
        if progress.begun then .error .unfinished else .ok lines := by
  induction line generalizing progress with
  | nil => rfl
  | cons item line ih =>
    have hline := List.not_mem_of_not_mem_cons inside
    rw [reply_cons (List.ne_of_not_mem_cons inside).symm, List.foldlM_cons, bind_assoc]
    exact congrArg (progress.next item >>= ·) (funext fun progress => ih hline)

/-- The answer to an input that begins with a line. The line decides first: if its numbers are
refused the answer is that refusal, whatever the others come to. -/
theorem answer_line (inside : .semicolon ∉ line) :
    answer (line ++ .semicolon :: items) =
      lineResult line >>= fun result => (answer items).map (result :: ·) := by
  have hsplit : (line ++ .semicolon :: items).splitOn .semicolon =
      line :: items.splitOn .semicolon := List.splitOn_append_cons_self_of_not_mem inside items
  have hsome : items.splitOn .semicolon ≠ [] := List.splitOn_ne_nil _ _
  unfold answer
  rw [hsplit]
  generalize items.splitOn .semicolon = parts at hsome
  have htail : (line :: parts).getLastD [] = parts.getLastD [] := by
    cases parts with
    | nil => exact absurd rfl hsome
    | cons part parts => rfl
  dsimp only
  rw [List.dropLast_cons_of_ne_nil hsome, List.mapM_cons, htail]
  cases lineResult line with
  | error refusal => rfl
  | ok result =>
    show ((parts.dropLast.mapM lineResult >>= _) >>= _) =
      (parts.dropLast.mapM lineResult >>= _).map _
    cases parts.dropLast.mapM lineResult with
    | error refusal => rfl
    | ok results =>
      show (lineResult (parts.getLastD []) >>= _) = (lineResult (parts.getLastD []) >>= _).map _
      cases lineResult (parts.getLastD []) with
      | error refusal => rfl
      | ok _ =>
        show (if _ then _ else _) = Except.map _ (if _ then _ else _)
        split <;> rfl

/-- The answer to an input that is but a tail. -/
theorem answer_tail (inside : .semicolon ∉ line) :
    answer line = lineResult line >>= fun _ =>
      if line.isEmpty then .ok [] else .error .unfinished := by
  unfold answer
  rw [List.splitOn_eq_singleton inside]
  rfl

/-- The reply item by item is the answer, behind the results of earlier lines. By recursion on the
number of items that are left, line by line: up to the first semicolon an item at a time, then the
answer to the others; without a semicolon the items are the tail. -/
theorem reply_eq_answer (lines : Lines) (items : List Item) :
    reply lines .start items = (answer items).map (lines ++ ·) := by
  by_cases hmem : .semicolon ∈ items
  · obtain ⟨line, others, hsplit, inside⟩ := List.eq_append_cons_of_mem hmem
    have hshorter : others.length < items.length := by
      rw [hsplit, List.length_append, List.length_cons]
      omega
    rw [hsplit, reply_line inside, answer_line inside, ← foldlM_start]
    cases line.foldlM Progress.next Progress.start with
    | error refusal => rfl
    | ok progress =>
      show reply (lines ++ [progress.line]) .start others =
        ((answer others).map (progress.line :: ·)).map (lines ++ ·)
      rw [reply_eq_answer]
      cases answer others with
      | error refusal => rfl
      | ok results => exact congrArg Except.ok (List.append_assoc lines [progress.line] results)
  · rw [reply_tail hmem, answer_tail hmem, ← foldlM_start]
    cases items with
    | nil => exact congrArg Except.ok (List.append_nil lines).symm
    | cons item items =>
      cases hfold : (item :: items).foldlM Progress.next Progress.start with
      | error refusal => rfl
      | ok progress =>
        obtain ⟨further, hnext, hrest⟩ := bind_eq_ok.mp hfold
        have hbegun := begun_of_foldlM (begun_of_next hnext) hrest
        show (if progress.begun then _ else _) = _
        rw [hbegun]
        rfl
termination_by items.length
decreasing_by assumption

/-- A reply has one result more for each semicolon. -/
theorem length_of_reply {results : Lines} (h : reply lines progress items = .ok results) :
    results.length = lines.length + items.count .semicolon := by
  induction items generalizing progress lines with
  | nil =>
    unfold reply at h
    split at h <;> cases h
    rfl
  | cons item items ih =>
    by_cases hitem : item = .semicolon
    · subst hitem
      have hrest : results.length = (lines ++ [progress.line]).length + items.count .semicolon := ih h
      rw [hrest, List.length_append, List.length_singleton, List.count_cons_self]
      omega
    · rw [reply_cons hitem] at h
      obtain ⟨further, -, hrest⟩ := bind_eq_ok.mp h
      rw [ih hrest, List.count_cons_of_ne hitem]

/-- An input that is answered with results has one for each line. -/
theorem length_of_answer {results : Lines} (h : answer items = .ok results) :
    results.length = items.count .semicolon := by
  have hreply : reply [] .start items = .ok results := by
    rw [reply_eq_answer, h]
    rfl
  rw [length_of_reply hreply, List.length_nil, Nat.zero_add]

end

end ShiftReduce.Calculator
