import ShiftReduce.Proofs.Calculator.Reply
import ShiftReduce.Proofs.Parser.Forest
import ShiftReduce.Proofs.Parser.Outline

/-!
# The steps of the calculator's parser

The table of the calculator's grammar written out (`Calculator.grammarTable`), what its actions compute
(`Calculator.actions_compute`), and where the parser is led by each kind of token: the stack says how far
a line has been read (`Calculator.Stands`), and a token leads further in it, to the next line, or into
a recovery.

Each law of a step is one of the outline's laws at a stack of the calculator, with the cells of the
table looked up by evaluation. Recoveries have four: the stack is cut back to the list of lines
(`Calculator.leads_misfit`), a token behind one is thrown away (`Calculator.leads_discard`), the
error token is shifted with the token held back ahead again (`Calculator.leads_retry`), and at the
end of the input there may be nothing left to recover with (`Calculator.leads_halt`).
-/

namespace ShiftReduce.Calculator

/-! ## The table -/

/-- The parse table, written out. It is the one that is built (`parseTable_eq`). Reference:
`grammar_table`. -/
def grammarTable : Table where
  names := ["$accept", "$end", "error", "';'", "'+'", "'-'", "NUM", "list", "line", "expr"]
  terminalCount := 7
  productions := [⟨0, 1⟩, ⟨7, 2⟩, ⟨7, 0⟩, ⟨8, 2⟩, ⟨8, 2⟩, ⟨9, 3⟩, ⟨9, 3⟩, ⟨9, 1⟩]
  rows :=
    [[(1, .reduce 2), (2, .reduce 2), (6, .reduce 2), (7, .goto 1)],
     [(1, .accept), (2, .shift 2), (6, .shift 3), (8, .goto 4), (9, .goto 5)],
     [(3, .shift 6)], [], [],
     [(3, .shift 7), (4, .shift 8), (5, .shift 9)], [], [],
     [(6, .shift 10)], [(6, .shift 11)], [], []]
  defaults := [(11, 6), (10, 5), (7, 3), (6, 4), (4, 1), (3, 7)]
  conflicts := []
  descriptions := [(6, "number")]

/-- The table that is built from the declarations. -/
theorem parseTable_eq : parseTable = .ok grammarTable := by
  have hcells : (parseTable.toOption.map fun table => (table.rows, table.defaults, table.conflicts)) =
      some (grammarTable.rows, grammarTable.defaults, grammarTable.conflicts) := by
    decide +kernel
  have hsymbols : (parseTable.toOption.map fun table =>
        (table.names, table.terminalCount, table.productions, table.descriptions)) =
      some (grammarTable.names, grammarTable.terminalCount, grammarTable.productions,
        grammarTable.descriptions) := by
    decide +kernel
  generalize parseTable = built at hcells hsymbols ⊢
  cases built with
  | error fault => cases hcells
  | ok table =>
    simp only [Except.toOption, Option.map_some, Option.some.injEq, Prod.mk.injEq] at hcells hsymbols
    obtain ⟨names, count, productions, rows, defaults, conflicts, descriptions⟩ := table
    obtain ⟨rfl, rfl, rfl⟩ := hcells
    obtain ⟨rfl, rfl, rfl, rfl⟩ := hsymbols
    rfl

/-- The calculator's parser, under a discard count and a limit of scans. -/
def evaluator (discardCount scanLimit : Nat) : Engine Context Value Fault :=
  { table := grammarTable, actions, discardCount, scanLimit }

/-! ## The actions -/

/-- What a production makes of the values of its children. Lines with an error have no value; their
text is noted elsewhere. Reference: `CalcParserDriver::reduce`. -/
def valueOf (number : ProductionId) (values : List Value) : Except Fault Value :=
  if number = Production.lineError then .ok .nothing else evaluate (bareReduction number values)

/-- The calculator's actions see nothing but that. -/
theorem actions_compute : actions.Computes (fun bare => .text bare.2) valueOf where
  token _ _ := rfl
  production reduction context := by
    show (productionAction reduction context).1.map _ = _
    unfold productionAction valueOf
    split
    · rfl
    · have hsame : evaluate reduction =
          evaluate (bareReduction reduction.production reduction.values) :=
        evaluate_congr rfl (values_bareReduction _ _).symm
      rw [← hsame]
      cases evaluate reduction <;> rfl
  judge _ _ := rfl

/-! ## Stacks -/

/-- The slot at the bottom of the stack, but for its location. Reference: `Parser::reset`. -/
def bottom : SymbolId × StateId × Value := (SymbolId.accept, 0, .nothing)

/-- The slot of the lines so far, in state 1. -/
def listSlot (lines : Lines) : SymbolId × StateId × Value := (7, 1, .lines lines)

/-- The slot of a sum, in state 5. -/
def sumSlot (n : Int) : SymbolId × StateId × Value := (9, 5, .number n)

/-- The terminal of a sign. Reference: `PLUS` and `MINUS`. -/
def signSymbol : Operator → SymbolId
  | .plus => Terminal.plusSign
  | .minus => Terminal.minusSign

/-- The state behind a sign, which only a number leaves. -/
def signState : Operator → StateId
  | .plus => 8
  | .minus => 9

/-- The state behind the number of an operation, which reduces by default. -/
def operandState : Operator → StateId
  | .plus => 10
  | .minus => 11

/-- The slot of a sign, whose value is its text. -/
def signSlot (op : Operator) (text : String) : SymbolId × StateId × Value :=
  (signSymbol op, signState op, .text text)

/-- The slot of an error token, in state 2, which only a semicolon leaves. -/
def errorSlot (text : String) : SymbolId × StateId × Value := (SymbolId.error, 2, .text text)

/-- How far a line has been read behind others, by the stack. At the start of the input there need not be
a list of lines yet. -/
inductive Stands : Progress → Lines → List (SymbolId × StateId × Value) → Prop
  | fresh : Stands .start [] [bottom]
  | start (lines : Lines) : Stands .start lines [listSlot lines, bottom]
  | sum (lines : Lines) (n : Int) : Stands (.sum n) lines [sumSlot n, listSlot lines, bottom]
  | operand (lines : Lines) (n : Int) (op : Operator) (text : String) :
      Stands (.operand n op) lines [signSlot op text, sumSlot n, listSlot lines, bottom]
  | skipping (lines : Lines) (text : String) :
      Stands .skipping lines [errorSlot text, listSlot lines, bottom]

/-- A parse that ends with a reply: the lines, the fault of the action that refused them, or a
syntax error at the end. -/
def Replies : Except Refusal Lines → Stop Value Fault → Prop
  | .ok lines, stop => stop = .accepted (.lines lines)
  | .error (.misfit production fault), stop => stop = .failed (.action (.production production) fault)
  | .error .unfinished, stop => ∃ info, stop = .failed (.syntactic info)

/-! ## Steps -/

section
variable {discardCount scanLimit n recovering : Nat} {Q : Stop Value Fault → Prop} {lines : Lines}
  {m : Int} {op : Operator} {text text' : String} {held : Option (SymbolId × String)}
  {endHeight : Option Nat} {rest : List (SymbolId × String)} {f : Int → Except Refusal Lines}

/-- Where a parse leads from a stack and a token ahead, with no token held back and no recovery at
the end of the input so far. -/
abbrev LeadsFrom (discardCount scanLimit n : Nat) (stack : List (SymbolId × StateId × Value))
    (ahead : Option (SymbolId × String)) (recovering : Nat) (rest : List (SymbolId × String))
    (Q : Stop Value Fault → Prop) : Prop :=
  Outline.Leads (evaluator discardCount scanLimit) n ⟨stack, ahead, none, recovering, none, rest⟩ Q

/-- At the start of the input a list without lines is opened first. -/
theorem leads_open {symbol : SymbolId}
    (opens : grammarTable.action 0 symbol = .reduce Production.listEmpty)
    (next : Outline.Leads (evaluator discardCount scanLimit) n
      ⟨[listSlot [], bottom], some (symbol, text), held, recovering, endHeight, rest⟩ Q) :
    Outline.Leads (evaluator discardCount scanLimit) (n + 1)
      ⟨[bottom], some (symbol, text), held, recovering, endHeight, rest⟩ Q :=
  Outline.Leads.reduce actions_compute (.byToken rfl rfl rfl rfl opens) rfl (show 0 < 1 by decide) rfl
    rfl rfl next

/-- At the start of a line a number begins a sum, if it fits. -/
theorem leads_number
    (next : ∀ m, LeadsFrom discardCount scanLimit n [sumSlot m, listSlot lines, bottom] none
      (recovering - 1) rest (Replies (f m))) :
    LeadsFrom discardCount scanLimit (n + 2) [listSlot lines, bottom] (some (Terminal.number, text))
      recovering rest (Replies (numberOf Production.exprNumber text >>= f)) := by
  refine Outline.Leads.shift actions_compute (.byToken rfl rfl rfl rfl rfl) rfl rfl ?_
  have htakes : Outline.Takes grammarTable
      (⟨[(Terminal.number, 3, .text text), listSlot lines, bottom], none, none, recovering - 1, none,
        rest⟩ : Outline Value) 3 (.reduce Production.exprNumber) := .byDefault rfl rfl rfl
  have hvalue : valueOf Production.exprNumber [.text text] =
      ((Integer.read text).mapError .number).map .number := rfl
  unfold numberOf
  cases hread : Integer.read text with
  | error cause =>
    rw [hread] at hvalue
    exact Outline.leads_of_fault actions_compute htakes rfl (show 1 < 3 by decide) hvalue rfl
  | ok m =>
    rw [hread] at hvalue
    exact Outline.Leads.reduce actions_compute htakes rfl (show 1 < 3 by decide) hvalue rfl rfl (next m)

/-- Behind a sum a sign asks for a number. -/
theorem leads_sign
    (next : LeadsFrom discardCount scanLimit n [signSlot op text, sumSlot m, listSlot lines, bottom] none
      (recovering - 1) rest Q) :
    LeadsFrom discardCount scanLimit (n + 1) [sumSlot m, listSlot lines, bottom]
      (some (signSymbol op, text)) recovering rest Q := by
  cases op with
  | plus => exact Outline.Leads.shift actions_compute (.byToken rfl rfl rfl rfl rfl) rfl rfl next
  | minus => exact Outline.Leads.shift actions_compute (.byToken rfl rfl rfl rfl rfl) rfl rfl next

/-- The value of a sum that ends with an operation. -/
theorem valueOf_operation (m : Int) (op : Operator) (sign text : String) :
    valueOf op.production [.number m, .text sign, .text text] = (do
      let k ← (Integer.read text).mapError .number
      match op.result? m k with
      | some result => return .number result
      | none => throw (.overflow op m k)) := by
  cases op <;> rfl

/-- An operation is reduced, if its number and its result fit. There are two ways to fail: the text
of the number does not fit, or the result does not. Both are faults of the production's action. -/
theorem leads_operation {sign : String}
    (next : ∀ m, LeadsFrom discardCount scanLimit n [sumSlot m, listSlot lines, bottom] none recovering
      rest (Replies (f m))) :
    LeadsFrom discardCount scanLimit (n + 1)
      [(Terminal.number, operandState op, .text text), signSlot op sign, sumSlot m, listSlot lines,
        bottom] none recovering rest (Replies (operation m op text >>= f)) := by
  have htakes : Outline.Takes grammarTable
      (⟨[(Terminal.number, operandState op, .text text), signSlot op sign, sumSlot m, listSlot lines,
        bottom], none, none, recovering, none, rest⟩ : Outline Value) (operandState op)
      (.reduce op.production) := by
    cases op <;> exact .byDefault rfl rfl rfl
  have hfound : grammarTable.production? op.production = some ⟨9, 3⟩ := by
    cases op <;> rfl
  have hvalue := valueOf_operation m op sign text
  unfold operation numberOf
  cases hread : Integer.read text with
  | error cause =>
    rw [hread] at hvalue
    exact Outline.leads_of_fault actions_compute htakes hfound (show 3 < 5 by decide) hvalue rfl
  | ok k =>
    rw [hread] at hvalue
    cases hresult : op.result? m k with
    | none =>
      simp only [Except.mapError, bind, Except.bind, hresult] at hvalue ⊢
      exact Outline.leads_of_fault actions_compute htakes hfound (show 3 < 5 by decide) hvalue rfl
    | some result =>
      simp only [Except.mapError, bind, Except.bind, hresult] at hvalue ⊢
      exact Outline.Leads.reduce actions_compute htakes hfound (show 3 < 5 by decide) hvalue rfl rfl
        (next result)

/-- Behind a sign a number ends the operation. -/
theorem leads_operand {sign : String}
    (next : ∀ m, LeadsFrom discardCount scanLimit n [sumSlot m, listSlot lines, bottom] none
      (recovering - 1) rest (Replies (f m))) :
    LeadsFrom discardCount scanLimit (n + 2) [signSlot op sign, sumSlot m, listSlot lines, bottom]
      (some (Terminal.number, text)) recovering rest (Replies (operation m op text >>= f)) := by
  have hshifts : Outline.Takes grammarTable
      (⟨[signSlot op sign, sumSlot m, listSlot lines, bottom], some (Terminal.number, text), none,
        recovering, none, rest⟩ : Outline Value) (signState op) (.shift (operandState op)) := by
    cases op <;> exact .byToken rfl rfl rfl rfl rfl
  exact Outline.Leads.shift actions_compute hshifts rfl rfl (leads_operation next)

/-- A line is appended to those before it. -/
theorem leads_append {value : Value} {line : Option Int}
    (means : (match value with | .number m => some m | _ => none) = line)
    (next : LeadsFrom discardCount scanLimit n [listSlot (lines ++ [line]), bottom] none recovering rest
      Q) :
    LeadsFrom discardCount scanLimit (n + 1) [(8, 4, value), listSlot lines, bottom] none recovering rest
      Q := by
  subst means
  exact Outline.Leads.reduce actions_compute (.byDefault rfl rfl rfl) rfl (show 2 < 3 by decide) rfl rfl
    rfl next

/-- Behind a sum a semicolon ends the line, which has the sum for a result. -/
theorem leads_line
    (next : LeadsFrom discardCount scanLimit n [listSlot (lines ++ [some m]), bottom] none
      (recovering - 1) rest Q) :
    LeadsFrom discardCount scanLimit (n + 3) [sumSlot m, listSlot lines, bottom]
      (some (Terminal.semicolon, text)) recovering rest Q := by
  refine Outline.Leads.shift actions_compute (.byToken rfl rfl rfl rfl rfl) rfl rfl ?_
  exact Outline.Leads.reduce actions_compute (.byDefault rfl rfl rfl) rfl (show 2 < 4 by decide) rfl rfl
    rfl (leads_append rfl next)

/-- Behind an error a semicolon ends the line, which has no result. -/
theorem leads_errorLine
    (next : LeadsFrom discardCount scanLimit n [listSlot (lines ++ [none]), bottom] none
      (recovering - 1) rest Q) :
    LeadsFrom discardCount scanLimit (n + 3) [errorSlot text', listSlot lines, bottom]
      (some (Terminal.semicolon, text)) recovering rest Q := by
  refine Outline.Leads.shift actions_compute (.byToken rfl rfl rfl rfl rfl) rfl rfl ?_
  exact Outline.Leads.reduce actions_compute (.byDefault rfl rfl rfl) rfl (show 2 < 4 by decide) rfl rfl
    rfl (leads_append rfl next)

/-! ## Recoveries -/

/-- The token that is held back behind an error token made for it. -/
def heldBack (bare : SymbolId × String) : Option (SymbolId × String) :=
  if bare.1 = SymbolId.error then none else some bare

/-- Wherever a line has been read to, the nearest state that can take an error is that of the lines
before it, or that of the start of the input. -/
theorem Stands.depth {progress : Progress} {stack : List (SymbolId × StateId × Value)}
    (stands : Stands progress lines stack) (ahead : Option (SymbolId × String)) :
    ∃ depth, Outline.depth? grammarTable
        (⟨stack, ahead, none, recovering, none, rest⟩ : Outline Value) = some depth ∧
      (stack.drop depth = [listSlot lines, bottom] ∨ lines = [] ∧ stack.drop depth = [bottom]) := by
  cases stands with
  | fresh => exact ⟨0, rfl, .inr ⟨rfl, rfl⟩⟩
  | start => exact ⟨0, rfl, .inl rfl⟩
  | sum => exact ⟨1, rfl, .inl rfl⟩
  | operand lines m op text => cases op <;> exact ⟨2, rfl, .inl rfl⟩
  | skipping => exact ⟨1, rfl, .inl rfl⟩

/-- A recovery cuts the stack back to the list of lines, wherever it finds a line. -/
theorem leads_misfit {progress : Progress} {stack : List (SymbolId × StateId × Value)} {state : StateId}
    {bare : SymbolId × String} (stands : Stands progress lines stack)
    (misfit : Outline.Takes grammarTable
      (⟨stack, some bare, none, recovering, none, rest⟩ : Outline Value) state .error)
    (begun : recovering ≠ (evaluator discardCount scanLimit).quietCount)
    (next : ∀ endHeight, (bare.1 ≠ SymbolId.endOfInput → endHeight = none) →
      Outline.Leads (evaluator discardCount scanLimit) n
        ⟨[listSlot lines, bottom], some (SymbolId.error, bare.2), heldBack bare,
          (evaluator discardCount scanLimit).quietCount, endHeight, rest⟩ Q) :
    LeadsFrom discardCount scanLimit (n + 2) stack (some bare) recovering rest Q := by
  obtain ⟨depth, hdepth, hstack⟩ := stands.depth (some bare)
  refine Outline.Leads.recover actions_compute misfit rfl rfl begun hdepth (fun _ => rfl) ?_
  show Outline.Leads _ _ ⟨stack.drop depth, some (SymbolId.error, bare.2), heldBack bare, _, _, rest⟩ Q
  obtain hstack | ⟨rfl, hstack⟩ := hstack
  · rw [hstack]
    exact (next _ fun hinput => if_neg hinput).mono (Nat.le_succ n)
  · rw [hstack]
    exact leads_open rfl (next _ fun hinput => if_neg hinput)

/-- Behind an error a token that does not end the line is thrown away, and the recovery made again for
the next one. -/
theorem leads_discard {bare coming : SymbolId × String}
    (misfit : Outline.Takes grammarTable
      (⟨[errorSlot text, listSlot lines, bottom], some bare, none,
        (evaluator discardCount scanLimit).quietCount, none, coming :: rest⟩ : Outline Value) 2 .error)
    (input : bare.1 ≠ SymbolId.endOfInput)
    (next : ∀ endHeight, (coming.1 ≠ SymbolId.endOfInput → endHeight = none) →
      Outline.Leads (evaluator discardCount scanLimit) n
        ⟨[listSlot lines, bottom], some (SymbolId.error, coming.2), heldBack coming,
          (evaluator discardCount scanLimit).quietCount, endHeight, rest⟩ Q) :
    LeadsFrom discardCount scanLimit (n + 1) [errorSlot text, listSlot lines, bottom] (some bare)
      (evaluator discardCount scanLimit).quietCount (coming :: rest) Q :=
  Outline.Leads.discard misfit rfl rfl rfl input rfl rfl rfl (next _ fun hinput => if_neg hinput)

/-- The error token that a recovery made is shifted, and the token held back is ahead again. -/
theorem leads_retry {bare : SymbolId × String} (proper : bare.1 ≠ SymbolId.error)
    (next : Outline.Leads (evaluator discardCount scanLimit) n
      ⟨[errorSlot text, listSlot lines, bottom], some bare, none, recovering, endHeight, rest⟩ Q) :
    Outline.Leads (evaluator discardCount scanLimit) (n + 1)
      ⟨[listSlot lines, bottom], some (SymbolId.error, text), heldBack bare, recovering, endHeight,
        rest⟩ Q := by
  have hheld : heldBack bare = some bare := if_neg proper
  rw [hheld]
  exact Outline.Leads.shiftError actions_compute (.byToken rfl rfl rfl rfl rfl) rfl rfl next

/-- An error token of the lexer's own is shifted, and stands for the error. -/
theorem leads_error
    (next : LeadsFrom discardCount scanLimit n [errorSlot text, listSlot lines, bottom] none
      (if recovering = 0 then (evaluator discardCount scanLimit).quietCount else recovering - 1) rest Q) :
    LeadsFrom discardCount scanLimit (n + 1) [listSlot lines, bottom] (some (SymbolId.error, text))
      recovering rest Q := by
  refine Outline.Leads.shift actions_compute (.byToken rfl rfl rfl rfl rfl) rfl rfl ?_
  unfold Outline.shifted
  simp only [true_and]
  exact next

/-- Right behind a recovery at the end of the input nothing is left to recover with. -/
theorem leads_halt
    (holds : ∀ info, Q (.failed (.syntactic info))) :
    Outline.Leads (evaluator discardCount scanLimit) (n + 1)
      ⟨[errorSlot text', listSlot lines, bottom], some (SymbolId.endOfInput, text), none,
        (evaluator discardCount scanLimit).quietCount, endHeight, rest⟩ Q :=
  Outline.leads_of_halt actions_compute (.byToken rfl rfl rfl rfl rfl) rfl rfl rfl rfl holds

/-- At the start of a line the end of the input ends the parse, with the lines for a value. -/
theorem leads_accept {stack : List (SymbolId × StateId × Value)} (stands : Stands .start lines stack)
    (holds : Q (.accepted (.lines lines))) :
    LeadsFrom discardCount scanLimit (n + 2) stack (some (SymbolId.endOfInput, text)) recovering rest
      Q := by
  cases stands with
  | fresh => exact leads_open rfl (Outline.leads_of_accept (.byToken rfl rfl rfl rfl rfl) rfl holds)
  | start => exact Outline.leads_of_accept (.byToken rfl rfl rfl rfl rfl) rfl holds

end

end ShiftReduce.Calculator
