import ShiftReduce.Proofs.Calculator.Steps

/-!
# From token to token

Whatever items the lexer supplies, the calculator's parser comes to the reply to them, whatever the
discard count is (`Calculator.resolves`). It is followed from token to token, by where it stands in a
line: what comes next fits there, or leads into a recovery that goes on to the end of the line. Between
two tokens a recovery is either over, or a token behind it is thrown away where it does not fit
(`Calculator.Skips`).

Two statements are proved together by recursion over the items that are left: what the parser comes
to from where it stands in a line (`Calculator.Resolves`), and what it comes to right behind a
recovery (`Calculator.Skips`). There is a law for each place in a line (`Calculator.leads_first`,
`Calculator.leads_behindSum`, `Calculator.leads_behindSign`, `Calculator.leads_behindError`), and
each has a case for each kind of item.
-/

namespace ShiftReduce.Calculator

/-- A token that stands for an item of an input: any token of the calculator's lexer but the end of
the input, error tokens included. -/
inductive IsItem : SymbolId × String → Prop
  | fault (text : String) : IsItem (SymbolId.error, text)
  | semicolon (text : String) : IsItem (Terminal.semicolon, text)
  | sign (op : Operator) (text : String) : IsItem (signSymbol op, text)
  | number (text : String) : IsItem (Terminal.number, text)

/-- The tokens of an input up to its end, with the end token behind them. -/
def supply (tokens : List (SymbolId × String)) : List (SymbolId × String) :=
  tokens ++ [(SymbolId.endOfInput, "")]

/-- More steps than the tokens of an input take: eight for each of them, and for the end of the
input. -/
def stepsFor (tokens : List (SymbolId × String)) : Nat := 8 * (tokens.length + 1)

section
variable {discardCount scanLimit recovering : Nat} {lines : Lines} {progress : Progress}
  {stack : List (SymbolId × StateId × Value)} {bare : SymbolId × String}
  {tokens : List (SymbolId × String)}

theorem Item.of_sign (op : Operator) (text : String) : Item.of (signSymbol op, text) = .sign op := by
  cases op <;> rfl

theorem IsItem.input (h : IsItem bare) : bare.1 ≠ SymbolId.endOfInput := by
  cases h with
  | fault => exact show SymbolId.error ≠ _ by decide
  | semicolon => exact show Terminal.semicolon ≠ _ by decide
  | sign op =>
    cases op with
    | plus => exact show Terminal.plusSign ≠ _ by decide
    | minus => exact show Terminal.minusSign ≠ _ by decide
  | number => exact show Terminal.number ≠ _ by decide

/-- From where the parser stands, it comes to the reply to the tokens that follow. A recovery that no
token was shifted behind can only be met where the line is skipped. -/
def Resolves (discardCount scanLimit : Nat) (tokens : List (SymbolId × String)) : Prop :=
  ∀ ⦃progress lines stack recovering⦄, Stands progress lines stack →
    recovering ≤ (evaluator discardCount scanLimit).quietCount →
    (progress ≠ .skipping → recovering < (evaluator discardCount scanLimit).quietCount) →
    LeadsFrom discardCount scanLimit (stepsFor tokens) stack none recovering (supply tokens)
      (Replies (reply lines progress (tokens.map Item.of)))

/-- Right behind a recovery with a token ahead, the parser comes to the reply to this one and the tokens
that follow. -/
def Skips (discardCount scanLimit : Nat) (tokens : List (SymbolId × String)) : Prop :=
  ∀ ⦃bare⦄ lines text, IsItem bare →
    LeadsFrom discardCount scanLimit (stepsFor tokens + 4) [errorSlot text, listSlot lines, bottom]
      (some bare) (evaluator discardCount scanLimit).quietCount (supply tokens)
      (Replies (reply lines .skipping (Item.of bare :: tokens.map Item.of)))

/-- A state between two tokens asks for the next one. -/
theorem leads_look {n : Nat} {rest : List (SymbolId × String)} {Q : Stop Value Fault → Prop}
    (stands : Stands progress lines stack)
    (next : LeadsFrom discardCount scanLimit n stack (some bare) recovering rest Q) :
    LeadsFrom discardCount scanLimit n stack none recovering (bare :: rest) Q := by
  cases stands with
  | operand lines m op text => cases op <;> exact Outline.Leads.look rfl rfl rfl rfl rfl next
  | _ => exact Outline.Leads.look rfl rfl rfl rfl rfl next

/-! ## Recoveries -/

/-- A recovery at a token skips the line from it on. -/
theorem leads_recovered (resolves : Resolves discardCount scanLimit tokens)
    (skips : Skips discardCount scanLimit tokens) (item : IsItem bare) (lines : Lines) :
    Outline.Leads (evaluator discardCount scanLimit) (stepsFor tokens + 5)
      ⟨[listSlot lines, bottom], some (SymbolId.error, bare.2), heldBack bare,
        (evaluator discardCount scanLimit).quietCount, none, supply tokens⟩
      (Replies (reply lines .skipping (Item.of bare :: tokens.map Item.of))) := by
  by_cases herror : bare.1 = SymbolId.error
  · cases item with
    | fault text =>
      have hquiet := (evaluator discardCount scanLimit).quietCount_pos
      have hnext : LeadsFrom discardCount scanLimit (stepsFor tokens + 4)
          [errorSlot text, listSlot lines, bottom] none
          (if (evaluator discardCount scanLimit).quietCount = 0 then
            (evaluator discardCount scanLimit).quietCount
          else (evaluator discardCount scanLimit).quietCount - 1) (supply tokens)
          (Replies (reply lines .skipping (tokens.map Item.of))) := by
        rw [if_neg (Nat.ne_of_gt hquiet)]
        exact (resolves (.skipping lines text) (Nat.sub_le _ _) fun h => absurd rfl h).mono
          (Nat.le_add_right _ _)
      exact leads_error hnext
    | semicolon => cases herror
    | sign op => cases op <;> cases herror
    | number => cases herror
  · exact leads_retry herror (skips lines _ item)

/-- A recovery at the end of the input comes to nothing. -/
theorem leads_unfinished (discardCount scanLimit : Nat) (lines : Lines) (endHeight : Option Nat) :
    Outline.Leads (evaluator discardCount scanLimit) 2
      ⟨[listSlot lines, bottom], some (SymbolId.error, ""), heldBack (SymbolId.endOfInput, ""),
        (evaluator discardCount scanLimit).quietCount, endHeight, []⟩
      (Replies (.error .unfinished)) :=
  leads_retry (by decide) (leads_halt fun info => ⟨info, rfl⟩)

/-- A token that does not fit where the parser stands makes it skip the line. -/
theorem leads_skipping {state : StateId} (resolves : Resolves discardCount scanLimit tokens)
    (skips : Skips discardCount scanLimit tokens) (item : IsItem bare)
    (stands : Stands progress lines stack)
    (misfit : Outline.Takes grammarTable
      (⟨stack, some bare, none, recovering, none, supply tokens⟩ : Outline Value) state .error)
    (begun : recovering < (evaluator discardCount scanLimit).quietCount) :
    LeadsFrom discardCount scanLimit (stepsFor tokens + 7) stack (some bare) recovering
      (supply tokens) (Replies (reply lines .skipping (Item.of bare :: tokens.map Item.of))) :=
  leads_misfit stands misfit (Nat.ne_of_lt begun) fun endHeight hnone => by
    rw [hnone item.input]
    exact leads_recovered resolves skips item lines

/-! ## Token by token -/

/-- Behind an error a token ends the line, or it does not fit and is passed over. -/
theorem IsItem.behind_error (item : IsItem bare) :
    (∃ text, bare = (Terminal.semicolon, text)) ∨
      grammarTable.action 2 bare.1 = .error ∧
        ∀ lines items, reply lines .skipping (Item.of bare :: items) = reply lines .skipping items := by
  cases item with
  | fault => exact .inr ⟨rfl, fun _ _ => rfl⟩
  | semicolon text => exact .inl ⟨text, rfl⟩
  | sign op => cases op <;> exact .inr ⟨rfl, fun _ _ => rfl⟩
  | number => exact .inr ⟨rfl, fun _ _ => rfl⟩

/-- Behind an error a semicolon ends the line. -/
theorem leads_skipped (resolves : Resolves discardCount scanLimit tokens)
    (quiet : recovering ≤ (evaluator discardCount scanLimit).quietCount) (lines : Lines)
    (text text' : String) :
    LeadsFrom discardCount scanLimit (stepsFor tokens + 3) [errorSlot text, listSlot lines, bottom]
      (some (Terminal.semicolon, text')) recovering (supply tokens)
      (Replies (reply lines .skipping (.semicolon :: tokens.map Item.of))) := by
  have hquiet := (evaluator discardCount scanLimit).quietCount_pos
  refine leads_errorLine (resolves (.start (lines ++ [none])) ?_ fun _ => ?_) <;> omega

/-- At the end of the input a token behind a recovery comes to nothing, unless it is a semicolon. -/
theorem skips_nil (resolves : Resolves discardCount scanLimit []) : Skips discardCount scanLimit [] := by
  intro bare lines text item
  obtain ⟨text', rfl⟩ | ⟨misfit, hreply⟩ := item.behind_error
  · exact (leads_skipped resolves (Nat.le_refl _) lines text text').mono (Nat.le_succ _)
  · rw [hreply]
    refine Outline.Leads.mono (n := 3) ?_ (by decide)
    exact leads_discard (.byToken rfl rfl rfl rfl misfit) item.input fun endHeight _ =>
      leads_unfinished discardCount scanLimit lines endHeight

/-- Behind a recovery tokens are thrown away one by one, up to a semicolon. -/
theorem skips_cons {next : SymbolId × String}
    (begins : Resolves discardCount scanLimit (next :: tokens))
    (resolves : Resolves discardCount scanLimit tokens) (skips : Skips discardCount scanLimit tokens)
    (item' : IsItem next) : Skips discardCount scanLimit (next :: tokens) := by
  intro bare lines text item
  obtain ⟨text', rfl⟩ | ⟨misfit, hreply⟩ := item.behind_error
  · exact (leads_skipped begins (Nat.le_refl _) lines text text').mono (Nat.le_succ _)
  · rw [hreply]
    have hleads : LeadsFrom discardCount scanLimit (stepsFor tokens + 5 + 1)
        [errorSlot text, listSlot lines, bottom] (some bare)
        (evaluator discardCount scanLimit).quietCount (next :: supply tokens)
        (Replies (reply lines .skipping (Item.of next :: tokens.map Item.of))) :=
      leads_discard (.byToken rfl rfl rfl rfl misfit) item.input fun endHeight hnone => by
        rw [hnone item'.input]
        exact leads_recovered resolves skips item' lines
    refine hleads.mono ?_
    unfold stepsFor
    rw [List.length_cons]
    omega

/-- The end of the input does not fit where a line has begun. -/
theorem misfit_of_begun (stands : Stands progress lines stack) (begun : progress.begun = true)
    {rest : List (SymbolId × String)} :
    ∃ state, Outline.Takes grammarTable
      (⟨stack, some (SymbolId.endOfInput, ""), none, recovering, none, rest⟩ : Outline Value) state
      .error := by
  cases stands with
  | fresh | start => cases begun
  | operand lines m op text => cases op <;> exact ⟨_, .byToken rfl rfl rfl rfl rfl⟩
  | _ => exact ⟨_, .byToken rfl rfl rfl rfl rfl⟩

/-- At the end of the input the parser accepts the lines, or the tail is unfinished. -/
theorem resolves_nil (discardCount scanLimit : Nat) : Resolves discardCount scanLimit [] := by
  intro progress lines stack recovering stands quiet hbegun
  refine leads_look stands ?_
  cases hprogress : progress.begun with
  | false =>
    obtain rfl : progress = .start := by
      cases progress <;> first | rfl | cases hprogress
    exact leads_accept (n := 6) stands rfl
  | true =>
    have hreply : reply lines progress ([].map Item.of) = .error .unfinished := if_pos hprogress
    rw [hreply]
    by_cases hfull : recovering = (evaluator discardCount scanLimit).quietCount
    · have hskipping : progress = .skipping := by
        by_contra hother
        exact absurd hfull (Nat.ne_of_lt (hbegun hother))
      subst hskipping hfull
      cases stands with
      | skipping => exact leads_halt (n := 7) fun info => ⟨info, rfl⟩
    · obtain ⟨state, hmisfit⟩ := misfit_of_begun stands hprogress
      refine Outline.Leads.mono (n := 2 + 2) ?_ (by decide)
      exact leads_misfit stands hmisfit hfull fun endHeight _ =>
        leads_unfinished discardCount scanLimit lines endHeight

/-- At the start of a line a token that a line can begin with is read behind the lines so far. -/
theorem leads_opened {n : Nat} {rest : List (SymbolId × String)} {Q : Stop Value Fault → Prop}
    (stands : Stands .start lines stack)
    (opens : grammarTable.action 0 bare.1 = .reduce Production.listEmpty)
    (next : LeadsFrom discardCount scanLimit n [listSlot lines, bottom] (some bare) recovering rest Q) :
    LeadsFrom discardCount scanLimit (n + 1) stack (some bare) recovering rest Q := by
  cases stands with
  | fresh => exact leads_open opens next
  | start => exact next.mono (Nat.le_succ n)

/-- An item that is read goes on with the progress made. -/
theorem reply_number (text : String) (items : List Item) :
    reply lines .start (.number text :: items) =
      numberOf Production.exprNumber text >>= fun n => reply lines (.sum n) items := by
  show ((numberOf Production.exprNumber text).map Progress.sum >>= _) = _
  cases numberOf Production.exprNumber text <;> rfl

theorem reply_operand (n : Int) (op : Operator) (text : String) (items : List Item) :
    reply lines (.operand n op) (.number text :: items) =
      operation n op text >>= fun m => reply lines (.sum m) items := by
  show ((operation n op text).map Progress.sum >>= _) = _
  cases operation n op text <;> rfl

/-- At the start of a line there is no other beginning. -/
theorem misfit_at_start {rest : List (SymbolId × String)} (bare : SymbolId × String)
    (stands : Stands .start lines stack) (unopened : grammarTable.action 0 bare.1 = .error)
    (unread : grammarTable.action 1 bare.1 = .error) :
    ∃ state, Outline.Takes grammarTable
      (⟨stack, some bare, none, recovering, none, rest⟩ : Outline Value) state .error := by
  cases stands with
  | fresh => exact ⟨_, .byToken rfl rfl rfl rfl unopened⟩
  | start => exact ⟨_, .byToken rfl rfl rfl rfl unread⟩

section
variable (resolves : Resolves discardCount scanLimit tokens) (skips : Skips discardCount scanLimit tokens)
  (item : IsItem bare)
include resolves skips item

/-- The next token, at the start of a line. A number begins a sum and a character that was not
recognized stands for an error; a sign and a semicolon fit no line there, and the line is skipped.
-/
theorem leads_first (stands : Stands .start lines stack)
    (begun : recovering < (evaluator discardCount scanLimit).quietCount) :
    LeadsFrom discardCount scanLimit (stepsFor tokens + 7) stack (some bare) recovering
      (supply tokens) (Replies (reply lines .start (Item.of bare :: tokens.map Item.of))) := by
  cases item with
  | number text =>
    show LeadsFrom _ _ _ _ _ _ _ (Replies (reply lines .start (.number text :: tokens.map Item.of)))
    rw [reply_number]
    refine (leads_opened stands rfl (leads_number fun n => ?_)).mono (by omega : stepsFor tokens + 3 ≤ _)
    exact resolves (.sum lines n) (by omega) fun _ => by omega
  | sign op text =>
    have hmisfit : grammarTable.action 0 (signSymbol op) = .error ∧
        grammarTable.action 1 (signSymbol op) = .error := by
      cases op <;> exact ⟨rfl, rfl⟩
    obtain ⟨state, hmisfit⟩ := misfit_at_start (signSymbol op, text) stands hmisfit.1 hmisfit.2
    have hleads := leads_skipping resolves skips (.sign op text) stands hmisfit begun
    rw [Item.of_sign] at hleads ⊢
    exact hleads
  | semicolon text =>
    obtain ⟨state, hmisfit⟩ := misfit_at_start (Terminal.semicolon, text) stands rfl rfl
    exact leads_skipping resolves skips (.semicolon text) stands hmisfit begun
  | fault text =>
    refine (leads_opened stands rfl (leads_error ?_)).mono (by omega : stepsFor tokens + 2 ≤ _)
    refine resolves (.skipping lines text) ?_ fun h => absurd rfl h
    split <;> omega

/-- The next token, behind a sum. -/
theorem leads_behindSum (n : Int)
    (begun : recovering < (evaluator discardCount scanLimit).quietCount) :
    LeadsFrom discardCount scanLimit (stepsFor tokens + 7) [sumSlot n, listSlot lines, bottom]
      (some bare) recovering (supply tokens)
      (Replies (reply lines (.sum n) (Item.of bare :: tokens.map Item.of))) := by
  cases item with
  | number text =>
    exact leads_skipping resolves skips (.number text) (.sum lines n) (.byToken rfl rfl rfl rfl rfl) begun
  | sign op text =>
    rw [Item.of_sign]
    refine (leads_sign ?_).mono (by omega : stepsFor tokens + 1 ≤ _)
    exact resolves (.operand lines n op text) (by omega) fun _ => by omega
  | semicolon text =>
    refine (leads_line ?_).mono (by omega : stepsFor tokens + 3 ≤ _)
    exact resolves (.start (lines ++ [some n])) (by omega) fun _ => by omega
  | fault text =>
    exact leads_skipping resolves skips (.fault text) (.sum lines n) (.byToken rfl rfl rfl rfl rfl) begun

/-- The next token, behind a sign. Only a number goes on with the operation. Behind a sign the
recovery drops the sum that was read so far. -/
theorem leads_behindSign (n : Int) (op : Operator) (sign : String)
    (begun : recovering < (evaluator discardCount scanLimit).quietCount) :
    LeadsFrom discardCount scanLimit (stepsFor tokens + 7)
      [signSlot op sign, sumSlot n, listSlot lines, bottom] (some bare) recovering (supply tokens)
      (Replies (reply lines (.operand n op) (Item.of bare :: tokens.map Item.of))) := by
  have hskips : grammarTable.action (signState op) bare.1 = .error →
      LeadsFrom discardCount scanLimit (stepsFor tokens + 7)
        [signSlot op sign, sumSlot n, listSlot lines, bottom] (some bare) recovering (supply tokens)
        (Replies (reply lines .skipping (Item.of bare :: tokens.map Item.of))) := by
    intro hmisfit
    have htakes : Outline.Takes grammarTable
        (⟨[signSlot op sign, sumSlot n, listSlot lines, bottom], some bare, none, recovering, none,
          supply tokens⟩ : Outline Value) (signState op) .error := by
      cases op <;> exact .byToken rfl rfl rfl rfl hmisfit
    exact leads_skipping resolves skips item (.operand lines n op sign) htakes begun
  cases item with
  | number text =>
    show LeadsFrom _ _ _ _ _ _ _
      (Replies (reply lines (.operand n op) (.number text :: tokens.map Item.of)))
    rw [reply_operand]
    refine (leads_operand fun m => ?_).mono (by omega : stepsFor tokens + 2 ≤ _)
    exact resolves (.sum lines m) (by omega) fun _ => by omega
  | sign op' text =>
    have hleads := hskips (by cases op <;> cases op' <;> rfl)
    rw [Item.of_sign] at hleads ⊢
    exact hleads
  | semicolon text => exact hskips (by cases op <;> rfl)
  | fault text => exact hskips (by cases op <;> rfl)

/-- The next token, behind an error. -/
theorem leads_behindError (text : String)
    (quiet : recovering ≤ (evaluator discardCount scanLimit).quietCount) :
    LeadsFrom discardCount scanLimit (stepsFor tokens + 7) [errorSlot text, listSlot lines, bottom]
      (some bare) recovering (supply tokens)
      (Replies (reply lines .skipping (Item.of bare :: tokens.map Item.of))) := by
  -- Right behind a recovery the token is thrown away if it does not fit; later on it is a new error.
  by_cases hfull : recovering = (evaluator discardCount scanLimit).quietCount
  · subst hfull
    exact (skips lines text item).mono (by omega)
  · obtain ⟨text', rfl⟩ | ⟨misfit, -⟩ := item.behind_error
    · exact (leads_skipped resolves quiet lines text text').mono (by omega)
    · exact leads_skipping resolves skips item (.skipping lines text)
        (.byToken rfl rfl rfl rfl misfit) (by omega)

/-- Wherever the parser stands, the next token leads on. -/
theorem resolves_cons : Resolves discardCount scanLimit (bare :: tokens) := by
  intro progress lines stack recovering stands quiet hbegun
  have hmore : stepsFor tokens + 7 ≤ stepsFor (bare :: tokens) := by
    unfold stepsFor
    rw [List.length_cons]
    omega
  refine leads_look stands (Outline.Leads.mono ?_ hmore)
  cases stands with
  | fresh => exact leads_first resolves skips item .fresh (hbegun nofun)
  | start => exact leads_first resolves skips item (.start lines) (hbegun nofun)
  | sum lines n => exact leads_behindSum resolves skips item n (hbegun nofun)
  | operand lines n op sign => exact leads_behindSign resolves skips item n op sign (hbegun nofun)
  | skipping lines text => exact leads_behindError resolves skips item text quiet

end

/-- Whatever items are to come, the parser comes to the reply, from wherever it stands. The reply is
followed by recursion over the items, together with the searches for the end of a line that
recoveries begin (`skips_cons`). -/
theorem resolves (discardCount scanLimit : Nat) (items : ∀ bare ∈ tokens, IsItem bare) :
    Resolves discardCount scanLimit tokens ∧ Skips discardCount scanLimit tokens := by
  -- Both at once: a recovery goes on to the next token, and from there either way.
  induction tokens with
  | nil =>
    have hresolves := resolves_nil discardCount scanLimit
    exact ⟨hresolves, skips_nil hresolves⟩
  | cons bare tokens ih =>
    obtain ⟨item, hitems⟩ := List.forall_mem_cons.mp items
    obtain ⟨hresolves, hskips⟩ := ih hitems
    have hbegins := resolves_cons hresolves hskips item
    exact ⟨hbegins, skips_cons hbegins hresolves hskips item⟩

end

end ShiftReduce.Calculator
