import ShiftReduce.Proofs.Calculator.Losses
import ShiftReduce.Proofs.Calculator.Totality

/-!
# Accounts of the lines with errors

Every scene of a parse owes what the lines leave that are still to be read (`Calculator.Scene.Owes`): a
line that is a sum so far owes what is due for it from there on, and one with an error owes the record of
that. A step settles at most the debt for one line (`Calculator.Scene.Owes.goes`), so that a parse that
comes to results has left what the lines of its input leave (`Calculator.skipped_texts`).

The steps, in the order of the module:

* stages and records: what a stage awaits and has for results (`Calculator.Stage.Reduced.kept`,
  `Calculator.Stage.fits_of_shifts`), and which texts a record would leave
  (`Calculator.Scene.lost`);
* tokens that are found are new ones (`Calculator.Scene.Knows`), without which a token that is
  thrown away could be taken for the one that the record begins with;
* debts: a line is `Calculator.Scene.Sound` or `Calculator.Scene.Spoiled`, each with a law for every
  step it can take, which `Calculator.Scene.Owes.goes` puts together;
* accounts: what was left and what is owed go together from the opening to the end
  (`Calculator.Scene.Account.goes`, `Calculator.Scene.Account.reaches`), where nothing is owed
  (`Calculator.Scene.Owes.accepted`).

That the text left for a line is its own is false: the record is cleared only where an error is
found after the last one is over (`Calculator.text_is_left_again`).
-/

namespace ShiftReduce.Calculator

/-! ## Recognized tokens -/

/-- A token of a number, a sign or a semicolon, with the text that such a token has. No error token
and no end of the input is one. -/
inductive IsPlain : SymbolId × String → Prop
  | number (text : String) : IsPlain (Terminal.number, text)
  | sign (op : Operator) : IsPlain (signSymbol op, op.sign)
  | semicolon : IsPlain (Terminal.semicolon, ";")

section
variable {bare : SymbolId × String} {bares : List (SymbolId × String)}

/-- Any token is, but for those of characters that are not recognized. -/
theorem IsToken.plain (h : IsToken bare) (proper : bare.1 ≠ SymbolId.error) : IsPlain bare := by
  cases h with
  | number text => exact .number text
  | sign sign =>
    unfold sign? at sign
    split at sign <;> cases sign
    · exact .semicolon
    · exact .sign .plus
    · exact .sign .minus
  | stray => exact absurd rfl proper

theorem IsPlain.terminal (h : IsPlain bare) : bare.1 < grammarTable.terminalCount := by
  cases h with
  | number => exact show 6 < 7 by decide
  | sign op => cases op <;> exact show _ < 7 by decide
  | semicolon => exact show 3 < 7 by decide

theorem IsPlain.proper (h : IsPlain bare) :
    bare.1 ≠ SymbolId.endOfInput ∧ bare.1 ≠ SymbolId.error := by
  cases h with
  | sign op => cases op <;> exact ⟨nofun, nofun⟩
  | number | semicolon => exact ⟨nofun, nofun⟩

/-- Its text is that of the item that it is. -/
theorem IsPlain.text (h : IsPlain bare) : (Item.of bare).text = bare.2 := by
  cases h with
  | sign op => cases op <;> rfl
  | number | semicolon => rfl

theorem item_of_semicolon (h : bare.1 = Terminal.semicolon) : Item.of bare = .semicolon := by
  obtain ⟨symbol, text⟩ := bare
  subst h
  rfl

/-- The items that the tokens up to the end of the input are. -/
def itemsOf (bares : List (SymbolId × String)) : List Item := bares.dropLast.map Item.of

/-- A token with others behind it is the first item. -/
theorem itemsOf_cons (others : Scene.Supplied IsPlain bares) :
    itemsOf (bare :: bares) = Item.of bare :: itemsOf bares := by
  have hsome : bares ≠ [] := by cases others <;> exact List.cons_ne_nil _ _
  unfold itemsOf
  rw [List.dropLast_cons_of_ne_nil hsome]
  rfl

/-- At the end of the input there are no items. -/
theorem itemsOf_end (h : Scene.Supplied IsPlain (bare :: bares)) (ends : bare.1 = SymbolId.endOfInput) :
    itemsOf (bare :: bares) = [] := by
  cases h with
  | last => rfl
  | item holds => exact absurd ends holds.proper.1

theorem Scene.Supplied.ne_error (h : Supplied IsPlain (bare :: bares)) : bare.1 ≠ SymbolId.error := by
  cases h with
  | last => nofun
  | item holds => exact holds.proper.2

end

/-- Behind an item that fits the line is still a sum. -/
theorem Awaited.ne_ending {awaited next : Awaited} {item : Item} (fits : awaited.next? item = some next) :
    next ≠ .ending := by
  unfold next? at fits
  split at fits <;> cases fits <;> nofun

/-! ## Stages -/

namespace Stage

/-- The results of the lines that are over, as they come to stand in the list. -/
def results : Stage → Lines
  | opening => []
  | dropped past _ _ => past ++ [none]
  | summed past n _ => past ++ [some n]
  | line past result => past ++ [result]
  | start past | broken past _ | first past _ | sum past _ | signed past _ _ _
  | operand past _ _ _ _ => past

/-- What the line goes on with. A stage between two lines awaits the number that the next one starts
with. -/
def awaited : Stage → Awaited
  | opening | start _ | dropped _ _ _ | summed _ _ _ | signed _ _ _ _ | line _ _ => .number
  | first _ _ | sum _ _ | operand _ _ _ _ _ => .sign
  | broken _ _ => .ending

variable {stage next : Stage} {bare : SymbolId × String}

/-- A reduction changes nothing of that. -/
theorem Reduced.kept {number : ProductionId} (h : Reduced stage number next) :
    next.awaited = stage.awaited ∧ next.results = stage.results := by
  cases h <;> exact ⟨rfl, rfl⟩

theorem results_base (waits : stage.reduction? = none) : stage.base.results = stage.results := by
  cases stage with
  | opening | start | broken | sum | signed => rfl
  | dropped | first | summed | operand | line => cases waits

/-- A token that is shifted in a sum is an item that fits, and with a semicolon the sum is a result. -/
theorem fits_of_shifts (h : stage.meets bare = .shifts next) (plain : IsPlain bare)
    (sound : stage.awaited ≠ .ending) :
    stage.awaited.next? (Item.of bare) = some next.awaited ∧
      ((Item.of bare ≠ .semicolon ∧ next.results = stage.results) ∨
        Item.of bare = .semicolon ∧ ∃ n, next.results = stage.results ++ [some n]) := by
  cases stage with
  | start past =>
    cases plain with
    | number text =>
      cases h
      exact ⟨rfl, .inl ⟨nofun, rfl⟩⟩
    | sign op => cases op <;> cases h
    | semicolon => cases h
  | sum past n =>
    cases plain with
    | number text => cases h
    | sign op => cases op <;> cases h <;> exact ⟨rfl, .inl ⟨nofun, rfl⟩⟩
    | semicolon =>
      cases h
      exact ⟨rfl, .inr ⟨rfl, n, rfl⟩⟩
  | signed past n op sign =>
    cases plain with
    | number text =>
      cases h
      exact ⟨rfl, .inl ⟨nofun, rfl⟩⟩
    | sign op => cases op <;> cases h
    | semicolon => cases h
  | broken => exact absurd rfl sound
  | opening =>
    cases plain with
    | sign op => cases op <;> cases h
    | number | semicolon => cases h
  | dropped | first | summed | operand | line => cases h

/-- A line with an error ends behind that alone. -/
theorem sound_of_dropped {past : Lines} {error semicolon : String}
    (h : stage.meets bare = .shifts (dropped past error semicolon)) : stage.awaited = .ending := by
  cases stage with
  | broken => rfl
  | opening | start | sum | signed => simp only [meets] at h; grind
  | dropped | first | summed | operand | line => cases h

/-- Behind an error nothing but a semicolon is shifted. -/
theorem semicolon_of_shifts {past : Lines} {error : String}
    (h : (broken past error).meets bare = .shifts next) :
    bare.1 = Terminal.semicolon ∧ next = dropped past error bare.2 := by
  obtain ⟨symbol, text⟩ := bare
  by_cases hsymbol : symbol = Terminal.semicolon
  · subst hsymbol
    cases h
    exact ⟨rfl, rfl⟩
  · rw [meets, if_neg hsymbol] at h
    cases h

/-- Whatever does not fit behind an error is no semicolon. -/
theorem ne_semicolon_of_misfits {past : Lines} {error : String}
    (h : (broken past error).meets bare = .misfits) (plain : IsPlain bare) :
    Item.of bare ≠ .semicolon := by
  cases plain with
  | number => nofun
  | sign op => cases op <;> nofun
  | semicolon => cases h

/-- A token that does not fit is an item that does not. -/
theorem misfit_of_misfits (h : stage.meets bare = .misfits) (waits : stage.reduction? = none)
    (plain : IsPlain bare) : stage.awaited.next? (Item.of bare) = none := by
  cases stage with
  | broken => rfl
  | opening | start | signed =>
    cases plain with
    | number => cases h
    | sign op => cases op <;> rfl
    | semicolon => rfl
  | sum =>
    cases plain with
    | number => rfl
    | sign op => cases op <;> cases h
    | semicolon => cases h
  | dropped | first | summed | operand | line => cases waits

theorem waits_base (stage : Stage) : stage.base.reduction? = none := by
  cases stage <;> rfl

end Stage

/-- The token of the lexer's that is ahead, or held back behind an error token that a recovery made.
Reference: `Parser::pre_error`. -/
def Ahead.token? : Ahead → Option Token
  | .none => .none
  | .token t => some t
  | .made _ held => held

/-! ## Records -/

namespace Scene

/-- The texts that the record of a scene would leave for its line. Reference: `RecoveryTrack::text`.
-/
def record (x : Scene) : List String := (x.offending.toList ++ x.discarded).map (·.text)

/-- The texts that were left, with that of a line with an error that is over. -/
def lost (x : Scene) : List String :=
  match x.stage with
  | .dropped _ _ _ => x.skipped ++ [x.loss]
  | _ => x.skipped

variable {quiet left : Nat} {tracked : Bool} {x y : Scene} {record : List String} {t : Token}
  {owed all : List (Option String)}

theorem lost_eq (other : ∀ past error semicolon, x.stage ≠ .dropped past error semicolon) :
    x.lost = x.skipped := by
  unfold lost
  split
  · next h => exact absurd h (other _ _ _)
  · rfl

theorem lost_of_waits (waits : x.stage.reduction? = none) : x.lost = x.skipped := by
  refine lost_eq fun past error semicolon h => ?_
  rw [h] at waits
  cases waits

/-- A reduction leaves the text of a line that is over. -/
theorem lost_reduced {number : ProductionId} {next : Stage} (h : Stage.Reduced x.stage number next) :
    (x.reduced number next).lost = x.lost := by
  obtain ⟨stage, _⟩ := x
  cases h with
  | operation _ _ _ op => cases op <;> rfl
  | _ => rfl

/-- The tokens that a scene holds were found before, so a token that is found later is none of them.
-/
structure Knows (x : Scene) : Prop where
  offending : ∀ t, x.offending = some t → t ∈ x.seen
  ahead : ∀ t, x.ahead.token? = some t → t ∈ x.seen

/-- A recovery holds no other tokens. -/
theorem Knows.retried (offending : ∀ t, x.offending = some t → t ∈ x.seen) (seen : t ∈ x.seen) :
    (x.retried quiet t).Knows where
  offending other h := by
    cases hoffending : x.offending with
    | none =>
      rw [Scene.retried, hoffending] at h
      cases h
      exact seen
    | some first =>
      rw [Scene.retried, hoffending] at h
      cases h
      exact offending _ hoffending
  ahead other h := by
    unfold Scene.retried Ahead.token? at h
    dsimp only at h
    split at h <;> cases h
    exact seen

/-- Whatever the machine does, the tokens that it holds were found before. Only a token that was
just found can become the one ahead, and only one that is ahead can become the one held back or the
first of a record. -/
theorem Knows.goes (h : x.Knows) (goes : Goes quiet tracked x y) : y.Knows := by
  cases goes with
  | reduce | begin => exact ⟨h.offending, h.ahead⟩
  | look waits absent coming finds =>
    refine ⟨fun t hoffending => List.mem_cons_of_mem _ (h.offending t hoffending), fun t hahead => ?_⟩
    cases hahead
    exact List.mem_cons_self
  | @shift t next ahead meets =>
    unfold shifted
    split
    · refine ⟨fun other hother => ?_, nofun⟩
      cases hother
      exact h.ahead t (by rw [ahead]; rfl)
    · exact ⟨h.offending, nofun⟩
  | @shiftMade text held next ahead meets =>
    cases held with
    | none => exact ⟨h.offending, nofun⟩
    | some t =>
      refine ⟨h.offending, fun other hother => h.ahead other ?_⟩
      rw [ahead]
      exact hother
  | @recover t waits ahead misfit begun =>
    have hseen := h.ahead t (by rw [ahead]; rfl)
    unfold cleared
    split
    · exact .retried nofun hseen
    · exact .retried h.offending hseen
  | discard waits ahead misfit full proper coming finds =>
    exact .retried (fun other hother => List.mem_cons_of_mem _ (h.offending other hother))
      List.mem_cons_self

/-! ## Debts -/

/-- A line that is a sum so far. The record is `record`, at least where positions are tracked, and then no
token ahead is the one that it begins with. -/
structure Sound (quiet : Nat) (tracked : Bool) (record : List String) (x : Scene) : Prop where
  sound : x.stage.awaited ≠ .ending
  plain : ∀ text held, x.ahead ≠ .made text held
  below : x.recovering < quiet
  known : x.recovering ≠ 0 → x.offending.isSome = true
  same : tracked = true → record = x.record
  fresh : tracked = true → ∀ t, x.ahead = .token t → t.symbol ≠ SymbolId.endOfInput →
    x.offending ≠ some t

/-- A line with an error, right behind a recovery at a token. The record with that token is the one that
`left` and `record` lead to, at least where positions are tracked. -/
structure Spoiled (quiet : Nat) (tracked : Bool) (left : Nat) (record : List String) (t : Token)
    (x : Scene) : Prop where
  stands : (x.ahead = .token t ∧ ∃ past error, x.stage = .broken past error) ∨
    (∃ text, x.ahead = .made text (some t)) ∧ x.stage.base = x.stage
  full : x.recovering = quiet
  known : x.offending.isSome = true
  same : tracked = true → t.symbol ≠ SymbolId.endOfInput →
    recordAt left record (Item.of t.bare) =
      if x.offending = some t then x.record else recordWith x.record (Item.of t.bare)

/-- What is still to be left of the lines that are read from there on. -/
inductive Owes (quiet : Nat) (tracked : Bool) (x : Scene) : List (Option String) → Prop
  | sound {record : List String} (h : x.Sound quiet tracked record) :
      Owes quiet tracked x (due quiet x.stage.awaited x.recovering record (itemsOf x.unread))
  | spoiled {left : Nat} {record : List String} {t : Token} (h : x.Spoiled quiet tracked left record t) :
      Owes quiet tracked x (due quiet .ending left record (itemsOf x.unread))

/-- What a step does about the debts: nothing, or it settles the one for a line that is over. -/
inductive Settles (tracked : Bool) (x y : Scene) : List (Option String) → List (Option String) → Prop
  | nothing {owed : List (Option String)} (results : y.stage.results = x.stage.results)
      (lost : y.lost = x.lost) : Settles tracked x y owed owed
  | sum {owed : List (Option String)} (n : Int) (results : y.stage.results = x.stage.results ++ [some n])
      (lost : y.lost = x.lost) : Settles tracked x y (none :: owed) owed
  | loss {owed : List (Option String)} {text due : String}
      (results : y.stage.results = x.stage.results ++ [none]) (lost : y.lost = x.lost ++ [text])
      (same : tracked = true → text = due) : Settles tracked x y (some due :: owed) owed

/-- What is due from an item on that does not fit is due behind any error. -/
theorem due_eq_ending {awaited : Awaited} {item : Item} {items : List Item}
    (misfit : awaited.next? item = none) :
    due quiet awaited left record (item :: items) = due quiet .ending left record (item :: items) := by
  rw [due, misfit]
  rfl

/-- A recovery goes on with the record that there is. -/
theorem retried_of_known (quiet : Nat) (t : Token) (known : x.offending.isSome = true) :
    (x.retried quiet t).offending = x.offending ∧ (x.retried quiet t).record = x.record := by
  obtain ⟨first, hfirst⟩ := Option.isSome_iff_exists.mp known
  have hoffending : (x.retried quiet t).offending = x.offending := by
    unfold retried
    rw [hfirst]
    rfl
  refine ⟨hoffending, ?_⟩
  unfold Scene.record
  rw [hoffending]
  rfl

/-- A recovery turns a line that is a sum so far into one with an error. The text of the token at
fault begins a new record if the last error is over, and goes to the end of the record otherwise;
the debt is the same, since the item does not fit the line whatever it awaits (`due_eq_ending`). -/
theorem Sound.recovers (h : x.Sound quiet tracked record) (fit : x.Fit quiet IsPlain)
    (waits : x.stage.reduction? = none) (ahead : x.ahead = .token t)
    (misfit : x.stage.meets t.bare = .misfits) :
    (x.cleared.retried quiet t).Owes quiet tracked
      (due quiet x.stage.awaited x.recovering record (itemsOf x.unread)) := by
  have hsupplied := fit.supplied ahead
  have hkept : (x.cleared.retried quiet t).unread = x.unread := by
    rw [unread_retried, unread_of_token ahead]
    unfold cleared
    split <;> rfl
  have hdue : due quiet x.stage.awaited x.recovering record (itemsOf x.unread) =
      due quiet .ending x.recovering record (itemsOf (x.cleared.retried quiet t).unread) := by
    rw [hkept, unread_of_token ahead]
    by_cases hend : t.symbol = SymbolId.endOfInput
    · rw [itemsOf_end hsupplied hend, due, due]
    · obtain ⟨hplain, hothers⟩ := fit.inside ahead hend
      rw [itemsOf_cons hothers, due_eq_ending (Stage.misfit_of_misfits misfit waits hplain)]
  rw [hdue]
  refine .spoiled (t := t)
    ⟨.inr ⟨⟨t.text, ?_⟩, Stage.base_base _⟩, rfl, rfl, fun htracked hproper => ?_⟩
  · exact congrArg (Ahead.made t.text) (if_neg hsupplied.ne_error)
  · have hplain := (fit.inside ahead hproper).1
    unfold recordAt cleared
    split
    · show [(Item.of t.bare).text] = if some t = some t then [t.text] else _
      rw [if_pos rfl, hplain.text]
      rfl
    · next hrunning =>
      obtain ⟨hoffending, hrecord⟩ := retried_of_known quiet t (h.known hrunning)
      rw [hoffending, hrecord, if_neg (h.fresh htracked t ahead hproper), h.same htracked]

/-- The shift of a recognized token starts no recovery. -/
theorem shifted_of_plain (plain : IsPlain t.bare) {next : Stage} :
    x.shifted quiet t next =
      { x with stage := next, ahead := .none, recovering := x.recovering - 1 } :=
  if_neg fun h => plain.proper.2 h.1

/-- A step within a line that is a sum so far. Reductions and looks ahead settle nothing. A token
that is shifted fits the line, which goes on or ends as a sum with its result; the only other step
there is is a recovery, and from then on the line owes its record (`Sound.recovers`). -/
theorem Sound.goes (h : x.Sound quiet tracked record) (fit : x.Fit quiet IsPlain) (knows : x.Knows)
    (goes : Goes quiet tracked x y) :
    ∃ owed, y.Owes quiet tracked owed ∧
      Settles tracked x y (due quiet x.stage.awaited x.recovering record (itemsOf x.unread)) owed := by
  cases goes with
  | @reduce number next reduction =>
    have hreduced := Stage.reduced_of_reduction reduction
    obtain ⟨hawaited, hresults⟩ := hreduced.kept
    rw [← hawaited]
    exact ⟨_, .sound (x := x.reduced number next)
      ⟨hawaited ▸ h.sound, h.plain, h.below, h.known, h.same, h.fresh⟩,
      .nothing hresults (lost_reduced hreduced)⟩
  | @look lexeme others t waits absent coming finds =>
    have hsupplied := fit.unread
    rw [unread_of_coming absent coming finds] at hsupplied ⊢
    refine ⟨_, .sound (x := { x.found t others with ahead := .token t })
      ⟨h.sound, nofun, h.below, h.known, h.same, fun htracked other hahead hproper hoffending => ?_⟩,
      .nothing rfl rfl⟩
    cases hahead
    exact finds.fresh htracked hproper hsupplied.ne_error (knows.offending t hoffending)
  | @begin bare ahead meets =>
    have hstage := Stage.eq_opening meets
    rw [hstage]
    refine ⟨_, .sound (x := { x with stage := .start [] })
      ⟨nofun, h.plain, h.below, h.known, h.same, h.fresh⟩, .nothing ?_ ?_⟩
    · exact (congrArg Stage.results hstage).symm
    · unfold lost
      rw [hstage]
  | @shift t next ahead meets =>
    obtain ⟨hplain, hothers⟩ := fit.inside ahead (proper_of_shifts meets)
    obtain ⟨hfits, hresults⟩ := Stage.fits_of_shifts meets hplain h.sound
    have hsound : (x.shifted quiet t next).Sound quiet tracked record := by
      rw [shifted_of_plain hplain]
      exact ⟨Awaited.ne_ending hfits, nofun, Nat.lt_of_le_of_lt (Nat.sub_le _ 1) h.below,
        fun hrunning => h.known fun hover => hrunning (by rw [hover]), h.same, nofun⟩
    have howes := Owes.sound hsound
    have hlost : (x.shifted quiet t next).lost = x.lost := by
      have hwaits : x.stage.reduction? = none := Stage.waits_of_meets (by rw [meets]; nofun)
      rw [lost_of_waits hwaits, shifted_of_plain hplain]
      refine lost_eq fun past error semicolon hdropped => h.sound ?_
      exact Stage.sound_of_dropped (meets.trans (congrArg Meeting.shifts hdropped))
    rw [shifted_of_plain hplain] at howes hlost ⊢
    rw [unread_of_token ahead, itemsOf_cons hothers, due, hfits]
    obtain ⟨hinside, hresults⟩ | ⟨hends, n, hresults⟩ := hresults
    · dsimp only
      rw [if_neg hinside]
      exact ⟨_, howes, .nothing hresults hlost⟩
    · dsimp only
      rw [if_pos hends]
      exact ⟨_, howes, .sum n hresults hlost⟩
  | shiftMade ahead meets => exact absurd ahead (h.plain _ _)
  | recover waits ahead misfit begun =>
    refine ⟨_, h.recovers fit waits ahead misfit, .nothing ?_ ?_⟩
    · have hresults := Stage.results_base waits
      unfold cleared
      split <;> exact hresults
    · rw [lost_of_waits waits, lost_of_waits (Stage.waits_base _)]
      unfold cleared
      split <;> rfl
  | discard waits ahead misfit full proper coming finds =>
    exact absurd full (Nat.ne_of_lt h.below)

/-- A line with an error waits for a token. -/
theorem Spoiled.waits (h : x.Spoiled quiet tracked left record t) : x.stage.reduction? = none := by
  obtain ⟨-, past, error, hstage⟩ | ⟨-, hbase⟩ := h.stands
  · rw [hstage]
    rfl
  · exact hbase ▸ Stage.waits_base _

/-- Its token is the one that is ahead. -/
theorem Spoiled.broken (h : x.Spoiled quiet tracked left record t) {other : Token}
    (ahead : x.ahead = .token other) : other = t ∧ ∃ past error, x.stage = .broken past error := by
  obtain ⟨hahead, hstage⟩ | ⟨⟨text, hahead⟩, -⟩ := h.stands
  · cases ahead.symm.trans hahead
    exact ⟨rfl, hstage⟩
  · cases ahead.symm.trans hahead

/-- A token that is thrown away is recorded, unless it is the one that the record begins with. -/
theorem record_thrown (x : Scene) (plain : IsPlain t.bare) (inside : Item.of t.bare ≠ .semicolon) :
    (x.thrown t).record =
      if x.offending = some t then x.record else recordWith x.record (Item.of t.bare) := by
  have htext : (Item.of t.bare).text = t.text := plain.text
  rw [recordWith_of_inside inside, htext]
  unfold Scene.record thrown
  split
  · rfl
  · rw [← List.append_assoc, List.map_append]
    rfl

/-- A line with an error ends with the semicolon that is shifted behind the error token. Its record
is left if the error is not over by then, and the next line is one that is a sum so far. -/
theorem Spoiled.ends (several : 0 < quiet) (h : x.Spoiled quiet tracked left record t)
    (fit : x.Fit quiet IsPlain) {next : Stage} (ahead : x.ahead = .token t)
    (meets : x.stage.meets t.bare = .shifts next) :
    ∃ owed, (x.shifted quiet t next).Owes quiet tracked owed ∧
      Settles tracked x (x.shifted quiet t next)
        (due quiet .ending left record (itemsOf x.unread)) owed := by
  obtain ⟨-, past, error, hstage⟩ := h.broken ahead
  obtain ⟨hsemicolon, rfl⟩ := Stage.semicolon_of_shifts (hstage ▸ meets)
  obtain rfl := h.full
  obtain ⟨hplain, hothers⟩ := fit.inside ahead (proper_of_shifts meets)
  have hitem := item_of_semicolon hsemicolon
  have hrecord : tracked = true → recordAt left record .semicolon = x.record := by
    intro htracked
    have hsame := h.same htracked (proper_of_shifts meets)
    rw [hitem] at hsame
    rw [hsame]
    split <;> rfl
  have hbehind : (x.shifted x.recovering t (.dropped past error t.bare.2)).Sound x.recovering tracked
      (recordAt left record .semicolon) := by
    rw [shifted_of_plain hplain]
    exact ⟨nofun, nofun, Nat.sub_lt several Nat.one_pos, fun _ => h.known, hrecord, nofun⟩
  have howes := Owes.sound hbehind
  rw [shifted_of_plain hplain] at howes ⊢
  rw [unread_of_token ahead, itemsOf_cons hothers, hitem]
  have hloss : Scene.lost { x with
      stage := .dropped past error t.bare.2, ahead := .none, recovering := x.recovering - 1 } =
      x.lost ++ [if x.recovering - 1 = 0 then "" else " ".intercalate x.record] := by
    rw [lost_of_waits h.waits]
    rfl
  refine ⟨_, howes, .loss ?_ hloss fun htracked => ?_⟩
  · rw [hstage]
    rfl
  · unfold lossOf
    rw [hrecord htracked]
    simp only [Nat.sub_eq_zero_iff_le]

/-- A token of a line with an error is thrown away. Its text is recorded unless it begins the
record, and the recovery is made again for the next token, so the line stays one with an error. -/
theorem Spoiled.discards (several : 0 < quiet) (h : x.Spoiled quiet tracked left record t)
    (fit : x.Fit quiet IsPlain) (knows : x.Knows) {next : Token} {lexeme : Found} {others : List Found}
    (ahead : x.ahead = .token t) (misfit : x.stage.meets t.bare = .misfits)
    (proper : t.symbol ≠ SymbolId.endOfInput) (coming : x.coming = lexeme :: others)
    (finds : x.Finds tracked lexeme.lexeme next) :
    (((x.thrown t).found next others).retried quiet next).Owes quiet tracked
      (due quiet .ending left record (itemsOf x.unread)) := by
  obtain ⟨-, past, error, hstage⟩ := h.broken ahead
  obtain ⟨hplain, hnext⟩ := fit.inside ahead proper
  have hunread : (((x.thrown t).found next others).retried quiet next).unread =
      x.coming.map (·.lexeme.bare) := by
    rw [unread_retried, coming, finds.bare]
    rfl
  have hinside : Item.of t.bare ≠ .semicolon := Stage.ne_semicolon_of_misfits (hstage ▸ misfit) hplain
  obtain ⟨hoffending, hrecord⟩ :=
    retried_of_known (x := (x.thrown t).found next others) quiet next h.known
  rw [unread_of_token ahead, itemsOf_cons hnext, due_of_misfit rfl hinside, ← hunread]
  rw [coming, List.map_cons, ← finds.bare] at hnext
  refine .spoiled (t := next)
    ⟨.inr ⟨⟨next.text, ?_⟩, Stage.base_base _⟩, rfl, ?_, fun htracked hproper => ?_⟩
  · exact congrArg (Ahead.made next.text) (if_neg hnext.ne_error)
  · rw [hoffending]
    exact h.known
  · have hother : x.offending ≠ some next := fun hsame =>
      finds.fresh htracked hproper hnext.ne_error (knows.offending next hsame)
    rw [hoffending, hrecord]
    show _ = if x.offending = some next then _ else recordWith (x.thrown t).record _
    rw [if_neg hother, record_thrown x hplain hinside, h.same htracked proper, recordAt,
      if_neg (Nat.ne_of_gt several)]

/-- A step within a line with an error. An error token that the recovery made is ahead at first;
behind it the line ends with a semicolon (`Spoiled.ends`), or the token is thrown away
(`Spoiled.discards`). A second recovery cannot begin, since no token of the lexer's is shifted
before the line is over. -/
theorem Spoiled.goes (several : 0 < quiet) (h : x.Spoiled quiet tracked left record t)
    (fit : x.Fit quiet IsPlain) (knows : x.Knows) (goes : Goes quiet tracked x y) :
    ∃ owed, y.Owes quiet tracked owed ∧
      Settles tracked x y (due quiet .ending left record (itemsOf x.unread)) owed := by
  cases goes with
  | reduce reduction => cases h.waits.symm.trans reduction
  | look waits absent coming finds =>
    obtain ⟨hahead, -⟩ | ⟨⟨text, hahead⟩, -⟩ := h.stands <;> cases absent.symm.trans hahead
  | @begin bare ahead meets =>
    have hstage := Stage.eq_opening meets
    have hmade : ∃ text, x.ahead = .made text (some t) := by
      obtain ⟨-, past, error, hbroken⟩ | ⟨hmade, -⟩ := h.stands
      · cases hstage.symm.trans hbroken
      · exact hmade
    refine ⟨_, .spoiled (x := { x with stage := .start [] }) ⟨.inr ⟨hmade, rfl⟩, h.full, h.known, h.same⟩,
      .nothing ?_ ?_⟩
    · exact (congrArg Stage.results hstage).symm
    · unfold lost
      rw [hstage]
  | shift ahead meets =>
    obtain ⟨rfl, -⟩ := h.broken ahead
    exact h.ends several fit ahead meets
  | @shiftMade text held next ahead meets =>
    obtain ⟨past, hstage, rfl⟩ := Stage.broken_of_shifts meets
    obtain ⟨-, past, error, hbroken⟩ | ⟨⟨other, hmade⟩, -⟩ := h.stands
    · cases hstage.symm.trans hbroken
    · cases ahead.symm.trans hmade
      have hunread : x.unread = (x.shiftedMade (some t) (.broken past text)).unread := by
        unfold Scene.unread
        rw [ahead]
        rfl
      rw [hunread]
      refine ⟨_, .spoiled (x := x.shiftedMade (some t) (.broken past text))
        ⟨.inl ⟨rfl, past, text, rfl⟩, h.full, h.known, h.same⟩, .nothing ?_ ?_⟩
      · exact (congrArg Stage.results hstage).symm
      · unfold lost
        rw [hstage]
        rfl
  | recover waits ahead misfit begun => exact absurd h.full begun
  | discard waits ahead misfit full proper coming finds =>
    obtain ⟨rfl, -⟩ := h.broken ahead
    refine ⟨_, h.discards several fit knows ahead misfit proper coming finds,
      .nothing (Stage.results_base h.waits) ?_⟩
    rw [lost_of_waits h.waits, lost_of_waits (Stage.waits_base _)]
    rfl

/-- A step settles at most the debt for one line. This is the step of the induction that
`Account.goes` lifts to parses. -/
theorem Owes.goes (several : 0 < quiet) (h : x.Owes quiet tracked owed) (fit : x.Fit quiet IsPlain)
    (knows : x.Knows) (goes : Goes quiet tracked x y) :
    ∃ owed', y.Owes quiet tracked owed' ∧ Settles tracked x y owed owed' := by
  cases h with
  | sound h => exact h.goes fit knows goes
  | spoiled h => exact h.goes several fit knows goes

/-- Where the input is accepted, nothing is owed any more. The input is accepted at the start of a
line and in front of its end, so there are no items to come. -/
theorem Owes.accepted {bare : SymbolId × String} {lines : Lines} (h : x.Owes quiet tracked owed)
    (fit : x.Fit quiet IsPlain) (ahead : x.ahead.bare? = some bare)
    (meets : x.stage.meets bare = .accepts lines) : owed = [] := by
  have hstage := Stage.eq_start meets
  have hend : bare.1 = SymbolId.endOfInput := by
    rw [hstage] at meets
    simp only [Stage.meets] at meets
    grind
  have hitems : itemsOf x.unread = [] := by
    cases hahead : x.ahead with
    | none =>
      rw [hahead] at ahead
      cases ahead
    | token t =>
      rw [hahead] at ahead
      cases ahead
      rw [unread_of_token hahead]
      exact itemsOf_end (fit.supplied hahead) hend
    | made text held =>
      rw [hahead] at ahead
      cases ahead
      cases hend
  cases h with
  | sound h => rw [hitems, due]
  | spoiled h => rw [hitems, due]

/-! ## Accounts -/

/-- The account of a parse that is to leave texts for `all` lines: `texts` are left behind the ones from
before, and what there is for the other lines is owed. -/
structure Account (quiet : Nat) (tracked : Bool) (before : List String) (all owed : List (Option String))
    (texts : List String) (x : Scene) : Prop where
  owes : x.Owes quiet tracked owed
  lost : x.lost = before ++ texts
  count : texts.length = x.stage.results.count none
  results : x.stage.results.map Option.isSome ++ owed.map Option.isNone = all.map Option.isNone
  balance : tracked = true → texts ++ owed.reduceOption = all.reduceOption

variable {before texts : List String}

/-- A step keeps the account: what is left so far and what the rest of the input leaves go together.
The invariant of the parse: `Owes` is kept by every step, and what a step settles is what it leaves.
-/
theorem Account.goes (several : 0 < quiet) (h : x.Account quiet tracked before all owed texts)
    (fit : x.Fit quiet IsPlain) (knows : x.Knows) (goes : Goes quiet tracked x y) :
    ∃ owed' texts', y.Account quiet tracked before all owed' texts' := by
  obtain ⟨owed', howes, hsettles⟩ := h.owes.goes several fit knows goes
  have hresults := h.results
  cases hsettles with
  | nothing results lost =>
    exact ⟨owed, texts, howes, lost.trans h.lost, results ▸ h.count, results ▸ h.results, h.balance⟩
  | sum n results lost =>
    refine ⟨owed', texts, howes, lost.trans h.lost, ?_, ?_, h.balance⟩
    · rw [results, List.count_append, h.count]
      rfl
    · rw [results, List.map_append, List.append_assoc, ← h.results]
      rfl
  | @loss _ text due results lost same =>
    refine ⟨owed', texts ++ [text], howes, ?_, ?_, ?_, fun htracked => ?_⟩
    · rw [lost, h.lost, List.append_assoc]
    · rw [results, List.count_append, List.length_append, h.count]
      rfl
    · rw [results, List.map_append, List.append_assoc, ← h.results]
      rfl
    · rw [List.append_assoc, ← h.balance htracked, same htracked]
      rfl

/-- So does any number of steps. -/
theorem Account.reaches (several : 0 < quiet) (h : x.Account quiet tracked before all owed texts)
    (fit : x.Fit quiet IsPlain) (knows : x.Knows)
    (reaches : Relation.ReflTransGen (Goes quiet tracked) x y) :
    ∃ owed' texts', y.Account quiet tracked before all owed' texts' := by
  have hkept : y.Knows ∧ ∃ owed' texts', y.Account quiet tracked before all owed' texts' := by
    induction reaches with
    | refl => exact ⟨knows, owed, texts, h⟩
    | tail further goes ih =>
      obtain ⟨hknows, owed', texts', haccount⟩ := ih
      exact ⟨hknows.goes goes, haccount.goes several (fit.reaches further) hknows goes⟩
  exact hkept.2

end Scene

/-! ## The texts that are left -/

/-- Where no character is unrecognized, all tokens are recognized ones. -/
theorem Scene.Supplied.plain {bares : List (SymbolId × String)} (h : Supplied IsToken bares)
    (proper : ∀ bare ∈ bares, bare.1 ≠ SymbolId.error) : Supplied IsPlain bares := by
  induction h with
  | last => exact .last
  | item holds others ih =>
    obtain ⟨hproper, hothers⟩ := List.forall_mem_cons.mp proper
    exact .item (holds.plain hproper) (ih hothers)

/-- Whether a lexeme is no stray character. The law of skipped texts speaks of inputs all of
whose characters are recognized. -/
def Lexeme.recognized : Lexeme → Bool
  | .stray _ => false
  | .token _ _ | .finish | .unclosed => true

/-- An error token is one for a stray character. -/
theorem Whole.ne_error {founds : List Found} (h : Whole founds)
    (recognized : ∀ found ∈ founds, found.lexeme.recognized = true) :
    ∀ found ∈ founds, found.lexeme.bare.1 ≠ SymbolId.error := by
  induction h with
  | finish | unclosed => exact List.forall_mem_singleton.mpr nofun
  | number opened text rest ih =>
    exact List.forall_mem_cons.mpr ⟨nofun, ih (List.forall_mem_cons.mp recognized).2⟩
  | @sign others c symbol opened sign rest ih =>
    refine List.forall_mem_cons.mpr ⟨?_, ih (List.forall_mem_cons.mp recognized).2⟩
    unfold sign? at sign
    split at sign <;> cases sign <;> nofun
  | stray opened c rest ih => cases (List.forall_mem_cons.mp recognized).1

/-- The lines of an input, without its tail: what stands behind the last semicolon is no line. -/
def linesIn (input : String) : List (List Item) :=
  ((itemsOf ((reading input.toList).map (·.lexeme.bare))).splitOn .semicolon).dropLast

/-- The discard count is the one that was chosen. -/
theorem Used.discardCount {compile : PatternCompiler} {options : Options} {calculator : Calculator}
    (h : Used compile options calculator) : calculator.discardCount = options.discardCount := by
  induction h with
  | new made =>
    obtain ⟨table, -, made⟩ := bind_eq_ok.mp made
    obtain ⟨rules, -, made⟩ := bind_eq_ok.mp made
    cases made
    rfl
  | parse used input context ih => exact ih

/-- The account at the start of an input: nothing is left yet, and all of it is to come. -/
theorem account_opening {quiet : Nat} (several : 0 < quiet) (tracked : Bool) (input : String)
    (before : List String) :
    (Scene.opening input before).Account quiet tracked before
      (losses quiet 0 [] (linesIn input)) (losses quiet 0 [] (linesIn input)) [] where
  owes := by
    have hsound : (Scene.opening input before).Sound quiet tracked [] :=
      ⟨nofun, nofun, several, fun h => absurd rfl h, fun _ => rfl, nofun⟩
    rw [linesIn, ← due_eq_losses (Nat.ne_of_gt several)]
    exact .sound hsound
  lost := (List.append_nil before).symm
  count := rfl
  results := rfl
  balance _ := rfl

/-- **What a parse leaves of the lines with errors.** An input of recognized characters that is
evaluated leaves a text for each line without a result, in their order, behind the texts from
before. Where positions are tracked, these texts are `losses`; and they are what is spoiled of each
line alone, if the discard count is no less than two and each error is found when the last one is
over. The compiler of the calculator's patterns need only give them their usual meaning. Reference:
`CalcContext::skipped`. -/
theorem skipped_texts {compile : PatternCompiler} {options : Options} {calculator : Calculator}
    {input : String} {context : Context} {lines : Lines} (usual : ReadsPatterns compile)
    (used : Used compile options calculator)
    (recognized : ∀ found ∈ reading input.toList, found.lexeme.recognized = true)
    (parsed : (calculator.parse input context).1 = .value lines) :
    lines.map Option.isSome = (linesIn input).map isSum ∧
    ∃ texts, (calculator.parse input context).2.context.skipped = context.skipped ++ texts ∧
      texts.length = lines.count none ∧
      (options.lexer.trackPosition = true →
        texts = (losses (max options.discardCount 1) 0 [] (linesIn input)).reduceOption ∧
        (2 ≤ options.discardCount → apart options.discardCount 0 (linesIn input) = true →
          texts = ((linesIn input).filter fun line => !isSum line).map fun line =>
            " ".intercalate (spoiled true line))) := by
  obtain ⟨hbuilt, hgoverned⟩ := used.equipped
  have hsupplied : Scene.Supplied IsPlain ((reading input.toList).map (·.lexeme.bare)) :=
    (supplied_reading input.toList).plain
      (List.forall_mem_map.mpr ((reading_whole input.toList).ne_error recognized))
  obtain ⟨y, stop, user, hreaches, hends, houtcome, huser⟩ :=
    parse_ends usual hbuilt hgoverned (fun _ h => h.terminal) input context hsupplied
  rw [used.discardCount] at hreaches
  have hseveral : 0 < max options.discardCount 1 := by omega
  have hfit := Scene.fit_opening (max options.discardCount 1) input context.skipped hsupplied
  obtain ⟨owed, texts, haccount⟩ :=
    (account_opening hseveral options.lexer.trackPosition input context.skipped).reaches hseveral hfit
      ⟨nofun, nofun⟩ hreaches
  rw [houtcome] at parsed
  cases hends with
  | fault | unfinished => cases parsed
  | unsupplied h => cases h <;> cases parsed
  | accept ahead meets skipped =>
    cases parsed
    have hstage := Stage.eq_start meets
    obtain rfl := haccount.owes.accepted (hfit.reaches hreaches) ahead meets
    have hlost := haccount.lost
    have hcount := haccount.count
    have hresults := haccount.results
    rw [Scene.lost_of_waits (by rw [hstage]; rfl)] at hlost
    rw [hstage] at hcount hresults
    rw [isNone_losses, List.map_nil, List.append_nil] at hresults
    refine ⟨hresults, texts, ?_, hcount, fun htracked => ?_⟩
    · rw [huser, skipped, hlost]
    · have htexts := haccount.balance htracked
      rw [List.reduceOption_nil, List.append_nil] at htexts
      refine ⟨htexts, fun htwo hapart => ?_⟩
      rw [Nat.max_eq_left (by omega)] at htexts
      exact htexts.trans (losses_of_apart htwo hapart)

/-- The lines that an outcome has, if the input was accepted. -/
def lines? : Engine.Outcome Lines (ParseError Value Fault) → Option Lines
  | .value lines => some lines
  | .failed _ | .exhausted => none

theorem eq_value_of_lines? {outcome : Engine.Outcome Lines (ParseError Value Fault)} {lines : Lines}
    (h : lines? outcome = some lines) : outcome = .value lines := by
  cases outcome <;> cases h
  rfl

/-- Three lines with errors that are apart, the second of which is spoiled at its end. -/
theorem skipped_texts_apart :
    let input := "1 2 3;4+;5;6 7;"
    (∀ found ∈ reading input.toList, found.lexeme.recognized = true) ∧
      (tolerant.parse input {}).1 = .value [none, none, some 5, none] ∧
      apart 3 0 (linesIn input) = true ∧
      (tolerant.parse input {}).2.context.skipped = ["2 3", ";", "7"] := by
  intro input
  have hused : Used Pattern.compile { lexer := { errorsRecoverable := true } } tolerant :=
    .new new_tolerant
  have hrecognized : ∀ found ∈ reading input.toList, found.lexeme.recognized = true := by decide +kernel
  have hparsed : (tolerant.parse input {}).1 = .value [none, none, some 5, none] :=
    eq_value_of_lines? (by decide +kernel)
  have hapart : apart 3 0 (linesIn input) = true := by decide +kernel
  obtain ⟨-, texts, hskipped, -, htexts⟩ := skipped_texts readsPatterns_compile hused hrecognized hparsed
  refine ⟨hrecognized, hparsed, hapart, hskipped.trans ?_⟩
  rw [(htexts rfl).2 (by decide) hapart]
  decide +kernel

/-- Where an error is found earlier, the text of the line before is left once more. Reference:
`RecoveryTrack::text`, while `Parser::recover` does not clear the record. -/
theorem text_is_left_again :
    (∀ found ∈ reading "1 2;3 4;".toList, found.lexeme.recognized = true) ∧
      (tolerant.parse "1 2;3 4;" {}).1 = .value [none, none] ∧
      ((linesIn "1 2;3 4;").map fun line => " ".intercalate (spoiled true line)) = ["2", "4"] ∧
      (tolerant.parse "1 2;3 4;" {}).2.context.skipped = ["2", "2 4"] :=
  ⟨by decide +kernel, eq_value_of_lines? (by decide +kernel), by decide +kernel, by decide +kernel⟩

end ShiftReduce.Calculator
