import ShiftReduce.Proofs.Parser.Conservation

/-!
# How often a parser recovers

Every recovery but one is paid for by a token of the lexer's own that was shifted or thrown away
(`Session.Paid`): while nothing is shifted behind a recovery, the next one throws its token away first.
A recovery at the end of the input has no token to throw away, but must leave a lower stack than the one
before it (`Session.Falling`). So there are as many recoveries at most as there are tokens before the
end of the input and slots left by the first recovery at that end
(`Engine.recoveries_are_bounded`), provided that the lexer, once at the end, stays there.

The three invariants are kept by every move (`Move.paid`, `Move.falling`, `Move.matched`), and the
bound is read off them at the end. Only recoveries before the end of the input need the tokens to be
matched with: while the lexer stays at the end, each of these has a token of its own
(`Session.Matched`).
-/

namespace ShiftReduce

/-! ## Recoveries in a journal -/

section
variable {V : Type}

/-- The height that a recovery left, if it was one at the end of the input. -/
def heightAtEnd? (recovery : Token × Nat) : Option Nat :=
  if recovery.1.symbol = SymbolId.endOfInput then some recovery.2 else none

/-- The heights that the recoveries at the end of the input left, last one first. -/
def endHeights (journal : List (ParserEvent V)) : List Nat :=
  (recoveries journal).filterMap heightAtEnd?

/-- How many recoveries were not at the end of the input. Reference: `eof_residual` in
`Parser::recover`, which bounds the other ones. -/
def inputRecoveries (journal : List (ParserEvent V)) : Nat :=
  (recoveries journal).countP fun recovery => recovery.1.symbol != SymbolId.endOfInput

/-- How many tokens were fetched that are not the end of the input. -/
def inputTokens (journal : List (ParserEvent V)) : Nat :=
  (fetchedTokens journal).countP fun token => token.symbol != SymbolId.endOfInput

/-- Behind the end of the input comes nothing else. The last token stands first. -/
def EndsForGood (tokens : List Token) : Prop :=
  tokens.Pairwise fun later earlier =>
    earlier.symbol = SymbolId.endOfInput → later.symbol = SymbolId.endOfInput

instance (tokens : List Token) : Decidable (EndsForGood tokens) :=
  inferInstanceAs (Decidable (List.Pairwise _ tokens))

/-- Whether a token was thrown away, and nothing came after it but the one fetched in its place. -/
def replacing : List (ParserEvent V) → Bool
  | .discarded _ :: _ => true
  | .reported _ :: .discarded _ :: _ => true
  | events => refetched events

/-- A recovery is at the end of the input, or not. -/
theorem length_recoveries (journal : List (ParserEvent V)) :
    (recoveries journal).length = inputRecoveries journal + (endHeights journal).length := by
  unfold inputRecoveries endHeights
  induction recoveries journal with
  | nil => rfl
  | cons recovery past ih =>
    rw [List.length_cons, ih, List.countP_cons, List.filterMap_cons]
    by_cases hend : recovery.1.symbol = SymbolId.endOfInput
    · have hheight : heightAtEnd? recovery = some recovery.2 := if_pos hend
      have hinput : (recovery.1.symbol != SymbolId.endOfInput) = false := bne_eq_false_iff_eq.mpr hend
      rw [hheight, hinput, if_neg Bool.false_ne_true, List.length_cons]
      omega
    · have hheight : heightAtEnd? recovery = none := if_neg hend
      have hinput : (recovery.1.symbol != SymbolId.endOfInput) = true := bne_iff_ne.mpr hend
      rw [hheight, hinput, if_pos rfl]
      dsimp only
      omega

/-- A token fetched in place of another was fetched after that one was thrown away. -/
theorem replacing_of_fetched {token : Token} {events : List (ParserEvent V)}
    (h : replacing (.fetched token :: events) = true) : replacing events = true := by
  match events with
  | .discarded _ :: _ => rfl
  | .reported _ :: .discarded _ :: _ => rfl

/-- The report of a lexical error may come between the two. -/
theorem replacing_of_stuck {token : Token} {info : ErrorInfo V} {events : List (ParserEvent V)}
    (h : replacing (.fetched token :: .reported info :: events) = true) :
    replacing events = true := by
  match events with
  | .discarded _ :: _ => rfl

end

/-- Heights that fall are no more than the first of them, which stands last. -/
theorem length_le_getLast {heights : List Nat} (falling : heights.Pairwise (· < ·)) {lower : Nat}
    (above : ∀ height ∈ heights, lower < height) :
    heights.length + lower ≤ heights.getLast?.getD lower := by
  induction heights generalizing lower with
  | nil => exact Nat.le_of_eq (Nat.zero_add lower)
  | cons height rest ih =>
    obtain ⟨hrest, hfalling⟩ := List.pairwise_cons.mp falling
    have hlower : lower < height := above height List.mem_cons_self
    have hbound := ih hfalling hrest
    rw [List.getLast?_cons, Option.getD_some, List.length_cons]
    omega

section
variable {σ V ε : Type} {e : Engine σ V ε} {s s' : Session σ V}

/-! ## Recoveries are paid for -/

/-- Every recovery but one is paid for by a token that was shifted or thrown away; and where the parser
did shift since the last recovery, or threw its token away, that one is paid for as well. -/
structure Session.Paid (quiet : Nat) (s : Session σ V) : Prop where
  owing : (recoveries (landmarks s.journal)).length ≤
    (consumedTokens (landmarks s.journal)).length + 1
  settled : s.recovering ≠ quiet ∨ replacing (landmarks s.journal) = true →
    (recoveries (landmarks s.journal)).length ≤ (consumedTokens (landmarks s.journal)).length

namespace Engine

/-- A recovery comes about only where the recoveries before it are paid for. -/
theorem Settles.paid {token : Token} (h : Settles e s token s') (hs : s.Paid e.quietCount) :
    (recoveries (landmarks s.journal)).length ≤ (consumedTokens (landmarks s.journal)).length := by
  refine hs.settled ?_
  cases h with
  | silent _ hbegun _ _ => exact .inl hbegun
  | reported _ hover _ _ =>
    left
    rw [hover]
    unfold quietCount
    omega
  | refetched _ hfresh =>
    right
    unfold replacing
    split
    · rfl
    · rfl
    · exact hfresh

/-- What comes before a recovery is none. -/
theorem Settles.recoveries {token : Token} (h : Settles e s token s') :
    recoveries (landmarks s'.journal) = recoveries (landmarks s.journal) := by
  cases h with
  | silent _ _ _ hnew => rw [hnew]
  | reported _ _ _ hnew => rw [hnew]; rfl
  | refetched _ _ => rfl

/-- A recovery is one more of the journal's. -/
theorem recoveries_resumption {depth : Nat} {token : Token} {s₁ : Session σ V}
    (h : Settles e s token s₁) :
    recoveries (landmarks (e.resumption depth token s₁).journal) =
      (token, (s.stack.drop depth).length) :: recoveries (landmarks s.journal) := by
  rw [landmarks_resumption, ← h.recoveries, ← h.keeps.1]
  rfl

/-- A recovery consumes no token. -/
theorem consumedTokens_resumption {depth : Nat} {token : Token} {s₁ : Session σ V}
    (h : Settles e s token s₁) :
    consumedTokens (landmarks (e.resumption depth token s₁).journal) =
      consumedTokens (landmarks s.journal) := by
  rw [landmarks_resumption, ← h.tokens.2.1]
  rfl

/-- A recovery fetches no token. -/
theorem fetchedTokens_resumption {depth : Nat} {token : Token} {s₁ : Session σ V}
    (h : Settles e s token s₁) :
    fetchedTokens (landmarks (e.resumption depth token s₁).journal) =
      fetchedTokens (landmarks s.journal) := by
  rw [landmarks_resumption, ← h.tokens.1]
  rfl

/-- Every move keeps the recoveries paid for. A shift and a token that is thrown away pay for a
recovery. The other moves consume nothing and leave what is owed as it is; and a recovery is made
only where nothing is owed, since behind a recovery without a shift the token at fault is thrown
away first. -/
theorem Move.paid [Inhabited V] (h : Move e s s') (hs : s.Paid e.quietCount) :
    s'.Paid e.quietCount := by
  cases h with
  | remark hnew => exact ⟨by rw [hnew]; exact hs.owing, by rw [hnew]; exact hs.settled⟩
  | look h =>
    cases h with
    | mk _ hfetch =>
      cases hfetch with
      | read hnew =>
        refine ⟨by rw [hnew]; exact hs.owing, ?_⟩
        rw [hnew]
        exact fun hready => hs.settled (hready.imp_right replacing_of_fetched)
      | stuck _ _ hnew =>
        refine ⟨by rw [hnew]; exact hs.owing, ?_⟩
        rw [hnew]
        exact fun hready => hs.settled (hready.imp_right replacing_of_stuck)
  | shift h =>
    cases h with
    | plain _ _ _ _ _ hnew =>
      exact ⟨by rw [hnew]; exact Nat.le_succ_of_le hs.owing, fun _ => by rw [hnew]; exact hs.owing⟩
    | lexed _ _ _ _ _ _ hnew =>
      exact ⟨by rw [hnew]; exact Nat.le_succ_of_le hs.owing, fun _ => by rw [hnew]; exact hs.owing⟩
    | synthetic _ _ _ _ hnew =>
      refine ⟨by rw [hnew]; exact hs.owing, ?_⟩
      rw [hnew]
      exact fun hready => hs.settled (.inl (hready.resolve_right nofun))
  | reduce h =>
    cases h with
    | mk _ _ _ _ _ _ hnew =>
      refine ⟨by rw [hnew]; exact hs.owing, ?_⟩
      rw [hnew]
      exact fun hready => hs.settled (.inl (hready.resolve_right nofun))
  | discard h =>
    cases h with
    | mk _ _ _ _ hnew =>
      exact ⟨by rw [hnew]; exact Nat.le_succ_of_le hs.owing, fun _ => by rw [hnew]; exact hs.owing⟩
  | resume h =>
    cases h with
    | @mk token depth s₁ _ hsettled _ _ =>
      refine ⟨?_, ?_⟩
      · rw [recoveries_resumption hsettled, consumedTokens_resumption hsettled]
        exact Nat.succ_le_succ (hsettled.paid hs)
      · rw [resumption_recovering, landmarks_resumption]
        exact fun hready => hready.elim (fun hne => absurd rfl hne) nofun

end Engine

/-! ## Recoveries at the end of the input -/

/-- The stacks that recoveries at the end of the input leave are lower each time, and never empty; the
session keeps the height of the last one. -/
structure Session.Falling (s : Session σ V) : Prop where
  last : s.endHeight = (endHeights (landmarks s.journal)).head?
  falling : (endHeights (landmarks s.journal)).Pairwise (· < ·)
  positive : ∀ height ∈ endHeights (landmarks s.journal), 0 < height

/-- The heights fall on where no recovery comes. -/
theorem Session.Falling.transfer (h : s.Falling) (last : s'.endHeight = s.endHeight)
    (same : recoveries (landmarks s'.journal) = recoveries (landmarks s.journal)) :
    s'.Falling := by
  have hheights : endHeights (landmarks s'.journal) = endHeights (landmarks s.journal) :=
    congrArg (List.filterMap heightAtEnd?) same
  exact ⟨by rw [last, hheights]; exact h.last, by rw [hheights]; exact h.falling,
    by rw [hheights]; exact h.positive⟩

/-- A height below the last one is below all of them. -/
theorem Session.Falling.below (h : s.Falling) {height : Nat}
    (lower : ∀ last ∈ s.endHeight, height < last) :
    ∀ earlier ∈ endHeights (landmarks s.journal), height < earlier := by
  have hfalling := h.falling
  rw [h.last] at lower
  cases hheights : endHeights (landmarks s.journal) with
  | nil => exact nofun
  | cons last earlier =>
    rw [hheights] at hfalling lower
    have hlast : height < last := lower last rfl
    intro other hmem
    rcases List.mem_cons.mp hmem with rfl | hmem
    · exact hlast
    · exact Nat.lt_trans hlast ((List.pairwise_cons.mp hfalling).1 other hmem)

namespace Engine

/-- A recovery at the end of the input adds the height of the stack it leaves. -/
theorem endHeights_resumption {depth : Nat} {token : Token} {s₁ : Session σ V}
    (h : Settles e s token s₁) :
    endHeights (landmarks (e.resumption depth token s₁).journal) =
      (heightAtEnd? (token, (s.stack.drop depth).length)).toList ++
        endHeights (landmarks s.journal) := by
  unfold endHeights
  rw [recoveries_resumption h, List.filterMap_cons]
  cases heightAtEnd? (token, (s.stack.drop depth).length) <;> rfl

/-- A recovery at the end of the input leaves a stack that is lower than all before it. The engine
compares the height with the one that it kept from the last such recovery, which is below those
before it. -/
theorem Resumes.falling (h : Resumes e s s') (hs : s.Falling) : s'.Falling := by
  cases h with
  | @mk token depth s₁ _ hsettled hnearest hlower =>
    have hlt : depth < s.stack.length := (List.findIdx?_eq_some_iff_findIdx_eq.mp hnearest).1
    obtain ⟨hstack, hkept⟩ := hsettled.keeps
    have hlast : (e.resumption depth token s₁).endHeight =
        if token.symbol = SymbolId.endOfInput then some (s.stack.length - depth)
          else s.endHeight := by
      rw [← hstack, ← hkept]
      rfl
    by_cases hend : token.symbol = SymbolId.endOfInput
    · rw [if_pos hend] at hlast
      have hcons : endHeights (landmarks (e.resumption depth token s₁).journal) =
          (s.stack.length - depth) :: endHeights (landmarks s.journal) := by
        rw [endHeights_resumption hsettled, heightAtEnd?, if_pos hend, List.length_drop]
        rfl
      refine ⟨by rw [hlast, hcons]; rfl, ?_, ?_⟩
      · rw [hcons]
        exact List.pairwise_cons.mpr ⟨hs.below (hlower hend), hs.falling⟩
      · rw [hcons]
        exact List.forall_mem_cons.mpr ⟨Nat.sub_pos_of_lt hlt, hs.positive⟩
    · rw [if_neg hend] at hlast
      have hsame : endHeights (landmarks (e.resumption depth token s₁).journal) =
          endHeights (landmarks s.journal) := by
        rw [endHeights_resumption hsettled, heightAtEnd?, if_neg hend]
        rfl
      exact ⟨by rw [hlast, hsame]; exact hs.last, by rw [hsame]; exact hs.falling,
        by rw [hsame]; exact hs.positive⟩

/-- Every move keeps the heights falling. -/
theorem Move.falling [Inhabited V] (h : Move e s s') (hs : s.Falling) : s'.Falling := by
  cases h with
  | remark hnew => exact hs.transfer rfl (by rw [hnew])
  | look h =>
    cases h with
    | mk _ hfetch =>
      cases hfetch with
      | read hnew => exact hs.transfer rfl (by rw [hnew]; rfl)
      | stuck _ _ hnew => exact hs.transfer rfl (by rw [hnew]; rfl)
  | shift h =>
    cases h with
    | plain _ _ _ _ _ hnew => exact hs.transfer rfl (by rw [hnew]; rfl)
    | lexed _ _ _ _ _ _ hnew => exact hs.transfer rfl (by rw [hnew]; rfl)
    | synthetic _ _ _ _ hnew => exact hs.transfer rfl (by rw [hnew]; rfl)
  | reduce h =>
    cases h with
    | mk _ _ _ _ _ _ hnew => exact hs.transfer rfl (by rw [hnew]; rfl)
  | discard h =>
    cases h with
    | mk _ _ _ _ hnew => exact hs.transfer rfl (by rw [hnew]; rfl)
  | resume h => exact h.falling hs

end Engine

/-! ## Recoveries before the end of the input -/

/-- Where the lexer has stayed at the end of the input, every recovery that was not there has a token
of its own. -/
def Session.Matched (s : Session σ V) : Prop :=
  EndsForGood (fetchedTokens (landmarks s.journal)) →
    inputRecoveries (landmarks s.journal) ≤ inputTokens (landmarks s.journal)

/-- A token more makes room for a recovery more. -/
theorem Session.Matched.fetch {token : Token} (h : s.Matched)
    (fetched : fetchedTokens (landmarks s'.journal) = token :: fetchedTokens (landmarks s.journal))
    (same : recoveries (landmarks s'.journal) = recoveries (landmarks s.journal)) :
    s'.Matched := by
  unfold Session.Matched EndsForGood inputRecoveries inputTokens
  rw [fetched, same, List.countP_cons]
  intro hends
  exact Nat.le_trans (h (List.pairwise_cons.mp hends).2) (Nat.le_add_right _ _)

/-- The match stays where no token is fetched and no recovery comes. -/
theorem Session.Matched.transfer (h : s.Matched)
    (fetched : fetchedTokens (landmarks s'.journal) = fetchedTokens (landmarks s.journal))
    (same : recoveries (landmarks s'.journal) = recoveries (landmarks s.journal)) :
    s'.Matched := by
  unfold Session.Matched inputRecoveries inputTokens
  rw [fetched, same]
  exact h

/-- Where the last token is not the end of the input, no token is. -/
theorem inputTokens_of_last {tokens : List Token} {last : Token} (ends : EndsForGood (last :: tokens))
    (input : last.symbol ≠ SymbolId.endOfInput) :
    (last :: tokens).countP (fun token => token.symbol != SymbolId.endOfInput) =
      tokens.length + 1 := by
  rw [← List.length_cons (a := last), List.countP_eq_length]
  intro token hmem
  rw [bne_iff_ne]
  rcases List.mem_cons.mp hmem with rfl | hmem
  · exact input
  · exact fun hend => input ((List.pairwise_cons.mp ends).1 token hmem hend)

namespace Engine

/-- The token at which a recovery is made is the last one fetched, and all tokens before it are
consumed. Recoveries that were made before are matched with the tokens before this one, since each
of them was paid for by a token that was consumed. -/
theorem Resumes.matched (h : Resumes e s s') (path : s.OnPath e.table) (accounted : s.Accounted)
    (paid : s.Paid e.quietCount) (hs : s.Matched) : s'.Matched := by
  cases h with
  | @mk token depth s₁ hoff hsettled _ _ =>
    unfold Session.Matched inputRecoveries inputTokens
    rw [fetchedTokens_resumption hsettled, recoveries_resumption hsettled, List.countP_cons]
    intro hends
    by_cases hend : token.symbol = SymbolId.endOfInput
    · simp only [hend, bne_self_eq_false, Bool.false_eq_true, if_false]
      exact hs hends
    · have haccount := accounted.account
      rw [pending_of_offending path hoff, Option.toList_some, List.singleton_append] at haccount
      have hpaid := hsettled.paid paid
      generalize consumedTokens (landmarks s.journal) = consumed at haccount hpaid
      generalize fetchedTokens (landmarks s.journal) = fetched at haccount hends
      cases haccount with
      | @cons earlier _ last _ hearlier hdelivers =>
        have hsymbol : last.symbol ≠ SymbolId.endOfInput := by
          cases hdelivers with
          | unchanged => exact hend
          | relocated _ _ _ => exact hend
        have hcount : (recoveries (landmarks s.journal)).countP
            (fun recovery => recovery.1.symbol != SymbolId.endOfInput) ≤ earlier.length :=
          calc _ ≤ (recoveries (landmarks s.journal)).length := List.countP_le_length
            _ ≤ consumed.length := hpaid
            _ = earlier.length := hearlier.length_eq.symm
        rw [inputTokens_of_last hends hsymbol, if_pos (bne_iff_ne.mpr hend)]
        omega

/-- Every move keeps the match. -/
theorem Move.matched [Inhabited V] (h : Move e s s') (path : s.OnPath e.table)
    (accounted : s.Accounted) (paid : s.Paid e.quietCount) (hs : s.Matched) : s'.Matched := by
  cases h with
  | remark hnew => exact hs.transfer (by rw [hnew]) (by rw [hnew])
  | look h =>
    cases h with
    | mk _ hfetch =>
      have hfetched := hfetch.fetchedTokens
      cases hfetch with
      | read hnew => exact hs.fetch hfetched (by rw [hnew]; rfl)
      | stuck _ _ hnew => exact hs.fetch hfetched (by rw [hnew]; rfl)
  | shift h =>
    cases h with
    | plain _ _ _ _ _ hnew => exact hs.transfer (by rw [hnew]; rfl) (by rw [hnew]; rfl)
    | lexed _ _ _ _ _ _ hnew => exact hs.transfer (by rw [hnew]; rfl) (by rw [hnew]; rfl)
    | synthetic _ _ _ _ hnew => exact hs.transfer (by rw [hnew]; rfl) (by rw [hnew]; rfl)
  | reduce h =>
    cases h with
    | mk _ _ _ _ _ _ hnew => exact hs.transfer (by rw [hnew]; rfl) (by rw [hnew]; rfl)
  | discard h =>
    cases h with
    | mk _ _ _ _ hnew => exact hs.transfer (by rw [hnew]; rfl) (by rw [hnew]; rfl)
  | resume h => exact h.matched path accounted paid hs

/-! ## The bound -/

/-- The last step of a parse makes no recovery. -/
theorem Ends.recoveries {events : List (ParserEvent V)} (h : Ends e s events) :
    recoveries events = recoveries (landmarks s.journal) := by
  cases h with
  | silent => rfl
  | reduction _ _ _ => rfl
  | lexical _ => rfl
  | unexpected _ _ _ _ => rfl
  | halted _ _ => rfl
  | haltedAfter _ hsettled _ _ => exact hsettled.recoveries

/-- The invariants of the bound, at any point of a parse. -/
theorem Moves.limited [Inhabited V] {c : Config σ V} {input : String}
    (h : Moves e (c.reset input).session s) : s.Falling ∧ s.Matched := by
  have hstart : (c.reset input).session.OnPath e.table := onPath_reset c input
  have hpaid : (c.reset input).session.Paid e.quietCount := ⟨Nat.zero_le _, fun _ => Nat.le_refl _⟩
  have hfalling : (c.reset input).session.Falling := ⟨rfl, .nil, nofun⟩
  have hmatched : (c.reset input).session.Matched := fun _ => Nat.le_refl _
  have hkept := Moves.keeps (P := fun s => s.Accounted ∧ s.Paid e.quietCount ∧ s.Falling ∧ s.Matched)
    (fun hmove hpath ⟨haccounted, hpaid, hfalling, hmatched⟩ =>
      ⟨hmove.accounted hpath haccounted, hmove.paid hpaid, hmove.falling hfalling,
        hmove.matched hpath haccounted hpaid hmatched⟩)
    h hstart ⟨(accounted_reset c input).1, hpaid, hfalling, hmatched⟩
  exact hkept.2.2

/-- Provided that the lexer stays at the end of the input once it is there, a parse has no more
recoveries than the tokens that it fetched before that end, one, and the height of the stack that
the first recovery at that end left. The heights that recoveries at that end leave fall each time.
Reference: `Parser::recover`, with `eof_residual` for the end of the input. -/
theorem recoveries_are_bounded [Inhabited V] {c : Config σ V} {input : String} {fuel : Nat}
    (ends : EndsForGood (fetchedTokens (e.run fuel (c.reset input)).config.session.journal)) :
    let journal := (e.run fuel (c.reset input)).config.session.journal
    (recoveries journal).length ≤
      inputTokens journal + 1 + (endHeights journal).getLast?.getD 0 ∧
    (endHeights journal).Pairwise (· < ·) := by
  intro journal
  obtain ⟨s, hmoves, hends⟩ := e.run_ends fuel (c.reset input)
  obtain ⟨hfalling, hmatched⟩ := hmoves.limited
  have hrecoveries := hends.recoveries
  have hfetched := hends.fetchedTokens
  rw [recoveries_landmarks] at hrecoveries
  rw [fetchedTokens_landmarks] at hfetched
  have hheights : endHeights journal = endHeights (landmarks s.journal) :=
    congrArg (List.filterMap heightAtEnd?) hrecoveries
  have hinput : inputRecoveries journal ≤ inputTokens journal := by
    unfold inputRecoveries inputTokens
    rw [hrecoveries, hfetched]
    exact hmatched (hfetched ▸ ends)
  have hend : (endHeights journal).length ≤ (endHeights journal).getLast?.getD 0 := by
    rw [hheights]
    exact length_le_getLast hfalling.falling hfalling.positive
  refine ⟨?_, hheights ▸ hfalling.falling⟩
  rw [length_recoveries]
  omega

end Engine

end

/-- The calculator recovers three times over two numbers and a line that the input ends: twice from the
second number, which is thrown away, and once at the end. -/
theorem Calculator.recoveries_of_two_lines :
    let journal := (evaluation tolerant "1 2; 3").config.session.journal
    EndsForGood (fetchedTokens journal) ∧
    (recoveries journal).length = 3 ∧ inputTokens journal = 4 ∧ endHeights journal = [2] ∧
    (recoveries journal).length ≤
      inputTokens journal + 1 + (endHeights journal).getLast?.getD 0 ∧
    (endHeights journal).Pairwise (· < ·) := by
  have hends : EndsForGood (fetchedTokens (evaluation tolerant "1 2; 3").config.session.journal) := by
    decide +kernel
  have hcounts : (recoveries (evaluation tolerant "1 2; 3").config.session.journal).length = 3 ∧
      inputTokens (evaluation tolerant "1 2; 3").config.session.journal = 4 ∧
      endHeights (evaluation tolerant "1 2; 3").config.session.journal = [2] := by
    decide +kernel
  exact ⟨hends, hcounts.1, hcounts.2.1, hcounts.2.2, Engine.recoveries_are_bounded hends⟩

end ShiftReduce
