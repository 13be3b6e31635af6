import Mathlib.Data.List.Chain
import ShiftReduce.Proofs.Parser.Conservation
import ShiftReduce.Proofs.Parser.Simulation
import ShiftReduce.Proofs.Source.Precedence

/-!
# The span of a reduction

A reduction goes from its first child to its last one, and it spans all of its children where the
slots of the stack are in order: each one leads those above it (`Stack.InOrder`). Tokens that come
in order keep the stack in order as long as each of them is shifted once, for an empty production is
put at the end of the slot below it. A recovery puts an error token ahead that spans what it popped
and the token at fault, and behind it that token is read again; these two are in order only where
they do not start before the slot that they are put on (`Session.RejoinsInOrder`). An empty
production that is reduced between the two, or a record that goes back behind the slots that the
stack was cut to, puts them out of order. Where they are in order every reduction spans its children
(`Engine.reductions_span_their_children`).

The steps, in the order of the module:

* stacks and tokens in order (`Stack.InOrder`, `TokensInOrder`), and what a recovery must keep
  (`Session.RejoinsInOrder`);
* each kind of move keeps a parse in order (`Engine.Looks.ordered`, `Engine.Shifts.ordered`,
  `Engine.Reduces.ordered`, `Engine.Discards.ordered`, `Engine.Resumes.ordered`);
* a step adds at most the reduction of the stack that it arrives at (`Engine.step_closes`), so that
  all reductions of a run span their children (`Engine.run_spans`).

Without a recovery nothing has to be kept (`Engine.unrecovered_reductions_span`); with one the
location of a reduction may miss a child (`Remnants.number_is_left_out`).
-/

namespace ShiftReduce

/-! ## Stacks and tokens in order -/

section
variable {V : Type}

/-- A stack on which every slot leads those above it: none starts or ends behind a higher one. -/
def Stack.InOrder (ranged : Bool) (stack : Stack V) : Prop :=
  stack.Pairwise fun above below => below.location.Leads ranged above.location

/-- The tokens of a journal are proper, and each of them starts where the one before it ends, or
later; the first one starts at the start of the input, or later. -/
structure TokensInOrder (ranged : Bool) (start : Location) (journal : List (ParserEvent V)) :
    Prop where
  proper : ∀ token ∈ fetchedTokens journal, token.location.Proper ranged
  chain : ((fetchedTokens journal).map (·.location) ++ [start]).IsChain fun later earlier =>
    earlier.Before ranged later

instance {ranged : Bool} {start : Location} {journal : List (ParserEvent V)} :
    Decidable (TokensInOrder ranged start journal) :=
  decidable_of_iff _ ⟨fun h : (∀ token ∈ fetchedTokens journal, token.location.Proper ranged) ∧
      ((fetchedTokens journal).map (·.location) ++ [start]).IsChain
        (fun later earlier => earlier.Before ranged later) => ⟨h.1, h.2⟩,
    fun h => ⟨h.proper, h.chain⟩⟩

/-- The location of the last token of a journal, or of the start of the input if there is none. -/
def frontier (start : Location) (journal : List (ParserEvent V)) : Location :=
  ((fetchedTokens journal).head?.map (·.location)).getD start

/-- Whether a recovery came after the last token was fetched. What is ahead then was made by it, or
is read again. -/
def rereads : List (ParserEvent V) → Bool
  | [] => false
  | .fetched _ :: _ => false
  | .resumed _ _ :: _ => true
  | _ :: past => rereads past

/-- Whether the last landmark is the shift of a token that a recovery has put ahead or back. -/
def reshifts : List (ParserEvent V) → Bool
  | .shifted _ _ :: past => rereads past
  | _ => false

/-- Whether an event is a reduction, at which the location is merged. -/
def ParserEvent.isReduction : ParserEvent V → Bool
  | .reduced _ _ => true
  | _ => false

/-- A journal that goes on from an earlier one without a reduction. -/
def Unreduced (earlier later : List (ParserEvent V)) : Prop :=
  ∃ new, later = new ++ earlier ∧ ∀ event ∈ new, event.isReduction = false

theorem Unreduced.refl (journal : List (ParserEvent V)) : Unreduced journal journal :=
  ⟨[], rfl, nofun⟩

theorem Unreduced.trans {first second third : List (ParserEvent V)} (h : Unreduced first second)
    (h' : Unreduced second third) : Unreduced first third := by
  obtain ⟨new, rfl, hnew⟩ := h
  obtain ⟨more, rfl, hmore⟩ := h'
  exact ⟨more ++ new, (List.append_assoc _ _ _).symm, List.forall_mem_append.mpr ⟨hmore, hnew⟩⟩

/-- An event that is no reduction goes on without one. -/
theorem Unreduced.cons {earlier later : List (ParserEvent V)} (h : Unreduced earlier later)
    {event : ParserEvent V} (other : event.isReduction = false) :
    Unreduced earlier (event :: later) :=
  h.trans ⟨[event], rfl, List.forall_mem_singleton.mpr other⟩

theorem Unreduced.suffix {earlier later : List (ParserEvent V)} (h : Unreduced earlier later) :
    earlier <:+ later := by
  obtain ⟨new, rfl, -⟩ := h
  exact List.suffix_append _ _

/-- The reductions of a journal that goes on without one are those of the earlier journal. -/
theorem Unreduced.mem {earlier later : List (ParserEvent V)} (h : Unreduced earlier later)
    {stack : Stack V} {reduction : Reduction V} (hmem : .reduced stack reduction ∈ later) :
    .reduced stack reduction ∈ earlier := by
  obtain ⟨new, rfl, hnew⟩ := h
  refine (List.mem_append.mp hmem).resolve_left fun hfresh => ?_
  cases hnew _ hfresh

/-- Tokens that were in order are in order when fewer of them were fetched. -/
theorem TokensInOrder.suffix {ranged : Bool} {start : Location}
    {journal later : List (ParserEvent V)} (h : TokensInOrder ranged start later)
    (suffix : journal <:+ later) : TokensInOrder ranged start journal := by
  have htokens : fetchedTokens journal <:+ fetchedTokens later := suffix.filterMap _
  refine ⟨fun token htoken => h.proper token (htokens.mem htoken), h.chain.suffix ?_⟩
  obtain ⟨new, hnew⟩ := htokens
  rw [← hnew, List.map_append, List.append_assoc]
  exact List.suffix_append _ _

/-- The tokens of a journal are landmarks. -/
theorem TokensInOrder.landmarks {ranged : Bool} {start : Location} {journal : List (ParserEvent V)}
    (h : TokensInOrder ranged start journal) : TokensInOrder ranged start (landmarks journal) := by
  obtain ⟨hproper, hchain⟩ := h
  rw [← fetchedTokens_landmarks] at hproper hchain
  exact ⟨hproper, hchain⟩

/-- What is read again was put back by a recovery. -/
theorem resumed_of_rereads {journal : List (ParserEvent V)} (h : rereads journal = true) :
    ∃ token height, .resumed token height ∈ journal := by
  induction journal with
  | nil => cases h
  | cons event past ih =>
    cases event with
    | fetched token => cases h
    | resumed token height => exact ⟨token, height, List.mem_cons_self⟩
    | _ =>
      obtain ⟨token, height, hmem⟩ := ih h
      exact ⟨token, height, List.mem_cons_of_mem _ hmem⟩

theorem resumed_of_reshifts {journal : List (ParserEvent V)} (h : reshifts journal = true) :
    ∃ token height, .resumed token height ∈ journal := by
  cases journal with
  | nil => cases h
  | cons event past =>
    cases event with
    | shifted token synthetic =>
      obtain ⟨token, height, hmem⟩ := resumed_of_rereads h
      exact ⟨token, height, List.mem_cons_of_mem _ hmem⟩
    | _ => cases h

/-- The last token that was fetched is proper, and comes behind what was fetched before. -/
theorem TokensInOrder.last {ranged : Bool} {start : Location} {token : Token}
    {journal later : List (ParserEvent V)} (h : TokensInOrder ranged start later)
    (fetched : fetchedTokens later = token :: fetchedTokens journal) :
    (frontier start journal).Before ranged token.location ∧ token.location.Proper ranged := by
  obtain ⟨hproper, hchain⟩ := h
  rw [fetched] at hproper hchain
  refine ⟨?_, hproper token List.mem_cons_self⟩
  rw [List.map_cons, List.cons_append, List.isChain_cons] at hchain
  refine hchain.1 _ ?_
  unfold frontier
  cases fetchedTokens journal <;> rfl

end

section
variable {σ V ε : Type}

/-- A token that a recovery has put ahead or back, and that was just shifted, is in order with the
slot below it. -/
def Session.RejoinsInOrder (ranged : Bool) (s : Session σ V) : Prop :=
  reshifts (landmarks s.journal) = true → Stack.InOrder ranged (s.stack.take 2)

instance (ranged : Bool) (s : Session σ V) : Decidable (s.RejoinsInOrder ranged) :=
  inferInstanceAs (Decidable (reshifts (landmarks s.journal) = true → List.Pairwise _ _))

/-- A reduction spans its children if its location is the merge of all of theirs, and so covers each
of them. There is nothing to span where it has none. -/
def Reduction.SpansChildren (ranged : Bool) (reduction : Reduction V) : Prop :=
  ∀ span ∈ Location.cover? reduction.locations,
    reduction.location.Agrees ranged span ∧
      ∀ loc ∈ reduction.locations, reduction.location.Covers loc

instance (ranged : Bool) (reduction : Reduction V) : Decidable (reduction.SpansChildren ranged) :=
  inferInstanceAs (Decidable (∀ span ∈ Location.cover? reduction.locations, _ ∧ _))

/-- Actions that leave the location of every reduction as it is. Reference: `Reduction::location`,
which an action may replace. -/
def Actions.KeepLocations (actions : Actions σ V ε) : Prop :=
  ∀ reduction user yield user', actions.reduce reduction user = (.ok yield, user') →
    yield.location.getD reduction.location = reduction.location

/-- The sessions of a parse between its steps, from a given one on. -/
def Engine.sessions [Inhabited V] (e : Engine σ V ε) :
    (fuel : Nat) → Config σ V → List (Session σ V)
  | 0, c => [c.session]
  | fuel + 1, c =>
    c.session ::
      match e.step c with
      | .ok c => e.sessions fuel c
      | .error _ => []

/-- A parse whose stack is in order, like what its record and the tokens ahead say of the input so
far: `last` is the location of the last token that was fetched. A token that is ahead for the first
time comes behind all slots of the stack. -/
structure Session.Ordered (ranged : Bool) (last : Location) (s : Session σ V) : Prop where
  stack : s.stack.InOrder ranged
  slots : ∀ slot ∈ s.stack, slot.location.Within ranged last
  popped : ∀ slot ∈ s.record.popped, slot.location.Within ranged last
  offending : ∀ token ∈ s.record.offending, token.location.Within ranged last
  ahead : ∀ token ∈ s.lookahead, token.location.Within ranged last
  held : ∀ token ∈ s.held, token.location.Within ranged last ∧
    rereads (landmarks s.journal) = true ∧ s.lookahead ≠ none
  fresh : rereads (landmarks s.journal) = false → ∀ token ∈ s.lookahead, ∀ slot ∈ s.stack,
    slot.location.collapse.Leads ranged token.location

/-- A parse in order behind the tokens it has fetched, whose reductions all span their children. -/
structure Session.Spanned (ranged : Bool) (start : Location) (s : Session σ V) : Prop where
  ordered : s.Ordered ranged (frontier start (landmarks s.journal))
  reductions : ∀ stack reduction, .reduced stack reduction ∈ landmarks s.journal →
    reduction.SpansChildren ranged

variable {e : Engine σ V ε} {s s' : Session σ V} {c : Config σ V} {ranged : Bool}
  {start last : Location}

/-! ## The location of a reduction -/

/-- A reduction goes from its first child to the slot on top; without children it is at the end of
that. -/
theorem reductionOf_location {number : ProductionId} {production : Production} {top : Slot V}
    (head : s.stack.head? = some top) :
    (Engine.reductionOf s number production).location =
      match (s.stack.take production.length).getLast? with
      | some first => first.location.merge top.location
      | none => top.location.collapse := by
  unfold Engine.reductionOf
  dsimp only
  rw [List.head?_reverse, head]
  cases (s.stack.take production.length).getLast? <;> rfl

/-- A reduction of a stack in order spans its children. In a stack in order the first child starts
before the others and the last one ends behind them, so the merge of these two is that of all. -/
theorem Session.Ordered.spans (h : s.Ordered ranged last) (number : ProductionId)
    (production : Production) : (Engine.reductionOf s number production).SpansChildren ranged := by
  intro span hspan
  have hlocations : (Engine.reductionOf s number production).locations =
      ((s.stack.take production.length).map (·.location)).reverse := List.map_reverse
  have hagrees : (Engine.reductionOf s number production).location.Agrees ranged span := by
    rw [hlocations] at hspan
    have hchain : ((s.stack.take production.length).map (·.location)).reverse.Pairwise
        (Location.Leads ranged) := by
      rw [List.pairwise_reverse, List.pairwise_map]
      exact h.stack.sublist (List.take_sublist _ _)
    cases hfirst : (s.stack.take production.length).getLast? with
    | none =>
      rw [List.getLast?_eq_none_iff.mp hfirst] at hspan
      cases hspan
    | some first =>
      obtain ⟨top, htop⟩ : ∃ top, s.stack.head? = some top := by
        cases hstack : s.stack with
        | nil => rw [hstack, List.take_nil] at hfirst; cases hfirst
        | cons top rest => exact ⟨top, rfl⟩
      rw [reductionOf_location htop, hfirst]
      refine Location.cover?_agrees hchain ?_ ?_ hspan
      · rw [List.head?_reverse, List.getLast?_map, hfirst]
        rfl
      · rw [List.getLast?_reverse, List.head?_map, List.head?_take, htop]
        split
        · next hzero => rw [hzero] at hfirst; cases hfirst
        · rfl
  refine ⟨hagrees, fun loc hloc => ?_⟩
  obtain ⟨span', hspan', hcovers⟩ := Location.cover?_covers hloc
  obtain rfl : span' = span := Option.some.inj (hspan'.symm.trans hspan)
  exact ⟨hagrees.start ▸ hcovers.1, hagrees.stop ▸ hcovers.2⟩

/-- The location of a reduction is within what was read; all slots below its children lead it. An
empty production is put at the end of the slot on top, which the slots below lead; any other goes
from its first child to the slot on top. -/
theorem Session.Ordered.reduction (h : s.Ordered ranged last) (number : ProductionId)
    {production : Production} (enough : production.length < s.stack.length) :
    (Engine.reductionOf s number production).location.Within ranged last ∧
      (∀ slot ∈ s.stack.drop production.length,
        slot.location.Leads ranged (Engine.reductionOf s number production).location) ∧
      ∀ ahead, (∀ slot ∈ s.stack, slot.location.collapse.Leads ranged ahead) →
        (Engine.reductionOf s number production).location.collapse.Leads ranged ahead := by
  obtain ⟨top, rest, hstack⟩ := List.exists_cons_of_length_pos (Nat.zero_lt_of_lt enough)
  have hhead : s.stack.head? = some top := by rw [hstack]; rfl
  have htop : top ∈ s.stack := by rw [hstack]; exact List.mem_cons_self
  have hwithin := h.slots top htop
  have hbelow : ∀ slot ∈ s.stack, slot.location.Leads ranged top.location := by
    have hchain := h.stack
    unfold Stack.InOrder at hchain
    rw [hstack] at hchain ⊢
    exact List.forall_mem_cons.mpr ⟨.refl ranged _, (List.pairwise_cons.mp hchain).1⟩
  rw [reductionOf_location hhead]
  cases hfirst : (s.stack.take production.length).getLast? with
  | none =>
    -- An empty production is at the end of the slot on top, which the other slots lead.
    dsimp only
    refine ⟨hwithin.collapse, ?_, ?_⟩
    · intro slot hslot
      exact (hbelow slot (List.mem_of_mem_drop hslot)).trans hwithin.proper.leads
    · intro ahead hahead
      rw [Location.collapse_collapse]
      exact hahead top htop
  | some first =>
    dsimp only
    have hmem : first ∈ s.stack.take production.length := List.mem_of_getLast? hfirst
    have hfirst' : first ∈ s.stack := List.mem_of_mem_take hmem
    refine ⟨(h.slots first hfirst').merge hwithin, ?_, ?_⟩
    · intro slot hslot
      have hsplit := h.stack
      unfold Stack.InOrder at hsplit
      rw [← List.take_append_drop production.length s.stack] at hsplit
      have hleads := (List.pairwise_append.mp hsplit).2.2 first hmem slot hslot
      exact hleads.merge_right (hbelow slot (List.mem_of_mem_drop hslot))
    · intro ahead hahead
      exact (hahead first hfirst').collapse_merge (hahead top htop)

/-! ## What a move keeps -/

/-- A slot that all others lead may be put on top of them. -/
theorem Stack.InOrder.push {stack : Stack V} (h : stack.InOrder ranged) {slot : Slot V}
    (leads : ∀ below ∈ stack, below.location.Leads ranged slot.location) :
    Stack.InOrder ranged (slot :: stack) := List.pairwise_cons.mpr ⟨leads, h⟩

/-- A slot that the one on top leads may be put on it. -/
theorem Stack.InOrder.leads_of_top {stack : Stack V} (h : stack.InOrder ranged) {slot : Slot V}
    (top : Stack.InOrder ranged ((slot :: stack).take 2)) :
    ∀ below ∈ stack, below.location.Leads ranged slot.location := by
  cases stack with
  | nil => nofun
  | cons below rest =>
    have htop : below.location.Leads ranged slot.location :=
      (List.pairwise_cons.mp top).1 below List.mem_cons_self
    exact List.forall_mem_cons.mpr
      ⟨htop, fun lower hlower => ((List.pairwise_cons.mp h).1 lower hlower).trans htop⟩

/-- A token that is shifted is in order with the slots below it: it comes behind them if it is ahead
for the first time, and where a recovery put it ahead or back it is in order with the one on top. -/
theorem Session.Ordered.shift {token : Token} {synthetic : Bool}
    {journal : List (ParserEvent V)} {slot : Slot V} (hs : s.Ordered ranged last) (ahead : s.lookahead = some token)
    (new : landmarks journal = .shifted token synthetic :: landmarks s.journal)
    (place : slot.location = token.location)
    (rejoins : reshifts (landmarks journal) = true →
      Stack.InOrder ranged ((slot :: s.stack).take 2)) :
    Stack.InOrder ranged (slot :: s.stack) ∧
      (∀ other ∈ slot :: s.stack, other.location.Within ranged last) ∧
      rereads (landmarks journal) = rereads (landmarks s.journal) := by
  rw [new] at rejoins ⊢
  have hwithin : slot.location.Within ranged last := by
    rw [place]
    exact hs.ahead token ahead
  refine ⟨hs.stack.push ?_, List.forall_mem_cons.mpr ⟨hwithin, hs.slots⟩, rfl⟩
  cases hrereads : rereads (landmarks s.journal) with
  -- A recovery put the token ahead: only the condition says how it stands to the slot below.
  | true => exact hs.stack.leads_of_top (rejoins hrereads)
  | false =>
    intro below hbelow
    have hends := hs.fresh hrereads token ahead below hbelow
    rw [place]
    exact (hs.slots below hbelow).proper.leads.trans hends

/-- The token at fault is within what was read. -/
theorem Session.Ordered.atFault {token : Token} (hs : s.Ordered ranged last)
    (offending : s.offending? = some token) : token.location.Within ranged last := by
  unfold Session.offending? at offending
  obtain ⟨ahead, hahead, htoken⟩ := Option.map_eq_some_iff.mp offending
  have hwithin := hs.ahead ahead hahead
  split at htoken
  · cases hheld : s.held with
    | none =>
      rw [hheld] at htoken
      cases htoken
      exact hwithin
    | some held =>
      rw [hheld] at htoken
      cases htoken
      exact (hs.held _ hheld).1
  · cases htoken
    exact hwithin

/-- A parse that stays in order, fetches nothing and reduces nothing is as well spanned. -/
theorem Session.Spanned.move (hs : s.Spanned ranged start)
    (unreduced : Unreduced (landmarks s.journal) (landmarks s'.journal))
    (unfetched : fetchedTokens (landmarks s'.journal) = fetchedTokens (landmarks s.journal))
    (ordered : s'.Ordered ranged (frontier start (landmarks s.journal))) :
    s'.Spanned ranged start := by
  refine ⟨?_, fun stack reduction hmem => hs.reductions stack reduction (unreduced.mem hmem)⟩
  unfold frontier at *
  rwa [unfetched]

/-- Remarks keep a parse spanned. -/
theorem Session.Spanned.remark (hs : s.Spanned ranged start) {journal : List (ParserEvent V)}
    (same : landmarks journal = landmarks s.journal) :
    ({ s with journal } : Session σ V).Spanned ranged start := by
  obtain ⟨hstack, hslots, hpopped, hoffending, hahead, hheld, hfresh⟩ := hs.ordered
  have hordered : ({ s with journal } : Session σ V).Ordered ranged
      (frontier start (landmarks s.journal)) := by
    refine ⟨hstack, hslots, hpopped, hoffending, hahead, ?_, ?_⟩
    · dsimp only
      rw [same]
      exact hheld
    · dsimp only
      rw [same]
      exact hfresh
  refine hs.move ?_ (congrArg fetchedTokens same) hordered
  dsimp only
  rw [same]
  exact .refl _

namespace Engine

/-- A token that is fetched comes behind all that there is. It comes in order by assumption, and the
frontier is where the last one ended. -/
theorem Looks.ordered (h : Looks e s s') (hs : s.Ordered ranged last) :
    ∃ token, fetchedTokens (landmarks s'.journal) = token :: fetchedTokens (landmarks s.journal) ∧
      (last.Before ranged token.location → token.location.Proper ranged →
        s'.Ordered ranged token.location) := by
  cases h with
  | @mk token s₁ habsent hfetch =>
    refine ⟨token, hfetch.fetchedTokens, fun hbefore hproper => ?_⟩
    obtain ⟨hheld, hrecord, -⟩ := hfetch.keeps
    have hnone : s₁.held = none := by
      rw [hheld]
      cases hsome : s.held with
      | none => rfl
      | some held => exact absurd habsent (hs.held held hsome).2.2
    have hstack := hfetch.stack
    refine ⟨?_, ?_, ?_, ?_, ?_, ?_, ?_⟩
    · dsimp only
      rw [hstack]
      exact hs.stack
    · dsimp only
      rw [hstack]
      exact fun slot hslot => (hs.slots slot hslot).next hbefore hproper
    · dsimp only
      rw [hrecord]
      exact fun slot hslot => (hs.popped slot hslot).next hbefore hproper
    · dsimp only
      rw [hrecord]
      exact fun root hroot => (hs.offending root hroot).next hbefore hproper
    · rintro _ ⟨⟩
      exact hproper.within
    · dsimp only
      rw [hnone]
      nofun
    · rintro - _ ⟨⟩
      dsimp only
      rw [hstack]
      exact fun slot hslot => (hs.slots slot hslot).before hbefore hproper

/-- A shift keeps a parse in order. -/
theorem Shifts.ordered (h : Shifts e s s') (hs : s.Ordered ranged last)
    (rejoins : s'.RejoinsInOrder ranged) : s'.Ordered ranged last := by
  cases h with
  | plain _ hahead _ _ _ hnew =>
    obtain ⟨hstack, hslots, -⟩ := hs.shift hahead hnew rfl rejoins
    exact ⟨hstack, hslots, hs.popped, hs.offending, nofun, nofun, fun _ => nofun⟩
  | lexed _ hahead _ _ _ _ hnew =>
    obtain ⟨hstack, hslots, -⟩ := hs.shift hahead hnew rfl rejoins
    refine ⟨hstack, hslots, nofun, ?_, nofun, nofun, fun _ => nofun⟩
    rintro _ ⟨⟩
    exact hs.ahead _ hahead
  | @synthetic _ _ token held _ _ _ _ hahead hbehind _ hnew =>
    obtain ⟨hstack, hslots, hrereads⟩ := hs.shift hahead hnew rfl rejoins
    obtain ⟨hheld, hagain, -⟩ := hs.held held hbehind
    refine ⟨hstack, hslots, hs.popped, hs.offending, ?_, nofun, ?_⟩
    · rintro _ ⟨⟩
      exact hheld
    · intro hfresh
      rw [hrereads, hagain] at hfresh
      cases hfresh

/-- A reduction that is given its own location keeps a parse in order. The left-hand side takes the
place of its children, and the slots below led them. -/
theorem Reduces.ordered [Inhabited V] (h : Reduces e s s') (keeps : e.actions.KeepLocations)
    (hs : s.Ordered ranged last) : s'.Ordered ranged last := by
  cases h with
  | @mk state below target number production yield user journal _ _ henough hcalled _ _ hnew =>
    obtain ⟨hwithin, hbelow, hends⟩ := hs.reduction number henough
    have hrereads : rereads (landmarks journal) = rereads (landmarks s.journal) := by rw [hnew]; rfl
    have hlocation := keeps _ _ _ _ hcalled
    have hrest : Stack.InOrder ranged (s.stack.drop production.length) :=
      List.Pairwise.sublist (List.drop_sublist _ _) hs.stack
    refine ⟨hrest.push ?_, List.forall_mem_cons.mpr ⟨?_, ?_⟩, hs.popped, hs.offending, hs.ahead,
      ?_, ?_⟩
    · dsimp only
      rw [hlocation]
      exact hbelow
    · dsimp only
      rw [hlocation]
      exact hwithin
    · exact fun slot hslot => hs.slots slot (List.mem_of_mem_drop hslot)
    · dsimp only
      rw [hrereads]
      exact hs.held
    · dsimp only
      rw [hrereads]
      intro hfresh token htoken
      have hahead := hs.fresh hfresh token htoken
      refine List.forall_mem_cons.mpr
        ⟨?_, fun slot hslot => hahead slot (List.mem_of_mem_drop hslot)⟩
      dsimp only
      rw [hlocation]
      exact hends token.location hahead

/-- A token that is thrown away leaves a parse in order. -/
theorem Discards.ordered (h : Discards e s s') (hs : s.Ordered ranged last) :
    s'.Ordered ranged last := by
  cases h with
  | mk => exact ⟨hs.stack, hs.slots, hs.popped, hs.offending, nofun, nofun, fun _ => nofun⟩

/-- What a recovery records is within what was read. -/
theorem Settles.recorded {token : Token} {s₁ : Session σ V} (settled : Settles e s token s₁)
    (hs : s.Ordered ranged last) (within : token.location.Within ranged last) (depth : Nat) :
    (∀ slot ∈ (e.resumption depth token s₁).record.popped, slot.location.Within ranged last) ∧
      ∀ root ∈ (e.resumption depth token s₁).record.offending,
        root.location.Within ranged last := by
  have hrecord : ∀ record : Recovery V, record = (if s₁.recovering = 0 then {} else s₁.record) →
      (∀ slot ∈ record.popped, slot.location.Within ranged last) ∧
        ∀ root ∈ record.offending, root.location.Within ranged last := by
    rintro _ rfl
    split
    · exact ⟨nofun, nofun⟩
    · rw [settled.tokens.2.2.2]
      exact ⟨hs.popped, hs.offending⟩
  obtain ⟨hpopped, hroot⟩ := hrecord _ rfl
  refine ⟨fun slot hslot => ?_, fun root hmem => ?_⟩
  · rcases List.mem_append.mp hslot with hslot | hslot
    · exact hpopped slot hslot
    · have hstack : slot ∈ s₁.stack := List.mem_of_mem_take (List.mem_reverse.mp hslot)
      rw [settled.keeps.1] at hstack
      exact hs.slots slot hstack
  · cases hmem
    cases hoffending : (if s₁.recovering = 0 then ({} : Recovery V) else s₁.record).offending with
    | none => exact within
    | some root => exact hroot root hoffending

/-- A recovery cuts a stack that stays in order; what its record spans is within what was read.
Nothing is said of how the error token is placed to the slot that it will stand on: this is asked
when it is shifted. -/
theorem Resumes.ordered (h : Resumes e s s') (hs : s.Ordered ranged last) :
    s'.Ordered ranged last := by
  cases h with
  | @mk token depth s₁ hoffending hsettled =>
    have hwithin := hs.atFault hoffending
    obtain ⟨hpopped, hroot⟩ := hsettled.recorded hs hwithin depth
    have hstack : s₁.stack = s.stack := hsettled.keeps.1
    have hspan : ∀ span ∈ (e.resumption depth token s₁).record.location?,
        span.Within ranged last := by
      refine fun span hspan => Location.Within.cover ?_ hspan
      refine List.forall_mem_append.mpr ⟨?_, ?_⟩
      · exact List.forall_mem_map.mpr hpopped
      · exact List.forall_mem_map.mpr fun root hmem => hroot root (Option.mem_toList.mp hmem)
    have hagain : rereads (landmarks (e.resumption depth token s₁).journal) = true := rfl
    refine ⟨?_, ?_, hpopped, hroot, ?_, ?_, ?_⟩
    · rw [resumption_stack, hstack]
      exact List.Pairwise.sublist (List.drop_sublist _ _) hs.stack
    · rw [resumption_stack, hstack]
      exact fun slot hslot => hs.slots slot (List.mem_of_mem_drop hslot)
    · intro ahead hahead
      have hplace : ahead.location =
          (e.resumption depth token s₁).record.location?.getD token.location := by
        cases hahead
        rfl
      rw [hplace]
      cases hlocation : (e.resumption depth token s₁).record.location? with
      | none => exact hwithin
      | some span => exact hspan span hlocation
    · intro held hheld
      rw [resumption_held] at hheld
      split at hheld
      · cases hheld
      · cases hheld
        exact ⟨hwithin, hagain, nofun⟩
    · rw [hagain]
      nofun

/-! ## Moves without a reduction -/

theorem Fetches.unreduced {token : Token} (h : Fetches e s token s') :
    Unreduced (landmarks s.journal) (landmarks s'.journal) := by
  cases h with
  | read hnew => rw [hnew]; exact (Unreduced.refl _).cons rfl
  | @stuck _ _ info _ _ hnew =>
    have hreported : Unreduced (landmarks s.journal)
        (.reported (.ofUnrecognized e.table s.stack info) :: landmarks s.journal) :=
      (Unreduced.refl _).cons rfl
    rw [hnew]
    exact hreported.cons rfl

theorem FailsToFetch.unreduced (h : FailsToFetch e s s') :
    Unreduced (landmarks s.journal) (landmarks s'.journal) := by
  cases h with
  | silent hnew => rw [hnew]; exact .refl _
  | stuck hnew => rw [hnew]; exact (Unreduced.refl _).cons rfl

theorem Looks.unreduced (h : Looks e s s') :
    Unreduced (landmarks s.journal) (landmarks s'.journal) := by
  cases h with
  | mk _ hfetch => exact hfetch.unreduced

theorem Shifts.unreduced (h : Shifts e s s') :
    Unreduced (landmarks s.journal) (landmarks s'.journal) := by
  cases h with
  | plain _ _ _ _ _ hnew => rw [hnew]; exact (Unreduced.refl _).cons rfl
  | lexed _ _ _ _ _ _ hnew => rw [hnew]; exact (Unreduced.refl _).cons rfl
  | synthetic _ _ _ _ hnew => rw [hnew]; exact (Unreduced.refl _).cons rfl

theorem Discards.unreduced (h : Discards e s s') :
    Unreduced (landmarks s.journal) (landmarks s'.journal) := by
  cases h with
  | mk _ _ _ _ hnew => rw [hnew]; exact (Unreduced.refl _).cons rfl

theorem Settles.unreduced {token : Token} (h : Settles e s token s') :
    Unreduced (landmarks s.journal) (landmarks s'.journal) := by
  cases h with
  | silent _ _ _ hnew => rw [hnew]; exact .refl _
  | reported _ _ _ hnew => rw [hnew]; exact (Unreduced.refl _).cons rfl
  | refetched _ _ => exact .refl _

theorem Readies.unreduced (h : Readies e s s') :
    Unreduced (landmarks s.journal) (landmarks s'.journal) := by
  cases h with
  | here => exact .refl _
  | refetched hdiscard hlook => exact hdiscard.unreduced.trans hlook.unreduced

theorem Resumes.unreduced (h : Resumes e s s') :
    Unreduced (landmarks s.journal) (landmarks s'.journal) := by
  cases h with
  | mk _ hsettled =>
    rw [landmarks_resumption]
    exact hsettled.unreduced.cons rfl

theorem halt_unreduced (e : Engine σ V ε) (cause : ErrorCause) (state : StateId) (token : Token)
    (c : Config σ V) :
    Unreduced (landmarks c.session.journal)
      (landmarks (e.halt cause state token c).config.session.journal) := by
  rw [(e.halt_session cause state token c).1]
  exact (Unreduced.refl _).cons rfl

theorem discardToken_error_unreduced {state : StateId} {token : Token} {halt : Halt σ V ε}
    (h : e.discardToken state token c = .error halt) :
    Unreduced (landmarks c.session.journal) (landmarks halt.config.session.journal) := by
  unfold discardToken at h
  split at h
  · cases h
    exact e.halt_unreduced _ _ _ _
  · have hdiscarded : Unreduced (landmarks c.session.journal)
        (.discarded token :: landmarks c.session.journal) := (Unreduced.refl _).cons rfl
    exact hdiscarded.trans (fetch_error h).1.unreduced

/-- The first half of a recovery fails without a reduction. It fails by a report that ends the
parse, or by a search for a token; neither calls the action of a production. Reference: the first
half of `Parser::recover`. -/
theorem settle_error_unreduced {state : StateId} {halt : Halt σ V ε}
    (chosen : Chooses e c.session state .error) (h : e.settle state c = .error halt) :
    Unreduced (landmarks c.session.journal) (landmarks halt.config.session.journal) := by
  unfold settle at h
  cases htake : takeOffending c with
  | error halt => exact absurd htake (takeOffending_ne_error chosen)
  | ok taken =>
    obtain ⟨token, c₁⟩ := taken
    obtain ⟨-, held, rfl⟩ := takeOffending_ok htake
    rw [htake] at h
    simp only [bind, Except.bind, pure, Except.pure] at h
    split at h
    · cases hreport : e.reportToken state (e.recoveryDepth? c.session.stack) token
          ⟨c.lexer, { c.session with lookahead := none, held }⟩ with
      | ok c₂ => rw [hreport] at h; cases h
      | error halt' =>
        rw [hreport] at h
        cases h
        obtain ⟨-, ⟨excerpt, hnew⟩, -⟩ := reportToken_error hreport
        rw [hnew]
        exact (Unreduced.refl _).cons rfl
    · split at h
      · have hdiscarded := discardToken_error_unreduced h
        exact hdiscarded
      · cases h

/-- The second half of a recovery fails without a reduction. Reference: the second half of
`Parser::recover`. -/
theorem retry_error_unreduced {state : StateId} {depth : Option Nat} {token : Token}
    {halt : Halt σ V ε} (h : e.retry state depth token c = .error halt) :
    Unreduced (landmarks c.session.journal) (landmarks halt.config.session.journal) := by
  unfold retry at h
  split at h
  · cases h
    exact e.halt_unreduced _ _ _ _
  · simp only [bind, Except.bind, pure, Except.pure] at h
    split at h
    · next hcheck =>
      cases h
      rw [checkHeight_error hcheck]
      exact e.halt_unreduced _ _ _ _
    · cases h

/-- A recovery that fails has reduced nothing. Reference: `Parser::recover`. -/
theorem recover_error_unreduced {state : StateId} {halt : Halt σ V ε}
    (chosen : Chooses e c.session state .error) (h : e.recover state c = .error halt) :
    Unreduced (landmarks c.session.journal) (landmarks halt.config.session.journal) := by
  rw [recover_eq] at h
  cases hsettle : e.settle state c with
  | error halt' =>
    rw [hsettle] at h
    cases h
    exact settle_error_unreduced chosen hsettle
  | ok settled =>
    obtain ⟨token, c₁⟩ := settled
    rw [hsettle] at h
    obtain ⟨s, s₁, held, hready, -, hsettled, hs⟩ := settle_ok chosen hsettle
    have hjournal : c₁.session.journal = s₁.journal := congrArg (·.journal) hs
    have hunreduced : Unreduced (landmarks c.session.journal) (landmarks c₁.session.journal) := by
      rw [hjournal]
      exact hready.unreduced.trans hsettled.unreduced
    exact hunreduced.trans (retry_error_unreduced h)

/-! ## Steps -/

/-- What is fetched keeps a parse in order if it comes in order. -/
theorem Looks.spanned (h : Looks e s s') (hs : s.Spanned ranged start)
    (tokens : TokensInOrder ranged start (landmarks s'.journal)) : s'.Spanned ranged start := by
  obtain ⟨token, hfetched, hordered⟩ := h.ordered hs.ordered
  obtain ⟨hbefore, hproper⟩ := tokens.last hfetched
  refine ⟨?_, ?_⟩
  · unfold frontier
    rw [hfetched]
    exact hordered hbefore hproper
  · exact fun stack reduction hmem => hs.reductions stack reduction (h.unreduced.mem hmem)

/-- Arriving at the token that a step asks for keeps a parse spanned. -/
theorem Arrives.spanned (h : Arrives e s s') (hs : s.Spanned ranged start)
    (tokens : TokensInOrder ranged start (landmarks s'.journal)) : s'.Spanned ranged start := by
  cases h with
  | here hnew => exact hs.remark hnew
  | looked hlook hnew =>
    have htokens := tokens
    dsimp only at htokens
    rw [hnew] at htokens
    exact (hlook.spanned hs htokens).remark hnew

/-- A shift keeps a parse spanned. -/
theorem Shifts.spanned (h : Shifts e s s') (hs : s.Spanned ranged start)
    (rejoins : s'.RejoinsInOrder ranged) : s'.Spanned ranged start := by
  have hordered := h.ordered hs.ordered rejoins
  have hunreduced := h.unreduced
  cases h with
  | plain _ _ _ _ _ hnew => exact hs.move hunreduced (by dsimp only; rw [hnew]; rfl) hordered
  | lexed _ _ _ _ _ _ hnew => exact hs.move hunreduced (by dsimp only; rw [hnew]; rfl) hordered
  | synthetic _ _ _ _ hnew => exact hs.move hunreduced (by dsimp only; rw [hnew]; rfl) hordered

/-- Making ready for a recovery keeps a parse spanned. -/
theorem Readies.spanned (h : Readies e s s') (hs : s.Spanned ranged start)
    (tokens : TokensInOrder ranged start (landmarks s'.journal)) : s'.Spanned ranged start := by
  cases h with
  | here => exact hs
  | @refetched s₁ _ hdiscard hlook =>
    have hordered := hdiscard.ordered hs.ordered
    have hunreduced := hdiscard.unreduced
    refine hlook.spanned ?_ tokens
    cases hdiscard with
    | mk _ _ _ _ hnew => exact hs.move hunreduced (by dsimp only; rw [hnew]; rfl) hordered

/-- A recovery keeps a parse spanned. -/
theorem Resumes.spanned (h : Resumes e s s') (hs : s.Spanned ranged start) :
    s'.Spanned ranged start := by
  have hordered := h.ordered hs.ordered
  have hunreduced := h.unreduced
  cases h with
  | mk _ hsettled =>
    refine hs.move hunreduced ?_ hordered
    rw [landmarks_resumption]
    exact hsettled.tokens.1

/-- The journal that the last step of a parse leaves: it goes on from that of the session in which
the step acts, and the one reduction that it may add is that of the stack there. -/
def Closes (s : Session σ V) (events : List (ParserEvent V)) : Prop :=
  landmarks s.journal <:+ events ∧ ∀ stack reduction, .reduced stack reduction ∈ events →
    .reduced stack reduction ∈ landmarks s.journal ∨
      ∃ number production, reduction = reductionOf s number production

theorem closes_of_unreduced {events : List (ParserEvent V)}
    (h : Unreduced (landmarks s.journal) events) : Closes s events :=
  ⟨h.suffix, fun _ _ hmem => .inl (h.mem hmem)⟩

theorem Ends.closes {events : List (ParserEvent V)} (h : Ends e s events) : Closes s events := by
  cases h with
  | silent => exact closes_of_unreduced (.refl _)
  | @reduction _ number production _ _ _ =>
    refine ⟨List.suffix_cons _ _, fun stack reduction hmem => ?_⟩
    rcases List.mem_cons.mp hmem with heq | hmem
    · cases heq
      exact .inr ⟨number, production, rfl⟩
    · exact .inl hmem
  | lexical _ => exact closes_of_unreduced ((Unreduced.refl _).cons rfl)
  | unexpected _ _ _ _ => exact closes_of_unreduced ((Unreduced.refl _).cons rfl)
  | halted _ _ => exact closes_of_unreduced ((Unreduced.refl _).cons rfl)
  | haltedAfter _ hsettled _ _ => exact closes_of_unreduced (hsettled.unreduced.cons rfl)

section
variable [Inhabited V]

/-- A reduction keeps a parse spanned, and spans its own children. -/
theorem Reduces.spanned (h : Reduces e s s') (keeps : e.actions.KeepLocations)
    (hs : s.Spanned ranged start) : s'.Spanned ranged start := by
  have hordered := h.ordered keeps hs.ordered
  cases h with
  | @mk _ _ _ number production _ _ _ _ _ _ _ _ _ hnew =>
    have hfetched : frontier start (landmarks s.journal) =
        frontier start
          (.reduced s.stack (reductionOf s number production) :: landmarks s.journal) := rfl
    refine ⟨?_, ?_⟩
    · dsimp only
      rw [hnew, ← hfetched]
      exact hordered
    · dsimp only
      rw [hnew]
      intro stack reduction hmem
      rcases List.mem_cons.mp hmem with heq | hmem
      · cases heq
        exact hs.ordered.spans number production
      · exact hs.reductions stack reduction hmem

/-- A step that goes on keeps a parse spanned. -/
theorem Turn.spanned (h : Turn e s s') (keeps : e.actions.KeepLocations)
    (hs : s.Spanned ranged start) (tokens : TokensInOrder ranged start (landmarks s'.journal))
    (rejoins : s'.RejoinsInOrder ranged) : s'.Spanned ranged start := by
  cases h with
  | shift harrives hshifts =>
    exact hshifts.spanned (harrives.spanned hs (tokens.suffix (Move.shift hshifts).suffix)) rejoins
  | reduce harrives hreduces =>
    exact hreduces.spanned keeps (harrives.spanned hs (tokens.suffix (Move.reduce hreduces).suffix))
  | recover harrives hreadies hresumes =>
    have hready := tokens.suffix (Move.resume hresumes).suffix
    have harrived := harrives.spanned hs (hready.suffix hreadies.moves.suffix)
    exact hresumes.spanned (hreadies.spanned harrived hready)

/-! ## Runs -/

/-- An action that ends the parse adds at most the reduction of the stack as it stands. Reference:
the actions in `Parser::run`. -/
theorem perform_closes {state : StateId} {action : Action} {halt : Halt σ V ε}
    (arrives : Arrives e s c.session) (chosen : Chooses e c.session state action)
    (h : e.perform state c action = .error halt) :
    ∃ s₁, Arrives e s s₁ ∧ Closes s₁ (landmarks halt.config.session.journal) := by
  have hsilent : Closes c.session (landmarks c.session.journal) := closes_of_unreduced (.refl _)
  cases action with
  | shift target => exact absurd h (shift_ne_error (chosen.note _))
  | reduce number => exact ⟨_, arrives.note rfl, (reduce_error (chosen.note _) h).1.closes⟩
  | accept =>
    unfold perform at h
    dsimp only at h
    split at h
    · cases h; exact ⟨_, arrives, hsilent⟩
    · cases h; exact ⟨_, arrives, hsilent⟩
  | error => exact ⟨_, arrives, closes_of_unreduced (recover_error_unreduced chosen h)⟩
  | ambiguous number => cases h; exact ⟨_, arrives, hsilent⟩
  | goto target => cases h; exact ⟨_, arrives, hsilent⟩

/-- The last step of a parse adds at most the reduction of the stack it arrives at. Reference: one
round of `Parser::run`. -/
theorem step_closes {halt : Halt σ V ε} (h : e.step c = .error halt) :
    ∃ s₁, Arrives e c.session s₁ ∧ Closes s₁ (landmarks halt.config.session.journal) := by
  have hsilent : Closes c.session (landmarks c.session.journal) := closes_of_unreduced (.refl _)
  unfold step at h
  split at h
  · cases h; exact ⟨_, .here rfl, hsilent⟩
  · next state htop =>
    split at h
    · next hknown =>
      cases hchoose : e.chooseAction state c with
      | error halt' =>
        rw [hchoose] at h
        cases h
        have hfails := (fetch_error (chooseAction_error hchoose).2.2).1
        exact ⟨_, .here rfl, closes_of_unreduced hfails.unreduced⟩
      | ok r =>
        rw [hchoose] at h
        obtain ⟨harrives, hchosen⟩ := chooseAction_ok htop hknown hchoose
        exact perform_closes ((arrives_of_choice harrives).note rfl) (hchosen.note _) h
    · cases h; exact ⟨_, .here rfl, hsilent⟩

theorem session_mem_sessions (e : Engine σ V ε) (fuel : Nat) (c : Config σ V) :
    c.session ∈ e.sessions fuel c := by
  cases fuel <;> exact List.mem_cons_self

/-- A parse that is spanned stays so to its end, as long as its tokens come in order and what its
recoveries put ahead or back is in order with the slot it is put on. Reference: `Parser::run`. -/
theorem run_spans (keeps : e.actions.KeepLocations) {fuel : Nat}
    (hs : c.session.Spanned ranged start)
    (tokens : TokensInOrder ranged start (landmarks (e.run fuel c).config.session.journal))
    (rejoins : ∀ s ∈ e.sessions fuel c, s.RejoinsInOrder ranged) {stack : Stack V}
    {reduction : Reduction V}
    (hmem : .reduced stack reduction ∈ landmarks (e.run fuel c).config.session.journal) :
    reduction.SpansChildren ranged := by
  induction fuel generalizing c with
  | zero => exact hs.reductions stack reduction hmem
  | succ fuel ih =>
    unfold run at tokens hmem
    unfold sessions at rejoins
    cases hstep : e.step c with
    | ok c' =>
      rw [hstep] at tokens hmem rejoins
      obtain ⟨-, hlater⟩ := List.forall_mem_cons.mp rejoins
      have hrejoins := hlater c'.session (e.session_mem_sessions fuel c')
      have htokens := tokens.suffix (e.run_suffix fuel c')
      exact ih ((step_ok hstep).spanned keeps hs htokens hrejoins) tokens hlater hmem
    | error halt =>
      rw [hstep] at tokens hmem
      -- The last step may reduce and then fail, so its reduction is seen in the journal alone.
      obtain ⟨s₁, harrives, hsuffix, hreduced⟩ := step_closes hstep
      have harrived := harrives.spanned hs (tokens.suffix hsuffix)
      rcases hreduced stack reduction hmem with hearlier | ⟨number, production, rfl⟩
      · exact harrived.reductions stack reduction hearlier
      · exact harrived.ordered.spans number production

/-- The sessions of a parse come before its end. -/
theorem sessions_suffix {fuel : Nat} (hmem : s ∈ e.sessions fuel c) :
    landmarks s.journal <:+ landmarks (e.run fuel c).config.session.journal := by
  induction fuel generalizing c with
  | zero =>
    obtain rfl := List.mem_singleton.mp hmem
    exact List.suffix_refl _
  | succ fuel ih =>
    rcases List.mem_cons.mp hmem with rfl | hlater
    · exact e.run_suffix _ c
    · unfold run
      cases hstep : e.step c with
      | ok c' => rw [hstep] at hlater; exact ih hlater
      | error halt => rw [hstep] at hlater; cases hlater

/-- The start of an input is a proper location. -/
theorem setInput_proper (lexer : Lexer) (input : String) :
    (lexer.setInput input).location.Proper ranged where
  ends := Position.le_refl _
  range _ span hspan := by
    have hplace : (lexer.setInput input).location.range =
        if lexer.options.ranges then some (0, 0) else none := rfl
    rw [hplace] at hspan
    split at hspan
    · cases hspan; exact Nat.le_refl _
    · cases hspan

/-- A parse starts with nothing but the slot at the start of its input. -/
theorem reset_spanned (c : Config σ V) (input : String) :
    (c.reset input).session.Spanned ranged (c.lexer.setInput input).location := by
  have hproper : (c.lexer.setInput input).location.Proper ranged := setInput_proper c.lexer input
  have hstack : Stack.InOrder ranged (c.reset input).session.stack := List.pairwise_singleton _ _
  have hslots : ∀ slot ∈ (c.reset input).session.stack,
      slot.location.Within ranged (c.lexer.setInput input).location :=
    List.forall_mem_singleton.mpr hproper.within
  exact ⟨⟨hstack, hslots, nofun, nofun, nofun, nofun, fun _ => nofun⟩, fun _ _ => nofun⟩

/-- Every reduction of a parse spans all of its children, if the tokens come in order, the actions
leave the locations alone, and what a recovery has put ahead or back is in order with the slot it is
put on. Reference: `Reduction::location`, merged in `Parser::reduce`. -/
theorem reductions_span_their_children (e : Engine σ V ε) (keeps : e.actions.KeepLocations)
    (fuel : Nat) (input : String) (c : Config σ V) (ranged : Bool)
    (tokens : TokensInOrder ranged (c.lexer.setInput input).location
      (e.run fuel (c.reset input)).config.session.journal)
    (rejoins : ∀ s ∈ e.sessions fuel (c.reset input), s.RejoinsInOrder ranged) (stack : Stack V)
    (reduction : Reduction V)
    (reduced : .reduced stack reduction ∈ (e.run fuel (c.reset input)).config.session.events) :
    reduction.SpansChildren ranged := by
  have hmem : .reduced stack reduction ∈
      landmarks (e.run fuel (c.reset input)).config.session.journal :=
    List.mem_filter.mpr ⟨List.mem_reverse.mp reduced, rfl⟩
  exact run_spans keeps (reset_spanned c input) tokens.landmarks rejoins hmem

/-- Without a recovery every reduction of a parse spans its children. -/
theorem unrecovered_reductions_span (keeps : e.actions.KeepLocations) {fuel : Nat}
    {input : String}
    (tokens : TokensInOrder ranged (c.lexer.setInput input).location
      (e.run fuel (c.reset input)).config.session.journal)
    (unrecovered : ∀ token height,
      .resumed token height ∉ (e.run fuel (c.reset input)).config.session.journal)
    {stack : Stack V} {reduction : Reduction V}
    (reduced : .reduced stack reduction ∈ (e.run fuel (c.reset input)).config.session.events) :
    reduction.SpansChildren ranged := by
  have hmem : .reduced stack reduction ∈
      landmarks (e.run fuel (c.reset input)).config.session.journal :=
    List.mem_filter.mpr ⟨List.mem_reverse.mp reduced, rfl⟩
  refine run_spans keeps (reset_spanned c input) tokens.landmarks ?_ hmem
  intro s hs hreshifts
  obtain ⟨token, height, hresumed⟩ := resumed_of_reshifts hreshifts
  have hlater := (List.mem_filter.mp ((sessions_suffix hs).mem hresumed)).1
  exact absurd hlater (unrecovered token height)

end

end Engine

end

/-! ## A recovery in order, and one out of order -/

namespace Calculator

/-- The calculator's actions leave the locations alone. -/
theorem actions_keepLocations : actions.KeepLocations := by
  intro reduction user yield user' h
  unfold actions productionAction at h
  dsimp only at h
  split at h
  · cases h; rfl
  · cases hvalue : evaluate reduction with
    | ok value => rw [hvalue] at h; cases h; rfl
    | error fault => rw [hvalue] at h; cases h

/-- Of two lines the first has an error that three recoveries follow; all reductions span their
children. -/
theorem skipped_line_is_spanned :
    let parsed := (tolerant.engine 9).run (stepLimit 9) (tolerant.config.reset "1 2 3; 4;")
    (tolerant.engine 9).actions.KeepLocations ∧
    TokensInOrder true (tolerant.config.lexer.setInput "1 2 3; 4;").location
      parsed.config.session.journal ∧
    (∀ s ∈ (tolerant.engine 9).sessions (stepLimit 9) (tolerant.config.reset "1 2 3; 4;"),
      s.RejoinsInOrder true) ∧
    parsed.config.session.stats.recoveries = 3 ∧
    ∀ stack reduction, .reduced stack reduction ∈ parsed.config.session.events →
      reduction.SpansChildren true := by
  have htokens : TokensInOrder true (tolerant.config.lexer.setInput "1 2 3; 4;").location
      ((tolerant.engine 9).run (stepLimit 9)
        (tolerant.config.reset "1 2 3; 4;")).config.session.journal := by
    decide +kernel
  have hrejoins : ∀ s ∈ (tolerant.engine 9).sessions (stepLimit 9)
      (tolerant.config.reset "1 2 3; 4;"), s.RejoinsInOrder true := by
    decide +kernel
  exact ⟨actions_keepLocations, htokens, hrejoins, by decide +kernel,
    Engine.reductions_span_their_children (tolerant.engine 9) actions_keepLocations (stepLimit 9)
      "1 2 3; 4;" tolerant.config true htokens hrejoins⟩

end Calculator

namespace Remnants

/-- The productions `line -> error rest`, `rest -> opt NUM ';'` and `opt -> <empty>`. -/
def table : Table :=
  (Table.build
    [.terminal "';'", .terminal "NUM",
     .nonterminal "line", .nonterminal "rest", .nonterminal "opt",
     .production "line" 2, .production "rest" 3, .production "opt" 0,
     -- State 0: nothing is read; state 1: behind a line.
     .shift 0 "error" 2, .goto 0 "line" 1, .accept 1,
     -- State 2: behind an error.
     .defaultReduce 2 3, .goto 2 "opt" 3, .goto 2 "rest" 6,
     -- States 3 to 6: in the rest of the line, and behind it.
     .shift 3 "NUM" 4, .shift 4 "';'" 5, .defaultReduce 5 2, .defaultReduce 6 1]).toOption.get
    (by decide +kernel)

/-- Blanks, numbers and semicolons. -/
def rules : LexerRules :=
  (LexerRules.build {} [.rule [] "\\s+", .rule [] "[0-9]+", .rule [] ";"]).toOption.get
    (by decide +kernel)

/-- A parser that builds nothing. -/
def engine : Engine Unit Unit Empty where
  table := table
  actions :=
    { rule := fun rule lexer user => (.ok ([none, some 4, some 3].getD rule none), lexer, user)
      tokenValue := fun _ user => ((), user)
      reduce := fun _ user => (.ok {}, user)
      judge := fun _ user => (none, user) }
  scanLimit := 9

/-- The parser before its first input. -/
def config : Config Unit Unit := ⟨Lexer.new rules, { user := () }⟩

/-- The first number is at fault, and read again behind the empty production that is reduced behind
the error token. The remnant of the line is reduced without it: its location starts at the end of
the number, the second of its children at the start of it. Reference: `Parser::reduce`, which merges
the first location and the last one. -/
theorem number_is_left_out :
    let parsed := engine.run 99 (config.reset "12 ;")
    engine.actions.KeepLocations ∧
    TokensInOrder true (config.lexer.setInput "12 ;").location parsed.config.session.journal ∧
    parsed.stop = .accepted () ∧
    ∃ stack reduction, .reduced stack reduction ∈ parsed.config.session.events ∧
      ¬ reduction.SpansChildren false := by
  intro parsed
  have hkeeps : engine.actions.KeepLocations := by
    intro reduction user yield user' h
    cases h
    rfl
  have hfound : (parsed.config.session.events.any fun
      | .reduced _ reduction => !decide (reduction.SpansChildren false)
      | _ => false) = true := by
    decide +kernel
  refine ⟨hkeeps, by decide +kernel, rfl, ?_⟩
  obtain ⟨event, hevent, hout⟩ := List.any_eq_true.mp hfound
  cases event with
  | reduced stack reduction => exact ⟨stack, reduction, hevent, by simpa using hout⟩
  | _ => cases hout

end Remnants

end ShiftReduce
