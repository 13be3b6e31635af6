import ShiftReduce.Proofs.Parser.Record

/-!
# What a recovery takes into custody

A stack and the record of a recovery are handled together: slots are pushed, cut off or given other
values, and what is popped off the stack goes into the record. Whatever is done to the two, in whatever
order (`Handling`), no slot is lost or doubled on the way, and the record tells of all that happened
since it was begun or cleared last, and of nothing else (`Custody.slots_are_conserved`).

The source keeps a stack as four lists, and handles them one after the other. That a stack of slots
agrees with four lists that are handled so (`Custody.columns_handle`) says that the lists never come
apart.
-/

namespace ShiftReduce

variable {V : Type}

/-! ## Handlings -/

/-- What is done to a stack or to the record of a recovery. -/
inductive Handling (V : Type)
  | push (slot : Slot V)
  | truncate (height : Nat)
  | clear
  | takeTop
  /-- The values of the top slots are overwritten, the lowest of them first. -/
  | write (values : List V)
  /-- Each of the top `n` values is changed. -/
  | change (n : Nat) (f : V → V)
  | beginAt (height : Nat) (token : Token)
  | popFrom (depth : Nat) (token : Token)
  | discard (token : Token)
  /-- The record is cleared. -/
  | forget

namespace Handling

/-- A handling asks for no more slots than a stack of a height has. -/
def Fits (height : Nat) : Handling V → Prop
  | write values => values.length ≤ height
  | change n _ => n ≤ height
  | popFrom depth _ => depth ≤ height
  | _ => True

/-- The height of a stack after a handling, which its kind and the height before it tell. -/
def heightAfter (height : Nat) : Handling V → Nat
  | push _ => height + 1
  | truncate limit => min limit height
  | clear => 0
  | popFrom depth _ => height - depth
  | _ => height

/-- No handling of a list asks for more slots than there are when its turn comes. -/
def AllFit : (height : Nat) → List (Handling V) → Prop
  | _, [] => True
  | height, handling :: rest => handling.Fits height ∧ AllFit (handling.heightAfter height) rest

/-- A handling with which the record starts anew. Reference: `RecoveryTrack::begin` and
`RecoveryTrack::clear`. -/
def starts : Handling V → Bool
  | beginAt _ _ | forget => true
  | _ => false

/-- What a handling does to the four lists of a stack and to those of its record, one by one. How high
the stack is, its list of states tells. -/
def onColumns [Inhabited V] : Handling V → Columns V × Columns V → Columns V × Columns V
  | push slot, (live, kept) => (live.append (.ofSlots [slot]), kept)
  | truncate height, (live, kept) => (live.take height, kept)
  | clear, (live, kept) => (live.take 0, kept)
  | takeTop, (live, kept) =>
    ({ live with values := live.values.set (live.values.length - 1) default }, kept)
  | write values, (live, kept) =>
    ({ live with values := live.values.take (live.states.length - values.length) ++ values }, kept)
  | change n f, (live, kept) =>
    let below := live.states.length - n
    ({ live with values := live.values.take below ++ (live.values.drop below).map f }, kept)
  | beginAt _ _, (live, _) => (live, {})
  | popFrom depth _, (live, kept) =>
    let below := live.states.length - depth
    (live.take below, kept.append (live.drop below))
  | discard _, columns => columns
  | forget, (live, _) => (live, {})

end Handling

namespace Recovery.Episode

/-- The episode after a handling of its record and a stack. Handlings of the stack alone are no part
of it. -/
def after (e : Episode V) (stack : Stack V) : Handling V → Episode V
  | .beginAt height token => { opening := some (height, token) }
  | .popFrom depth token => e.add (.popped ⟨stack, depth, token⟩)
  | .discard token => e.add (.discarded token)
  | .forget => {}
  | .push _ | .truncate _ | .clear | .takeTop | .write _ | .change _ _ => e

/-- A height that is told once is told until the record starts anew. -/
theorem height?_after {e : Episode V} {handling : Handling V} (goesOn : handling.starts = false)
    (told : e.height? ≠ none) (stack : Stack V) : (e.after stack handling).height? = e.height? := by
  have hsomething : e.recorded ≠ 0 := by
    intro hnothing
    rw [recorded_eq_zero.mp hnothing] at told
    exact told rfl
  cases handling with
  | beginAt | forget => cases goesOn
  | popFrom depth token => exact (height?_add _ _).trans (if_neg hsomething)
  | discard token => exact (height?_add _ _).trans (if_neg hsomething)
  | push | truncate | clear | takeTop | write | change => rfl

end Recovery.Episode

/-- A stack, and the record of the recovery that pops it. Reference: `ParseStacks` and
`RecoveryTrack`. -/
structure Custody (V : Type) where
  stack : Stack V := []
  record : Recovery V := {}

namespace Custody

variable [Inhabited V] {c c' : Custody V}

/-- A stack and its record after a handling; none if there are not slots enough. -/
def handle (c : Custody V) : Handling V → Option (Custody V)
  | .push slot => some { c with stack := slot :: c.stack }
  | .truncate height => some { c with stack := c.stack.truncate height }
  | .clear => some { c with stack := c.stack.truncate 0 }
  | .takeTop => some { c with stack := c.stack.takeTop?.2 }
  | .write values =>
    (c.stack.window? values.length).map fun _ => { c with stack := c.stack.overwrite values }
  | .change n f => (c.stack.window? n).map fun _ => { c with stack := c.stack.mapWindow n f }
  | .beginAt height token => some { c with record := .beginAt height token }
  | .popFrom depth token =>
    (c.record.popFrom? c.stack depth token).map fun (record, stack) => { stack, record }
  | .discard token => some { c with record := c.record.discard token }
  | .forget => some { c with record := {} }

/-- A stack and its record after some handlings, and the episode that an earlier one has become by then;
none if there are not slots enough for one of them. -/
def handleAll (c : Custody V) (e : Recovery.Episode V) :
    List (Handling V) → Option (Custody V × Recovery.Episode V)
  | [] => some (c, e)
  | handling :: rest =>
    (c.handle handling).bind fun next => next.handleAll (e.after c.stack handling) rest

/-- The four lists of the stack and those of the popped slots. -/
def columns (c : Custody V) : Columns V × Columns V :=
  (.ofSlots c.stack.slots, .ofSlots c.record.popped)

/-! ## One handling -/

/-- Values are written if there are slots enough for them. -/
theorem handle_write {values : List V} : c.handle (.write values) = some c' ↔
    values.length ≤ c.stack.length ∧ { c with stack := c.stack.overwrite values } = c' := by
  by_cases fits : values.length ≤ c.stack.length <;> simp [handle, Stack.window?, fits]

/-- Values are changed if there are that many slots. -/
theorem handle_change {n : Nat} {f : V → V} : c.handle (.change n f) = some c' ↔
    n ≤ c.stack.length ∧ { c with stack := c.stack.mapWindow n f } = c' := by
  by_cases fits : n ≤ c.stack.length <;> simp [handle, Stack.window?, fits]

/-- Slots are popped if there are that many. -/
theorem handle_popFrom {depth : Nat} {token : Token} : c.handle (.popFrom depth token) = some c' ↔
    depth ≤ c.stack.length ∧
      ⟨c.stack.drop depth, (c.record.popFrom c.stack depth token).1⟩ = c' := by
  by_cases fits : depth ≤ c.stack.length <;>
    simp [handle, Recovery.popFrom?, Recovery.popFrom, fits]

/-- A handling is carried out exactly if it asks for no more slots than there are. -/
theorem exists_handle_iff {handling : Handling V} :
    (∃ c', c.handle handling = some c') ↔ handling.Fits c.stack.length := by
  cases handling with
  | write values => simp [handle_write, Handling.Fits]
  | change n f => simp [handle_change, Handling.Fits]
  | popFrom depth token => simp [handle_popFrom, Handling.Fits]
  | _ => exact iff_of_true ⟨_, rfl⟩ trivial

/-- How high the stack is after a handling, its height before tells. -/
theorem height_handle {handling : Handling V} (handled : c.handle handling = some c') :
    c'.stack.length = handling.heightAfter c.stack.length := by
  cases handling with
  | truncate height =>
    cases handled
    exact Stack.length_truncate _ _
  | clear =>
    cases handled
    exact (Stack.length_truncate _ _).trans (Nat.zero_min _)
  | takeTop =>
    cases handled
    exact Stack.length_takeTop _
  | write values =>
    obtain ⟨fits, rfl⟩ := handle_write.mp handled
    exact Stack.length_overwrite fits
  | change n f =>
    obtain ⟨-, rfl⟩ := handle_change.mp handled
    exact Stack.length_mapWindow _ _ _
  | popFrom depth token =>
    obtain ⟨-, rfl⟩ := handle_popFrom.mp handled
    exact List.length_drop
  | push | beginAt | discard | forget =>
    cases handled
    rfl

/-- What a handling does to the slots, it does to each of their four lists. Each list is handled
without a look at the others, but for the list of states, which tells how high the stack is. -/
theorem columns_handle {handling : Handling V} (handled : c.handle handling = some c') :
    c'.columns = handling.onColumns c.columns := by
  have heven : (Columns.ofSlots c.stack.slots).Even c.stack.length :=
    Stack.length_slots c.stack ▸ Columns.even_ofSlots c.stack.slots
  unfold columns
  cases handling with
  | push slot =>
    cases handled
    dsimp only [Handling.onColumns]
    rw [Stack.slots_cons, Columns.ofSlots_append]
  | truncate height | clear =>
    cases handled
    dsimp only [Handling.onColumns]
    rw [Stack.slots_truncate, Columns.ofSlots_take]
  | takeTop =>
    cases handled
    dsimp only [Handling.onColumns]
    rw [heven.values, Columns.ofSlots_takeTop]
  | write values =>
    obtain ⟨fits, rfl⟩ := handle_write.mp handled
    dsimp only [Handling.onColumns]
    rw [heven.states, Columns.ofSlots_overwrite fits]
  | change n f =>
    obtain ⟨fits, rfl⟩ := handle_change.mp handled
    dsimp only [Handling.onColumns]
    rw [heven.states, Columns.ofSlots_mapWindow fits]
  | popFrom depth token =>
    obtain ⟨-, rfl⟩ := handle_popFrom.mp handled
    dsimp only [Handling.onColumns, Recovery.popFrom]
    rw [heven.states, Stack.slots_drop, Columns.ofSlots_take, ← Stack.slots, Stack.slots_take,
      Columns.ofSlots_append, Columns.ofSlots_drop]
  | beginAt | discard | forget =>
    cases handled
    rfl

/-- After a handling the record tells of what it told before, and of the handling. Pushing, cutting
and overwriting leave the record as it is; a popping adds the slots and its token to it, and a token
that is thrown away is put behind the others. -/
theorem tells_handle {handling : Handling V} {e : Recovery.Episode V}
    (handled : c.handle handling = some c') (tells : c.record.Tells e) :
    c'.record.Tells (e.after c.stack handling) := by
  cases handling with
  | beginAt height token =>
    cases handled
    exact .beginAt height token
  | popFrom depth token =>
    obtain ⟨-, rfl⟩ := handle_popFrom.mp handled
    exact tells.popFrom c.stack depth token
  | discard token =>
    cases handled
    exact tells.discard token
  | forget =>
    cases handled
    exact .cleared
  | write values =>
    obtain ⟨-, rfl⟩ := handle_write.mp handled
    exact tells
  | change n f =>
    obtain ⟨-, rfl⟩ := handle_change.mp handled
    exact tells
  | push | truncate | clear | takeTop =>
    cases handled
    exact tells

/-- A popping takes the slots on top, from the bottom up, and leaves those below. -/
theorem popFrom_top {rest upper : List (Slot V)} (stands : c.stack.slots = rest ++ upper)
    (token : Token) :
    ∃ c', c.handle (.popFrom upper.length token) = some c' ∧ c'.stack.slots = rest ∧
      c'.record.popped = c.record.popped ++ upper := by
  have hheight : c.stack.length = rest.length + upper.length := by
    rw [← Stack.length_slots, stands, List.length_append]
  have hbelow : c.stack.length - upper.length = rest.length := by omega
  refine ⟨_, handle_popFrom.mpr ⟨by omega, rfl⟩, ?_, ?_⟩
  · rw [Stack.slots_drop, hbelow, stands, List.take_left]
  · show c.record.popped ++ Stack.slots (c.stack.take upper.length) = _
    rw [Stack.slots_take, hbelow, stands, List.drop_left]

/-! ## Any handlings -/

/-- The slots are where four lists have them, and the record tells of an episode. -/
structure Conserves (c : Custody V) (columns : Columns V × Columns V) (e : Recovery.Episode V) :
    Prop where
  slots : c.columns = columns
  tells : c.record.Tells e

/-- Handlings that never ask for more slots than there are are carried out, and conserve the slots. -/
theorem Conserves.handleAll {handlings : List (Handling V)} {columns : Columns V × Columns V}
    {e : Recovery.Episode V} (h : c.Conserves columns e)
    (fit : Handling.AllFit c.stack.length handlings) :
    ∃ c' e', c.handleAll e handlings = some (c', e') ∧
      c'.Conserves (handlings.foldl (fun columns handling => handling.onColumns columns) columns)
        e' := by
  induction handlings generalizing c columns e with
  | nil => exact ⟨c, e, rfl, h⟩
  | cons handling rest ih =>
    obtain ⟨next, hnext⟩ := exists_handle_iff.mpr fit.1
    have hconserves : next.Conserves (handling.onColumns columns) (e.after c.stack handling) :=
      ⟨(columns_handle hnext).trans (congrArg _ h.slots), tells_handle hnext h.tells⟩
    obtain ⟨c', e', hrest, hend⟩ := ih hconserves (height_handle hnext ▸ fit.2)
    refine ⟨c', e', ?_, hend⟩
    rw [Custody.handleAll, hnext, Option.bind_some, hrest]

/-- Whatever is done to a stack and its record, as long as no more slots are asked for than there
are: the slots are where they would be if each of their four lists had been handled by itself, and
these lists stay even. The record tells of what happened since it was begun or cleared last; a
height that it was told once it keeps until then. A popping takes the slots on top and leaves those
below, so that two poppings take the upper ones first. Reference: `ParseStacks` and `RecoveryTrack`.
-/
theorem slots_are_conserved (handlings : List (Handling V)) (fit : Handling.AllFit 0 handlings) :
    ∃ (c : Custody V) (e : Recovery.Episode V) (live kept : Columns V),
      handleAll {} {} handlings = some (c, e) ∧
      handlings.foldl (fun columns handling => handling.onColumns columns) ({}, {}) = (live, kept) ∧
      live = .ofSlots c.stack.slots ∧ live.Even c.stack.length ∧
      kept = .ofSlots c.record.popped ∧ kept.Even c.record.popped.length ∧
      c.record.Tells e ∧
      (∀ handling c', c.handle handling = some c' → handling.starts = false → e.height? ≠ none →
        c'.record.height = c.record.height) ∧
      (∀ rest upper token, c.stack.slots = rest ++ upper →
        ∃ c', c.handle (.popFrom upper.length token) = some c' ∧ c'.stack.slots = rest ∧
          c'.record.popped = c.record.popped ++ upper) ∧
      ∀ rest lower upper token token', c.stack.slots = rest ++ lower ++ upper →
        ∃ c', (c.handle (.popFrom upper.length token)).bind
            (·.handle (.popFrom lower.length token')) = some c' ∧
          c'.stack.slots = rest ∧ c'.record.popped = c.record.popped ++ (upper ++ lower) := by
  have hstart : Conserves (V := V) {} ({}, {}) {} := ⟨rfl, .cleared⟩
  obtain ⟨c, e, hrun, hslots, htells⟩ := hstart.handleAll fit
  refine ⟨c, e, .ofSlots c.stack.slots, .ofSlots c.record.popped, hrun, hslots.symm, rfl,
    Stack.length_slots c.stack ▸ Columns.even_ofSlots _, rfl, Columns.even_ofSlots _, htells, ?_,
    fun rest upper token stands => popFrom_top stands token, ?_⟩
  · intro handling c' handled goesOn told
    rw [(tells_handle handled htells).height, htells.height, e.height?_after goesOn told]
  · intro rest lower upper token token' stands
    obtain ⟨next, hfirst, hleft, hgained⟩ := popFrom_top stands token
    obtain ⟨last, hsecond, hrest, hmore⟩ := popFrom_top hleft token'
    refine ⟨last, ?_, hrest, by rw [hmore, hgained, List.append_assoc]⟩
    rw [hfirst, Option.bind_some, hsecond]

/-- A token is thrown away before anything is popped, and then slots are popped because of two others. -/
def twoPoppings : List (Handling String) :=
  [.push ⟨0, 0, "a", {}⟩, .push ⟨4, 1, "b", {}⟩, .push ⟨3, 3, "c", {}⟩,
    .discard { text := "early" }, .popFrom 1 { text := "bad" }, .discard { text := "bad" },
    .popFrom 1 { text := "late" }, .discard { text := "late" }]

/-- The slot on top is popped first. The token of the first popping is the offending one and not thrown
away a second time; the height is not told, since an entry stands before that popping. -/
theorem slots_of_two_poppings :
    Handling.AllFit 0 twoPoppings ∧ ∃ c e, handleAll {} {} twoPoppings = some (c, e) ∧
      c.stack.slots.map (·.value) = ["a"] ∧ c.record.popped.map (·.value) = ["c", "b"] ∧
      c.record.offending = some { text := "bad" } ∧
      c.record.discarded = [{ text := "early" }, { text := "late" }] ∧
      c.record.height = 0 ∧ c.record.recorded = 7 := by
  have hfit : Handling.AllFit 0 twoPoppings := by
    simp [twoPoppings, Handling.AllFit, Handling.Fits, Handling.heightAfter]
  obtain ⟨c, e, live, kept, hrun, hcolumns, hlive, -, hkept, -, htells, -⟩ :=
    slots_are_conserved twoPoppings hfit
  obtain ⟨rfl, rfl⟩ := Prod.mk.inj hcolumns
  obtain ⟨-, rfl⟩ := Prod.mk.inj (Option.some.inj (hrun.symm.trans rfl))
  exact ⟨hfit, c, _, hrun, (congrArg (·.values) hlive).symm, (congrArg (·.values) hkept).symm,
    htells.offending.trans rfl, htells.discarded.trans (by decide), htells.height, htells.recorded⟩

end Custody

end ShiftReduce
