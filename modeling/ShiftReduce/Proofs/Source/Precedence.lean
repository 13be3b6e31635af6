import ShiftReduce.Source.Position

/-!
# Locations in order

A location leads another if it starts no later and ends no later (`Location.Leads`). The relation
says all that the order of a text says of its pieces: that a piece does not end before it starts is
that it leads the empty span at its end, and that one piece ends where the next one starts is that
the end of the first leads the second. Merging keeps the relation on both sides, and of a list in
which every location leads those behind it the first and the last one span what all of them do
(`Location.cover?_agrees`). The relations are about positions, or about positions and spans of
characters alike.
-/

namespace ShiftReduce

namespace Position

/-- The earlier of two positions in order. -/
theorem earlier_eq_left {a b : Position} (h : a ≤ b) : a.earlier b = a := if_pos h

/-- The later of two positions in order. -/
theorem later_eq_right {a b : Position} (h : a ≤ b) : a.later b = b := by
  unfold later
  split
  · next hba => exact le_antisymm h hba
  · rfl

/-- A position before two others is before the earlier one. -/
theorem le_earlier {a b c : Position} (hb : a ≤ b) (hc : a ≤ c) : a ≤ b.earlier c := by
  unfold earlier
  split <;> assumption

/-- A position behind two others is behind the later one. -/
theorem later_le {a b c : Position} (ha : a ≤ c) (hb : b ≤ c) : a.later b ≤ c := by
  unfold later
  split <;> assumption

end Position

/-- Two optional values that are related can be told by looking. -/
instance Option.decidableRel {α β : Type} (r : α → β → Prop) [∀ a b, Decidable (r a b)] :
    ∀ a b, Decidable (Option.Rel r a b)
  | some a, some b => decidable_of_iff (r a b) ⟨.some, fun | .some h => h⟩
  | none, none => isTrue .none
  | some _, none => isFalse nofun
  | none, some _ => isFalse nofun

namespace Location

/-- A location leads another if it starts no later and ends no later, also in characters if these
count. -/
structure Leads (ranged : Bool) (a b : Location) : Prop where
  start : a.start ≤ b.start
  stop : a.stop ≤ b.stop
  range : ranged = true → Option.Rel (fun p q => p.1 ≤ q.1 ∧ p.2 ≤ q.2) a.range b.range

/-- A location that does not end before it starts, in lines and columns and, where asked for, in
characters. -/
structure Proper (ranged : Bool) (a : Location) : Prop where
  ends : a.start ≤ a.stop
  range : ranged = true → ∀ span ∈ a.range, span.1 ≤ span.2

/-- A location that ends where another starts, or before, as the locations of two tokens in a row
do. -/
structure Before (ranged : Bool) (a b : Location) : Prop where
  meets : a.stop ≤ b.start
  range : ranged = true → Option.Rel (fun p q => p.2 ≤ q.1) a.range b.range

/-- Two locations with the same positions, and the same span in characters if these count. -/
structure Agrees (ranged : Bool) (a b : Location) : Prop where
  start : a.start = b.start
  stop : a.stop = b.stop
  range : ranged = true → a.range = b.range

variable {ranged : Bool} {a b c z : Location}

instance : Decidable (Leads ranged a b) :=
  decidable_of_iff (a.start ≤ b.start ∧ a.stop ≤ b.stop ∧
      (ranged = true → Option.Rel (fun p q => p.1 ≤ q.1 ∧ p.2 ≤ q.2) a.range b.range))
    ⟨fun ⟨start, stop, range⟩ => ⟨start, stop, range⟩, fun h => ⟨h.start, h.stop, h.range⟩⟩

instance : Decidable (Proper ranged a) :=
  decidable_of_iff (a.start ≤ a.stop ∧ (ranged = true → ∀ span ∈ a.range, span.1 ≤ span.2))
    ⟨fun ⟨ends, range⟩ => ⟨ends, range⟩, fun h => ⟨h.ends, h.range⟩⟩

instance : Decidable (Before ranged a b) :=
  decidable_of_iff (a.stop ≤ b.start ∧
      (ranged = true → Option.Rel (fun p q => p.2 ≤ q.1) a.range b.range))
    ⟨fun ⟨meets, range⟩ => ⟨meets, range⟩, fun h => ⟨h.meets, h.range⟩⟩

instance : Decidable (Agrees ranged a b) :=
  decidable_of_iff (a.start = b.start ∧ a.stop = b.stop ∧ (ranged = true → a.range = b.range))
    ⟨fun ⟨start, stop, range⟩ => ⟨start, stop, range⟩, fun h => ⟨h.start, h.stop, h.range⟩⟩

/-! ## Leading -/

theorem Leads.refl (ranged : Bool) (a : Location) : a.Leads ranged a where
  start := Position.le_refl _
  stop := Position.le_refl _
  range _ := by cases a.range <;> constructor; exact ⟨Nat.le_refl _, Nat.le_refl _⟩

theorem Leads.trans (hab : a.Leads ranged b) (hbc : b.Leads ranged c) : a.Leads ranged c where
  start := Position.le_trans hab.start hbc.start
  stop := Position.le_trans hab.stop hbc.stop
  range h := by
    have hfirst := hab.range h
    have hsecond := hbc.range h
    generalize a.range = p at hfirst ⊢
    generalize b.range = q at hfirst hsecond
    generalize c.range = r at hsecond ⊢
    cases hfirst with
    | none =>
      cases hsecond
      exact .none
    | some hp =>
      cases hsecond with
      | some hq => exact .some ⟨Nat.le_trans hp.1 hq.1, Nat.le_trans hp.2 hq.2⟩

/-! ## Collapsing -/

/-- A proper location leads the empty span at its end. -/
theorem Proper.leads (h : a.Proper ranged) : a.Leads ranged a.collapse where
  start := h.ends
  stop := Position.le_refl _
  range hranged := by
    have hspan := h.range hranged
    unfold collapse
    cases hrange : a.range with
    | none => exact .none
    | some span => exact .some ⟨hspan span hrange, Nat.le_refl _⟩

/-- The end of a location leads a proper one that it comes before. -/
theorem Before.leads (h : a.Before ranged b) (proper : b.Proper ranged) :
    a.collapse.Leads ranged b where
  start := h.meets
  stop := Position.le_trans h.meets proper.ends
  range hranged := by
    have hmeets := h.range hranged
    have hspan := proper.range hranged
    unfold collapse
    generalize a.range = p at hmeets ⊢
    generalize b.range = q at hmeets hspan ⊢
    cases hmeets with
    | none => exact .none
    | some hmeets => exact .some ⟨hmeets, Nat.le_trans hmeets (hspan _ rfl)⟩

/-- Ends are in the order of the locations. -/
theorem Leads.collapse (h : a.Leads ranged b) : a.collapse.Leads ranged b.collapse where
  start := h.stop
  stop := h.stop
  range hranged := by
    have hspans := h.range hranged
    unfold Location.collapse
    generalize a.range = p at hspans ⊢
    generalize b.range = q at hspans ⊢
    cases hspans with
    | none => exact .none
    | some hspans => exact .some ⟨hspans.2, hspans.2⟩

/-! ## Merging -/

/-- The merge of two locations in order goes from the start of the one to the end of the other. -/
theorem Leads.merge_positions (h : a.Leads ranged b) :
    (a.merge b).start = a.start ∧ (a.merge b).stop = b.stop :=
  ⟨Position.earlier_eq_left h.start, Position.later_eq_right h.stop⟩

/-- What leads two locations leads their merge. -/
theorem Leads.merge_right (ha : z.Leads ranged a) (hb : z.Leads ranged b) :
    z.Leads ranged (a.merge b) where
  start := Position.le_earlier ha.start hb.start
  stop := Position.le_trans ha.stop (le_merge_end a b).1
  range hranged := by
    have hfirst := ha.range hranged
    have hsecond := hb.range hranged
    unfold merge
    generalize z.range = r at hfirst hsecond ⊢
    generalize a.range = p at hfirst ⊢
    generalize b.range = q at hsecond ⊢
    cases hfirst with
    | none =>
      cases hsecond
      exact .none
    | some hp =>
      cases hsecond with
      | some hq =>
        exact .some ⟨Nat.le_min.mpr ⟨hp.1, hq.1⟩, Nat.le_trans hp.2 (Nat.le_max_left _ _)⟩

/-- What the ends of two locations lead the end of their merge leads. -/
theorem Leads.collapse_merge (ha : a.collapse.Leads ranged z) (hb : b.collapse.Leads ranged z) :
    (a.merge b).collapse.Leads ranged z where
  start := Position.later_le ha.start hb.start
  stop := Position.later_le ha.stop hb.stop
  range hranged := by
    have hfirst := ha.range hranged
    have hsecond := hb.range hranged
    unfold merge Location.collapse at *
    dsimp only at hfirst hsecond ⊢
    cases hp : a.range <;> cases hq : b.range <;> rw [hp] at hfirst <;> rw [hq] at hsecond
    · exact hfirst
    · exact hsecond
    · exact hfirst
    · generalize z.range = r at hfirst hsecond ⊢
      cases hfirst with
      | some hp =>
        cases hsecond with
        | some hq => exact .some ⟨Nat.max_le.mpr ⟨hp.1, hq.1⟩, Nat.max_le.mpr ⟨hp.2, hq.2⟩⟩

/-- The merge of proper locations is proper. -/
theorem Proper.merge (ha : a.Proper ranged) (hb : b.Proper ranged) : (a.merge b).Proper ranged where
  ends := Position.le_trans (merge_start_le a b).1 (Position.le_trans ha.ends (le_merge_end a b).1)
  range hranged := by
    have hfirst := ha.range hranged
    have hsecond := hb.range hranged
    unfold Location.merge
    dsimp only
    cases hp : a.range with
    | none => exact hsecond
    | some p =>
      cases hq : b.range with
      | none =>
        rintro span ⟨⟩
        exact hfirst p hp
      | some q =>
        rintro span ⟨⟩
        exact Nat.le_trans (Nat.min_le_left _ _) (Nat.le_trans (hfirst p hp) (Nat.le_max_left _ _))

/-- A location between two others adds nothing to their merge. -/
theorem merge_merge_agrees (hab : a.Leads ranged b) (hbc : b.Leads ranged c) :
    ((a.merge b).merge c).Agrees ranged (a.merge c) where
  start := congrArg (Position.earlier · c.start) hab.merge_positions.1
  stop := by
    show (a.merge b).stop.later c.stop = (a.merge c).stop
    rw [hab.merge_positions.2, (hab.trans hbc).merge_positions.2, Position.later_eq_right hbc.stop]
  range hranged := by
    have hfirst := hab.range hranged
    have hsecond := hbc.range hranged
    unfold merge
    generalize a.range = p at hfirst ⊢
    generalize b.range = q at hfirst hsecond ⊢
    generalize c.range = r at hsecond ⊢
    cases hfirst with
    | none => rfl
    | some hp =>
      cases hsecond with
      | some hq => simp only [mergeRange]; congr 2 <;> omega

/-! ## Spans of many locations -/

/-- Locations that agree merge alike. -/
theorem Agrees.merge (h : a.Agrees ranged b) (c : Location) :
    (a.merge c).Agrees ranged (b.merge c) where
  start := congrArg (Position.earlier · c.start) h.start
  stop := congrArg (Position.later · c.stop) h.stop
  range hranged := congrArg (mergeRange · c.range) (h.range hranged)

theorem Agrees.trans (hab : a.Agrees ranged b) (hbc : b.Agrees ranged c) : a.Agrees ranged c where
  start := hab.start.trans hbc.start
  stop := hab.stop.trans hbc.stop
  range hranged := (hab.range hranged).trans (hbc.range hranged)

theorem Agrees.symm (h : a.Agrees ranged b) : b.Agrees ranged a where
  start := h.start.symm
  stop := h.stop.symm
  range hranged := (h.range hranged).symm

/-- A location merged with itself is the same. -/
theorem merge_self_agrees (ranged : Bool) (a : Location) : (a.merge a).Agrees ranged a where
  start := Position.earlier_eq_left (Position.le_refl _)
  stop := Position.later_eq_right (Position.le_refl _)
  range _ := by
    unfold Location.merge
    dsimp only
    cases a.range with
    | none => rfl
    | some span => simp only [mergeRange, Nat.min_self, Nat.max_self]

/-- Merging locations that follow one another in order comes to the last of them. -/
theorem foldl_merge_agrees {first passed last : Location} {rest : List Location} {span : Location}
    (spans : span.Agrees ranged (first.merge passed)) (leads : first.Leads ranged passed)
    (chain : (passed :: rest).Pairwise (Leads ranged))
    (final : (passed :: rest).getLast? = some last) :
    (rest.foldl merge span).Agrees ranged (first.merge last) := by
  induction rest generalizing span passed with
  | nil =>
    cases final
    exact spans
  | cons next rest ih =>
    obtain ⟨hpassed, hrest⟩ := List.pairwise_cons.mp chain
    have hnext : passed.Leads ranged next := hpassed next List.mem_cons_self
    rw [List.getLast?_cons_cons] at final
    exact ih ((spans.merge next).trans (merge_merge_agrees leads hnext)) (leads.trans hnext) hrest
      final

/-- Where every location of a list leads those behind it, the span of all of them is the merge of
the first and the last one. By induction on the list: what was merged so far leads the next
location, so merging takes the start of the first and the end of the last. -/
theorem cover?_agrees {locs : List Location} (chain : locs.Pairwise (Leads ranged))
    {first last span : Location} (head : locs.head? = some first)
    (final : locs.getLast? = some last) (covers : cover? locs = some span) :
    (first.merge last).Agrees ranged span := by
  cases locs with
  | nil => cases head
  | cons loc rest =>
    cases head
    cases covers
    have hself := (merge_self_agrees ranged first).symm
    exact (foldl_merge_agrees hself (.refl ranged first) chain final).symm

/-! ## Within what was read -/

/-- A proper location that ends no later than another one. -/
structure Within (ranged : Bool) (a last : Location) : Prop where
  proper : a.Proper ranged
  ends : a.collapse.Leads ranged last.collapse

variable {last ahead : Location}

/-- A proper location is within itself. -/
theorem Proper.within (h : a.Proper ranged) : a.Within ranged a := ⟨h, .refl ranged _⟩

/-- The empty span at the end of a location within another one is within it. -/
theorem Within.collapse (h : a.Within ranged last) : a.collapse.Within ranged last where
  proper := by
    refine ⟨Position.le_refl _, fun _ span hspan => ?_⟩
    unfold Location.collapse at hspan
    cases hrange : a.range with
    | none => rw [hrange] at hspan; cases hspan
    | some range =>
      rw [hrange] at hspan
      cases hspan
      exact Nat.le_refl _
  ends := by
    rw [collapse_collapse]
    exact h.ends

/-- The merge of locations within another one is within it. -/
theorem Within.merge (ha : a.Within ranged last) (hb : b.Within ranged last) :
    (a.merge b).Within ranged last := ⟨ha.proper.merge hb.proper, ha.ends.collapse_merge hb.ends⟩

/-- The merge of many locations within another one is within it. -/
theorem Within.foldl_merge {locs : List Location} (ha : a.Within ranged last)
    (hlocs : ∀ loc ∈ locs, loc.Within ranged last) :
    (locs.foldl Location.merge a).Within ranged last := by
  induction locs generalizing a with
  | nil => exact ha
  | cons loc locs ih =>
    obtain ⟨hloc, hrest⟩ := List.forall_mem_cons.mp hlocs
    exact ih (ha.merge hloc) hrest

/-- The span of locations within another one is within it. -/
theorem Within.cover {locs : List Location} {span : Location}
    (hlocs : ∀ loc ∈ locs, loc.Within ranged last) (covers : cover? locs = some span) :
    span.Within ranged last := by
  cases locs with
  | nil => cases covers
  | cons loc locs =>
    cases covers
    obtain ⟨hloc, hrest⟩ := List.forall_mem_cons.mp hlocs
    exact hloc.foldl_merge hrest

/-- What was within one location ends before the next one starts. -/
theorem Within.before (h : a.Within ranged last) (meets : last.Before ranged ahead)
    (proper : ahead.Proper ranged) : a.collapse.Leads ranged ahead :=
  h.ends.trans (meets.leads proper)

/-- What was within one location is within the next one. -/
theorem Within.next (h : a.Within ranged last) (meets : last.Before ranged ahead)
    (proper : ahead.Proper ranged) : a.Within ranged ahead where
  proper := h.proper
  ends := by
    have hends := (h.before meets proper).collapse
    rwa [collapse_collapse] at hends

end Location

end ShiftReduce
