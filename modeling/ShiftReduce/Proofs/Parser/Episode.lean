import ShiftReduce.Proofs.Parser.Move

/-!
# The token at which an episode was entered

A recovery that is not under way yet enters an episode, and the token at fault is the root of it; all
further recoveries of the episode keep the root (`Engine.resumption_offending`). The error token that a
recovery puts ahead has the location of the episode, which covers the root
(`Engine.resumption_ahead`), but not always the token at fault.
-/

namespace ShiftReduce

/-- A location covers another that starts no earlier and ends no later. -/
def Location.Covers (outer inner : Location) : Prop :=
  outer.start ≤ inner.start ∧ inner.stop ≤ outer.stop

namespace Location

instance (outer inner : Location) : Decidable (outer.Covers inner) :=
  inferInstanceAs (Decidable (_ ∧ _))

theorem Covers.refl (loc : Location) : loc.Covers loc :=
  ⟨Position.le_refl _, Position.le_refl _⟩

theorem Covers.trans {a b c : Location} (hab : a.Covers b) (hbc : b.Covers c) : a.Covers c :=
  ⟨Position.le_trans hab.1 hbc.1, Position.le_trans hbc.2 hab.2⟩

/-- The merge of two locations covers both. -/
theorem merge_covers (a b : Location) : (a.merge b).Covers a ∧ (a.merge b).Covers b :=
  ⟨⟨(merge_start_le a b).1, (le_merge_end a b).1⟩, ⟨(merge_start_le a b).2, (le_merge_end a b).2⟩⟩

/-- A merge of many locations covers each of them. -/
theorem foldl_merge_covers (locs : List Location) (first : Location) :
    (locs.foldl merge first).Covers first ∧ ∀ loc ∈ locs, (locs.foldl merge first).Covers loc := by
  induction locs generalizing first with
  | nil => exact ⟨.refl first, nofun⟩
  | cons next rest ih =>
    obtain ⟨hmerge, hrest⟩ := ih (first.merge next)
    obtain ⟨hfirst, hnext⟩ := merge_covers first next
    refine ⟨hmerge.trans hfirst, ?_⟩
    intro loc hloc
    rcases List.mem_cons.mp hloc with rfl | hloc
    · exact hmerge.trans hnext
    · exact hrest loc hloc

/-- The span of a list of locations covers each of them. -/
theorem cover?_covers {locs : List Location} {loc : Location} (h : loc ∈ locs) :
    ∃ span, cover? locs = some span ∧ span.Covers loc := by
  cases locs with
  | nil => cases h
  | cons first rest =>
    obtain ⟨hfirst, hrest⟩ := foldl_merge_covers rest first
    refine ⟨_, rfl, ?_⟩
    rcases List.mem_cons.mp h with rfl | h
    · exact hfirst
    · exact hrest loc h

end Location

section
variable {σ V ε : Type} {e : Engine σ V ε}

/-- The token at which an episode of recovery was entered; a token at which the parser was not
recovering enters a new one. -/
def Session.root (s : Session σ V) (token : Token) : Token :=
  if s.recovering = 0 then token else s.record.offending.getD token

namespace Engine

/-- A recovery records the token at which its episode was entered. -/
theorem resumption_offending (depth : Nat) (token : Token) (s : Session σ V) :
    (e.resumption depth token s).record.offending = some (s.root token) := by
  unfold Session.root
  show some ((if s.recovering = 0 then ({} : Recovery V) else s.record).offending.getD token) = _
  split <;> rfl

/-- The error token that a recovery puts ahead covers the token at which the episode was entered. -/
theorem resumption_ahead (depth : Nat) (token : Token) (s : Session σ V) :
    ∃ location, location.Covers (s.root token).location ∧
      (e.resumption depth token s).lookahead =
        some { token with symbol := SymbolId.error, location } := by
  have hmem : (s.root token).location ∈
      (e.resumption depth token s).record.popped.map (·.location) ++
        (e.resumption depth token s).record.offending.toList.map (·.location) := by
    rw [resumption_offending]
    exact List.mem_append_right _ (List.mem_singleton.mpr rfl)
  obtain ⟨span, hspan, hcovers⟩ := Location.cover?_covers hmem
  refine ⟨span, hcovers, ?_⟩
  show some { token with
    symbol := SymbolId.error
    location := (e.resumption depth token s).record.location?.getD token.location } = _
  unfold Recovery.location?
  rw [hspan]
  rfl

end Engine

end

end ShiftReduce
