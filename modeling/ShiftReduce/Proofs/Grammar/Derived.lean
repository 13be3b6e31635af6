import ShiftReduce.Proofs.Grammar.Built

/-!
# Tables with derived defaults

The declaration that derives default reductions is heard last (`Table.build_withDerived`): it adds
defaults to the table that is built without it, and changes nothing else. A default that was added
stands for the entries of its state, which are one reduction throughout
(`Table.defaultReduction?_withDerived`).
-/

namespace ShiftReduce

/-- A step that changes nothing can be left out at the end of a fold. -/
theorem foldlM_append_idle {α β ε : Type} {f : β → α → Except ε β} {x : α}
    (idle : ∀ b, f b x = .ok b) (xs : List α) (b : β) :
    (xs ++ [x]).foldlM f b = xs.foldlM f b := by
  rw [List.foldlM_append]
  cases xs.foldlM f b with
  | error fault => rfl
  | ok last =>
    simp only [bind, Except.bind, List.foldlM_cons, idle]
    rfl

/-- An entry of a uniform row is its reduction. -/
theorem Cells.entry_of_uniformReduction {row : Row} {number : ProductionId}
    (h : uniformReduction? row = some number) {symbol : SymbolId} {action : Action}
    (found : row.find? symbol = some action) : action = .reduce number := by
  have hmem := Row.mem_of_find? found
  unfold uniformReduction? at h
  split at h
  · next first number' rest =>
    split at h
    · next hall =>
      cases h
      rcases List.mem_cons.mp hmem with heq | hrest
      · cases heq; rfl
      · exact eq_of_beq (List.all_eq_true.mp hall _ hrest)
    · cases h
  · cases h

namespace Table

/-- The table with the default reductions that its rows give besides its own. -/
def withDerived (table : Table) : Table :=
  { table with
    defaults := (Cells.derive ⟨table.rows, table.defaults, table.conflicts⟩).defaults }

/-- The declaration that derives defaults, or not, makes no other difference. It comes last among
the declarations, and it is read where the defaults are put together, not by what numbers the
symbols, resolves the productions or writes the cells. -/
theorem build_withDerived {declarations : List Declaration} {table : Table}
    (built : build (declarations ++ [.deriveDefaults false]) = .ok table) :
    build (declarations ++ [.deriveDefaults true]) = .ok table.withDerived := by
  -- The last declaration is heard by one of the readings alone.
  have hsymbols (enabled : Bool) :
      Symbols.ofDeclarations (declarations ++ [.deriveDefaults enabled]) =
        Symbols.ofDeclarations declarations := foldlM_append_idle (fun _ => rfl) _ _
  have hcells (symbols : Symbols) (count : Nat) (enabled : Bool) :
      (declarations ++ [Declaration.deriveDefaults enabled]).foldlM
          (Cells.declare symbols count) {} =
        declarations.foldlM (Cells.declare symbols count) {} :=
    foldlM_append_idle (fun _ => rfl) _ _
  have hproductions (enabled : Bool) :
      (declarations ++ [Declaration.deriveDefaults enabled]).filterMap (·.production?) =
        declarations.filterMap (·.production?) := by simp [Declaration.production?]
  have hdescriptions (enabled : Bool) :
      (declarations ++ [Declaration.deriveDefaults enabled]).filterMap (·.description?) =
        declarations.filterMap (·.description?) := by simp [Declaration.description?]
  have hderives (enabled : Bool) :
      ((declarations ++ [Declaration.deriveDefaults enabled]).filterMap
        (·.derives?)).getLast?.getD false = enabled := by simp [Declaration.derives?]
  simp only [build, hsymbols, hcells, hproductions, hdescriptions, hderives] at built ⊢
  obtain ⟨symbols, hs, built⟩ := bind_eq_ok.mp built
  obtain ⟨productions, hp, built⟩ := bind_eq_ok.mp built
  obtain ⟨cells, hc, built⟩ := bind_eq_ok.mp built
  obtain ⟨descriptions, hd, built⟩ := bind_eq_ok.mp built
  cases built
  refine bind_eq_ok.mpr ⟨symbols, hs, bind_eq_ok.mpr ⟨productions, hp, bind_eq_ok.mpr
    ⟨cells, hc, bind_eq_ok.mpr ⟨descriptions, hd, rfl⟩⟩⟩⟩

/-- A state has the default it had without the derivation, or it had none, and all of its entries are
the reduction by which it reduces now. -/
theorem defaultReduction?_withDerived (table : Table) (state : StateId) :
    table.withDerived.defaultReduction? state = table.defaultReduction? state ∨
      table.defaultReduction? state = none ∧
        ∃ number, table.withDerived.defaultReduction? state = some number ∧
          ∀ symbol, table.action state symbol ≠ .error →
            table.action state symbol = .reduce number := by
  unfold defaultReduction? withDerived Cells.derive
  dsimp only
  rw [List.lookup_append]
  cases hdeclared : table.defaults.lookup state with
  | some number => exact .inl rfl
  | none =>
    rw [Option.none_or]
    generalize hderived : (table.rows.zipIdx.filterMap _).lookup state = derived
    cases derived with
    | none => exact .inl rfl
    | some number =>
      refine .inr ⟨rfl, number, rfl, fun symbol hentry => ?_⟩
      obtain ⟨before, after, heq, -⟩ := List.lookup_eq_some_iff.mp hderived
      have hmem : (state, number) ∈ before ++ (state, number) :: after :=
        List.mem_append_right _ List.mem_cons_self
      rw [← heq] at hmem
      obtain ⟨⟨row, place⟩, hrow, hmap⟩ := List.mem_filterMap.mp hmem
      obtain ⟨found, huniform, hplace⟩ := Option.map_eq_some_iff.mp hmap
      cases hplace
      unfold action Table.row at hentry ⊢
      rw [List.mk_mem_zipIdx_iff_getElem?.mp hrow, Option.getD_some] at hentry ⊢
      cases hfind : row.find? symbol with
      | none => rw [hfind] at hentry; exact absurd rfl hentry
      | some action => exact Cells.entry_of_uniformReduction huniform hfind

end Table

end ShiftReduce
