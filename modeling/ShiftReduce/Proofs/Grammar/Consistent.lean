import Mathlib.Data.List.Nodup
import ShiftReduce.Proofs.Grammar.Built

/-!
# Declarations that can be built

A list of declarations has a table if its symbols are distinct, its terminals come before its
nonterminals, and it refers only to what it declares (`Consistent`). The first two are what it takes to
number the symbols (`Symbols.ofDeclarations_eq_ok`); the names of nonterminals are then those that are
numbered behind the terminals (`mem_nonterminals_of_distinct`).

A computation that tests what it reads and goes on without a change succeeds where the tests do,
with the result of a total function (`mapM_eq_ok`, `foldlM_eq_ok`). All parts of a table are built
by such computations, so that each has one equivalence, success on the left and the tests with the
result on the right; faults need no laws of their own.
-/

namespace ShiftReduce

/-! ## Computations that can fail, as total ones -/

/-- A map by a computation that tests its argument succeeds where all tests do. -/
theorem mapM_eq_ok {α β ε : Type} {f : α → Except ε β} {p : α → Prop} {g : α → β}
    (tested : ∀ x y, f x = .ok y ↔ p x ∧ y = g x) {xs : List α} {ys : List β} :
    xs.mapM f = .ok ys ↔ (∀ x ∈ xs, p x) ∧ ys = xs.map g := by
  have htested : (fun x y => f x = .ok y) = fun x y => p x ∧ g x = y :=
    funext fun x => funext fun y => propext ((tested x y).trans (and_congr_right fun _ => eq_comm))
  have hmap : List.Forall₂ (fun x y => g x = y) xs ys ↔ xs.map g = ys := by
    rw [← List.forall₂_map_left_iff, List.forall₂_eq_eq_eq]
  rw [mapM_eq_ok_iff, htested, List.forall₂_and_left, hmap, eq_comm (a := ys)]

/-- A fold by a computation that tests each element succeeds where all tests do. -/
theorem foldlM_eq_ok {α β ε : Type} {f : β → α → Except ε β} {p : α → Prop} {g : β → α → β}
    (tested : ∀ b x b', f b x = .ok b' ↔ p x ∧ b' = g b x) {xs : List α} {b b' : β} :
    xs.foldlM f b = .ok b' ↔ (∀ x ∈ xs, p x) ∧ b' = xs.foldl g b := by
  induction xs generalizing b with
  | nil => simp [pure, Except.pure, eq_comm]
  | cons x xs ih =>
    rw [List.foldlM_cons, bind_eq_ok, List.foldl_cons, List.forall_mem_cons]
    constructor
    · rintro ⟨next, hnext, h⟩
      obtain ⟨hx, rfl⟩ := (tested b x next).mp hnext
      obtain ⟨hxs, rfl⟩ := ih.mp h
      exact ⟨⟨hx, hxs⟩, rfl⟩
    · rintro ⟨⟨hx, hxs⟩, rfl⟩
      exact ⟨g b x, (tested b x _).mpr ⟨hx, rfl⟩, ih.mpr ⟨hxs, rfl⟩⟩

/-! ## What declarations say -/

/-- The names of the symbols that every grammar has, in the order of their numbers. Reference:
`GrammarTableBuilder::new`. -/
def reservedNames : List String := ["$accept", "$end", "error"]

namespace Declaration

/-- The name that a declaration registers, for a terminal or a nonterminal. -/
def symbol? : Declaration → Option String
  | .terminal name | .nonterminal name => some name
  | _ => none

/-- The name that a declaration registers for a terminal. Reference:
`GrammarTableBuilder::terminal`. -/
def terminal? : Declaration → Option String
  | .terminal name => some name
  | _ => none

/-- The name that a declaration registers for a nonterminal. Reference:
`GrammarTableBuilder::nonterminal`. -/
def nonterminal? : Declaration → Option String
  | .nonterminal name => some name
  | _ => none

/-- What an entry refers to is there: its symbol, which is a nonterminal's for a goto, and its
productions, which are numbered from one on. -/
def RefersTo (names nonterminals : List String) (productions : Nat) : Declaration → Prop
  | .shift _ symbol _ => symbol ∈ names
  | .reduce _ symbol number => symbol ∈ names ∧ 1 ≤ number ∧ number ≤ productions
  | .goto _ symbol _ => symbol ∈ nonterminals
  | .conflict _ symbol actions =>
    symbol ∈ names ∧ ∀ number, .reduce number ∈ actions → 1 ≤ number ∧ number ≤ productions
  | .defaultReduce _ number => 1 ≤ number ∧ number ≤ productions
  | _ => True

end Declaration

/-- The names of all symbols, the reserved ones first, in the order in which they are registered. -/
def namesOf (declarations : List Declaration) : List String :=
  reservedNames ++ declarations.filterMap (·.symbol?)

/-- Declarations that have a table: five rules, each the absence of some faults of `GrammarError`.
Reference: the refusals of `GrammarTableBuilder::build`. -/
structure Consistent (declarations : List Declaration) : Prop where
  /-- Registered names are distinct, and none of them is reserved. -/
  distinct : (namesOf declarations).Nodup
  /-- No terminal is registered behind a nonterminal. -/
  terminalsFirst : declarations.Pairwise fun earlier later =>
    earlier.nonterminal? ≠ none → later.terminal? = none
  /-- On the left of a production stands a registered nonterminal. -/
  productions : ∀ lhs length, .production lhs length ∈ declarations →
    lhs ∈ declarations.filterMap (·.nonterminal?)
  /-- The entries refer to what is there. -/
  entries : ∀ declaration ∈ declarations, declaration.RefersTo (namesOf declarations)
    (declarations.filterMap (·.nonterminal?)) (declarations.filterMap (·.production?)).length
  /-- A description is one of a registered symbol. -/
  descriptions : ∀ name text, .describe name text ∈ declarations → name ∈ namesOf declarations

/-! ## Symbols -/

namespace Symbols

variable {symbols symbols' : Symbols} {declarations : List Declaration}

/-- A symbol is added if its name is new. -/
theorem add_eq_ok {name : String} : symbols.add name = .ok symbols' ↔
    name ∉ symbols.names ∧ symbols' = { symbols with names := symbols.names ++ [name] } := by
  unfold add
  split
  · next hknown => simp [hknown]
  · next hnew => simp [hnew, eq_comm]

/-- The symbols with those that a list of declarations registers, without a test. It is what the
declarations come to if they pass. -/
def withDeclared (symbols : Symbols) (declarations : List Declaration) : Symbols where
  names := symbols.names ++ declarations.filterMap (·.symbol?)
  terminalCount := symbols.terminalCount + (declarations.filterMap (·.terminal?)).length

/-- A list of declarations that can follow: names stay distinct, and there are no terminals any more
once a nonterminal is registered. -/
structure Accepts (symbols : Symbols) (declarations : List Declaration) : Prop where
  distinct : (symbols.names ++ declarations.filterMap (·.symbol?)).Nodup
  terminalsFirst : declarations.Pairwise fun earlier later =>
    earlier.nonterminal? ≠ none → later.terminal? = none
  closed : symbols.terminalCount < symbols.names.length →
    ∀ declaration ∈ declarations, declaration.terminal? = none

/-- A terminal is registered if no nonterminal is there and its name is new. -/
theorem declare_terminal_eq_ok {name : String} (bound : symbols.terminalCount ≤ symbols.names.length) :
    symbols.declare (.terminal name) = .ok symbols' ↔
      (symbols.terminalCount = symbols.names.length ∧ name ∉ symbols.names) ∧
        symbols' = ⟨symbols.names ++ [name], symbols.terminalCount + 1⟩ := by
  simp only [declare]
  split
  · next hclosed =>
    have hne : symbols.terminalCount ≠ symbols.names.length := Nat.ne_of_lt hclosed
    constructor
    · intro h
      cases h
    · rintro ⟨⟨hopen, -⟩, -⟩
      exact absurd hopen hne
  · next hnone =>
    have hopen : symbols.terminalCount = symbols.names.length := by omega
    constructor
    · intro h
      obtain ⟨added, hadded, h⟩ := bind_eq_ok.mp h
      obtain ⟨hnew, rfl⟩ := add_eq_ok.mp hadded
      cases h
      exact ⟨⟨hopen, hnew⟩, by simp [hopen]⟩
    · rintro ⟨⟨-, hnew⟩, rfl⟩
      refine bind_eq_ok.mpr ⟨_, add_eq_ok.mpr ⟨hnew, rfl⟩, ?_⟩
      simp [hopen, pure, Except.pure]

/-- A terminal can follow, with more behind it, if it can be registered and the rest can follow then. -/
theorem accepts_terminal {name : String} (bound : symbols.terminalCount ≤ symbols.names.length) :
    symbols.Accepts (.terminal name :: declarations) ↔
      (symbols.terminalCount = symbols.names.length ∧ name ∉ symbols.names) ∧
        Accepts ⟨symbols.names ++ [name], symbols.terminalCount + 1⟩ declarations := by
  constructor
  · rintro ⟨distinct, terminalsFirst, closed⟩
    have hopen : symbols.terminalCount = symbols.names.length := by
      refine Nat.le_antisymm bound (Nat.le_of_not_lt fun hlt => ?_)
      exact absurd (closed hlt _ List.mem_cons_self) (by simp [Declaration.terminal?])
    have hnew : name ∉ symbols.names := fun hmem =>
      (List.nodup_append.mp distinct).2.2 name hmem name (by simp [Declaration.symbol?]) rfl
    refine ⟨⟨hopen, hnew⟩, ?_, (List.pairwise_cons.mp terminalsFirst).2, ?_⟩
    · simpa [Declaration.symbol?] using distinct
    · intro hlt
      simp [hopen] at hlt
  · rintro ⟨⟨hopen, hnew⟩, distinct, terminalsFirst, -⟩
    refine ⟨?_, List.pairwise_cons.mpr ⟨?_, terminalsFirst⟩, ?_⟩
    · simpa [Declaration.symbol?] using distinct
    · intro later _ hne
      exact absurd rfl hne
    · intro hlt
      omega

/-- A nonterminal can follow, with more behind it, if its name is new and the rest, without a terminal,
can follow then. -/
theorem accepts_nonterminal {name : String} (bound : symbols.terminalCount ≤ symbols.names.length) :
    symbols.Accepts (.nonterminal name :: declarations) ↔
      name ∉ symbols.names ∧ Accepts ⟨symbols.names ++ [name], symbols.terminalCount⟩ declarations := by
  constructor
  · rintro ⟨distinct, terminalsFirst, closed⟩
    obtain ⟨hbehind, terminalsFirst⟩ := List.pairwise_cons.mp terminalsFirst
    have hnew : name ∉ symbols.names := fun hmem =>
      (List.nodup_append.mp distinct).2.2 name hmem name (by simp [Declaration.symbol?]) rfl
    refine ⟨hnew, ?_, terminalsFirst, ?_⟩
    · simpa [Declaration.symbol?] using distinct
    · intro _ later hlater
      exact hbehind later hlater nofun
  · rintro ⟨hnew, distinct, terminalsFirst, closed⟩
    have hclosed : ∀ later ∈ declarations, later.terminal? = none := by
      apply closed
      simp only [List.length_append, List.length_cons, List.length_nil]
      omega
    refine ⟨?_, List.pairwise_cons.mpr ⟨?_, terminalsFirst⟩, ?_⟩
    · simpa [Declaration.symbol?] using distinct
    · intro later hlater _
      exact hclosed later hlater
    · intro _
      exact List.forall_mem_cons.mpr ⟨rfl, hclosed⟩

/-- A declaration that registers nothing can always follow. -/
theorem accepts_of_symbol?_eq_none {declaration : Declaration} (h : declaration.symbol? = none) :
    symbols.Accepts (declaration :: declarations) ↔ symbols.Accepts declarations := by
  have hboth : declaration.terminal? = none ∧ declaration.nonterminal? = none := by
    cases declaration with
    | terminal | nonterminal => cases h
    | _ => exact ⟨rfl, rfl⟩
  obtain ⟨hterminal, hnonterminal⟩ := hboth
  constructor
  · rintro ⟨distinct, terminalsFirst, closed⟩
    refine ⟨by simpa [h] using distinct, (List.pairwise_cons.mp terminalsFirst).2, ?_⟩
    intro hlt
    exact (List.forall_mem_cons.mp (closed hlt)).2
  · rintro ⟨distinct, terminalsFirst, closed⟩
    refine ⟨by simpa [h] using distinct, List.pairwise_cons.mpr ⟨?_, terminalsFirst⟩, ?_⟩
    · intro later _ hne
      exact absurd hnonterminal hne
    · intro hlt
      exact List.forall_mem_cons.mpr ⟨hterminal, closed hlt⟩

theorem withDeclared_terminal (symbols : Symbols) (name : String) (declarations : List Declaration) :
    symbols.withDeclared (.terminal name :: declarations) =
      withDeclared ⟨symbols.names ++ [name], symbols.terminalCount + 1⟩ declarations := by
  simp [withDeclared, Declaration.symbol?, Declaration.terminal?]
  omega

theorem withDeclared_nonterminal (symbols : Symbols) (name : String) (declarations : List Declaration) :
    symbols.withDeclared (.nonterminal name :: declarations) =
      withDeclared ⟨symbols.names ++ [name], symbols.terminalCount⟩ declarations := by
  simp [withDeclared, Declaration.symbol?, Declaration.terminal?]

/-- Declarations can be read behind symbols if they can follow them, and what they register is
added. By induction on the declarations, for any symbols to begin with. The two hypotheses are what
a declaration keeps: the terminals are among the names, and no name stands twice. -/
theorem foldlM_declare_eq_ok (bound : symbols.terminalCount ≤ symbols.names.length)
    (distinct : symbols.names.Nodup) :
    declarations.foldlM declare symbols = .ok symbols' ↔
      symbols.Accepts declarations ∧ symbols' = symbols.withDeclared declarations := by
  induction declarations generalizing symbols with
  | nil =>
    have haccepts : symbols.Accepts [] := ⟨by simpa using distinct, .nil, nofun⟩
    simp [haccepts, withDeclared, pure, Except.pure, eq_comm]
  | cons declaration declarations ih =>
    have hadded {name : String} (hnew : name ∉ symbols.names) : (symbols.names ++ [name]).Nodup := by
      refine List.nodup_append.mpr ⟨distinct, by simp, fun known hknown other hother heq => hnew ?_⟩
      rw [← List.mem_singleton.mp hother, ← heq]
      exact hknown
    rw [List.foldlM_cons, bind_eq_ok]
    cases declaration with
    | terminal name =>
      simp only [declare_terminal_eq_ok bound, accepts_terminal bound, withDeclared_terminal]
      constructor
      · rintro ⟨next, ⟨hnext, rfl⟩, h⟩
        obtain ⟨haccepts, h⟩ := (ih (by simp [hnext.1]) (hadded hnext.2)).mp h
        exact ⟨⟨hnext, haccepts⟩, h⟩
      · rintro ⟨⟨hnext, haccepts⟩, h⟩
        exact ⟨_, ⟨hnext, rfl⟩, (ih (by simp [hnext.1]) (hadded hnext.2)).mpr ⟨haccepts, h⟩⟩
    | nonterminal name =>
      have hbound : symbols.terminalCount ≤ (symbols.names ++ [name]).length := by
        rw [List.length_append]
        omega
      simp only [declare, add_eq_ok, accepts_nonterminal bound, withDeclared_nonterminal]
      constructor
      · rintro ⟨next, ⟨hnew, rfl⟩, h⟩
        obtain ⟨haccepts, h⟩ := (ih hbound (hadded hnew)).mp h
        exact ⟨⟨hnew, haccepts⟩, h⟩
      · rintro ⟨⟨hnew, haccepts⟩, h⟩
        exact ⟨_, ⟨hnew, rfl⟩, (ih hbound (hadded hnew)).mpr ⟨haccepts, h⟩⟩
    | _ =>
      rw [accepts_of_symbol?_eq_none rfl]
      simp [declare, ih bound distinct, withDeclared, Declaration.symbol?, Declaration.terminal?]

/-- Declarations can be read from the start if names are distinct and terminals come first. The
reserved names are there from the start, so none of them can be declared again. -/
theorem ofDeclarations_eq_ok : ofDeclarations declarations = .ok symbols ↔
    ((namesOf declarations).Nodup ∧ declarations.Pairwise fun earlier later =>
      earlier.nonterminal? ≠ none → later.terminal? = none) ∧
    symbols = withDeclared {} declarations := by
  rw [ofDeclarations, foldlM_declare_eq_ok (Nat.le_refl 3) (by decide)]
  refine and_congr_left fun _ => ⟨fun h => ⟨h.distinct, h.terminalsFirst⟩, fun h => ⟨h.1, h.2, ?_⟩⟩
  intro hlt
  exact absurd hlt (Nat.lt_irrefl 3)

/-! ## Names -/

/-- A name that is known is resolved to its place. -/
theorem resolve_eq_ok {name : String} {id : SymbolId} : symbols.resolve name = .ok id ↔
    name ∈ symbols.names ∧ id = symbols.names.idxOf name := by
  unfold resolve
  cases hplace : symbols.names.idxOf? name with
  | none =>
    have hunknown : name ∉ symbols.names := List.idxOf?_eq_none_iff.mp hplace
    simp [hunknown]
  | some place =>
    obtain ⟨hlt, heq, -⟩ := List.idxOf?_eq_some_iff.mp hplace
    have hknown : name ∈ symbols.names := heq ▸ List.getElem_mem hlt
    simp [hknown, List.idxOf_eq_getD_idxOf?, hplace, eq_comm]

/-- A name passes for a nonterminal's if its place is behind the terminals. -/
theorem resolveNonterminal_eq_ok {fault : String → GrammarError} {name : String} {id : SymbolId} :
    symbols.resolveNonterminal fault name = .ok id ↔
      (name ∈ symbols.names ∧ symbols.terminalCount ≤ symbols.names.idxOf name) ∧
        id = symbols.names.idxOf name := by
  unfold resolveNonterminal
  rw [bind_eq_ok]
  constructor
  · rintro ⟨found, hfound, h⟩
    obtain ⟨hknown, rfl⟩ := resolve_eq_ok.mp hfound
    split at h
    · cases h
    · next hbehind => cases h; exact ⟨⟨hknown, Nat.le_of_not_lt hbehind⟩, rfl⟩
  · rintro ⟨⟨hknown, hbehind⟩, rfl⟩
    refine ⟨_, resolve_eq_ok.mpr ⟨hknown, rfl⟩, ?_⟩
    simp [Nat.not_lt.mpr hbehind, pure, Except.pure]

end Symbols

/-- Where terminals come first, the names are those of terminals and then those of nonterminals. -/
theorem symbols_eq_append {declarations : List Declaration}
    (h : declarations.Pairwise fun earlier later => earlier.nonterminal? ≠ none → later.terminal? = none) :
    declarations.filterMap (·.symbol?) =
      declarations.filterMap (·.terminal?) ++ declarations.filterMap (·.nonterminal?) := by
  induction declarations with
  | nil => rfl
  | cons declaration declarations ih =>
    obtain ⟨hbehind, hrest⟩ := List.pairwise_cons.mp h
    cases declaration with
    | terminal name => exact congrArg (name :: ·) (ih hrest)
    | nonterminal name =>
      have hnone : declarations.filterMap (·.terminal?) = [] :=
        List.filterMap_eq_nil_iff.mpr fun later hlater => hbehind later hlater nofun
      have hall := ih hrest
      rw [hnone, List.nil_append] at hall
      show name :: declarations.filterMap (·.symbol?) =
        declarations.filterMap (·.terminal?) ++ name :: declarations.filterMap (·.nonterminal?)
      rw [hnone, List.nil_append, hall]
    | _ => exact ih hrest

/-- The names of nonterminals have their places behind the terminals. -/
theorem mem_nonterminals_iff {front names : List String} (distinct : (front ++ names).Nodup)
    (name : String) : name ∈ names ↔ name ∈ front ++ names ∧ front.length ≤ (front ++ names).idxOf name := by
  by_cases hfront : name ∈ front
  · have hnot : name ∉ names := fun hmem => (List.nodup_append.mp distinct).2.2 name hfront name hmem rfl
    have hlt := List.idxOf_lt_length_of_mem hfront
    simp [hnot, List.idxOf_append_of_mem hfront, hlt]
  · simp [hfront, List.idxOf_append_of_notMem hfront]

/-- Where names are distinct and terminals come first, the names of nonterminals are those that are
numbered behind the terminals. -/
theorem mem_nonterminals_of_distinct {declarations : List Declaration}
    (distinct : (namesOf declarations).Nodup)
    (terminalsFirst : declarations.Pairwise fun earlier later =>
      earlier.nonterminal? ≠ none → later.terminal? = none) (name : String) :
    name ∈ declarations.filterMap (·.nonterminal?) ↔ name ∈ namesOf declarations ∧
      3 + (declarations.filterMap (·.terminal?)).length ≤ (namesOf declarations).idxOf name := by
  have hnames : namesOf declarations = (reservedNames ++ declarations.filterMap (·.terminal?)) ++
      declarations.filterMap (·.nonterminal?) := by
    rw [namesOf, symbols_eq_append terminalsFirst, List.append_assoc]
  have hlength : (reservedNames ++ declarations.filterMap (·.terminal?)).length =
      3 + (declarations.filterMap (·.terminal?)).length := List.length_append
  rw [hnames] at distinct ⊢
  rw [mem_nonterminals_iff distinct, hlength]

end ShiftReduce
