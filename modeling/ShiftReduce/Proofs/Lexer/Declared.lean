import Mathlib.Data.List.Induction
import ShiftReduce.Proofs.Grammar.Built
import ShiftReduce.Proofs.Lexer.Rejection

/-!
# The rules of a lexer, as they are declared

Of the declarations of a lexer those of conditions and those of rules are two lists that do not depend on
each other. The first says which conditions there are: the initial one and the declared ones, in the order
in which they were first declared and of the kind that was declared last (`conditionsOf_names`,
`mem_conditionsOf_iff`). The second says what the rules are, and with the first it says which of them are
refused and how often each is active in a condition. So the rules of a lexer are built, or refused, as
declared (`LexerRules.build_declared`).

Faults are told by a split of the list of rules (`LexerRules.build_eq_error`): the rule at which it
is split is refused, and those before it are sound. What a pattern is, and which are refused, is the
compiler's to say; it is handed each of them as the options have it written (`LexerRule.written`).
-/

namespace ShiftReduce

/-! ## Lists -/

/-- A map by a computation fails with the fault of the first element for which the computation fails. -/
theorem mapM_eq_error {α β ε : Type} {f : α → Except ε β} {xs : List α} {fault : ε} :
    xs.mapM f = .error fault ↔ ∃ before x after, xs = before ++ x :: after ∧
      (∀ earlier ∈ before, ∃ y, f earlier = .ok y) ∧ f x = .error fault := by
  induction xs with
  | nil => simp [pure, Except.pure]
  | cons x xs ih =>
    rw [List.mapM_cons, bind_eq_error]
    constructor
    · rintro (hx | ⟨y, hy, h⟩)
      · exact ⟨[], x, xs, rfl, nofun, hx⟩
      · rcases bind_eq_error.mp h with h | ⟨_, _, h⟩
        · obtain ⟨before, z, after, rfl, hbefore, hz⟩ := ih.mp h
          exact ⟨x :: before, z, after, rfl, List.forall_mem_cons.mpr ⟨⟨y, hy⟩, hbefore⟩, hz⟩
        · cases h
    · rintro ⟨before, z, after, heq, hbefore, hz⟩
      cases before with
      | nil =>
        cases heq
        exact .inl hz
      | cons earlier before =>
        cases heq
        obtain ⟨⟨y, hy⟩, hbefore⟩ := List.forall_mem_cons.mp hbefore
        exact .inr ⟨y, hy, bind_eq_error.mpr (.inl (ih.mpr ⟨before, z, after, rfl, hbefore, hz⟩))⟩

/-- How often a number stands among the numbers of the elements of a list, each repeated some times. -/
theorem count_flatMap_zipIdx {α : Type} (xs : List α) (first number : Nat) (times : α → Nat) :
    ((xs.zipIdx first).flatMap fun x => List.replicate (times x.1) x.2).count number =
      if first ≤ number then (xs[number - first]?.map times).getD 0 else 0 := by
  induction xs generalizing first with
  | nil => simp
  | cons x xs ih =>
    rw [List.zipIdx_cons, List.flatMap_cons, List.count_append, List.count_replicate, ih]
    by_cases hfirst : number = first
    · rw [hfirst, beq_self_eq_true, if_pos rfl, if_neg (by omega), if_pos (by omega), Nat.sub_self]
      rfl
    · rw [if_neg (by simpa using Ne.symm hfirst), Nat.zero_add]
      by_cases hbehind : first ≤ number
      · have hplace : number - first = number - (first + 1) + 1 := by omega
        rw [if_pos hbehind, if_pos (by omega), hplace]
        rfl
      · rw [if_neg hbehind, if_neg (by omega)]

namespace LexerDeclaration

/-! ## Conditions -/

/-- The condition that a declaration declares, with its kind. Reference:
`LexerDataBuilder::condition`. -/
def condition? : LexerDeclaration → Option (String × Bool)
  | .condition name inclusive => some (name, inclusive)
  | _ => none

/-- The kinds that declarations give to a condition, in their order. The last one counts, but for
the initial condition. -/
def kindsOf (declarations : List LexerDeclaration) (name : String) : List Bool :=
  (declarations.filterMap (·.condition?)).filterMap fun c => if c.1 = name then some c.2 else none

/-- Whether a name is that of a condition: the initial one needs no declaration. -/
def Declares (declarations : List LexerDeclaration) (name : String) : Prop :=
  name = initialCondition ∨ ∃ inclusive, .condition name inclusive ∈ declarations

/-- The conditions are told by the declarations of conditions alone. -/
theorem conditionsOf_eq (declarations : List LexerDeclaration) :
    conditionsOf declarations =
      (declarations.filterMap (·.condition?)).foldl
        (fun conditions c => declareCondition conditions (.condition c.1 c.2))
        [(initialCondition, true)] := by
  rw [List.foldl_filterMap]
  refine congrArg (List.foldl · _ declarations) (funext fun conditions => funext fun declaration => ?_)
  cases declaration <;> rfl

variable {conditions : List (String × Bool)} {name other : String} {inclusive kind : Bool}

/-- Whether a condition is among those that are known. -/
theorem any_iff_mem : conditions.any (·.1 == name) = true ↔ name ∈ conditions.map (·.1) := by
  simp [List.any_eq_true, List.mem_map]

/-- The name of a condition that is declared comes last unless it is known. -/
theorem names_declareCondition (known : initialCondition ∈ conditions.map (·.1)) (other : String)
    (kind : Bool) :
    (declareCondition conditions (.condition other kind)).map (·.1) =
      if other ∈ conditions.map (·.1) then conditions.map (·.1) else conditions.map (·.1) ++ [other] := by
  unfold declareCondition
  dsimp only
  by_cases hinitial : other = initialCondition
  · rw [if_pos hinitial, if_pos (hinitial ▸ known)]
  · rw [if_neg hinitial]
    by_cases hknown : conditions.any (·.1 == other) = true
    · rw [if_pos hknown, if_pos (any_iff_mem.mp hknown), List.map_map]
      refine List.map_congr_left fun c _ => ?_
      show (if c.1 = other then (other, kind) else c).1 = c.1
      split
      · next heq => exact heq.symm
      · rfl
    · rw [if_neg hknown, if_neg fun hmem => hknown (any_iff_mem.mpr hmem), List.map_append]
      rfl

/-- A condition that is declared has the declared kind, unless it is the initial one. A condition
that is declared again keeps its place and takes the new kind. -/
theorem mem_declareCondition (ordinary : other ≠ initialCondition) :
    (name, inclusive) ∈ declareCondition conditions (.condition other kind) ↔
      if name = other then inclusive = kind else (name, inclusive) ∈ conditions := by
  unfold declareCondition
  dsimp only
  rw [if_neg ordinary]
  by_cases hknown : conditions.any (·.1 == other) = true
  · rw [if_pos hknown, List.mem_map]
    constructor
    · rintro ⟨c, hmem, heq⟩
      split at heq
      · cases heq
        rw [if_pos rfl]
      · next hother =>
        subst heq
        rwa [if_neg hother]
    · split
      · next hname =>
        rintro rfl
        obtain ⟨c, hmem, hc⟩ := List.any_eq_true.mp hknown
        exact ⟨c, hmem, by rw [if_pos (eq_of_beq hc), hname]⟩
      · next hname =>
        intro hmem
        exact ⟨_, hmem, if_neg hname⟩
  · rw [if_neg hknown, List.mem_append, List.mem_singleton, Prod.mk.injEq]
    split
    · next hname =>
      have hnew : (other, inclusive) ∉ conditions := fun hmem =>
        hknown (any_iff_mem.mpr (List.mem_map.mpr ⟨_, hmem, rfl⟩))
      simp [hname, hnew]
    · next hname => simp [hname]

variable {declarations : List LexerDeclaration}

/-- One more element of a list without repetitions is there already, or comes last. -/
theorem eraseDups_concat (names : List String) (name : String) :
    (names ++ [name]).eraseDups =
      if name ∈ names.eraseDups then names.eraseDups else names.eraseDups ++ [name] := by
  rw [List.eraseDups_append]
  split
  · next hmem => simp [List.removeAll, List.mem_eraseDups.mp hmem]
  · next hnew =>
    have hnew : name ∉ names := fun hmem => hnew (List.mem_eraseDups.mpr hmem)
    simp [List.removeAll, hnew, List.eraseDups_cons]

/-- The conditions are the initial one and the declared ones, in the order in which they were first
declared. -/
theorem conditionsOf_names (declarations : List LexerDeclaration) :
    (conditionsOf declarations).map (·.1) =
      (initialCondition :: (declarations.filterMap (·.condition?)).map (·.1)).eraseDups := by
  rw [conditionsOf_eq]
  induction declarations.filterMap (·.condition?) using List.reverseRecOn with
  | nil => rfl
  | append_singleton declared c ih =>
    have known : initialCondition ∈ (initialCondition :: declared.map (·.1)).eraseDups :=
      List.mem_eraseDups.mpr List.mem_cons_self
    rw [List.foldl_append, List.foldl_cons, List.foldl_nil, names_declareCondition (ih ▸ known), ih,
      List.map_append, ← List.cons_append, List.map_cons, List.map_nil, eraseDups_concat]

/-- The initial condition is inclusive, and another is of the kind that was declared last. By
induction on the declarations from their end. The initial condition is there from the start, and a
declaration of it is passed over. -/
theorem mem_conditionsOf_iff (declarations : List LexerDeclaration) (name : String) (inclusive : Bool) :
    (name, inclusive) ∈ conditionsOf declarations ↔
      if name = initialCondition then inclusive = true
      else (kindsOf declarations name).getLast? = some inclusive := by
  rw [conditionsOf_eq, kindsOf]
  induction declarations.filterMap (·.condition?) using List.reverseRecOn with
  | nil =>
    rw [List.foldl_nil, List.mem_singleton, Prod.mk.injEq]
    split
    · next hname => simp [hname]
    · next hname => simp [hname]
  | append_singleton declared c ih =>
    obtain ⟨other, kind⟩ := c
    rw [List.foldl_append, List.foldl_cons, List.foldl_nil, List.filterMap_append, List.getLast?_append]
    by_cases hother : other = initialCondition
    · -- What is declared for the initial condition is ignored.
      have hsame (conditions : List (String × Bool)) :
          declareCondition conditions (.condition other kind) = conditions := if_pos hother
      rw [hsame, ih]
      split
      · rfl
      · next hname => simp [hother, Ne.symm hname]
    · rw [mem_declareCondition hother, ih]
      by_cases hname : name = other
      · simp [hname, hother, eq_comm]
      · simp [hname, Ne.symm hname]

/-- The known conditions are those that are declared. -/
theorem any_conditionsOf_iff (declarations : List LexerDeclaration) (name : String) :
    (conditionsOf declarations).any (·.1 == name) = true ↔ Declares declarations name := by
  rw [any_iff_mem, conditionsOf_names, List.mem_eraseDups, List.mem_cons, Declares]
  refine or_congr_right ?_
  constructor
  · intro hmem
    obtain ⟨⟨_, inclusive⟩, hc, rfl⟩ := List.mem_map.mp hmem
    obtain ⟨declaration, hdeclaration, heq⟩ := List.mem_filterMap.mp hc
    cases declaration <;> cases heq
    exact ⟨inclusive, hdeclaration⟩
  · rintro ⟨inclusive, hdeclaration⟩
    exact List.mem_map.mpr ⟨(name, inclusive), List.mem_filterMap.mpr ⟨_, hdeclaration, rfl⟩, rfl⟩

/-- No condition is missing if a rule is for all conditions, or for declared ones. -/
theorem undeclared?_eq_none (declarations : List LexerDeclaration) (members : List String) :
    undeclared? (conditionsOf declarations) members = none ↔
      "*" ∈ members ∨ ∀ name ∈ members, Declares declarations name := by
  unfold undeclared?
  split
  · next hall => exact iff_of_true rfl (.inl hall)
  · next hnot =>
    simp only [hnot, false_or, List.find?_eq_none, Bool.not_eq_true', Bool.not_eq_false,
      any_conditionsOf_iff]

/-- The missing condition is the first that is not declared. -/
theorem undeclared?_eq_some (declarations : List LexerDeclaration) (members : List String)
    (name : String) :
    undeclared? (conditionsOf declarations) members = some name ↔
      "*" ∉ members ∧ ∃ before after, members = before ++ name :: after ∧
        (∀ earlier ∈ before, Declares declarations earlier) ∧ ¬Declares declarations name := by
  unfold undeclared?
  split
  · next hall => exact iff_of_false nofun fun h => h.1 hall
  · next hnot =>
    simp only [hnot, not_false_eq_true, true_and, List.find?_eq_some_iff_append, Bool.not_eq_true',
      Bool.not_not, ← Bool.not_eq_true, any_conditionsOf_iff]
    constructor
    · rintro ⟨hname, before, after, heq, hbefore⟩
      exact ⟨before, after, heq, hbefore, hname⟩
    · rintro ⟨before, after, heq, hbefore, hname⟩
      exact ⟨hname, before, after, heq, hbefore⟩

end LexerDeclaration

/-! ## Rules -/

namespace LexerRule

open LexerDeclaration (Declares conditionsOf)

/-- A rule that is not refused: its pattern can be compiled, and it is for all conditions or for declared
ones. -/
structure Sound (compile : PatternCompiler) (options : LexerOptions)
    (declarations : List LexerDeclaration) (members : List String) (source : String) : Prop where
  compiled : ∃ finder, compile (written options source) options.caseInsensitive = .ok finder
  declared : "*" ∈ members ∨ ∀ name ∈ members, Declares declarations name

/-- Why the rule with a number is refused. Its pattern is judged first, and then its conditions in the
order in which it names them. -/
inductive Refused (compile : PatternCompiler) (options : LexerOptions)
    (declarations : List LexerDeclaration) (number : RuleId) (members : List String) (source : String) :
    GrammarError → Prop
  | pattern (reason : String)
    (refused : compile (written options source) options.caseInsensitive = .error reason) :
    Refused compile options declarations number members source (.invalidPattern number source reason)
  | condition (finder : Finder) (before : List String) (name : String) (after : List String)
    (compiled : compile (written options source) options.caseInsensitive = .ok finder)
    (limited : "*" ∉ members) (named : members = before ++ name :: after)
    (declared : ∀ earlier ∈ before, Declares declarations earlier)
    (undeclared : ¬Declares declarations name) :
    Refused compile options declarations number members source (.unknownCondition name)

variable {compile : PatternCompiler} {options : LexerOptions} {declarations : List LexerDeclaration} {number : RuleId}
  {members : List String} {source : String}

/-- A rule is built if it is sound, with the finder of its pattern. -/
theorem build_eq_ok {rule : LexerRule} :
    build compile options (conditionsOf declarations) number members source = .ok rule ↔
      (rule.source = source ∧
        compile (written options source) options.caseInsensitive = .ok rule.finder) ∧
        Sound compile options declarations members source := by
  unfold build
  cases hcompiled : compile (written options source) options.caseInsensitive with
  | error why => exact iff_of_false nofun fun h => nomatch h.1.2
  | ok finder =>
    simp only [Except.mapError, bind, Except.bind]
    cases hmissing : LexerDeclaration.undeclared? (conditionsOf declarations) members with
    | some name =>
      refine iff_of_false nofun fun h => ?_
      rw [(LexerDeclaration.undeclared?_eq_none _ _).mpr h.2.declared] at hmissing
      cases hmissing
    | none =>
      have hdeclared := (LexerDeclaration.undeclared?_eq_none _ _).mp hmissing
      constructor
      · intro h
        cases h
        exact ⟨⟨rfl, rfl⟩, ⟨finder, hcompiled⟩, hdeclared⟩
      · rintro ⟨⟨rfl, hfinder⟩, -⟩
        cases hfinder
        rfl

/-- A rule that is sound is built. -/
theorem exists_build_eq_ok :
    (∃ rule, build compile options (conditionsOf declarations) number members source = .ok rule) ↔
      Sound compile options declarations members source := by
  constructor
  · rintro ⟨rule, h⟩
    exact (build_eq_ok.mp h).2
  · intro h
    obtain ⟨finder, hcompiled⟩ := h.compiled
    exact ⟨⟨source, finder⟩, build_eq_ok.mpr ⟨⟨rfl, hcompiled⟩, h⟩⟩

/-- A rule that is not built is refused with the fault. A pattern that the compiler refuses goes
before a condition that is not declared, and of several such conditions the first that the rule
names is reported. -/
theorem build_eq_error {fault : GrammarError} :
    build compile options (conditionsOf declarations) number members source = .error fault ↔
      Refused compile options declarations number members source fault := by
  unfold build
  cases hcompiled : compile (written options source) options.caseInsensitive with
  | error why =>
    constructor
    · intro h
      cases h
      exact .pattern why hcompiled
    · rintro (⟨_, hrefused⟩ | ⟨_, _, _, _, hother, -⟩)
      · rw [hcompiled] at hrefused
        cases hrefused
        rfl
      · rw [hcompiled] at hother
        cases hother
  | ok finder =>
    simp only [Except.mapError, bind, Except.bind]
    cases hmissing : LexerDeclaration.undeclared? (conditionsOf declarations) members with
    | some name =>
      obtain ⟨hlimited, before, after, hnamed, hdeclared, hundeclared⟩ :=
        (LexerDeclaration.undeclared?_eq_some _ _ _).mp hmissing
      constructor
      · intro h
        cases h
        exact .condition finder before name after hcompiled hlimited hnamed hdeclared hundeclared
      · rintro (⟨_, hrefused⟩ | ⟨_, before', name', after', -, -, hnamed', hdeclared', hundeclared'⟩)
        · rw [hcompiled] at hrefused
          cases hrefused
        · have hsame := (LexerDeclaration.undeclared?_eq_some declarations members name').mpr
            ⟨hlimited, before', after', hnamed', hdeclared', hundeclared'⟩
          rw [hmissing] at hsame
          cases hsame
          rfl
    | none =>
      refine iff_of_false nofun ?_
      rintro (⟨_, hrefused⟩ | ⟨_, before, name, after, -, hlimited, hnamed, hdeclared, hundeclared⟩)
      · rw [hcompiled] at hrefused
        cases hrefused
      · rw [(LexerDeclaration.undeclared?_eq_some _ _ _).mpr
          ⟨hlimited, before, after, hnamed, hdeclared, hundeclared⟩] at hmissing
        cases hmissing

end LexerRule

namespace LexerRules

open LexerDeclaration

/-- Rules that are as declared under some options, with the finders that a compiler makes. The
counts of a rule in a condition say how often it is tried there: a rule without conditions belongs
to the inclusive ones, `*` stands for all of them, and a condition that a rule names twice has it
twice. -/
structure Follows (rules : LexerRules) (compile : PatternCompiler) (options : LexerOptions)
    (declarations : List LexerDeclaration) : Prop where
  sameOptions : rules.options = options
  /-- The rules have the declared patterns, in their order. -/
  patterns : List.Forall₂
    (fun declared rule => rule.source = declared.2 ∧
      compile (LexerRule.written options declared.2) options.caseInsensitive = .ok rule.finder)
    (declarations.filterMap (·.rule?)) rules.rules
  /-- The conditions are the initial one and the declared ones, in the order in which they were first
  declared. -/
  names : rules.conditions.map (·.name) =
    (initialCondition :: (declarations.filterMap (·.condition?)).map (·.1)).eraseDups
  /-- The initial condition is inclusive, whatever is declared for it. -/
  initial : ∀ condition ∈ rules.conditions, condition.name = initialCondition →
    condition.inclusive = true
  /-- Another condition is of the kind that was declared last. -/
  kind : ∀ condition ∈ rules.conditions, condition.name ≠ initialCondition →
    (kindsOf declarations condition.name).getLast? = some condition.inclusive
  /-- The rules of a condition are in the order of their declarations. -/
  ordered : ∀ condition ∈ rules.conditions, condition.rules.Pairwise (· ≤ ·)
  /-- Only declared rules are rules of a condition. -/
  known : ∀ condition ∈ rules.conditions, ∀ number ∈ condition.rules,
    number < (declarations.filterMap (·.rule?)).length
  /-- A rule without conditions is active once in each inclusive condition, and in no other. -/
  unconditional : ∀ condition ∈ rules.conditions, ∀ number source,
    (declarations.filterMap (·.rule?))[number]? = some ([], source) →
    condition.rules.count number = if condition.inclusive then 1 else 0
  /-- A rule for all conditions is active once in each. -/
  everywhere : ∀ condition ∈ rules.conditions, ∀ number members source,
    (declarations.filterMap (·.rule?))[number]? = some (members, source) → "*" ∈ members →
    condition.rules.count number = 1
  /-- Another rule is active in the conditions that it names, as often as it names them. -/
  named : ∀ condition ∈ rules.conditions, ∀ number members source,
    (declarations.filterMap (·.rule?))[number]? = some (members, source) → members ≠ [] →
    "*" ∉ members → condition.rules.count number = members.count condition.name

/-- The conditions with the rules that are active in them, whatever the patterns are. Reference: the
conditions in `LexerDataBuilder::build`. -/
def activated (declarations : List LexerDeclaration) : List Condition :=
  (conditionsOf declarations).map fun (name, inclusive) =>
    { name, inclusive
      rules := (declarations.filterMap (·.rule?)).zipIdx.flatMap fun ((members, _), number) =>
        List.replicate (LexerDeclaration.multiplicity members name inclusive) number }

variable {compile : PatternCompiler} {options : LexerOptions} {declarations : List LexerDeclaration}

/-- Rules are built if all of them are. -/
theorem build_eq_ok {rules : LexerRules} :
    build options declarations compile = .ok rules ↔
      (declarations.filterMap (·.rule?)).zipIdx.mapM (fun x : (List String × String) × Nat =>
        LexerRule.build compile options (conditionsOf declarations) x.2 x.1.1 x.1.2) = .ok rules.rules ∧
      rules.options = options ∧ rules.conditions = activated declarations := by
  unfold build
  rw [bind_eq_ok]
  constructor
  · rintro ⟨built, hbuilt, h⟩
    cases h
    exact ⟨hbuilt, rfl, rfl⟩
  · rintro ⟨hbuilt, rfl, hconditions⟩
    refine ⟨rules.rules, hbuilt, ?_⟩
    show Except.ok (LexerRules.mk rules.options (activated declarations) rules.rules) = .ok rules
    rw [← hconditions]

/-- Rules are refused with the fault of the first that is. All rules before it are sound, so the
fault is that of the rule with the lowest number. -/
theorem build_eq_error {fault : GrammarError} :
    build options declarations compile = .error fault ↔ ∃ earlier members source later,
      declarations.filterMap (·.rule?) = earlier ++ (members, source) :: later ∧
      (∀ rule ∈ earlier, LexerRule.Sound compile options declarations rule.1 rule.2) ∧
      LexerRule.Refused compile options declarations earlier.length members source fault := by
  have hrules : build options declarations compile = .error fault ↔
      (declarations.filterMap (·.rule?)).zipIdx.mapM (fun x : (List String × String) × Nat =>
        LexerRule.build compile options (conditionsOf declarations) x.2 x.1.1 x.1.2) = .error fault := by
    unfold build
    rw [bind_eq_error]
    refine or_iff_left ?_
    rintro ⟨rules, -, h⟩
    cases h
  rw [hrules, mapM_eq_error]
  constructor
  · rintro ⟨before, ⟨⟨members, source⟩, number⟩, after, heq, hbefore, hrefused⟩
    have hsplit := congrArg (List.map (·.1)) heq
    rw [List.zipIdx_map_fst, List.map_append] at hsplit
    have hplace := congrArg (·[before.length]?) heq
    simp only [List.getElem?_zipIdx, List.getElem?_append_right, Nat.le_refl, Nat.sub_self,
      List.getElem?_cons_zero, Option.map_eq_some_iff, Nat.zero_add] at hplace
    obtain ⟨_, -, hplace⟩ := hplace
    obtain ⟨-, rfl⟩ := Prod.mk.inj hplace
    refine ⟨_, members, source, _, hsplit, ?_, ?_⟩
    · intro rule hrule
      obtain ⟨numbered, hnumbered, rfl⟩ := List.mem_map.mp hrule
      exact LexerRule.exists_build_eq_ok.mp (hbefore numbered hnumbered)
    · rw [List.length_map]
      exact LexerRule.build_eq_error.mp hrefused
  · rintro ⟨earlier, members, source, later, heq, hearlier, hrefused⟩
    rw [heq, List.zipIdx_append, List.zipIdx_cons, Nat.zero_add]
    refine ⟨_, _, _, rfl, fun rule hrule => ?_, LexerRule.build_eq_error.mpr hrefused⟩
    exact LexerRule.exists_build_eq_ok.mpr (hearlier _ (List.fst_mem_of_mem_zipIdx hrule))

/-- Rules that are built are sound, and have the declared patterns. -/
theorem build_sound {rules : LexerRules} (built : build options declarations compile = .ok rules) :
    (∀ rule ∈ declarations.filterMap (·.rule?),
      LexerRule.Sound compile options declarations rule.1 rule.2) ∧
    List.Forall₂ (fun declared rule => rule.source = declared.2 ∧
      compile (LexerRule.written options declared.2) options.caseInsensitive = .ok rule.finder)
      (declarations.filterMap (·.rule?)) rules.rules := by
  rw [← List.forall₂_and_left]
  nth_rewrite 1 [← List.zipIdx_map_fst 0 (declarations.filterMap (·.rule?))]
  rw [List.forall₂_map_left_iff]
  exact (mapM_eq_ok_iff.mp (build_eq_ok.mp built).1).imp fun _ _ h => (LexerRule.build_eq_ok.mp h).symm

/-- How often a rule is active in a condition. -/
theorem count_activated {condition : Condition} (h : condition ∈ activated declarations)
    (number : RuleId) :
    condition.rules.count number =
      ((declarations.filterMap (·.rule?))[number]?.map fun rule =>
        LexerDeclaration.multiplicity rule.1 condition.name condition.inclusive).getD 0 := by
  obtain ⟨⟨name, inclusive⟩, -, rfl⟩ := List.mem_map.mp h
  exact count_flatMap_zipIdx _ 0 number fun rule : List String × String =>
    LexerDeclaration.multiplicity rule.1 name inclusive

/-- Rules that are built are as declared. Each field follows from what the two lists of declarations
say, conditions and rules; the rules of a condition are counted from the list of all rules with
their numbers. -/
theorem build_follows {rules : LexerRules} (built : build options declarations compile = .ok rules) :
    rules.Follows compile options declarations := by
  obtain ⟨-, hoptions, hconditions⟩ := build_eq_ok.mp built
  have hkind : ∀ condition ∈ rules.conditions,
      if condition.name = initialCondition then condition.inclusive = true
      else (kindsOf declarations condition.name).getLast? = some condition.inclusive := by
    intro condition hmem
    rw [hconditions] at hmem
    obtain ⟨⟨name, inclusive⟩, hdeclared, rfl⟩ := List.mem_map.mp hmem
    exact (mem_conditionsOf_iff declarations name inclusive).mp hdeclared
  have hcount : ∀ condition ∈ rules.conditions, ∀ number rule,
      (declarations.filterMap (·.rule?))[number]? = some rule →
      condition.rules.count number =
        LexerDeclaration.multiplicity rule.1 condition.name condition.inclusive := by
    intro condition hmem number rule hrule
    rw [count_activated (hconditions ▸ hmem), hrule]
    rfl
  constructor
  · exact hoptions
  · exact (build_sound built).2
  · rw [hconditions, ← conditionsOf_names]
    exact List.map_map
  · intro condition hmem hname
    have hkind := hkind condition hmem
    rwa [if_pos hname] at hkind
  · intro condition hmem hname
    have hkind := hkind condition hmem
    rwa [if_neg hname] at hkind
  · intro condition hmem
    rw [hconditions] at hmem
    obtain ⟨⟨name, inclusive⟩, -, rfl⟩ := List.mem_map.mp hmem
    exact pairwise_flatMap_zipIdx _ 0 fun rule : List String × String =>
      LexerDeclaration.multiplicity rule.1 name inclusive
  · intro condition hmem number hnumber
    have hpos := List.count_pos_iff.mpr hnumber
    rw [count_activated (hconditions ▸ hmem)] at hpos
    refine Nat.lt_of_not_le fun hge => ?_
    rw [List.getElem?_eq_none hge] at hpos
    exact absurd hpos (Nat.lt_irrefl 0)
  · intro condition hmem number source hrule
    exact hcount condition hmem number _ hrule
  · intro condition hmem number members source hrule hall
    have hsome : ¬members.isEmpty = true := fun hnone => by
      rw [List.isEmpty_iff.mp hnone] at hall
      cases hall
    rw [hcount condition hmem number _ hrule, LexerDeclaration.multiplicity, if_neg hsome, if_pos hall]
  · intro condition hmem number members source hrule hsome hnot
    have hsome : ¬members.isEmpty = true := fun hnone => hsome (List.isEmpty_iff.mp hnone)
    rw [hcount condition hmem number _ hrule, LexerDeclaration.multiplicity, if_neg hsome, if_neg hnot]

/-- Whatever the compiler of patterns is, the rules of a lexer are refused exactly if one of them is
unsound, with the fault of the first that is: the compiler's message, or a condition that is not
declared. Rules that are built are as declared. It does not matter whether conditions are declared
before or behind the rules, nor in which way the declarations of conditions stand between those of
rules. Reference: `LexerDataBuilder::build`. -/
theorem build_declared (compile : PatternCompiler) (options : LexerOptions)
    (declarations : List LexerDeclaration) :
    ((∃ fault, build options declarations compile = .error fault) ↔
      ∃ rule ∈ declarations.filterMap (·.rule?),
        ¬LexerRule.Sound compile options declarations rule.1 rule.2) ∧
    (∀ fault, build options declarations compile = .error fault ↔ ∃ earlier members source later,
      declarations.filterMap (·.rule?) = earlier ++ (members, source) :: later ∧
      (∀ rule ∈ earlier, LexerRule.Sound compile options declarations rule.1 rule.2) ∧
      LexerRule.Refused compile options declarations earlier.length members source fault) ∧
    (∀ rules, build options declarations compile = .ok rules → rules.Follows compile options declarations) ∧
    ∀ others : List LexerDeclaration,
      others.filterMap (·.condition?) = declarations.filterMap (·.condition?) →
      others.filterMap (·.rule?) = declarations.filterMap (·.rule?) →
      build options others compile = build options declarations compile := by
  refine ⟨⟨?_, ?_⟩, fun fault => build_eq_error, fun rules => build_follows, ?_⟩
  · rintro ⟨fault, h⟩
    obtain ⟨earlier, members, source, later, heq, -, hrefused⟩ := build_eq_error.mp h
    refine ⟨(members, source), heq ▸ List.mem_append_right _ List.mem_cons_self, fun hsound => ?_⟩
    obtain ⟨rule, hbuilt⟩ := LexerRule.exists_build_eq_ok.mpr hsound
    rw [LexerRule.build_eq_error.mpr hrefused] at hbuilt
    cases hbuilt
  · rintro ⟨rule, hmem, hunsound⟩
    cases hbuilt : build options declarations compile with
    | error fault => exact ⟨fault, rfl⟩
    | ok rules => exact absurd ((build_sound hbuilt).1 rule hmem) hunsound
  · intro others hconditions hrules
    unfold build
    rw [hrules, conditionsOf_eq, conditionsOf_eq, hconditions]

/-- Rules of a lexer with comments, whose condition is declared last, and twice. -/
def comments : List LexerDeclaration :=
  [.rule ["COMMENT", "COMMENT"] "x", .rule [] "y", .rule ["*"] "z", .condition "COMMENT" true,
    .condition initialCondition false, .condition "COMMENT" false]

/-- Comments are exclusive, so that the rule without conditions is not active in them; the rule that
names them twice is active twice. -/
theorem build_comments :
    ∃ rules, build {} comments = .ok rules ∧
      rules.conditions.map (·.name) = [initialCondition, "COMMENT"] ∧
      (∀ condition ∈ rules.conditions, condition.name = "COMMENT" → condition.inclusive = false ∧
        condition.rules.count 0 = 2 ∧ condition.rules.count 1 = 0 ∧ condition.rules.count 2 = 1) ∧
      build {} (comments.drop 3 ++ comments.take 3) = .ok rules := by
  obtain ⟨-, -, hfollows, hmixed⟩ := build_declared Pattern.compile {} comments
  have hbuilt : (build {} comments).toOption.isSome = true := by decide +kernel
  cases hrules : build {} comments with
  | error fault =>
    rw [hrules] at hbuilt
    cases hbuilt
  | ok rules =>
    have follows := hfollows rules hrules
    refine ⟨rules, rfl, follows.names.trans (by decide), ?_, (hmixed _ rfl rfl).trans hrules⟩
    intro condition hmem hname
    have hkind := follows.kind condition hmem (by rw [hname]; decide)
    rw [hname] at hkind
    have hexclusive : condition.inclusive = false := (Option.some.inj hkind).symm
    refine ⟨hexclusive, ?_, ?_, ?_⟩
    · rw [follows.named condition hmem 0 _ _ rfl (by decide) (by decide), hname]
      decide
    · rw [follows.unconditional condition hmem 1 _ rfl, hexclusive]
      rfl
    · exact follows.everywhere condition hmem 2 _ _ rfl (by decide)

end LexerRules

end ShiftReduce
