import ShiftReduce.Proofs.Parser.Conservation

/-!
# The trees of a parse

A parse that never recovers builds a forest: each slot above the lowest one stands for a tree, whose
leaves are tokens and whose inner nodes are productions (`Session.Grows`). Read from left to right the
leaves are the tokens fetched so far but for the one ahead. Where the actions give every token a value
of its own, and every production one that depends on the values of its children (`Actions.Means`), a
slot holds the value of its tree, from the leaves up. `Engine.value_is_evaluation` says so of a parse
that accepts; the value it returns is that of the topmost tree.
-/

namespace ShiftReduce

/-! ## Trees -/

/-- A parse tree: a token, or a production over the trees of its right-hand side. -/
inductive ParseTree
  | leaf (token : Token)
  | node (number : ProductionId) (production : Production) (children : List ParseTree)

/-- What tokens and productions mean: the value of a token, and what a production makes of the values
of its children. A production that makes nothing of them leaves it to the default. -/
structure Meaning (V : Type) where
  token : Token → V
  production : ProductionId → List V → Option V

namespace ParseTree

/-- The symbol of a tree: that of its token, or the left-hand side of its production. -/
def symbol : ParseTree → SymbolId
  | leaf token => token.symbol
  | node _ production _ => production.lhs

mutual

/-- The tokens of a tree from left to right, error tokens included. -/
def leaves : ParseTree → List Token
  | leaf token => [token]
  | node _ _ children => leavesAll children

/-- The tokens of a forest from left to right, tree by tree. -/
def leavesAll : List ParseTree → List Token
  | [] => []
  | tree :: forest => leaves tree ++ leavesAll forest

end

section
variable {V : Type} [Inhabited V] (m : Meaning V)

mutual

/-- The value of a tree from its leaves up. By default a node has the value of its first child, or the
default value if there is none. -/
def eval : ParseTree → V
  | leaf token => m.token token
  | node number _ children =>
    (m.production number (evalAll children)).getD ((evalAll children).head?.getD default)

/-- The values of a forest from left to right, tree by tree. -/
def evalAll : List ParseTree → List V
  | [] => []
  | tree :: forest => eval tree :: evalAll forest

end

theorem evalAll_eq_map (forest : List ParseTree) : evalAll m forest = forest.map (eval m) := by
  induction forest with
  | nil => rfl
  | cons tree rest ih => rw [evalAll, ih, List.map_cons]

end

theorem leavesAll_eq_flatMap (forest : List ParseTree) : leavesAll forest = forest.flatMap leaves := by
  induction forest with
  | nil => rfl
  | cons tree rest ih => rw [leavesAll, ih, List.flatMap_cons]

/-- Every node of the tree is a production of the table, with as many children as the production has
symbols on its right-hand side. -/
inductive WellFormed (table : Table) : ParseTree → Prop
  | leaf (token : Token) : WellFormed table (leaf token)
  | node {number : ProductionId} {production : Production} {children : List ParseTree}
      (found : table.production? number = some production)
      (length : children.length = production.length)
      (wellFormed : ∀ child ∈ children, WellFormed table child) :
      WellFormed table (node number production children)

end ParseTree

section
variable {σ V ε : Type} [Inhabited V]

/-- Actions that give a token the value that it means, and a left-hand side what its production makes
of the values of the children; the state of the actions has no say in it. -/
structure Actions.Means (actions : Actions σ V ε) (m : Meaning V) : Prop where
  token (token : Token) (user : σ) : (actions.tokenValue token user).1 = m.token token
  production (reduction : Reduction V) (user : σ) {yield : Yield V} {user' : σ} :
    actions.reduce reduction user = (.ok yield, user') →
      yield.value = m.production reduction.production reduction.values

/-- The slots of the stack above the lowest one stand for trees, topmost first, and the leaves of these
are the tokens fetched so far, but for the one ahead. -/
structure Session.Grows (table : Table) (m : Meaning V) (trees : List ParseTree)
    (s : Session σ V) : Prop where
  own : s.held = none
  stack : ∃ slots bottom, s.stack = slots ++ [bottom] ∧ bottom.value = default ∧
    slots.map (·.symbol) = trees.map (·.symbol) ∧ slots.map (·.value) = trees.map (·.eval m)
  wellFormed : ∀ tree ∈ trees, tree.WellFormed table
  leaves : (fetchedTokens (landmarks s.journal)).reverse =
    trees.reverse.flatMap (·.leaves) ++ s.lookahead.toList

end

/-! ## Growing -/

section
variable {σ V ε : Type} [Inhabited V] {e : Engine σ V ε} {s s' : Session σ V} {m : Meaning V}
  {trees : List ParseTree}

/-- The token that is shifted becomes a tree on top of the others. -/
theorem Session.Grows.leaf {table : Table} {token : Token} {target : StateId} {value : V}
    (hs : s.Grows table m trees) (ahead : s.lookahead = some token)
    (own : s'.held = none) (consumed : s'.lookahead = none)
    (stack : s'.stack = ⟨token.symbol, target, value, token.location⟩ :: s.stack)
    (meaning : value = m.token token)
    (fetched : fetchedTokens (landmarks s'.journal) = fetchedTokens (landmarks s.journal)) :
    s'.Grows table m (.leaf token :: trees) := by
  obtain ⟨slots, bottom, hstack, hbottom, hsymbols, hvalues⟩ := hs.stack
  refine ⟨own, ⟨⟨token.symbol, target, value, token.location⟩ :: slots, bottom, ?_, hbottom, ?_, ?_⟩, ?_, ?_⟩
  · rw [stack, hstack]
    rfl
  · rw [List.map_cons, List.map_cons, hsymbols]
    rfl
  · rw [List.map_cons, List.map_cons, hvalues, meaning]
    rfl
  · exact List.forall_mem_cons.mpr ⟨.leaf token, hs.wellFormed⟩
  · rw [fetched, hs.leaves, ahead, consumed, List.reverse_cons, List.flatMap_append]
    simp [ParseTree.leaves]

/-- The trees of a right-hand side become one tree in their place. The leaves stay the same, since
the trees are put together in their order; the value is that of the production, or that of the first
child where the production makes nothing of them. -/
theorem Session.Grows.node {table : Table} {number : ProductionId} {production : Production}
    {target : StateId} {value : V} {location : Location} (hs : s.Grows table m trees)
    (found : table.production? number = some production)
    (enough : production.length < s.stack.length) (own : s'.held = none)
    (ahead : s'.lookahead = s.lookahead)
    (stack : s'.stack =
      ⟨production.lhs, target, value, location⟩ :: s.stack.drop production.length)
    (meaning : let values := (s.stack.take production.length).reverse.map (·.value)
      value = (m.production number values).getD (values.head?.getD default))
    (fetched : fetchedTokens (landmarks s'.journal) = fetchedTokens (landmarks s.journal)) :
    s'.Grows table m (.node number production (trees.take production.length).reverse ::
      trees.drop production.length) := by
  obtain ⟨slots, bottom, hstack, hbottom, hsymbols, hvalues⟩ := hs.stack
  have hlength : slots.length = trees.length := by
    rw [← List.length_map, hsymbols, List.length_map]
  have hn : production.length ≤ slots.length := by
    rw [hstack, List.length_append, List.length_singleton] at enough
    omega
  have hchildren : (s.stack.take production.length).reverse.map (·.value) =
      (trees.take production.length).reverse.map (·.eval m) := by
    rw [hstack, List.take_append_of_le_length hn, List.map_reverse, List.map_reverse,
      List.map_take, List.map_take, hvalues]
  refine ⟨own, ⟨⟨production.lhs, target, value, location⟩ :: slots.drop production.length, bottom,
    ?_, hbottom, ?_, ?_⟩, ?_, ?_⟩
  · rw [stack, hstack, List.drop_append_of_le_length hn]
    rfl
  · rw [List.map_cons, List.map_cons, List.map_drop, List.map_drop, hsymbols]
    rfl
  · rw [List.map_cons, List.map_cons, List.map_drop, List.map_drop, hvalues]
    dsimp only
    rw [meaning, hchildren, ParseTree.eval, ParseTree.evalAll_eq_map]
  · refine List.forall_mem_cons.mpr ⟨.node found ?_ ?_, ?_⟩
    · rw [List.length_reverse, List.length_take, ← hlength]
      omega
    · intro child hmem
      exact hs.wellFormed child (List.mem_of_mem_take (List.mem_reverse.mp hmem))
    · intro tree hmem
      exact hs.wellFormed tree (List.mem_of_mem_drop hmem)
  · have hjoined : trees.reverse =
        (trees.drop production.length).reverse ++ (trees.take production.length).reverse := by
      rw [← List.reverse_append, List.take_append_drop]
    rw [fetched, ahead, hs.leaves, List.reverse_cons, List.flatMap_append, List.flatMap_singleton,
      ParseTree.leaves, ParseTree.leavesAll_eq_flatMap, ← List.flatMap_append, ← hjoined]

namespace Engine

/-- A look ahead fetches one more token, which is not in a tree yet. -/
theorem Looks.grows (h : Looks e s s') (hs : s.Grows e.table m trees) :
    s'.Grows e.table m trees := by
  cases h with
  | @mk token t habsent hfetch =>
    obtain ⟨hheld, -, -⟩ := hfetch.keeps
    have hleaves := hs.leaves
    rw [habsent, Option.toList_none, List.append_nil] at hleaves
    refine ⟨hheld.trans hs.own, ?_, hs.wellFormed, ?_⟩
    · dsimp only
      rw [hfetch.stack]
      exact hs.stack
    · dsimp only
      rw [hfetch.fetchedTokens, List.reverse_cons, hleaves]
      rfl

/-- A remark does not make a forest grow. -/
theorem Arrives.grows (h : Arrives e s s') (hs : s.Grows e.table m trees) :
    s'.Grows e.table m trees := by
  cases h with
  | here hnew => exact ⟨hs.own, hs.stack, hs.wellFormed, by rw [hnew]; exact hs.leaves⟩
  | looked hlook hnew =>
    have ht := hlook.grows hs
    exact ⟨ht.own, ht.stack, ht.wellFormed, by rw [hnew]; exact ht.leaves⟩

/-- A shift puts a tree of one token on top. -/
theorem Shifts.grows (h : Shifts e s s') (means : e.actions.Means m)
    (hs : s.Grows e.table m trees) : ∃ trees', s'.Grows e.table m trees' := by
  have hmeaning : ∀ {token : Token} {value : V} {user : σ},
      e.actions.tokenValue token s.user = (value, user) → value = m.token token := by
    intro token value user hvalued
    rw [← means.token token s.user, hvalued]
  cases h with
  | plain _ hahead _ _ hvalued hnew =>
    exact ⟨_, hs.leaf hahead rfl rfl rfl (hmeaning hvalued) (by rw [hnew]; rfl)⟩
  | lexed _ hahead _ _ _ hvalued hnew =>
    exact ⟨_, hs.leaf hahead rfl rfl rfl (hmeaning hvalued) (by rw [hnew]; rfl)⟩
  | synthetic _ _ hbehind _ _ =>
    rw [hs.own] at hbehind
    cases hbehind

/-- A reduction joins the trees of its right-hand side to one. -/
theorem Reduces.grows (h : Reduces e s s') (means : e.actions.Means m)
    (hs : s.Grows e.table m trees) : ∃ trees', s'.Grows e.table m trees' := by
  cases h with
  | mk _ hfound henough hcalled _ _ hnew =>
    refine ⟨_, hs.node hfound henough hs.own rfl rfl ?_ (by rw [hnew]; rfl)⟩
    rw [means.production _ _ hcalled]
    rfl

/-- A step that goes on grows the forest, or it recovers. -/
theorem Turn.grows (h : Turn e s s') (means : e.actions.Means m)
    (hs : s.Grows e.table m trees) :
    (∃ token height, .resumed token height ∈ landmarks s'.journal) ∨
      ∃ trees', s'.Grows e.table m trees' := by
  cases h with
  | shift harrives hshifts => exact .inr (hshifts.grows means (harrives.grows hs))
  | reduce harrives hreduces => exact .inr (hreduces.grows means (harrives.grows hs))
  | recover _ _ hresumes =>
    cases hresumes with
    | mk _ _ _ _ =>
      rw [landmarks_resumption]
      exact .inl ⟨_, _, List.mem_cons_self⟩

/-- Steps that go on and make no recovery grow a forest. -/
theorem Steps.grows {c c' : Config σ V} (h : Steps e c c') (means : e.actions.Means m)
    (start : c.session.Grows e.table m trees)
    (unrecovered : ∀ token height, .resumed token height ∉ landmarks c'.session.journal) :
    ∃ trees', c'.session.Grows e.table m trees' := by
  induction h with
  | refl => exact ⟨trees, start⟩
  | @tail c₁ c₂ _ hstep ih =>
    have hturn := step_ok hstep
    have hsuffix := Moves.suffix hturn.moves
    obtain ⟨trees', hgrows⟩ := ih fun token height hmem =>
      unrecovered token height (hsuffix.subset hmem)
    rcases hturn.grows means hgrows with ⟨token, height, hmem⟩ | hgrown
    · exact absurd hmem (unrecovered token height)
    · exact hgrown

/-- At the start of a parse there is no tree. -/
theorem grows_reset (c : Config σ V) (input : String) :
    (c.reset input).session.Grows e.table m [] :=
  ⟨rfl, ⟨[], _, rfl, rfl, rfl, rfl⟩, nofun, rfl⟩

/-- Where the input is accepted, the value is that of the topmost tree. The slot on top holds the
value, and the leaves of all trees are the tokens before the end of the input. -/
theorem Accepts.grows {declarations : List Declaration} {value : V} (h : Accepts e s value s')
    (built : Table.build declarations = .ok e.table) (hs : s.Grows e.table m trees) :
    value = (trees.head?.map (·.eval m)).getD default ∧
      trees.reverse.map (·.symbol) = s'.stack.symbols.tail ∧
      ∃ last, s'.lookahead = some last ∧ last.symbol = SymbolId.endOfInput ∧
        (fetchedTokens s'.journal).reverse = trees.reverse.flatMap (·.leaves) ++ [last] := by
  cases h with
  | @mk s₁ _ slot rest _ harrives hchosen htop hresult hnew =>
    have hgrows := harrives.grows hs
    obtain ⟨last, hahead, hentry⟩ := hchosen.token nofun
    obtain ⟨slots, bottom, hstack, hbottom, hsymbols, hvalues⟩ := hgrows.stack
    have hleaves := hgrows.leaves
    rw [hahead, ← hnew, fetchedTokens_landmarks] at hleaves
    rw [htop] at hstack
    refine ⟨?_, ?_, last, hahead, Table.build_accept built hentry, hleaves⟩
    · have hhead : trees.head?.map (·.eval m) = slots.head?.map (·.value) := by
        rw [← List.head?_map, ← hvalues, List.head?_map]
      rw [hhead, hresult]
      cases slots with
      | nil => cases hstack; exact hbottom
      | cons first more => cases hstack; rfl
    · have htaken : (Stack.symbols ({ slot with value := default } :: rest)) =
          Stack.symbols (slot :: rest) := by
        rw [Stack.symbols_cons, Stack.symbols_cons]
      have hview : Stack.symbols (slots ++ [bottom]) =
          bottom.symbol :: (slots.map (·.symbol)).reverse := by
        simp [Stack.symbols, Stack.slots]
      dsimp only
      rw [htaken, hstack, hview, List.tail_cons, hsymbols, List.map_reverse]

/-- A parse that accepts without a recovery has built a tree for each slot above the lowest one. The
trees are well formed and have the symbols of the slots; their leaves from left to right are the
tokens fetched before the end of the input; and the value returned is that of the topmost tree, or
the default value if there is none. Reference: `Parser::shift` and `Parser::reduce`, up to the value
that `Parser::run` accepts. -/
theorem value_is_evaluation {declarations : List Declaration} {c : Config σ V} {input : String}
    {fuel : Nat} {value : V} (built : Table.build declarations = .ok e.table)
    (means : e.actions.Means m)
    (accepted : (e.run fuel (c.reset input)).stop = .accepted value)
    (unrecovered : ∀ token height,
      .resumed token height ∉ (e.run fuel (c.reset input)).config.session.journal) :
    let s := (e.run fuel (c.reset input)).config.session
    ∃ (forest : List ParseTree) (last : Token), (∀ tree ∈ forest, tree.WellFormed e.table) ∧
      forest.map (·.symbol) = s.stack.symbols.tail ∧
      s.lookahead = some last ∧ last.symbol = SymbolId.endOfInput ∧
      (fetchedTokens s.journal).reverse = forest.flatMap (·.leaves) ++ [last] ∧
      value = (forest.getLast?.map (·.eval m)).getD default ∧
      (e.parse fuel input c).1 = .value value := by
  intro s
  obtain ⟨c', hsteps, haccepts⟩ := run_accepted accepted
  have hsuffix := haccepts.suffix
  obtain ⟨trees, hgrows⟩ := Steps.grows hsteps means (grows_reset c input)
    fun token height hmem => unrecovered token height
      (List.mem_of_mem_filter (hsuffix.subset hmem))
  obtain ⟨hvalue, hsymbols, last, hahead, hend, hleaves⟩ := haccepts.grows built hgrows
  refine ⟨trees.reverse, last, ?_, hsymbols, hahead, hend, hleaves, ?_, ?_⟩
  · exact fun tree hmem => hgrows.wellFormed tree (List.mem_reverse.mp hmem)
  · rw [List.getLast?_reverse]
    exact hvalue
  · unfold parse
    dsimp only
    rw [accepted]
    rfl

end Engine

end

/-! ## The trees of the calculator -/

namespace Calculator

/-- What a production makes of values is a function of its number and the values alone. -/
theorem evaluate_congr {reduction reduction' : Reduction Value}
    (number : reduction.production = reduction'.production)
    (values : reduction.values = reduction'.values) : evaluate reduction = evaluate reduction' := by
  unfold evaluate operate child
  rw [number, values]

/-- A reduction of which nothing but the production and the values is known. -/
def bareReduction (number : ProductionId) (values : List Value) : Reduction Value :=
  { production := number
    lhs := SymbolId.accept
    children := values.map fun value => ⟨SymbolId.accept, 0, value, {}⟩
    location := {}
    consumed := {}
    recovery := none }

theorem values_bareReduction (number : ProductionId) (values : List Value) :
    (bareReduction number values).values = values := by
  unfold bareReduction Reduction.values
  dsimp only
  rw [List.map_map]
  exact List.map_id _

/-- The meaning of the calculator's tokens and productions. A line with an error means nothing. -/
def meaning : Meaning Value where
  token token := .text token.text
  production number values :=
    if number = Production.lineError then some .nothing
    else (evaluate (bareReduction number values)).toOption

/-- The actions of the calculator have that meaning. -/
theorem actions_mean : actions.Means meaning where
  token token user := rfl
  production reduction user yield user' h := by
    change productionAction reduction user = _ at h
    show yield.value = if reduction.production = Production.lineError then some .nothing
      else (evaluate (bareReduction reduction.production reduction.values)).toOption
    unfold productionAction at h
    split at h
    · next herror => cases h; rw [if_pos herror]
    · next herror =>
      have hsame : evaluate reduction =
          evaluate (bareReduction reduction.production reduction.values) :=
        evaluate_congr rfl (values_bareReduction _ _).symm
      rw [if_neg herror, ← hsame]
      cases hvalue : evaluate reduction with
      | error fault => rw [hvalue] at h; cases h
      | ok value => rw [hvalue] at h; cases h; rfl

/-- The trees of a sum. -/
theorem trees_of_sum :
    let s := (evaluation tolerant "1+2;").config.session
    (evaluation tolerant "1+2;").stop = .accepted (.lines [some 3]) ∧
    ∃ (forest : List ParseTree) (last : Token),
      (∀ tree ∈ forest, tree.WellFormed tolerant.table) ∧
      forest.map (·.symbol) = s.stack.symbols.tail ∧
      s.lookahead = some last ∧ last.symbol = SymbolId.endOfInput ∧
      (fetchedTokens s.journal).reverse = forest.flatMap (·.leaves) ++ [last] ∧
      Value.lines [some 3] = (forest.getLast?.map (·.eval meaning)).getD default ∧
      ((tolerant.engine 4).parse (stepLimit 4) "1+2;" tolerant.config).1 =
        .value (.lines [some 3]) := by
  have hstop : (evaluation tolerant "1+2;").stop = .accepted (.lines [some 3]) :=
    evaluation_stop (by decide +kernel)
  have hunrecovered : ∀ token height,
      .resumed token height ∉ (evaluation tolerant "1+2;").config.session.journal := by
    have hnone : ((evaluation tolerant "1+2;").config.session.journal.all
        fun event => event.resumed?.isNone) = true := by
      decide +kernel
    intro token height hmem
    cases List.all_eq_true.mp hnone _ hmem
  exact ⟨hstop, Engine.value_is_evaluation (build_table new_tolerant) actions_mean hstop
    hunrecovered⟩

end Calculator

end ShiftReduce
