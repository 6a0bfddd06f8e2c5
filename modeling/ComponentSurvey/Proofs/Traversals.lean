import ComponentSurvey.Component.Describe
import ComponentSurvey.Proofs.Places

/-!
# Traversals with a stack

A traversal keeps the nodes still to be visited on a stack. Each turn takes the last of them off and,
unless the visitor prunes, puts the children of the node on it in reverse, so that the first child is
the next one to be visited. What a turn leaves unchanged is what the recursive descent makes of the
whole stack, from its end to its beginning; and a turn leaves fewer nodes to be visited.

The order in which nodes are visited is that of the ways to them: a node comes before what is below
it, and what is below an earlier child before what is below a later one.

* `Traversal.step`, `Traversal.Runs` — one turn, and turns after one another.
* `Traversal.result_of_step`, `Traversal.sizes_lt_of_step` — what a turn keeps and what it uses up.
* `Traversal.exists_runs` — the turns come to an end, at the outcome of the descent.
* `Node.descendant?`, `Node.ways` — the node that a way leads to; all ways to nodes of a tree.
* `Node.pairwise_ways`, `Node.mem_ways_iff`, `Node.map_descendant?_ways` — the ways are in order, they
  are all there are, and a walk goes along them.
* `Node.traversals_follow_preorder` — visits, walks and searches are the recursive pre-order.
-/

namespace ComponentSurvey

theorem Node.sizes_reverse (nodes : List Node) : sizes nodes.reverse = sizes nodes := by
  induction nodes with
  | nil => rfl
  | cons node rest ih =>
    rw [List.reverse_cons, sizes_append, sizes_cons, sizes_cons, sizes_nil, ih]
    omega

/-! ### Turns of a traversal -/

/-- A traversal under way: the state so far and the nodes still to be visited, the next one last. -/
structure Traversal (σ : Type) where
  state : σ
  stack : List Node

namespace Traversal

variable {σ : Type} {visitor : σ → Node → σ × Bool} {traversal next later : Traversal σ} {turns : Nat}

/-- One turn: the last node is taken off the stack and visited; unless the visitor prunes, its children
are put on the stack, the first one last. There is no turn without a node on the stack. -/
def step (visitor : σ → Node → σ × Bool) (traversal : Traversal σ) : Option (Traversal σ) :=
  traversal.stack.getLast?.map fun node =>
    { state := (visitor traversal.state node).1
      stack := traversal.stack.dropLast ++
        if (visitor traversal.state node).2 then node.children.reverse else [] }

/-- A number of turns leads from one traversal to another. -/
inductive Runs (visitor : σ → Node → σ × Bool) : Traversal σ → Nat → Traversal σ → Prop
  | stay (traversal : Traversal σ) : Runs visitor traversal 0 traversal
  | turn {traversal next later : Traversal σ} {turns : Nat} : traversal.step visitor = some next →
      Runs visitor next turns later → Runs visitor traversal (turns + 1) later

/-- What the recursive descent makes of the nodes on the stack, from the last one to the first. -/
def result (visitor : σ → Node → σ × Bool) (traversal : Traversal σ) : σ :=
  Node.descends visitor traversal.state traversal.stack.reverse

theorem step_eq_none_iff : traversal.step visitor = none ↔ traversal.stack = [] := by
  rw [step, Option.map_eq_none_iff, List.getLast?_eq_none_iff]

theorem exists_of_step (h : traversal.step visitor = some next) :
    ∃ below node, traversal.stack = below ++ [node] ∧
      next.state = (visitor traversal.state node).1 ∧
      next.stack = below ++
        if (visitor traversal.state node).2 then node.children.reverse else [] := by
  obtain ⟨node, hlast, rfl⟩ := Option.map_eq_some_iff.1 h
  obtain ⟨below, hbelow⟩ := List.getLast?_eq_some_iff.1 hlast
  refine ⟨below, node, hbelow, rfl, ?_⟩
  rw [hbelow, List.dropLast_concat]

/-- A turn does what the recursive descent does first, and leaves the rest of it to do. -/
theorem result_of_step (h : traversal.step visitor = some next) :
    next.result visitor = traversal.result visitor := by
  obtain ⟨below, node, hstack, hstate, hnext⟩ := exists_of_step h
  rw [result, result, hstack, hstate, hnext, List.reverse_append, List.reverse_append,
    List.reverse_singleton, List.singleton_append, Node.descends_append, Node.descends_cons,
    Node.descend_eq]
  split
  · rw [List.reverse_reverse]
  · rw [List.reverse_nil, Node.descends_nil]

/-- After a turn there are fewer nodes to be visited. -/
theorem sizes_lt_of_step (h : traversal.step visitor = some next) :
    Node.sizes next.stack < Node.sizes traversal.stack := by
  obtain ⟨below, node, hstack, -, hnext⟩ := exists_of_step h
  rw [hstack, hnext, Node.sizes_append, Node.sizes_append, Node.sizes_cons, Node.sizes_nil,
    Node.size_eq node]
  split
  · rw [Node.sizes_reverse]
    omega
  · rw [Node.sizes_nil]
    omega

/-! ### From the first turn to the last -/

theorem Runs.result_eq (h : Runs visitor traversal turns later) :
    later.result visitor = traversal.result visitor := by
  induction h with
  | stay traversal => rfl
  | turn hstep _ ih => rw [ih, result_of_step hstep]

theorem Runs.add_sizes_le (h : Runs visitor traversal turns later) :
    turns + Node.sizes later.stack ≤ Node.sizes traversal.stack := by
  induction h with
  | stay traversal => exact Nat.le_of_eq (Nat.zero_add _)
  | turn hstep _ ih =>
    have hlt := sizes_lt_of_step hstep
    omega

/-- Once the stack is empty, the state is the outcome of the recursive descent. -/
theorem Runs.eq_of_stack_nil (h : Runs visitor traversal turns later) (hnil : later.stack = []) :
    later = ⟨traversal.result visitor, []⟩ := by
  obtain ⟨state, stack⟩ := later
  obtain rfl : stack = [] := hnil
  rw [← h.result_eq, result, List.reverse_nil, Node.descends_nil]

/-- Turns lead from every traversal to the outcome of the recursive descent. -/
theorem exists_runs (visitor : σ → Node → σ × Bool) (traversal : Traversal σ) :
    ∃ turns, Runs visitor traversal turns ⟨traversal.result visitor, []⟩ := by
  cases hstep : traversal.step visitor with
  | none =>
    refine ⟨0, ?_⟩
    rw [← (Runs.stay traversal).eq_of_stack_nil (step_eq_none_iff.1 hstep)]
    exact .stay traversal
  | some next =>
    have hlt := sizes_lt_of_step hstep
    obtain ⟨turns, hturns⟩ := exists_runs visitor next
    rw [result_of_step hstep] at hturns
    exact ⟨turns + 1, .turn hstep hturns⟩
termination_by Node.sizes traversal.stack

/-- The visitor that writes down every node and never prunes. -/
def record (seen : List Node) (node : Node) : List Node × Bool := (seen ++ [node], true)

end Traversal

namespace Node

/-! ### Ways to the nodes of a tree -/

/-- The node that a way leads to: at every step, the child with the number that the way gives. -/
def descendant? (node : Node) (way : List Nat) : Option Node :=
  way.foldlM (fun inner number => inner.children[number]?) node

theorem descendant?_nil (node : Node) : node.descendant? [] = some node := rfl

theorem descendant?_cons (node : Node) (number : Nat) (way : List Nat) :
    node.descendant? (number :: way)
      = node.children[number]?.bind fun child => child.descendant? way := rfl

mutual

/-- The ways to the nodes of a tree, in pre-order. -/
def ways : Node → List (List Nat)
  | mk _ children => [] :: waysFrom 0 children

/-- The ways to the nodes of trees that are numbered from a number on. -/
def waysFrom (number : Nat) : List Node → List (List Nat)
  | [] => []
  | node :: rest => node.ways.map (number :: ·) ++ waysFrom (number + 1) rest

end

theorem ways_eq (node : Node) : node.ways = [] :: waysFrom 0 node.children := by
  cases node with
  | mk label children => rw [ways, children_mk]

theorem mem_waysFrom_iff {way : List Nat} {number : Nat} {nodes : List Node} :
    way ∈ waysFrom number nodes ↔ ∃ index node rest, nodes[index]? = some node ∧
      rest ∈ node.ways ∧ way = (number + index) :: rest := by
  induction nodes generalizing number with
  | nil => simp [waysFrom]
  | cons head tail ih =>
    rw [waysFrom, List.mem_append, List.mem_map, ih]
    constructor
    · rintro (⟨rest, hrest, rfl⟩ | ⟨index, node, rest, hnode, hrest, rfl⟩)
      · exact ⟨0, head, rest, rfl, hrest, rfl⟩
      · refine ⟨index + 1, node, rest, hnode, hrest, ?_⟩
        rw [Nat.add_right_comm, Nat.add_assoc]
    · rintro ⟨_ | index, node, rest, hnode, hrest, rfl⟩
      · obtain rfl : head = node := Option.some.inj hnode
        exact .inl ⟨rest, hrest, rfl⟩
      · refine .inr ⟨index, node, rest, hnode, hrest, ?_⟩
        rw [Nat.add_right_comm, Nat.add_assoc]

/-- There is a way to a node exactly if the node is there. -/
theorem mem_ways_iff {node : Node} {way : List Nat} :
    way ∈ node.ways ↔ (node.descendant? way).isSome = true := by
  induction way generalizing node with
  | nil => simp [ways_eq, descendant?_nil]
  | cons number way ih =>
    rw [ways_eq, List.mem_cons, mem_waysFrom_iff, descendant?_cons]
    constructor
    · rintro (hnil | ⟨index, child, rest, hchild, hrest, hway⟩)
      · cases hnil
      · rw [Nat.zero_add] at hway
        cases hway
        rw [hchild]
        exact ih.1 hrest
    · intro hsome
      cases hchild : node.children[number]? with
      | none =>
        rw [hchild] at hsome
        cases hsome
      | some child =>
        rw [hchild] at hsome
        exact .inr ⟨number, child, way, hchild, ih.2 hsome, by rw [Nat.zero_add]⟩

theorem pairwise_waysFrom {nodes : List Node} (number : Nat)
    (h : ∀ node ∈ nodes, node.ways.Pairwise (List.Lex (· < ·))) :
    (waysFrom number nodes).Pairwise (List.Lex (· < ·)) := by
  induction nodes generalizing number with
  | nil => simp [waysFrom]
  | cons node rest ih =>
    obtain ⟨hnode, hrest⟩ := List.forall_mem_cons.1 h
    rw [waysFrom, List.pairwise_append, List.pairwise_map]
    refine ⟨hnode.imp .cons, ih (number + 1) hrest, ?_⟩
    -- what is below the first tree comes before what is below the others
    intro first hfirst second hsecond
    obtain ⟨way, -, rfl⟩ := List.mem_map.1 hfirst
    obtain ⟨index, other, way', -, -, rfl⟩ := mem_waysFrom_iff.1 hsecond
    exact .rel (by omega)

/-- The ways to the nodes of a tree are in order, and so no two of them are the same. -/
theorem pairwise_ways (node : Node) : node.ways.Pairwise (List.Lex (· < ·)) := by
  induction node using childInduction with
  | step node ih =>
    rw [ways_eq, List.pairwise_cons]
    refine ⟨?_, pairwise_waysFrom 0 ih⟩
    intro way hway
    obtain ⟨index, child, rest, -, -, rfl⟩ := mem_waysFrom_iff.1 hway
    exact .nil

theorem map_waysFrom {parent : Node} {nodes : List Node} (before : List Node)
    (hchildren : parent.children = before ++ nodes)
    (h : ∀ node ∈ nodes, node.ways.map node.descendant? = node.preorder.map some) :
    (waysFrom before.length nodes).map parent.descendant? = (preorders nodes).map some := by
  induction nodes generalizing before with
  | nil => simp [waysFrom]
  | cons node rest ih =>
    obtain ⟨hnode, hrest⟩ := List.forall_mem_cons.1 h
    have hhere : parent.children[before.length]? = some node := by
      rw [hchildren, List.getElem?_append_right (Nat.le_refl _), Nat.sub_self]
      rfl
    have hbelow : parent.descendant? ∘ (before.length :: ·) = node.descendant? := by
      funext way
      rw [Function.comp_apply, descendant?_cons, hhere]
      rfl
    have hlater := ih (before ++ [node]) (by rw [hchildren, List.append_assoc]; rfl) hrest
    rw [List.length_append, List.length_singleton] at hlater
    rw [waysFrom, List.map_append, List.map_map, hbelow, hnode, hlater, preorders_cons,
      List.map_append]

/-- A walk goes along the ways to the nodes of a tree. -/
theorem map_descendant?_ways (node : Node) :
    node.ways.map node.descendant? = node.walk.map some := by
  rw [walk_eq_preorder]
  induction node using childInduction with
  | step node ih =>
    have hbelow : (waysFrom 0 node.children).map node.descendant?
        = (preorders node.children).map some := map_waysFrom [] rfl ih
    rw [ways_eq, List.map_cons, hbelow, descendant?_nil, preorder_eq, List.map_cons]

/-! ### What is found in a tree -/

theorem mem_walk_iff_descendant? {node inner : Node} :
    inner ∈ node.walk ↔ ∃ way, node.descendant? way = some inner := by
  have hmem : some inner ∈ node.walk.map some ↔ inner ∈ node.walk := by simp
  rw [← hmem, ← map_descendant?_ways, List.mem_map]
  constructor
  · rintro ⟨way, -, hinner⟩
    exact ⟨way, hinner⟩
  · rintro ⟨way, hinner⟩
    exact ⟨way, mem_ways_iff.2 (by rw [hinner]; rfl), hinner⟩

theorem contains_iff {wanted : Kind → Bool} {node : Node} :
    node.contains wanted = true ↔
      ∃ way inner, node.descendant? way = some inner ∧ wanted inner.kind = true := by
  rw [contains, List.any_eq_true]
  constructor
  · rintro ⟨inner, hinner, hwanted⟩
    obtain ⟨way, hway⟩ := mem_walk_iff_descendant?.1 hinner
    exact ⟨way, inner, hway, hwanted⟩
  · rintro ⟨way, inner, hway, hwanted⟩
    exact ⟨inner, mem_walk_iff_descendant?.2 ⟨way, hway⟩, hwanted⟩

/-- A function is a component exactly if there is markup somewhere in its body. -/
theorem isComponent_iff {function : Node} :
    function.isComponent = true ↔ ∃ body way inner, function.child? .body = some body ∧
      body.descendant? way = some inner ∧
      inner.kind ∈ [Kind.jsxElement, .jsxSelfClosingElement, .jsxFragment] := by
  have hmarkup : ∀ kind : Kind, kind.isMarkup = true ↔
      kind ∈ [Kind.jsxElement, .jsxSelfClosingElement, .jsxFragment] := by
    intro kind
    cases kind <;> simp [Kind.isMarkup]
  rw [isComponent]
  cases function.child? .body with
  | none => simp
  | some body => simp [contains_iff, hmarkup]

/-- A walk is what is written down on the way by the recursive descent. -/
theorem walk_eq_descend (node : Node) : node.walk = node.descend Traversal.record [] := by
  rw [← visit_eq_descend, visit_eq_foldl (fun _ _ => rfl)]
  show node.walk = node.walk.foldl (fun seen inner => seen ++ [inner]) []
  rw [List.foldl_append_eq_append, List.nil_append]
  exact (List.flatMap_singleton' node.walk).symm

/-- **Traversals with a stack are the recursive pre-order.** For every visitor, the turns of a visit
come to an end, after no more of them than the tree has nodes, and only at the state that the recursive
descent ends in: it calls the visitor on a node and then, unless the visitor prunes, descends into the
children from left to right. A walk gives the nodes in the order in which this descent comes to them,
and it gives each node once: it goes along the ways to the nodes of the tree, all of them, in the
order of the ways. So a search finds a kind exactly if a node at some depth has it, and a function is a
component exactly if a node at some depth of its body is markup. -/
theorem traversals_follow_preorder (root : Node) :
    (∀ (σ : Type) (visitor : σ → Node → σ × Bool) (state : σ),
      root.visit visitor state = root.descend visitor state ∧
      (∃ turns, Traversal.Runs visitor ⟨state, [root]⟩ turns ⟨root.visit visitor state, []⟩) ∧
      ∀ turns later, Traversal.Runs visitor ⟨state, [root]⟩ turns later → turns ≤ root.size ∧
        (later.step visitor = none ↔ later = ⟨root.visit visitor state, []⟩)) ∧
    root.walk = root.descend Traversal.record [] ∧
    (∃ ways : List (List Nat), ways.Pairwise (List.Lex (· < ·)) ∧
      (∀ way, way ∈ ways ↔ (root.descendant? way).isSome = true) ∧
      ways.map root.descendant? = root.walk.map some) ∧
    (∀ wanted : Kind → Bool, root.contains wanted = true ↔
      ∃ way inner, root.descendant? way = some inner ∧ wanted inner.kind = true) ∧
    (root.isComponent = true ↔ ∃ body way inner, root.child? .body = some body ∧
      body.descendant? way = some inner ∧
      inner.kind ∈ [Kind.jsxElement, .jsxSelfClosingElement, .jsxFragment]) := by
  refine ⟨?_, root.walk_eq_descend, ⟨root.ways, root.pairwise_ways, fun way => mem_ways_iff,
    root.map_descendant?_ways⟩, fun wanted => contains_iff, isComponent_iff⟩
  intro σ visitor state
  have hresult : Traversal.result visitor ⟨state, [root]⟩ = root.visit visitor state := by
    rw [visit_eq_descend, Traversal.result, List.reverse_singleton, descends_cons, descends_nil]
  refine ⟨visit_eq_descend visitor state root, ?_, ?_⟩
  · rw [← hresult]
    exact Traversal.exists_runs visitor ⟨state, [root]⟩
  · intro turns later hruns
    have hle := hruns.add_sizes_le
    rw [sizes_cons, sizes_nil] at hle
    refine ⟨by omega, ?_⟩
    rw [Traversal.step_eq_none_iff, ← hresult]
    constructor
    · exact hruns.eq_of_stack_nil
    · rintro rfl
      rfl

end Node

end ComponentSurvey
