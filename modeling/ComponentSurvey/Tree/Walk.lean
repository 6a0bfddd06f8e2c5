import ComponentSurvey.Tree.Node

/-!
# Traversals of a syntax tree

Both traversals keep the nodes still to be seen in a list, so that their depth does not depend on
that of the tree.

* `Node.walk` — the nodes of a tree in pre-order.
* `Node.visit` — a state threaded through the tree in pre-order, by a visitor that may prune.
* `Node.descend` — the same descent by recursion over the tree.
* `Node.visit_eq_descend` — the two descents end in the same state.
* `Node.contains` — whether a tree has a node of some kinds.
-/

namespace ComponentSurvey

namespace Node

/-- The nodes of the pending trees in pre-order. -/
def walkFrom : List Node → List Node
  | [] => []
  | node :: pending => node :: walkFrom (node.children ++ pending)
termination_by pending => sizes pending
decreasing_by
  rw [sizes_append, sizes_cons, size_eq node]
  omega

/-- The nodes of a tree in pre-order. -/
def walk (node : Node) : List Node := walkFrom [node]

/-- Threads a state through the pending trees in pre-order; the visitor gives the next state and
whether to go on below the node. -/
def visitFrom {σ : Type} (visitor : σ → Node → σ × Bool) (state : σ) : List Node → σ
  | [] => state
  | node :: pending =>
    if (visitor state node).2 then
      visitFrom visitor (visitor state node).1 (node.children ++ pending)
    else
      visitFrom visitor (visitor state node).1 pending
termination_by pending => sizes pending
decreasing_by
  · rw [sizes_append, sizes_cons, size_eq node]
    omega
  · rw [sizes_cons, size_eq node]
    omega

/-- Threads a state through a tree in pre-order; the visitor gives the next state and whether to go
on below the node. -/
def visit {σ : Type} (visitor : σ → Node → σ × Bool) (state : σ) (node : Node) : σ :=
  visitFrom visitor state [node]

/-- Whether a tree has a node of a kind that is wanted. -/
def contains (wanted : Kind → Bool) (node : Node) : Bool :=
  node.walk.any fun inner => wanted inner.kind

/-! ### The same traversals by recursion -/

mutual

/-- The nodes of a tree in pre-order: the root, then those of each child. -/
def preorder : Node → List Node
  | mk label children => mk label children :: preorders children

/-- The nodes of a list of trees, tree by tree. -/
def preorders : List Node → List Node
  | [] => []
  | node :: rest => node.preorder ++ preorders rest

end

mutual

/-- Calls the visitor on the root and then, unless it prunes, descends into each child. -/
def descend {σ : Type} (visitor : σ → Node → σ × Bool) (state : σ) : Node → σ
  | mk label children =>
    if (visitor state (mk label children)).2 then
      descends visitor (visitor state (mk label children)).1 children
    else
      (visitor state (mk label children)).1

/-- Descends into each tree of a list in turn. -/
def descends {σ : Type} (visitor : σ → Node → σ × Bool) (state : σ) : List Node → σ
  | [] => state
  | node :: rest => descends visitor (descend visitor state node) rest

end

@[simp] theorem preorders_nil : preorders [] = [] := by simp [preorders]

@[simp] theorem preorders_cons (node : Node) (rest : List Node) :
    preorders (node :: rest) = node.preorder ++ preorders rest := by simp [preorders]

theorem preorders_append (first second : List Node) :
    preorders (first ++ second) = preorders first ++ preorders second := by
  induction first with
  | nil => simp
  | cons node rest ih => simp [ih]

theorem preorder_eq (node : Node) : node.preorder = node :: preorders node.children := by
  cases node with
  | mk label children => simp [preorder]

theorem walkFrom_eq_preorders (pending : List Node) : walkFrom pending = preorders pending := by
  fun_induction walkFrom pending with
  | case1 => simp
  | case2 node pending ih => rw [ih, preorders_append, preorders_cons, preorder_eq]; simp

/-- A walk is the pre-order of the tree. -/
theorem walk_eq_preorder (node : Node) : node.walk = node.preorder := by
  simp [walk, walkFrom_eq_preorders]

@[simp] theorem descends_nil {σ : Type} (visitor : σ → Node → σ × Bool) (state : σ) :
    descends visitor state [] = state := by simp [descends]

@[simp] theorem descends_cons {σ : Type} (visitor : σ → Node → σ × Bool) (state : σ) (node : Node)
    (rest : List Node) :
    descends visitor state (node :: rest) = descends visitor (descend visitor state node) rest := by
  simp [descends]

theorem descends_append {σ : Type} (visitor : σ → Node → σ × Bool) (state : σ)
    (first second : List Node) :
    descends visitor state (first ++ second)
      = descends visitor (descends visitor state first) second := by
  induction first generalizing state with
  | nil => simp
  | cons node rest ih => simp [ih]

theorem descend_eq {σ : Type} (visitor : σ → Node → σ × Bool) (state : σ) (node : Node) :
    descend visitor state node =
      if (visitor state node).2 then descends visitor (visitor state node).1 node.children
      else (visitor state node).1 := by
  cases node with
  | mk label children => simp [descend]

theorem visitFrom_eq_descends {σ : Type} (visitor : σ → Node → σ × Bool) (state : σ)
    (pending : List Node) : visitFrom visitor state pending = descends visitor state pending := by
  fun_induction visitFrom visitor state pending with
  | case1 state => simp
  | case2 state node pending h ih => simp [ih, descends_append, descend_eq, h]
  | case3 state node pending h ih => simp [ih, descend_eq, h]

/-- A visit ends in the state of the recursive descent. -/
theorem visit_eq_descend {σ : Type} (visitor : σ → Node → σ × Bool) (state : σ) (node : Node) :
    visit visitor state node = descend visitor state node := by
  simp [visit, visitFrom_eq_descends]

end Node

end ComponentSurvey
