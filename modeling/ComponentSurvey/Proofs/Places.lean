import ComponentSurvey.Binding

/-!
# The nodes of a tree and their places

* `Node.childInduction` — a property that passes from the children of a node to the node holds of
  every node.
* `Node.mem_walk_iff`, `Node.mem_walk_trans` — the nodes of a tree are its root and the nodes of its
  children.
* `Node.visit_eq_foldl` — a visitor that never prunes sees the nodes in the order of the walk.
* `Node.mem_cursors_child` — the children of a node in its place have their places in the tree.
* `Cursor.mem_of_child?`, `Cursor.mem_of_stripParens` — so have the parts that a survey looks at.
* `Cursor.ancestors_stripParens` — only parentheses stand around the expression inside them.
* `Binding.MadeAt` — the ways in which a node makes a binding, with all that each of them asks for.
* `Binding.ofCursor?_cases` — a binding is made by the declaration of a function, or by a declarator
  or export whose value is a function or a wrapper call.
-/

namespace ComponentSurvey

namespace Node

/-- A property that passes from the children of a node to the node holds of every node. -/
@[elab_as_elim]
theorem childInduction {motive : Node → Prop}
    (step : ∀ node : Node, (∀ child ∈ node.children, motive child) → motive node) (node : Node) :
    motive node :=
  step node fun child _hchild => childInduction step child
termination_by node.size
decreasing_by exact size_lt_of_mem _hchild

/-! ### Nodes of a tree -/

theorem mem_preorders_iff {inner : Node} {nodes : List Node} :
    inner ∈ preorders nodes ↔ ∃ node ∈ nodes, inner ∈ node.preorder := by
  induction nodes with
  | nil => simp
  | cons node rest ih => simp [ih]

/-- The nodes of a tree are its root and the nodes of its children. -/
theorem mem_walk_iff {node inner : Node} :
    inner ∈ node.walk ↔ inner = node ∨ ∃ child ∈ node.children, inner ∈ child.walk := by
  simp only [walk_eq_preorder]
  rw [preorder_eq, List.mem_cons, mem_preorders_iff]

theorem mem_walk_self (node : Node) : node ∈ node.walk := mem_walk_iff.2 (.inl rfl)

theorem mem_walk_of_mem_children {node child inner : Node} (hchild : child ∈ node.children)
    (hinner : inner ∈ child.walk) : inner ∈ node.walk :=
  mem_walk_iff.2 (.inr ⟨child, hchild, hinner⟩)

/-- What stands below a node of a tree stands in the tree. -/
theorem mem_walk_trans {root node inner : Node} (hnode : node ∈ root.walk)
    (hinner : inner ∈ node.walk) : inner ∈ root.walk := by
  induction root using childInduction with
  | step root ih =>
    rcases mem_walk_iff.1 hnode with rfl | ⟨child, hchild, hnode⟩
    · exact hinner
    · exact mem_walk_of_mem_children hchild (ih child hchild hnode)

/-! ### Visitors that see every node -/

theorem descends_eq_foldl {σ : Type} {visitor : σ → Node → σ × Bool} {nodes : List Node}
    (ih : ∀ node ∈ nodes, ∀ state, descend visitor state node
      = node.preorder.foldl (fun state inner => (visitor state inner).1) state) (state : σ) :
    descends visitor state nodes
      = (preorders nodes).foldl (fun state inner => (visitor state inner).1) state := by
  induction nodes generalizing state with
  | nil => simp
  | cons node rest ihrest =>
    rw [descends_cons, preorders_cons, List.foldl_append, ih node List.mem_cons_self]
    exact ihrest (fun other h => ih other (List.mem_cons_of_mem _ h)) _

/-- A visitor that never prunes sees the nodes of a tree in the order of the walk. -/
theorem visit_eq_foldl {σ : Type} {visitor : σ → Node → σ × Bool}
    (h : ∀ state node, (visitor state node).2 = true) (state : σ) (node : Node) :
    node.visit visitor state
      = node.walk.foldl (fun state inner => (visitor state inner).1) state := by
  rw [visit_eq_descend, walk_eq_preorder]
  induction node using childInduction generalizing state with
  | step node ih =>
    rw [descend_eq, if_pos (h state node), preorder_eq, List.foldl_cons]
    exact descends_eq_foldl (fun child hchild state => ih child hchild state) _

/-! ### Places in a tree -/

theorem mem_cursorsEach_iff {cursor : Cursor} {ancestors nodes : List Node} :
    cursor ∈ cursorsEach ancestors nodes ↔
      ∃ node ∈ nodes, cursor ∈ node.cursorsBelow ancestors := by
  induction nodes with
  | nil => simp
  | cons node rest ih => simp [ih]

theorem mem_cursorsBelow_iff {cursor : Cursor} {ancestors : List Node} {node : Node} :
    cursor ∈ node.cursorsBelow ancestors ↔ cursor = ⟨node, ancestors⟩ ∨
      ∃ child ∈ node.children, cursor ∈ child.cursorsBelow (node :: ancestors) := by
  rw [cursorsBelow_eq, List.mem_cons, mem_cursorsEach_iff]

theorem mem_cursorsBelow_child {cursor : Cursor} {ancestors : List Node} {node child : Node}
    (hcursor : cursor ∈ node.cursorsBelow ancestors) (hchild : child ∈ cursor.node.children) :
    (⟨child, cursor.node :: cursor.ancestors⟩ : Cursor) ∈ node.cursorsBelow ancestors := by
  induction node using childInduction generalizing ancestors with
  | step node ih =>
    rw [mem_cursorsBelow_iff]
    rcases mem_cursorsBelow_iff.1 hcursor with rfl | ⟨inner, hinner, hcursor⟩
    · exact .inr ⟨child, hchild, mem_cursorsBelow_iff.2 (.inl rfl)⟩
    · exact .inr ⟨inner, hinner, ih inner hinner hcursor⟩

/-- The children of a node in its place have their places in the tree. -/
theorem mem_cursors_child {root child : Node} {cursor : Cursor} (hcursor : cursor ∈ root.cursors)
    (hchild : child ∈ cursor.node.children) :
    (⟨child, cursor.node :: cursor.ancestors⟩ : Cursor) ∈ root.cursors :=
  mem_cursorsBelow_child hcursor hchild

theorem mem_walk_of_mem_cursors {root : Node} {cursor : Cursor} (h : cursor ∈ root.cursors) :
    cursor.node ∈ root.walk := by
  rw [← map_node_cursors]
  exact List.mem_map_of_mem h

/-! ### Parentheses in their place -/

theorem stripFirstBelow_eq (ancestors nodes : List Node) :
    stripFirstBelow ancestors nodes
      = (nodes.find? isMember).bind fun node => node.stripParensBelow ancestors := by
  induction nodes with
  | nil => rfl
  | cons node rest ih =>
    rw [stripFirstBelow]
    cases h : node.isMember <;> simp [h, ih]

theorem stripParensBelow_of_parens {node : Node} (ancestors : List Node)
    (h : node.kind = .parenthesizedExpression) :
    node.stripParensBelow ancestors
      = node.firstMember?.bind fun member => member.stripParensBelow (node :: ancestors) := by
  cases node with
  | mk label children => simp_all [stripParensBelow, stripFirstBelow_eq, firstMember?]

theorem stripParensBelow_of_ne {node : Node} (ancestors : List Node)
    (h : node.kind ≠ .parenthesizedExpression) :
    node.stripParensBelow ancestors = some ⟨node, ancestors⟩ := by
  cases node with
  | mk label children => simp_all [stripParensBelow]

end Node

namespace Cursor

/-- Only parentheses stand between an expression and the parentheses around it. -/
theorem ancestors_stripParens {cursor inner : Cursor} (h : cursor.stripParens = some inner) :
    ∃ parens : List Node, inner.ancestors = parens ++ cursor.ancestors ∧
      ∀ node ∈ parens, node.kind = .parenthesizedExpression := by
  obtain ⟨node, ancestors⟩ := cursor
  show ∃ parens : List Node, inner.ancestors = parens ++ ancestors ∧ _
  replace h : node.stripParensBelow ancestors = some inner := h
  induction node using Node.childInduction generalizing ancestors with
  | step node ih =>
    by_cases hk : node.kind = .parenthesizedExpression
    · rw [Node.stripParensBelow_of_parens ancestors hk] at h
      obtain ⟨member, hmember, h⟩ := Option.bind_eq_some_iff.1 h
      obtain ⟨parens, hparens, hkinds⟩ :=
        ih member (List.mem_of_find?_eq_some hmember) (node :: ancestors) h
      refine ⟨parens ++ [node], by simp [hparens], ?_⟩
      intro other hother
      rcases List.mem_append.1 hother with hother | hother
      · exact hkinds other hother
      · rw [List.mem_singleton.1 hother, hk]
    · rw [Node.stripParensBelow_of_ne ancestors hk] at h
      cases h
      exact ⟨[], rfl, by simp⟩

theorem mem_of_child? {root : Node} {cursor child : Cursor} {field : Field}
    (hcursor : cursor ∈ root.cursors) (h : cursor.child? field = some child) :
    child ∈ root.cursors := by
  obtain ⟨node, hnode, rfl⟩ := Option.map_eq_some_iff.1 h
  exact Node.mem_cursors_child hcursor (List.mem_of_find?_eq_some hnode)

theorem mem_of_stripParens {root : Node} {cursor inner : Cursor} (hcursor : cursor ∈ root.cursors)
    (h : cursor.stripParens = some inner) : inner ∈ root.cursors := by
  obtain ⟨node, ancestors⟩ := cursor
  replace h : node.stripParensBelow ancestors = some inner := h
  induction node using Node.childInduction generalizing ancestors with
  | step node ih =>
    by_cases hk : node.kind = .parenthesizedExpression
    · rw [Node.stripParensBelow_of_parens ancestors hk] at h
      obtain ⟨member, hmember, h⟩ := Option.bind_eq_some_iff.1 h
      have hchild := List.mem_of_find?_eq_some hmember
      exact ih member hchild (node :: ancestors) (Node.mem_cursors_child hcursor hchild) h
    · rw [Node.stripParensBelow_of_ne ancestors hk] at h
      cases h
      exact hcursor

end Cursor

/-! ### Where bindings are made -/

namespace Binding

variable {cursor : Cursor} {binding : Binding}

/-- The value of a declarator or an export, inside any parentheses. -/
def value? (site : Cursor) : Option Cursor := (site.child? .value).bind Cursor.stripParens

/-- The ways in which a node makes a binding. -/
inductive MadeAt (site : Cursor) : Binding → Prop
  | byDeclaration {name : String} : site.node.kind.isFunctionDeclaration = true →
      site.node.ownName? = some name → MadeAt site ⟨.declaration, name, site, site.isTopLevel⟩
  | byVariable {name : String} {value : Cursor} : site.node.kind = .variableDeclarator →
      Cursor.declaredName? site.node = some name → value? site = some value →
      value.node.isFunctionExpression = true →
      MadeAt site ⟨.variable, name, value, site.isTopLevel⟩
  | byWrapper {name : String} {value : Cursor} : site.node.kind = .variableDeclarator →
      Cursor.declaredName? site.node = some name → value? site = some value →
      value.node.wrapperName?.isSome = true → MadeAt site ⟨.wrapped, name, value, site.isTopLevel⟩
  | byExport {value : Cursor} : site.node.kind = .exportStatement →
      site.node.hasToken .defaultToken = true → value? site = some value →
      value.node.isFunctionExpression = true ∨ value.node.wrapperName?.isSome = true →
      MadeAt site ⟨.defaultExport, defaultExportName, value, site.isTopLevel⟩

/-- A binding is made in one of these ways. -/
theorem MadeAt.of_ofCursor? (h : ofCursor? cursor = some binding) : MadeAt cursor binding := by
  rw [ofCursor?] at h
  split at h
  · rename_i hkind
    obtain ⟨name, hname, rfl⟩ := Option.map_eq_some_iff.1 h
    exact .byDeclaration (by rw [hkind]; rfl) hname
  · rename_i hkind
    obtain ⟨name, hname, rfl⟩ := Option.map_eq_some_iff.1 h
    exact .byDeclaration (by rw [hkind]; rfl) hname
  · rename_i hkind
    rw [ofDeclarator?] at h
    split at h
    · rename_i name value hname hvalue
      split at h
      · rename_i hfun
        cases h
        exact .byVariable hkind hname hvalue hfun
      · split at h
        · rename_i hwrap
          cases h
          exact .byWrapper hkind hname hvalue hwrap
        · cases h
    · cases h
  · rename_i hkind
    rw [ofExport?] at h
    split at h
    · rename_i hdefault
      split at h
      · rename_i value hvalue
        split at h
        · rename_i hbound
          cases h
          exact .byExport hkind hdefault hvalue (Bool.or_eq_true _ _ ▸ hbound)
        · cases h
      · cases h
    · cases h
  · cases h

/-- A node makes a binding only as the declaration of a function, or as a declarator or an export
whose value is a function or a wrapper call. -/
theorem ofCursor?_cases (h : ofCursor? cursor = some binding) :
    (cursor.node.kind.isFunctionDeclaration = true ∧ binding.cursor = cursor) ∨
    ((cursor.node.kind = .variableDeclarator ∨ cursor.node.kind = .exportStatement) ∧
      value? cursor = some binding.cursor ∧
      (binding.node.isFunctionExpression = true ∨ binding.node.wrapperName?.isSome = true)) := by
  cases MadeAt.of_ofCursor? h with
  | byDeclaration hkind _ => exact .inl ⟨hkind, rfl⟩
  | byVariable hkind _ hvalue hfunction => exact .inr ⟨.inl hkind, hvalue, .inl hfunction⟩
  | byWrapper hkind _ hvalue hwrapper => exact .inr ⟨.inl hkind, hvalue, .inr hwrapper⟩
  | byExport hkind _ hvalue hbound => exact .inr ⟨.inr hkind, hvalue, hbound⟩

theorem mem_of_value? {root : Node} {value : Cursor} (hcursor : cursor ∈ root.cursors)
    (h : value? cursor = some value) : value ∈ root.cursors := by
  obtain ⟨child, hchild, hvalue⟩ := Option.bind_eq_some_iff.1 h
  exact Cursor.mem_of_stripParens (Cursor.mem_of_child? hcursor hchild) hvalue

/-- What a name is bound to has its place in the tree. -/
theorem mem_cursors_of_ofCursor? {root : Node} (hcursor : cursor ∈ root.cursors)
    (h : ofCursor? cursor = some binding) : binding.cursor ∈ root.cursors := by
  obtain ⟨_, hplace⟩ | ⟨_, hvalue, _⟩ := ofCursor?_cases h
  · rw [hplace]
    exact hcursor
  · exact mem_of_value? hcursor hvalue

end Binding

/-! ### Sample trees -/

/-- A construct of a sample tree; where it starts tells it apart from the others. -/
def Label.sample (kind : Kind) (field : Option Field) (start : Nat) (text : String) : Label :=
  ⟨start, kind, true, field, start, 1, text, none⟩

/-- The declaration of a function in a sample tree. -/
def Node.sampleFunction (start : Nat) (name : String) (body : List Node) : Node :=
  .mk (.sample .functionDeclaration none start "")
    [.mk (.sample .identifier (some .name) (start + 1) name) [],
      .mk (.sample (.other "statement_block") (some .body) (start + 2) "") body]

end ComponentSurvey
