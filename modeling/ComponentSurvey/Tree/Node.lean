import ComponentSurvey.Text.Utf8
import ComponentSurvey.Tree.Kind

/-!
# Syntax trees

* `Node` — a node of a syntax tree: a label and the ordered children below it.
* `Node.child?`, `Node.members`, `Node.firstMember?`, `Node.hasToken` — the parts of a construct.
* `Node.stripParens` — the expression inside any number of parentheses.
* `Node.size` — the number of nodes of a tree, on which traversals terminate.
-/

namespace ComponentSurvey

/-- What is known of one node apart from its children. -/
structure Label where
  /-- The position of the node in the pre-order of its tree, which tells nodes apart. -/
  index : Nat
  kind : Kind
  /-- Whether the node is a construct of the grammar, as opposed to a bare token. -/
  named : Bool
  /-- The part of its parent that the node is, if that part has a name. -/
  field : Option Field
  /-- The offset of the first byte of the node in the source. -/
  start : Nat
  /-- The line the node starts on, counted from one. -/
  line : Nat
  /-- The source text of the node, which is empty where its bytes are no text. -/
  text : String
  /-- Why the bytes of the node are no text, if they are none. -/
  fault? : Option Utf8.Fault := none
deriving DecidableEq, Repr, Inhabited

/-- A node of a syntax tree with the tree below it. -/
inductive Node where
  | mk (label : Label) (children : List Node)
deriving Inhabited

namespace Node

/-- The label of a node. -/
def label : Node → Label
  | mk label _ => label

/-- The children of a node in source order. -/
def children : Node → List Node
  | mk _ children => children

/-- The position of a node in the pre-order of its tree. -/
def index (node : Node) : Nat := node.label.index

/-- The kind of a node. -/
def kind (node : Node) : Kind := node.label.kind

/-- Whether a node is a construct of the grammar. -/
def named (node : Node) : Bool := node.label.named

/-- The offset of the first byte of a node. -/
def start (node : Node) : Nat := node.label.start

/-- The line a node starts on. -/
def line (node : Node) : Nat := node.label.line

/-- The source text of a node. -/
def text (node : Node) : String := node.label.text

/-- Why the bytes of a node are no text, if they are none. -/
def fault? (node : Node) : Option Utf8.Fault := node.label.fault?

@[simp] theorem label_mk (label : Label) (children : List Node) :
    (mk label children).label = label := rfl

@[simp] theorem children_mk (label : Label) (children : List Node) :
    (mk label children).children = children := rfl

@[simp] theorem kind_mk (label : Label) (children : List Node) :
    (mk label children).kind = label.kind := rfl

@[simp] theorem named_mk (label : Label) (children : List Node) :
    (mk label children).named = label.named := rfl

/-! ### Parts of a construct -/

/-- Whether a node is held under a field. -/
def isUnder (field : Field) (node : Node) : Bool := node.label.field == some field

/-- The first child held under a field. -/
def child? (node : Node) (field : Field) : Option Node :=
  node.children.find? (isUnder field)

/-- The children that are constructs of the grammar. -/
def namedChildren (node : Node) : List Node :=
  node.children.filter named

/-- Whether a child counts as a member of its parent: a construct that is no comment. -/
def isMember (node : Node) : Bool := node.named && node.kind != .comment

/-- The members of a node: its named children without the comments between them. -/
def members (node : Node) : List Node :=
  node.children.filter isMember

/-- The first member of a node. -/
def firstMember? (node : Node) : Option Node :=
  node.children.find? isMember

/-- Whether a node has a bare token of a kind among its children. -/
def hasToken (kind : Kind) (node : Node) : Bool :=
  node.children.any fun child => !child.named && child.kind == kind

/-- The text of a node that may be absent. -/
def textOf (node? : Option Node) : String := node?.elim "" text

/-- Whether a node has parameters and a body. -/
def isFunctionLike (node : Node) : Bool := node.named && node.kind.isFunctionLike

/-- Whether a node is a function written as a value. -/
def isFunctionExpression (node : Node) : Bool := node.named && node.kind.isFunctionExpression

/-- Whether a node is a call. -/
def isCall (node : Node) : Bool := node.kind == .callExpression

/-- The node that names a node: itself if it is an identifier, otherwise the identifier it holds as
its name. -/
def ownNameNode? (node : Node) : Option Node :=
  match node.kind with
  | .identifier | .propertyIdentifier | .typeIdentifier => some node
  | _ =>
    match node.child? .name with
    | some name =>
      match name.kind with
      | .identifier | .propertyIdentifier => some name
      | _ => none
    | none => none

/-- The name a node has of itself. -/
def ownName? (node : Node) : Option String := node.ownNameNode?.map text

/-! ### Size -/

mutual

/-- The number of nodes of a tree. -/
def size : Node → Nat
  | mk _ children => sizes children + 1

/-- The number of nodes of a list of trees. -/
def sizes : List Node → Nat
  | [] => 0
  | node :: rest => node.size + sizes rest

end

@[simp] theorem sizes_nil : sizes [] = 0 := by simp [sizes]

@[simp] theorem sizes_cons (node : Node) (rest : List Node) :
    sizes (node :: rest) = node.size + sizes rest := by simp [sizes]

@[simp] theorem sizes_append (first second : List Node) :
    sizes (first ++ second) = sizes first + sizes second := by
  induction first with
  | nil => simp
  | cons node rest ih => simp [ih, Nat.add_assoc]

theorem size_eq (node : Node) : node.size = sizes node.children + 1 := by
  cases node with
  | mk label children => simp [size]

theorem size_le_sizes {node : Node} {nodes : List Node} (h : node ∈ nodes) :
    node.size ≤ sizes nodes := by
  induction nodes with
  | nil => cases h
  | cons head tail ih =>
    rcases List.mem_cons.1 h with rfl | h
    · simp
    · have := ih h
      simp only [sizes_cons]
      omega

/-- A child is smaller than its parent. -/
theorem size_lt_of_mem {child node : Node} (h : child ∈ node.children) :
    child.size < node.size := by
  have := size_le_sizes h
  rw [size_eq node]
  omega

theorem size_lt_of_child? {node child : Node} {field : Field} (h : node.child? field = some child) :
    child.size < node.size :=
  size_lt_of_mem (List.mem_of_find?_eq_some h)

theorem size_lt_of_firstMember? {node child : Node} (h : node.firstMember? = some child) :
    child.size < node.size :=
  size_lt_of_mem (List.mem_of_find?_eq_some h)

/-! ### Parentheses -/

mutual

/-- The expression inside any number of parentheses: parentheses stand for their first member, and
for nothing if they have none. -/
def stripParens : Node → Option Node
  | mk label children =>
    if label.kind = .parenthesizedExpression then stripFirst children
    else some (mk label children)

/-- What the first member of a list stands for once its parentheses are stripped. -/
def stripFirst : List Node → Option Node
  | [] => none
  | node :: rest => if node.isMember then node.stripParens else stripFirst rest

end

theorem stripFirst_eq (nodes : List Node) :
    stripFirst nodes = (nodes.find? isMember).bind stripParens := by
  induction nodes with
  | nil => simp [stripFirst]
  | cons node rest ih =>
    rw [stripFirst]
    cases h : node.isMember <;> simp [h, ih]

/-- Parentheses stand for what their first member stands for. -/
theorem stripParens_of_parens {node : Node} (h : node.kind = .parenthesizedExpression) :
    node.stripParens = node.firstMember?.bind stripParens := by
  cases node with
  | mk label children => simp_all [stripParens, stripFirst_eq, firstMember?]

/-- Anything but parentheses stands for itself. -/
theorem stripParens_of_ne {node : Node} (h : node.kind ≠ .parenthesizedExpression) :
    node.stripParens = some node := by
  cases node with
  | mk label children => simp_all [stripParens]

/-- What stands inside parentheses is no larger than they are. -/
theorem size_le_of_stripParens {node inner : Node} (h : node.stripParens = some inner) :
    inner.size ≤ node.size := by
  by_cases hk : node.kind = .parenthesizedExpression
  · rw [stripParens_of_parens hk] at h
    cases hm : node.firstMember? with
    | none => simp [hm] at h
    | some member =>
      have hlt := size_lt_of_firstMember? hm
      have := size_le_of_stripParens (by simpa [hm] using h)
      omega
  · rw [stripParens_of_ne hk] at h
    cases h
    exact Nat.le_refl _
termination_by node.size

end Node

end ComponentSurvey
