import ComponentSurvey.Tree.Walk

/-!
# Nodes in their place

A `Cursor` is a node together with the nodes above it, for the questions that are answered by
climbing: which name a function is bound to, whether it is exported, whether it stands at module
scope.

* `Cursor` — a node and its ancestors, nearest first.
* `Node.cursors` — every node of a tree in its place, in pre-order.
* `Cursor.enclosing` — the ancestors from the first one that is no parenthesis.
* `Cursor.boundName?`, `Cursor.isExported`, `Cursor.isTopLevel` — what climbing tells.
* `Cursor.stripParens` — the expression inside parentheses, in its place.
-/

namespace ComponentSurvey

/-- A node in its place: the node and its ancestors, nearest first. -/
structure Cursor where
  node : Node
  ancestors : List Node
deriving Inhabited

/-- The name of an anonymous default export. -/
def defaultExportName : String := "default"

namespace Cursor

/-- The child of a node, in its place, under a field. -/
def child? (cursor : Cursor) (field : Field) : Option Cursor :=
  (cursor.node.child? field).map fun child => ⟨child, cursor.node :: cursor.ancestors⟩

/-- The ancestors of a node from the first one that is no parenthesis. -/
def enclosing (cursor : Cursor) : List Node :=
  cursor.ancestors.dropWhile fun node => node.kind == .parenthesizedExpression

/-- The identifier of the variable that a declarator binds, if it binds a single one. -/
def declaredNode? (declarator : Node) : Option Node :=
  match declarator.child? .name with
  | some name => if name.kind = .identifier then some name else none
  | none => none

/-- The name of the variable that a declarator binds, if it binds a single one. -/
def declaredName? (declarator : Node) : Option String := (declaredNode? declarator).map Node.text

/-- The node that names a function: the variable it is the value of, else its own name. -/
def boundNode? (cursor : Cursor) : Option Node :=
  match cursor.enclosing with
  | [] => cursor.node.ownNameNode?
  | parent :: _ =>
    let declared := if parent.kind = .variableDeclarator then declaredNode? parent else none
    declared <|> cursor.node.ownNameNode?

/-- Whether a function is the value of a default export. -/
def isDefaultExport (cursor : Cursor) : Bool :=
  match cursor.enclosing with
  | [] => false
  | parent :: _ => parent.kind == .exportStatement && parent.hasToken .defaultToken

/-- The name a function is bound to: that of the variable it is the value of, else its own, else
the name of default exports if it is one. -/
def boundName? (cursor : Cursor) : Option String :=
  cursor.boundNode?.map Node.text <|>
    if cursor.isDefaultExport then some defaultExportName else none

/-- The nodes whose texts are needed for the name of a function, unless one is given. -/
def boundReads (cursor : Cursor) (name? : Option String) : List Node :=
  if name?.isSome then [] else cursor.boundNode?.toList

/-- Whether a function is exported: by the export statement around it, or by the one around the
statement that declares the variable it is the value of. -/
def isExported (cursor : Cursor) : Bool :=
  match cursor.enclosing with
  | [] => false
  | parent :: above =>
    match parent.kind with
    | .exportStatement => true
    | .variableDeclarator =>
      match above with
      | statement :: outer :: _ =>
        statement.kind.isVariableStatement && outer.kind == .exportStatement
      | _ => false
    | _ => false

/-- Whether a declaration or an export binds its name at module scope: only exports and variable
statements stand between it and the program. -/
def isTopLevel (cursor : Cursor) : Bool :=
  match cursor.ancestors.dropWhile fun node => node.kind.isModuleScope with
  | [] => true
  | parent :: _ => parent.kind == .program

end Cursor

namespace Node

mutual

/-- The nodes of a tree below some ancestors, each in its place, in pre-order. -/
def cursorsBelow (ancestors : List Node) : Node → List Cursor
  | mk label children =>
    ⟨mk label children, ancestors⟩ :: cursorsEach (mk label children :: ancestors) children

/-- The nodes of a list of trees below the same ancestors, each in its place. -/
def cursorsEach (ancestors : List Node) : List Node → List Cursor
  | [] => []
  | node :: rest => node.cursorsBelow ancestors ++ cursorsEach ancestors rest

end

/-- The nodes of a tree, each in its place, in pre-order. -/
def cursors (root : Node) : List Cursor := root.cursorsBelow []

@[simp] theorem cursorsEach_nil (ancestors : List Node) : cursorsEach ancestors [] = [] := by
  simp [cursorsEach]

@[simp] theorem cursorsEach_cons (ancestors : List Node) (node : Node) (rest : List Node) :
    cursorsEach ancestors (node :: rest)
      = node.cursorsBelow ancestors ++ cursorsEach ancestors rest := by
  simp [cursorsEach]

theorem cursorsBelow_eq (ancestors : List Node) (node : Node) :
    node.cursorsBelow ancestors
      = ⟨node, ancestors⟩ :: cursorsEach (node :: ancestors) node.children := by
  cases node with
  | mk label children => simp [cursorsBelow]

mutual

theorem map_node_cursorsBelow (ancestors : List Node) :
    (node : Node) → (node.cursorsBelow ancestors).map Cursor.node = node.preorder
  | mk label children => by
    simp [cursorsBelow, preorder, map_node_cursorsEach (mk label children :: ancestors) children]

theorem map_node_cursorsEach (ancestors : List Node) :
    (nodes : List Node) → (cursorsEach ancestors nodes).map Cursor.node = preorders nodes
  | [] => by simp
  | node :: rest => by
    simp [map_node_cursorsBelow ancestors node, map_node_cursorsEach ancestors rest]

end

/-- Without their places, the nodes of a tree are its walk. -/
theorem map_node_cursors (root : Node) : root.cursors.map Cursor.node = root.walk := by
  rw [cursors, map_node_cursorsBelow, walk_eq_preorder]

mutual

/-- The expression inside any number of parentheses, in its place. -/
def stripParensBelow (ancestors : List Node) : Node → Option Cursor
  | mk label children =>
    if label.kind = .parenthesizedExpression then
      stripFirstBelow (mk label children :: ancestors) children
    else
      some ⟨mk label children, ancestors⟩

/-- What the first member of a list stands for once its parentheses are stripped, in its place. -/
def stripFirstBelow (ancestors : List Node) : List Node → Option Cursor
  | [] => none
  | node :: rest =>
    if node.isMember then node.stripParensBelow ancestors else stripFirstBelow ancestors rest

end

mutual

theorem map_node_stripParensBelow (ancestors : List Node) :
    (node : Node) → (node.stripParensBelow ancestors).map Cursor.node = node.stripParens
  | mk label children => by
    rw [stripParensBelow, stripParens]
    split
    · exact map_node_stripFirstBelow (mk label children :: ancestors) children
    · rfl

theorem map_node_stripFirstBelow (ancestors : List Node) :
    (nodes : List Node) → (stripFirstBelow ancestors nodes).map Cursor.node = stripFirst nodes
  | [] => by simp [stripFirstBelow, stripFirst]
  | node :: rest => by
    rw [stripFirstBelow, stripFirst]
    split
    · exact map_node_stripParensBelow ancestors node
    · exact map_node_stripFirstBelow ancestors rest

end

end Node

namespace Cursor

/-- The expression inside any number of parentheses, in its place. -/
def stripParens (cursor : Cursor) : Option Cursor :=
  cursor.node.stripParensBelow cursor.ancestors

/-- Without its place, the expression inside parentheses is that of the node. -/
theorem map_node_stripParens (cursor : Cursor) :
    cursor.stripParens.map Cursor.node = cursor.node.stripParens :=
  Node.map_node_stripParensBelow cursor.ancestors cursor.node

end Cursor

end ComponentSurvey
