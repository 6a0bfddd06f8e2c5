import ComponentSurvey.Component.Wrapper

/-!
# Bindings of names to functions

* `BindingShape` — the ways in which a name is bound to a function.
* `Binding` — a name and the function, or the wrapper call, it is bound to.
* `Binding.ofCursor?` — the binding that a node makes.
-/

namespace ComponentSurvey

/-- The ways in which a name is bound to a function. -/
inductive BindingShape where
  /-- By a declaration of the function. -/
  | declaration
  /-- By a variable whose value is the function. -/
  | variable
  /-- By a variable whose value is a wrapper call. -/
  | wrapped
  /-- By a default export of a function or of a wrapper call. -/
  | defaultExport
deriving DecidableEq, Repr

/-- The name of a shape. -/
def BindingShape.name : BindingShape → String
  | .declaration => "declaration"
  | .variable => "variable"
  | .wrapped => "wrapped"
  | .defaultExport => "default_export"

/-- A name and what it is bound to. -/
structure Binding where
  shape : BindingShape
  name : String
  /-- The function, or the outermost wrapper call, in its place. -/
  cursor : Cursor
  /-- Whether the name is bound at module scope. -/
  topLevel : Bool

namespace Binding

/-- The function, or the outermost wrapper call, that a name is bound to. -/
def node (binding : Binding) : Node := binding.cursor.node

/-- Whether a name is bound to a wrapper call. -/
def isWrapperCall (binding : Binding) : Bool := binding.node.isCall

/-- The binding made by the declaration of a function. -/
def ofDeclaration? (cursor : Cursor) : Option Binding :=
  cursor.node.ownName?.map fun name => ⟨.declaration, name, cursor, cursor.isTopLevel⟩

/-- The binding made by a variable, if its value is a function or a wrapper call. -/
def ofDeclarator? (cursor : Cursor) : Option Binding :=
  match Cursor.declaredName? cursor.node, (cursor.child? .value).bind Cursor.stripParens with
  | some name, some value =>
    if value.node.isFunctionExpression then some ⟨.variable, name, value, cursor.isTopLevel⟩
    else if value.node.wrapperName?.isSome then some ⟨.wrapped, name, value, cursor.isTopLevel⟩
    else none
  | _, _ => none

/-- The binding made by a default export, if its value is a function or a wrapper call. -/
def ofExport? (cursor : Cursor) : Option Binding :=
  if cursor.node.hasToken .defaultToken then
    match (cursor.child? .value).bind Cursor.stripParens with
    | some value =>
      if value.node.isFunctionExpression || value.node.wrapperName?.isSome then
        some ⟨.defaultExport, defaultExportName, value, cursor.isTopLevel⟩
      else none
    | none => none
  else none

/-- The binding that a node makes. -/
def ofCursor? (cursor : Cursor) : Option Binding :=
  match cursor.node.kind with
  | .functionDeclaration | .generatorFunctionDeclaration => ofDeclaration? cursor
  | .variableDeclarator => ofDeclarator? cursor
  | .exportStatement => ofExport? cursor
  | _ => none

/-- The nodes whose texts are needed to tell whether a value is a function or a wrapper call. -/
def valueReads (value? : Option Cursor) : List Node :=
  match value? with
  | some value =>
    if value.node.isFunctionExpression then [] else value.node.appliedName?.toList
  | none => []

/-- The nodes whose texts are needed for the binding that a node makes. -/
def reads (cursor : Cursor) : List Node :=
  let value? := (cursor.child? .value).bind Cursor.stripParens
  match cursor.node.kind with
  | .functionDeclaration | .generatorFunctionDeclaration => cursor.node.ownNameNode?.toList
  | .variableDeclarator =>
    (Cursor.declaredNode? cursor.node).elim [] fun name => name :: valueReads value?
  | .exportStatement => if cursor.node.hasToken .defaultToken then valueReads value? else []
  | _ => []

/-- The bindings made in a tree, in pre-order. -/
def ofTree (root : Node) : List Binding := root.cursors.filterMap ofCursor?

/-- The nodes whose texts are needed for the bindings made in a tree. -/
def treeReads (root : Node) : List Node := root.cursors.flatMap reads

/-- The bindings at module scope, then the others, both in their order. -/
def topLevelFirst (bindings : List Binding) : List Binding :=
  bindings.filter topLevel ++ bindings.filter fun binding => !binding.topLevel

@[simp] theorem mem_topLevelFirst {binding : Binding} {bindings : List Binding} :
    binding ∈ topLevelFirst bindings ↔ binding ∈ bindings := by
  cases h : binding.topLevel <;> simp [topLevelFirst, h]

end Binding

end ComponentSurvey
