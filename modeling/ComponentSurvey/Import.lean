import ComponentSurvey.Function.TypeDescriptor
import ComponentSurvey.Log
import ComponentSurvey.Text.Search

/-!
# Imports of a file

* `Import.ofNode` — the record of an import statement.
* `Import.ofProgram` — the imports of a file in source order.
* `Framework.ofImports` — the framework that the imports tell of.
-/

namespace ComponentSurvey

namespace Import

/-- What stands in front of the alias of a module that is imported whole. -/
def namespaceMark : String := "* as "

/-- The nodes that name what a list in braces imports; a renamed import counts under its exported
name. -/
def specifierNodes (list : Node) : List Node :=
  (list.namedChildren.filter fun item => item.kind == .importSpecifier).filterMap fun item =>
    item.child? .name

/-- The names imported by a list in braces. -/
def namedSpecifiers (list : Node) : List String := (specifierNodes list).map Node.text

/-- The first plain identifier among the children of a node. -/
def localName? (node : Node) : Option Node :=
  node.namedChildren.find? fun child => child.kind == .identifier

/-- The names imported by one part of an import clause. -/
def partSpecifiers (part : Node) : List String :=
  match part.kind with
  | .identifier => [part.text]
  | .namespaceImport => (localName? part).toList.map fun name => namespaceMark ++ name.text
  | .namedImports => namedSpecifiers part
  | _ => []

/-- The nodes whose texts are needed for the names imported by one part of an import clause. -/
def partReads (part : Node) : List Node :=
  match part.kind with
  | .identifier => [part]
  | .namespaceImport => (localName? part).toList
  | .namedImports => specifierNodes part
  | _ => []

/-- The clauses of an import statement. -/
def clauses (statement : Node) : List Node :=
  statement.namedChildren.filter fun child => child.kind == .importClause

/-- The record of an import statement from a source. -/
def ofClauses (source : Node) (clauses : List Node) : Import :=
  let parts := clauses.flatMap Node.namedChildren
  { source := source.stringValue
    specifiers := parts.flatMap partSpecifiers
    isDefault := parts.any fun part => part.kind == .identifier }

/-- The clause by which an import requires a module: only the first one counts. -/
def requireClause? (statement : Node) : Option Node :=
  statement.namedChildren.find? fun child => child.kind == .importRequireClause

/-- The record of an import that requires a module. -/
def ofRequire? (statement : Node) : Option Import :=
  (requireClause? statement).bind fun clause =>
    (clause.child? .source).map fun source =>
      { source := source.stringValue
        specifiers := (localName? clause).toList.map Node.text
        isDefault := (localName? clause).isSome }

/-- The nodes whose texts are needed for the record of an import statement. -/
def reads (statement : Node) : List Node :=
  match statement.child? .source with
  | some source => source :: ((clauses statement).flatMap Node.namedChildren).flatMap partReads
  | none =>
    (requireClause? statement).elim [] fun clause =>
      (clause.child? .source).elim [] fun source => source :: (localName? clause).toList

/-- The record of an import statement, if it has a source. -/
def ofNode (statement : Node) : Logged (Option Import) := do
  Logged.read (reads statement)
  match statement.child? .source with
  | some source => pure (some (ofClauses source (clauses statement)))
  | none =>
    match ofRequire? statement with
    | some record => pure (some record)
    | none => do
      Logged.note (.importWithoutSource statement.line)
      pure none

/-- The imports of a program in source order. -/
def ofProgram (root : Node) : Logged (List Import) :=
  Logged.collect ofNode (root.namedChildren.filter fun child => child.kind == .importStatement)

end Import

namespace Framework

/-- The framework that an import tells of: the longer name is looked for first. -/
def ofSource? (source : String) : Option Framework :=
  if Text.startsWith "react-native" source then some .reactNative
  else if Text.startsWith "react" source then some .react
  else none

/-- The framework of a file: the one that the first import to tell of any tells of. -/
def ofImports (imports : List Import) : Framework :=
  (imports.findSome? fun record => ofSource? record.source).getD .vanilla

end Framework

end ComponentSurvey
