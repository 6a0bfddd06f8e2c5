import ComponentSurvey.Function.TypeDescriptor
import ComponentSurvey.Log
import ComponentSurvey.Tree.Cursor

/-!
# Signatures of functions

* `Node.parameters` — the parameters of a function in declared order.
* `ParamParts.ofNode` — a parameter taken apart into pattern, annotation and default.
* `Param.ofNode` — the record of a parameter.
* `PlainFunction.ofCursor` — the record of a function that renders nothing.
-/

namespace ComponentSurvey

namespace Node

/-- Whether a function is asynchronous. -/
def isAsync (function : Node) : Bool := function.hasToken .asyncToken

/-- The parameters of a function: the single one of an arrow function without parentheses, or the
members of its parameter list. -/
def parameters (function : Node) : List Node :=
  match function.child? .parameter with
  | some single => [single]
  | none =>
    match function.child? .parameters with
    | some list => list.members
    | none => []

/-- The descriptor of what a function returns. -/
def returnType (function : Node) : String :=
  match function.child? .returnType with
  | some annotation => annotation.typeDescriptor
  | none => if function.isAsync then "Promise<any>" else anyType

/-- The nodes whose texts are needed for what a function returns. -/
def returnReads (function : Node) : List Node := typeReadsOf (function.child? .returnType)

/-- A default value as literal text; a value that is no literal is shown as `undefined`. -/
def defaultText (node : Node) : String :=
  match node.kind with
  | .string => Text.inApostrophes node.stringValue
  | .number | .trueLiteral | .falseLiteral | .nullLiteral => node.text
  | .array => "[]"
  | .object => "\x7b\x7d"
  | _ => "undefined"

/-- A default value that may be absent as literal text. -/
def defaultTextOf (node? : Option Node) : String := node?.elim "undefined" defaultText

/-- The nodes whose texts are needed for a default value that may be absent. -/
def defaultReads (node? : Option Node) : List Node :=
  node?.toList.filter fun node =>
    match node.kind with
    | .string | .number | .trueLiteral | .falseLiteral | .nullLiteral => true
    | _ => false

/-- The node that names the property that an entry of an object pattern takes, if it is a plain
name. -/
def propertyKeyNode? (entry : Node) : Option Node :=
  match entry.kind with
  | .shorthandPropertyIdentifierPattern => some entry
  | .objectAssignmentPattern =>
    match entry.child? .left with
    | some left => if left.kind = .shorthandPropertyIdentifierPattern then some left else none
    | none => none
  | .pairPattern =>
    match entry.child? .key with
    | some key => if key.kind = .propertyIdentifier then some key else none
    | none => none
  | _ => none

/-- The name of the property that an entry of an object pattern takes, if it is a plain name. -/
def propertyKey? (entry : Node) : Option String := entry.propertyKeyNode?.map text

/-- The names of the properties that an object pattern takes, in declared order. -/
def propertyNames (pattern : Node) : List String :=
  pattern.namedChildren.filterMap propertyKey?

/-- The nodes that name the properties that an object pattern takes, in declared order. -/
def propertyNodes (pattern : Node) : List Node :=
  pattern.namedChildren.filterMap propertyKeyNode?

/-- The names of the properties are the texts of the nodes that name them. -/
theorem propertyNames_eq (pattern : Node) :
    pattern.propertyNames = pattern.propertyNodes.map text := by
  simp only [propertyNames, propertyNodes, List.map_filterMap]
  rfl

/-- The nodes whose texts are needed for the rendering of a pattern. -/
def patternReads (pattern : Node) : List Node :=
  match pattern.kind with
  | .identifier => [pattern]
  | .restPattern => pattern.namedChildren.head?.toList
  | .objectPattern => pattern.propertyNodes
  | _ => []

end Node

/-- A parameter taken apart. -/
structure ParamParts where
  /-- The name or pattern that the argument is bound to. -/
  pattern? : Option Node
  /-- The annotation of the type. -/
  annotation? : Option Node
  /-- The default value. -/
  default? : Option Node
  /-- Whether the parameter is marked as optional. -/
  marked : Bool

namespace ParamParts

/-- Takes a parameter apart. -/
def ofNode (param : Node) : ParamParts :=
  match param.kind with
  | .requiredParameter =>
    ⟨param.child? .pattern, param.child? .type, param.child? .value, false⟩
  | .optionalParameter =>
    ⟨param.child? .pattern, param.child? .type, param.child? .value, true⟩
  | .assignmentPattern => ⟨param.child? .left, none, param.child? .right, false⟩
  | _ => ⟨some param, none, none, false⟩

/-- The nodes whose texts are needed for the record of a parameter. -/
def reads (parts : ParamParts) : List Node :=
  match parts.pattern? with
  | none => []
  | some pattern =>
    Node.typeReadsOf parts.annotation? ++ Node.defaultReads parts.default? ++ pattern.patternReads

end ParamParts

namespace Param

/-- The rendering of an object pattern. -/
def objectPatternName (names : List String) : String :=
  "\x7b " ++ ", ".intercalate names ++ " \x7d"

/-- The record of a parameter, if it binds something. -/
def ofNode (param : Node) : Logged (Option Param) := do
  let parts := ParamParts.ofNode param
  Logged.read parts.reads
  match parts.pattern? with
  | none => pure none
  | some pattern =>
    let type := Node.descriptorOf parts.annotation?
    let default? := parts.default?.map Node.defaultText
    let optional := parts.marked || parts.default?.isSome
    match pattern.kind with
    | .identifier => pure (some ⟨pattern.text, type, optional, default?⟩)
    | .restPattern =>
      let name := "..." ++ Node.textOf pattern.namedChildren.head?
      pure (some ⟨name, if type = anyType then "any[]" else type, true, default?⟩)
    | .objectPattern =>
      pure (some ⟨objectPatternName pattern.propertyNames, type, optional, default?⟩)
    | .arrayPattern => pure (some ⟨"[...]", type, optional, default?⟩)
    | kind => do
      Logged.note (.parameterKind kind)
      pure none

/-- The records of the parameters of a function that bind something. -/
def ofFunction (function : Node) : Logged (List Param) :=
  Logged.collect ofNode function.parameters

end Param

namespace PlainFunction

/-- The record of a function under a name. -/
def describe (cursor : Cursor) (name path : String) (imports : List Import) :
    Logged PlainFunction := do
  let params ← Param.ofFunction cursor.node
  Logged.read cursor.node.returnReads
  pure
    { name := name
      params := params
      returnType := cursor.node.returnType
      isAsync := cursor.node.isAsync
      isExported := cursor.isExported
      imports := imports
      path := path }

/-- The record of a function under the name given, or else under the one it is bound to. -/
def ofCursor (cursor : Cursor) (name? : Option String) (path : String) (imports : List Import) :
    Logged (Option PlainFunction) := do
  Logged.read (cursor.boundReads name?)
  match name? <|> cursor.boundName? with
  | some name => some <$> describe cursor name path imports
  | none => do
    Logged.note (.unnamedFunction cursor.node.line)
    pure none

end PlainFunction

end ComponentSurvey
