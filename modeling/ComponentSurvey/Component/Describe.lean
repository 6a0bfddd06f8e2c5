import ComponentSurvey.Component.Hooks
import ComponentSurvey.Component.Props

/-!
# Components

* `Node.isComponent` — a function is a component if there is markup anywhere in its body.
* `Component.describe` — the record of a component under a name.
* `Component.ofCursor` — the same under the name the function is bound to.
-/

namespace ComponentSurvey

/-- Whether a function renders markup. -/
def Node.isComponent (function : Node) : Bool :=
  match function.child? .body with
  | some body => body.contains Kind.isMarkup
  | none => false

/-- The nodes whose texts are needed for the record of a component. -/
def Node.componentReads (function : Node) : List Node := function.propReads ++ function.hookReads

namespace Component

/-- The record of a component under a name. -/
def describe (function : Node) (name path : String) (imports : List Import)
    (wrappers : List String) : Component :=
  { name := name
    form := if function.kind.isFunctionDeclaration then .declaration else .expression
    props := function.props
    hooks := function.hooks
    events := ComponentProp.events function.props
    acceptsChildren := function.props.any fun prop => prop.name == "children"
    imports := imports
    path := path
    wrappers := wrappers }

/-- The record of a component under the name given, or else under the one it is bound to. -/
def ofCursor (cursor : Cursor) (name? : Option String) (path : String) (imports : List Import)
    (wrappers : List String) : Logged (Option Component) := do
  Logged.read (cursor.boundReads name?)
  match name? <|> cursor.boundName? with
  | some name =>
    Logged.reading cursor.node.componentReads
      (some (describe cursor.node name path imports wrappers))
  | none => do
    Logged.note (.unnamedComponent cursor.node.line)
    pure none

end Component

end ComponentSurvey
