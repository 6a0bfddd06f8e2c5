import ComponentSurvey.Function.Signature
import ComponentSurvey.Text.Uppercase

/-!
# Props of a component

The props of a component are read from its first parameter: from the entries of an object pattern,
whose types an inline type literal then refines, or from the members of that literal where the
parameter is a plain name.

* `ComponentProp.ofEntry?` — the prop of an entry of an object pattern.
* `ComponentProp.refine` — a prop in the light of a member of a type literal.
* `Node.props` — the props of a component; `Node.props_eq` — they depend on its first parameter only.
* `ComponentProp.isEventName`, `ComponentProp.events` — the props that handle events.
-/

namespace ComponentSurvey

namespace Node

/-- The default value of an entry of an object pattern. -/
def entryDefault? (entry : Node) : Option Node :=
  match entry.kind with
  | .objectAssignmentPattern => entry.child? .right
  | .pairPattern =>
    match entry.child? .value with
    | some value => if value.kind = .assignmentPattern then value.child? .right else none
    | none => none
  | _ => none

/-- The property signatures of an inline type literal. -/
def literalMembers (annotation? : Option Node) : List Node :=
  match annotation?.bind firstMember? with
  | some type =>
    if type.kind = .objectType then
      type.namedChildren.filter fun member => member.kind == .propertySignature
    else []
  | none => []

/-- The node that names a member of a type literal, if it is a plain name. -/
def memberNameNode? (member : Node) : Option Node :=
  match member.child? .name with
  | some name => if name.kind = .propertyIdentifier then some name else none
  | none => none

/-- The plain name of a member of a type literal. -/
def memberName? (member : Node) : Option String := member.memberNameNode?.map text

end Node

/-- Changes the last item of a list that has a property. -/
def updateLast {α : Type} (p : α → Bool) (f : α → α) : List α → List α
  | [] => []
  | item :: rest => if p item && !rest.any p then f item :: rest else item :: updateLast p f rest

namespace ComponentProp

/-- The prop that an entry of an object pattern takes; a default makes it optional. -/
def ofEntry? (entry : Node) : Option ComponentProp :=
  entry.propertyKey?.map fun name =>
    ⟨name, anyType, entry.entryDefault?.isNone, entry.entryDefault?.map Node.defaultText⟩

/-- The prop that a member of a type literal declares. -/
def ofMember? (member : Node) : Option ComponentProp :=
  member.memberName?.map fun name =>
    ⟨name, Node.descriptorOf (member.child? .type), !member.hasToken .questionToken, none⟩

/-- A prop whose type is declared by a member of a type literal; a default keeps it optional. -/
def declaredBy (member type : Node) (prop : ComponentProp) : ComponentProp :=
  { prop with
    type := type.typeDescriptor
    required := !member.hasToken .questionToken && prop.default?.isNone }

/-- Props in the light of a member of a type literal: the last prop of its name takes its type. -/
def refine (props : List ComponentProp) (member : Node) : List ComponentProp :=
  match member.memberName?, member.child? .type with
  | some name, some type => updateLast (fun prop => prop.name == name) (declaredBy member type) props
  | _, _ => props

/-- The props that a parameter declares. -/
def ofParam (parts : ParamParts) : List ComponentProp :=
  match parts.pattern? with
  | none => []
  | some pattern =>
    match pattern.kind with
    | .objectPattern =>
      (Node.literalMembers parts.annotation?).foldl refine (pattern.namedChildren.filterMap ofEntry?)
    | .identifier => (Node.literalMembers parts.annotation?).filterMap ofMember?
    | _ => []

/-! ### Texts that are needed -/

/-- The nodes whose texts are needed for the prop of an entry of an object pattern. -/
def entryReads (entry : Node) : List Node :=
  entry.propertyKeyNode?.elim [] fun key => key :: Node.defaultReads entry.entryDefault?

/-- The nodes whose texts are needed for the prop that a member of a type literal declares. -/
def memberReads (member : Node) : List Node :=
  member.memberNameNode?.elim [] fun name => name :: Node.typeReadsOf (member.child? .type)

/-- The nodes whose texts are needed for props in the light of a member of a type literal: its type
only if there is a prop of its name. -/
def refineReads (props : List ComponentProp) (member : Node) : List Node :=
  if props.any fun prop => some prop.name == member.memberName? then memberReads member
  else member.memberNameNode?.toList

/-- The nodes whose texts are needed for the props that a parameter declares. -/
def paramReads (parts : ParamParts) : List Node :=
  match parts.pattern? with
  | none => []
  | some pattern =>
    match pattern.kind with
    | .objectPattern =>
      pattern.namedChildren.flatMap entryReads ++
        (Node.literalMembers parts.annotation?).flatMap
          (refineReads (pattern.namedChildren.filterMap ofEntry?))
    | .identifier => (Node.literalMembers parts.annotation?).flatMap memberReads
    | _ => []

/-! ### Events -/

/-- Whether a name is that of a prop that handles an event: `on` and an upper-case letter. -/
def isEventName (name : String) : Bool :=
  match name.toList with
  | 'o' :: 'n' :: c :: _ => Text.isUppercase c
  | _ => false

/-- The names of the props that handle events, in their order and each once. -/
def events (props : List ComponentProp) : List String :=
  ((props.map ComponentProp.name).filter isEventName).eraseDups

end ComponentProp

/-- The props of a component: those that its first parameter declares. -/
def Node.props (function : Node) : List ComponentProp :=
  match function.parameters with
  | [] => []
  | param :: _ => ComponentProp.ofParam (ParamParts.ofNode param)

/-- Only the first parameter counts for the props of a component. -/
theorem Node.props_eq (function : Node) :
    function.props
      = function.parameters.head?.elim [] fun param =>
          ComponentProp.ofParam (ParamParts.ofNode param) := by
  rw [props]
  cases function.parameters <;> rfl

/-- The nodes whose texts are needed for the props of a component. -/
def Node.propReads (function : Node) : List Node :=
  match function.parameters with
  | [] => []
  | param :: _ => ComponentProp.paramReads (ParamParts.ofNode param)

end ComponentSurvey
