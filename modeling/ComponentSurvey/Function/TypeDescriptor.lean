import ComponentSurvey.Record
import ComponentSurvey.Text.Blank
import ComponentSurvey.Text.Literal
import ComponentSurvey.Tree.Node

/-!
# Type descriptors

A descriptor is the normal form of a type's source text. Reading one is purely syntactic and always
succeeds: a type that is not understood is `any`.

* `Node.typeDescriptor` — the descriptor of a type.
* `Node.descriptorOf` — the same where the type may be absent.
* `Node.typeReads` — the nodes whose texts a descriptor is made of.
* `Node.firstDescriptor_eq`, `Node.memberDescriptors_eq`, `Node.fieldDescriptor_eq` — the recursion
  over lists of children in terms of the members of a node.
* `Node.typeDescriptor_eq`, `Node.typeReads_eq` — a descriptor, and the nodes whose texts it is made
  of, in terms of the parts of the type.
-/

namespace ComponentSurvey

/-- The names of types that the language defines. -/
def primitiveTypes : List String :=
  ["string", "number", "boolean", "any", "void", "null", "undefined", "never", "unknown", "object"]

/-- The descriptor of a function type. -/
def functionType : String := "Function"

/-- The descriptor of an object type. -/
def objectType : String := "object"

namespace Node

/-- The text of a string node without its quotes. -/
def stringValue (node : Node) : String := Text.unquoted node.text

/-- The name of a type, with its segments joined without space. -/
def qualifiedName (name? : Option Node) : String :=
  name?.elim "unknown" fun name => Text.unspaced name.text

/-- The descriptor of a literal used as a type. -/
def literalDescriptor (literal? : Option Node) : String :=
  match literal? with
  | none => "literal"
  | some literal =>
    match literal.kind with
    | .string => Text.inApostrophes literal.stringValue
    | .number | .trueLiteral | .falseLiteral | .nullLiteral | .undefinedLiteral => literal.text
    | _ => "literal"

mutual

/-- The descriptor of a type. -/
def typeDescriptor : Node → String
  | mk label children =>
    match label.kind with
    | .annotatedType | .parenthesizedType | .optingAnnotatedType => firstDescriptor children
    | .predefinedType => if label.text ∈ primitiveTypes then label.text else anyType
    | .typeIdentifier | .nestedTypeIdentifier => Text.unspaced label.text
    | .genericType => qualifiedName ((mk label children).child? .name)
    | .arrayType => firstDescriptor children ++ "[]"
    | .unionType => " | ".intercalate (memberDescriptors children)
    | .intersectionType => " & ".intercalate (memberDescriptors children)
    | .literalType => literalDescriptor (mk label children).firstMember?
    | .tupleType => "[" ++ ", ".intercalate (memberDescriptors children) ++ "]"
    | .namedTupleMember => fieldDescriptor children
    | .functionType => functionType
    | .objectType => objectType
    | _ => anyType

/-- The descriptor of the first member of a list. -/
def firstDescriptor : List Node → String
  | [] => anyType
  | node :: rest => if node.isMember then node.typeDescriptor else firstDescriptor rest

/-- The descriptors of the members of a list. -/
def memberDescriptors : List Node → List String
  | [] => []
  | node :: rest =>
    if node.isMember then node.typeDescriptor :: memberDescriptors rest else memberDescriptors rest

/-- The descriptor of the first node of a list that its parent holds as a type. -/
def fieldDescriptor : List Node → String
  | [] => anyType
  | node :: rest => if node.isUnder .type then node.typeDescriptor else fieldDescriptor rest

end

/-- The descriptor of a type that may be absent. -/
def descriptorOf (node? : Option Node) : String := node?.elim anyType typeDescriptor

/-! ### Texts that are needed -/

/-- The nodes whose texts are needed for the descriptor of a literal. -/
def literalReads (literal? : Option Node) : List Node :=
  literal?.toList.filter fun literal =>
    match literal.kind with
    | .string | .number | .trueLiteral | .falseLiteral | .nullLiteral | .undefinedLiteral => true
    | _ => false

mutual

/-- The nodes whose texts are needed for the descriptor of a type, in the order of need. -/
def typeReads : Node → List Node
  | mk label children =>
    match label.kind with
    | .annotatedType | .parenthesizedType | .optingAnnotatedType | .arrayType => firstReads children
    | .predefinedType | .typeIdentifier | .nestedTypeIdentifier => [mk label children]
    | .genericType => ((mk label children).child? .name).toList
    | .unionType | .intersectionType | .tupleType => memberReads children
    | .literalType => literalReads (mk label children).firstMember?
    | .namedTupleMember => fieldReads children
    | _ => []

/-- The nodes whose texts are needed for the descriptor of the first member of a list. -/
def firstReads : List Node → List Node
  | [] => []
  | node :: rest => if node.isMember then node.typeReads else firstReads rest

/-- The nodes whose texts are needed for the descriptors of the members of a list. -/
def memberReads : List Node → List Node
  | [] => []
  | node :: rest =>
    if node.isMember then node.typeReads ++ memberReads rest else memberReads rest

/-- The nodes whose texts are needed for the descriptor of the first node of a list that its parent
holds as a type. -/
def fieldReads : List Node → List Node
  | [] => []
  | node :: rest => if node.isUnder .type then node.typeReads else fieldReads rest

end

/-- The nodes whose texts are needed for the descriptor of a type that may be absent. -/
def typeReadsOf (node? : Option Node) : List Node := node?.elim [] typeReads

/-! ### Descriptors of members -/

theorem firstDescriptor_eq (nodes : List Node) :
    firstDescriptor nodes = descriptorOf (nodes.find? isMember) := by
  induction nodes with
  | nil => simp [firstDescriptor, descriptorOf]
  | cons node rest ih =>
    rw [firstDescriptor]
    cases h : node.isMember <;> simp [h, ih, descriptorOf]

theorem memberDescriptors_eq (nodes : List Node) :
    memberDescriptors nodes = (nodes.filter isMember).map typeDescriptor := by
  induction nodes with
  | nil => simp [memberDescriptors]
  | cons node rest ih =>
    rw [memberDescriptors]
    cases h : node.isMember <;> simp [h, ih]

theorem fieldDescriptor_eq (nodes : List Node) :
    fieldDescriptor nodes = descriptorOf (nodes.find? (isUnder .type)) := by
  induction nodes with
  | nil => simp [fieldDescriptor, descriptorOf]
  | cons node rest ih =>
    rw [fieldDescriptor]
    cases h : node.isUnder .type <;> simp [h, ih, descriptorOf]

/-- The descriptor of a type in terms of its parts. -/
theorem typeDescriptor_eq (node : Node) :
    node.typeDescriptor =
      match node.kind with
      | .annotatedType | .parenthesizedType | .optingAnnotatedType => descriptorOf node.firstMember?
      | .predefinedType => if node.text ∈ primitiveTypes then node.text else anyType
      | .typeIdentifier | .nestedTypeIdentifier => Text.unspaced node.text
      | .genericType => qualifiedName (node.child? .name)
      | .arrayType => descriptorOf node.firstMember? ++ "[]"
      | .unionType => " | ".intercalate (node.members.map typeDescriptor)
      | .intersectionType => " & ".intercalate (node.members.map typeDescriptor)
      | .literalType => literalDescriptor node.firstMember?
      | .tupleType => "[" ++ ", ".intercalate (node.members.map typeDescriptor) ++ "]"
      | .namedTupleMember => descriptorOf (node.child? .type)
      | .functionType => functionType
      | .objectType => objectType
      | _ => anyType := by
  cases node with
  | mk label children =>
    rw [typeDescriptor, firstDescriptor_eq, memberDescriptors_eq, fieldDescriptor_eq]
    rfl

/-! ### Texts that are needed in terms of members -/

theorem firstReads_eq (nodes : List Node) :
    firstReads nodes = typeReadsOf (nodes.find? isMember) := by
  induction nodes with
  | nil => simp [firstReads, typeReadsOf]
  | cons node rest ih =>
    rw [firstReads]
    cases h : node.isMember <;> simp [h, ih, typeReadsOf]

theorem memberReads_eq (nodes : List Node) :
    memberReads nodes = (nodes.filter isMember).flatMap typeReads := by
  induction nodes with
  | nil => simp [memberReads]
  | cons node rest ih =>
    rw [memberReads]
    cases h : node.isMember <;> simp [h, ih]

theorem fieldReads_eq (nodes : List Node) :
    fieldReads nodes = typeReadsOf (nodes.find? (isUnder .type)) := by
  induction nodes with
  | nil => simp [fieldReads, typeReadsOf]
  | cons node rest ih =>
    rw [fieldReads]
    cases h : node.isUnder .type <;> simp [h, ih, typeReadsOf]

/-- The nodes whose texts are needed for the descriptor of a type in terms of its parts. -/
theorem typeReads_eq (node : Node) :
    node.typeReads =
      match node.kind with
      | .annotatedType | .parenthesizedType | .optingAnnotatedType | .arrayType =>
        typeReadsOf node.firstMember?
      | .predefinedType | .typeIdentifier | .nestedTypeIdentifier => [node]
      | .genericType => (node.child? .name).toList
      | .unionType | .intersectionType | .tupleType => node.members.flatMap typeReads
      | .literalType => literalReads node.firstMember?
      | .namedTupleMember => typeReadsOf (node.child? .type)
      | _ => [] := by
  cases node with
  | mk label children =>
    rw [typeReads, firstReads_eq, memberReads_eq, fieldReads_eq]
    rfl

end Node

end ComponentSurvey
