import ComponentSurvey.Component.Props
import ComponentSurvey.Proofs.Places
import Mathlib.Data.List.Basic
import Mathlib.Data.List.Find

/-!
# Trees without positions

The same construct may be written at two places. Its two trees then differ in the numbers, offsets and
lines of their nodes, and in nothing else. What a type literal declares is read off kinds, parts and
texts, so it is the same at both places.

* `Node.unplaced` — a tree without the positions of its nodes.
* `Node.child?_unplaced`, `Node.firstMember?_unplaced`, `Node.hasToken_unplaced` — the parts of a
  construct.
* `Node.typeDescriptor_unplaced` — the descriptor of a type.
* `ComponentProp.ofMember?_unplaced` — the prop that a member of a type literal declares.
-/

namespace ComponentSurvey

/-- A label without the position of its node. -/
def Label.unplaced (label : Label) : Label := { label with index := 0, start := 0, line := 0 }

namespace Node

mutual

/-- A tree without the positions of its nodes. -/
def unplaced : Node → Node
  | mk label children => mk label.unplaced (unplacedEach children)

/-- A list of trees without the positions of their nodes. -/
def unplacedEach : List Node → List Node
  | [] => []
  | node :: rest => node.unplaced :: unplacedEach rest

end

theorem unplacedEach_eq (nodes : List Node) : unplacedEach nodes = nodes.map unplaced := by
  induction nodes with
  | nil => rw [unplacedEach, List.map_nil]
  | cons node rest ih => rw [unplacedEach, List.map_cons, ih]

/-! ### Labels -/

theorem label_unplaced (node : Node) : node.unplaced.label = node.label.unplaced := by
  cases node with
  | mk label children => rw [unplaced, label_mk, label_mk]

@[simp] theorem kind_unplaced (node : Node) : node.unplaced.kind = node.kind := by
  rw [kind, label_unplaced]
  rfl

@[simp] theorem named_unplaced (node : Node) : node.unplaced.named = node.named := by
  rw [named, label_unplaced]
  rfl

@[simp] theorem text_unplaced (node : Node) : node.unplaced.text = node.text := by
  rw [text, label_unplaced]
  rfl

theorem isUnder_unplaced (field : Field) (node : Node) :
    node.unplaced.isUnder field = node.isUnder field := by
  rw [isUnder, label_unplaced]
  rfl

theorem isMember_unplaced (node : Node) : node.unplaced.isMember = node.isMember := by
  rw [isMember, named_unplaced, kind_unplaced]
  rfl

/-! ### Parts of a construct -/

theorem children_unplaced (node : Node) :
    node.unplaced.children = node.children.map unplaced := by
  cases node with
  | mk label children => rw [unplaced, children_mk, children_mk, unplacedEach_eq]

theorem child?_unplaced (node : Node) (field : Field) :
    node.unplaced.child? field = (node.child? field).map unplaced := by
  have htest : isUnder field ∘ unplaced = isUnder field := funext (isUnder_unplaced field)
  rw [child?, children_unplaced, List.find?_map, htest, child?]

theorem firstMember?_unplaced (node : Node) :
    node.unplaced.firstMember? = node.firstMember?.map unplaced := by
  have htest : isMember ∘ unplaced = isMember := funext isMember_unplaced
  rw [firstMember?, children_unplaced, List.find?_map, htest, firstMember?]

theorem members_unplaced (node : Node) : node.unplaced.members = node.members.map unplaced := by
  have htest : isMember ∘ unplaced = isMember := funext isMember_unplaced
  rw [members, children_unplaced, List.filter_map, htest, members]

theorem namedChildren_unplaced (node : Node) :
    node.unplaced.namedChildren = node.namedChildren.map unplaced := by
  have htest : named ∘ unplaced = named := funext named_unplaced
  rw [namedChildren, children_unplaced, List.filter_map, htest, namedChildren]

theorem hasToken_unplaced (kind : Kind) (node : Node) :
    node.unplaced.hasToken kind = node.hasToken kind := by
  rw [hasToken, children_unplaced, List.any_map, hasToken]
  congr 1
  funext child
  rw [Function.comp_apply, named_unplaced, kind_unplaced]

/-! ### Types -/

theorem qualifiedName_unplaced (name? : Option Node) :
    qualifiedName (name?.map unplaced) = qualifiedName name? := by
  cases name? with
  | none => rfl
  | some name =>
    show Text.unspaced name.unplaced.text = Text.unspaced name.text
    rw [text_unplaced]

theorem literalDescriptor_unplaced (literal? : Option Node) :
    literalDescriptor (literal?.map unplaced) = literalDescriptor literal? := by
  cases literal? <;> simp [literalDescriptor, stringValue]

theorem descriptorOf_unplaced {node? : Option Node}
    (h : ∀ node, node? = some node → node.unplaced.typeDescriptor = node.typeDescriptor) :
    descriptorOf (node?.map unplaced) = descriptorOf node? := by
  cases node? with
  | none => rfl
  | some node => exact h node rfl

/-- Where a type stands does not change what it is. -/
theorem typeDescriptor_unplaced (node : Node) :
    node.unplaced.typeDescriptor = node.typeDescriptor := by
  induction node using childInduction with
  | step node ih =>
    have hfirst : descriptorOf (node.firstMember?.map unplaced) = descriptorOf node.firstMember? :=
      descriptorOf_unplaced fun member hmember => ih member (List.mem_of_find?_eq_some hmember)
    have htype : descriptorOf ((node.child? .type).map unplaced) = descriptorOf (node.child? .type) :=
      descriptorOf_unplaced fun type hchild => ih type (List.mem_of_find?_eq_some hchild)
    have hmembers : (node.members.map unplaced).map typeDescriptor
        = node.members.map typeDescriptor := by
      rw [List.map_map]
      exact List.map_congr_left fun member hmember => ih member (List.mem_filter.1 hmember).1
    rw [typeDescriptor_eq, typeDescriptor_eq node, kind_unplaced, text_unplaced,
      firstMember?_unplaced, members_unplaced, child?_unplaced, child?_unplaced, hfirst, htype,
      hmembers, qualifiedName_unplaced, literalDescriptor_unplaced]

/-! ### Members of type literals -/

theorem memberNameNode?_unplaced (member : Node) :
    member.unplaced.memberNameNode? = member.memberNameNode?.map unplaced := by
  rw [memberNameNode?, memberNameNode?, child?_unplaced]
  cases member.child? .name with
  | none => rfl
  | some name =>
    show (if name.unplaced.kind = .propertyIdentifier then some name.unplaced else none)
      = (if name.kind = .propertyIdentifier then some name else none).map unplaced
    rw [kind_unplaced]
    split <;> rfl

theorem memberName?_unplaced (member : Node) : member.unplaced.memberName? = member.memberName? := by
  rw [memberName?, memberName?, memberNameNode?_unplaced, Option.map_map]
  congr 1
  funext name
  exact text_unplaced name

end Node

/-- Where a member of a type literal stands does not change what it declares. -/
theorem ComponentProp.ofMember?_unplaced (member : Node) :
    ofMember? member.unplaced = ofMember? member := by
  rw [ofMember?, ofMember?, Node.memberName?_unplaced, Node.child?_unplaced,
    Node.descriptorOf_unplaced fun type _ => Node.typeDescriptor_unplaced type,
    Node.hasToken_unplaced]

end ComponentSurvey
