import ComponentSurvey.Proofs.Comments.Tree
import Mathlib.Data.List.Basic

/-!
# Comments inside functions

What is read off a function without its comments: types, signatures, props, hooks and chains of
wrapper calls. Everything that is read is unchanged, and every text that is needed for it is needed
from the same node, with one exception. The name of a rest parameter is the text of the first named
child of its pattern, and that child may be a comment.

* `Node.typeDescriptor_uncommented`, `Node.typeReads_uncommented` — types.
* `Node.isCommentedRest` — the rest patterns that are named by a comment.
* `Param.ofNode_uncommented` — parameters that are not so named.
* `Node.props_uncommented`, `Node.hooks_uncommented`, `Node.isComponent_uncommented` — components.
* `Node.unwrapFrom_uncommented` — chains of wrapper calls.
-/

namespace ComponentSurvey

namespace Logged

/-- The texts of nodes are the same without the comments below the nodes. -/
@[simp] theorem read_uncommented (nodes : List Node) :
    read (nodes.map Node.uncommented) = read nodes := by
  simp [read, List.findSome?_map, Function.comp_def]

end Logged

namespace Node

/-! ### Types -/

@[simp] theorem textOf_uncommented (node? : Option Node) :
    textOf (node?.map uncommented) = textOf node? := by
  cases node? <;> simp [textOf]

@[simp] theorem qualifiedName_uncommented (name? : Option Node) :
    qualifiedName (name?.map uncommented) = qualifiedName name? := by
  cases name? <;> simp [qualifiedName]

@[simp] theorem stringValue_uncommented (node : Node) :
    node.uncommented.stringValue = node.stringValue := by
  simp [stringValue]

@[simp] theorem literalDescriptor_uncommented (literal? : Option Node) :
    literalDescriptor (literal?.map uncommented) = literalDescriptor literal? := by
  cases literal? <;> simp [literalDescriptor]

/-- A selection by kind among the nodes that may be needed. -/
theorem filter_toList_uncommented {wanted : Node → Bool}
    (h : ∀ node : Node, wanted node.uncommented = wanted node) (node? : Option Node) :
    (node?.map uncommented).toList.filter wanted = (node?.toList.filter wanted).map uncommented := by
  cases node? with
  | none => rfl
  | some node => cases hnode : wanted node <;> simp [h, hnode]

@[simp] theorem literalReads_uncommented (literal? : Option Node) :
    literalReads (literal?.map uncommented) = (literalReads literal?).map uncommented :=
  filter_toList_uncommented (fun node => by simp) literal?

theorem descriptorOf_uncommented {node? : Option Node}
    (h : ∀ node, node? = some node → node.uncommented.typeDescriptor = node.typeDescriptor) :
    descriptorOf (node?.map uncommented) = descriptorOf node? := by
  cases node? with
  | none => rfl
  | some node => exact h node rfl

theorem typeReadsOf_uncommented {node? : Option Node}
    (h : ∀ node, node? = some node → node.uncommented.typeReads = node.typeReads.map uncommented) :
    typeReadsOf (node?.map uncommented) = (typeReadsOf node?).map uncommented := by
  cases node? with
  | none => rfl
  | some node => exact h node rfl

/-- Comments do not change what a type is. -/
theorem typeDescriptor_uncommented {node : Node} (h : node.CommentsApart) :
    node.uncommented.typeDescriptor = node.typeDescriptor := by
  induction node using childInduction with
  | step node ih =>
    have hfirst : descriptorOf (node.firstMember?.map uncommented) = descriptorOf node.firstMember? :=
      descriptorOf_uncommented fun member hmember =>
        ih member (List.mem_of_find?_eq_some hmember) (h.of_firstMember? hmember)
    have htype : descriptorOf ((node.child? .type).map uncommented)
        = descriptorOf (node.child? .type) :=
      descriptorOf_uncommented fun type hchild =>
        ih type (List.mem_of_find?_eq_some hchild) (h.of_child? hchild)
    have hmembers : (node.members.map uncommented).map typeDescriptor
        = node.members.map typeDescriptor := by
      rw [List.map_map]
      refine List.map_congr_left fun member hmember => ?_
      have hchild := (List.mem_filter.1 hmember).1
      exact ih member hchild (h.of_mem_walk (mem_walk_of_mem_children hchild member.mem_walk_self))
    rw [typeDescriptor_eq, typeDescriptor_eq node, kind_uncommented, text_uncommented,
      firstMember?_uncommented, members_uncommented, child?_uncommented h, child?_uncommented h,
      hfirst, htype, hmembers, qualifiedName_uncommented, literalDescriptor_uncommented]

/-- Comments do not change which texts a type is read from. -/
theorem typeReads_uncommented {node : Node} (h : node.CommentsApart) :
    node.uncommented.typeReads = node.typeReads.map uncommented := by
  induction node using childInduction with
  | step node ih =>
    have hfirst : typeReadsOf (node.firstMember?.map uncommented)
        = (typeReadsOf node.firstMember?).map uncommented :=
      typeReadsOf_uncommented fun member hmember =>
        ih member (List.mem_of_find?_eq_some hmember) (h.of_firstMember? hmember)
    have htype : typeReadsOf ((node.child? .type).map uncommented)
        = (typeReadsOf (node.child? .type)).map uncommented :=
      typeReadsOf_uncommented fun type hchild =>
        ih type (List.mem_of_find?_eq_some hchild) (h.of_child? hchild)
    have hmembers : (node.members.map uncommented).flatMap typeReads
        = (node.members.flatMap typeReads).map uncommented := by
      rw [List.flatMap_map, List.map_flatMap]
      refine List.flatMap_congr fun member hmember => ?_
      have hchild := (List.mem_filter.1 hmember).1
      exact ih member hchild (h.of_mem_walk (mem_walk_of_mem_children hchild member.mem_walk_self))
    rw [typeReads_eq, typeReads_eq node, kind_uncommented, firstMember?_uncommented,
      members_uncommented, child?_uncommented h, child?_uncommented h, hfirst, htype, hmembers,
      literalReads_uncommented]
    split <;> simp [Option.toList_map]

/-! ### Signatures -/

@[simp] theorem defaultText_uncommented (node : Node) :
    node.uncommented.defaultText = node.defaultText := by
  simp [defaultText]

@[simp] theorem defaultReads_uncommented (node? : Option Node) :
    defaultReads (node?.map uncommented) = (defaultReads node?).map uncommented :=
  filter_toList_uncommented (fun node => by simp) node?

section Signature

variable {node : Node} (h : node.CommentsApart)

include h in
theorem isAsync_uncommented : node.uncommented.isAsync = node.isAsync :=
  hasToken_uncommented h .asyncToken

include h in
theorem parameters_uncommented :
    node.uncommented.parameters = node.parameters.map uncommented := by
  rw [parameters, parameters, child?_uncommented h, child?_uncommented h]
  cases node.child? .parameter with
  | some single => rfl
  | none =>
    cases node.child? .parameters with
    | some list => exact members_uncommented list
    | none => rfl

include h in
theorem returnType_uncommented : node.uncommented.returnType = node.returnType := by
  rw [returnType, returnType, child?_uncommented h, isAsync_uncommented h]
  cases hchild : node.child? .returnType with
  | some annotation => exact typeDescriptor_uncommented (h.of_child? hchild)
  | none => rfl

include h in
theorem returnReads_uncommented :
    node.uncommented.returnReads = node.returnReads.map uncommented := by
  rw [returnReads, returnReads, child?_uncommented h]
  exact typeReadsOf_uncommented fun type htype => typeReads_uncommented (h.of_child? htype)

/-- A part that counts only if it is of one kind. -/
theorem ofKind_uncommented (kind : Kind) (part? : Option Node) :
    (match part?.map uncommented with
      | some part => if part.kind = kind then some part else none
      | none => none)
      = (match part? with
        | some part => if part.kind = kind then some part else none
        | none => none).map uncommented := by
  cases part? with
  | none => rfl
  | some part =>
    rw [Option.map_some]
    dsimp only
    rw [kind_uncommented]
    split <;> rfl

include h in
theorem propertyKeyNode?_uncommented :
    node.uncommented.propertyKeyNode? = node.propertyKeyNode?.map uncommented := by
  unfold propertyKeyNode?
  rw [kind_uncommented, child?_uncommented h, child?_uncommented h]
  split
  · rfl
  · exact ofKind_uncommented .shorthandPropertyIdentifierPattern (node.child? .left)
  · exact ofKind_uncommented .propertyIdentifier (node.child? .key)
  · rfl

include h in
theorem propertyNodes_uncommented :
    node.uncommented.propertyNodes = node.propertyNodes.map uncommented := by
  rw [propertyNodes, namedChildren_uncommented]
  refine filterMap_uncommentedEach ?_ ?_
  · exact fun entry hentry => propertyKeyNode?_uncommented (h.of_mem_namedChildren hentry)
  · exact fun entry _ hcomment => by simp [propertyKeyNode?, kind_of_isComment hcomment]

include h in
theorem propertyNames_uncommented : node.uncommented.propertyNames = node.propertyNames := by
  rw [propertyNames_eq, propertyNames_eq, propertyNodes_uncommented h, List.map_map]
  exact List.map_congr_left fun name _ => text_uncommented name

end Signature

/-- Whether a node is a rest pattern whose first named child is a comment. -/
def isCommentedRest (pattern : Node) : Bool :=
  pattern.kind == .restPattern && pattern.namedChildren.head?.any isComment

theorem head?_uncommentedEach {nodes : List Node} (h : nodes.head?.any isComment = false) :
    (uncommentedEach nodes).head? = nodes.head?.map uncommented := by
  cases nodes with
  | nil => simp
  | cons first rest =>
    rw [uncommentedEach_cons, if_neg (by simpa using h)]
    rfl

/-- A rest pattern is named by what stands behind its dots, unless that is a comment. -/
theorem head?_namedChildren_uncommented {pattern : Node} (hrest : pattern.isCommentedRest = false)
    (hkind : pattern.kind = .restPattern) :
    pattern.uncommented.namedChildren.head? = pattern.namedChildren.head?.map uncommented := by
  rw [namedChildren_uncommented]
  exact head?_uncommentedEach (by simpa [isCommentedRest, hkind] using hrest)

theorem patternReads_uncommented {pattern : Node} (h : pattern.CommentsApart)
    (hrest : pattern.isCommentedRest = false) :
    pattern.uncommented.patternReads = pattern.patternReads.map uncommented := by
  unfold patternReads
  rw [kind_uncommented]
  split
  · rfl
  · rename_i hkind
    rw [head?_namedChildren_uncommented hrest hkind, Option.toList_map]
  · exact propertyNodes_uncommented h
  · rfl

end Node

/-! ### Parameters -/

namespace ParamParts

/-- A parameter taken apart, without the comments in its parts. -/
def uncommented (parts : ParamParts) : ParamParts where
  pattern? := parts.pattern?.map Node.uncommented
  annotation? := parts.annotation?.map Node.uncommented
  default? := parts.default?.map Node.uncommented
  marked := parts.marked

@[simp] theorem pattern?_uncommented (parts : ParamParts) :
    parts.uncommented.pattern? = parts.pattern?.map Node.uncommented := rfl

@[simp] theorem annotation?_uncommented (parts : ParamParts) :
    parts.uncommented.annotation? = parts.annotation?.map Node.uncommented := rfl

@[simp] theorem default?_uncommented (parts : ParamParts) :
    parts.uncommented.default? = parts.default?.map Node.uncommented := rfl

@[simp] theorem marked_uncommented (parts : ParamParts) :
    parts.uncommented.marked = parts.marked := rfl

variable {param : Node} (h : param.CommentsApart)

include h in
theorem ofNode_uncommented : ofNode param.uncommented = (ofNode param).uncommented := by
  unfold ofNode
  rw [Node.kind_uncommented]
  simp only [Node.child?_uncommented h]
  split <;> rfl

include h in
/-- The comments of the parts of a parameter stand apart. -/
theorem commentsApart {part : Node}
    (hpart : (ofNode param).pattern? = some part ∨ (ofNode param).annotation? = some part ∨
      (ofNode param).default? = some part) : part.CommentsApart :=
  h.of_mem_walk (mem_walk_ofNode hpart)

/-- Whether a parameter takes the rest of the arguments under a pattern whose first named child is a
comment. -/
def isCommentedRest (parts : ParamParts) : Bool := parts.pattern?.any Node.isCommentedRest

variable (hrest : (ofNode param).isCommentedRest = false)

include h hrest in
theorem reads_uncommented :
    (ofNode param).uncommented.reads = (ofNode param).reads.map Node.uncommented := by
  rw [reads, reads, pattern?_uncommented, annotation?_uncommented, default?_uncommented]
  cases hpattern : (ofNode param).pattern? with
  | none => rfl
  | some pattern =>
    have htype : Node.typeReadsOf ((ofNode param).annotation?.map Node.uncommented)
        = (Node.typeReadsOf (ofNode param).annotation?).map Node.uncommented :=
      Node.typeReadsOf_uncommented fun type htype =>
        Node.typeReads_uncommented (commentsApart h (.inr (.inl htype)))
    have hreads := Node.patternReads_uncommented (commentsApart h (.inl hpattern))
      (by simpa [isCommentedRest, hpattern] using hrest)
    rw [Option.map_some]
    dsimp only
    rw [Node.defaultReads_uncommented, htype, hreads, List.map_append, List.map_append]

end ParamParts

namespace Param

/-- Comments do not change the record of a parameter. -/
theorem ofNode_uncommented {param : Node} (h : param.CommentsApart)
    (hrest : (ParamParts.ofNode param).isCommentedRest = false) :
    ofNode param.uncommented = ofNode param := by
  have htype : Node.descriptorOf ((ParamParts.ofNode param).annotation?.map Node.uncommented)
      = Node.descriptorOf (ParamParts.ofNode param).annotation? :=
    Node.descriptorOf_uncommented fun type htype =>
      Node.typeDescriptor_uncommented (ParamParts.commentsApart h (.inr (.inl htype)))
  have hdefault : ((ParamParts.ofNode param).default?.map Node.uncommented).map Node.defaultText
      = (ParamParts.ofNode param).default?.map Node.defaultText := by
    simp [Function.comp_def]
  unfold ofNode
  simp only [ParamParts.ofNode_uncommented h, ParamParts.reads_uncommented h hrest,
    Logged.read_uncommented, ParamParts.pattern?_uncommented, ParamParts.annotation?_uncommented,
    ParamParts.default?_uncommented, ParamParts.marked_uncommented, htype, hdefault,
    Option.isSome_map]
  congr 1
  funext _
  cases hpattern : (ParamParts.ofNode param).pattern? with
  | none => rfl
  | some pattern =>
    have hparts := ParamParts.commentsApart h (.inl hpattern)
    have hnamed : pattern.isCommentedRest = false := by
      simpa [ParamParts.isCommentedRest, hpattern] using hrest
    rw [Option.map_some]
    dsimp only
    rw [Node.kind_uncommented, Node.text_uncommented, Node.propertyNames_uncommented hparts]
    split
    · rfl
    · rename_i hkind
      rw [Node.head?_namedChildren_uncommented hnamed hkind, Node.textOf_uncommented]
    · rfl
    · rfl
    · rfl

end Param

/-! ### Props -/

namespace Node

section Props

variable {node : Node} (h : node.CommentsApart)

include h in
theorem entryDefault?_uncommented :
    node.uncommented.entryDefault? = node.entryDefault?.map uncommented := by
  unfold entryDefault?
  rw [kind_uncommented, child?_uncommented h, child?_uncommented h]
  split
  · rfl
  · cases hvalue : node.child? .value with
    | none => rfl
    | some value =>
      rw [Option.map_some]
      dsimp only
      rw [kind_uncommented, child?_uncommented (h.of_child? hvalue)]
      split <;> rfl
  · rfl

include h in
theorem memberNameNode?_uncommented :
    node.uncommented.memberNameNode? = node.memberNameNode?.map uncommented := by
  unfold memberNameNode?
  rw [child?_uncommented h]
  exact ofKind_uncommented .propertyIdentifier (node.child? .name)

include h in
theorem memberName?_uncommented : node.uncommented.memberName? = node.memberName? := by
  rw [memberName?, memberName?, memberNameNode?_uncommented h, Option.map_map]
  congr 1
  funext name
  exact text_uncommented name

include h in
theorem propertyKey?_uncommented : node.uncommented.propertyKey? = node.propertyKey? := by
  rw [propertyKey?, propertyKey?, propertyKeyNode?_uncommented h, Option.map_map]
  congr 1
  funext name
  exact text_uncommented name

end Props

theorem literalMembers_uncommented (mark? : Option Node) :
    literalMembers (mark?.map uncommented) = (literalMembers mark?).map uncommented := by
  have hfirst : (mark?.map uncommented).bind firstMember?
      = (mark?.bind firstMember?).map uncommented := by
    cases mark? with
    | none => rfl
    | some mark => exact firstMember?_uncommented mark
  rw [literalMembers, literalMembers, hfirst]
  cases mark?.bind firstMember? with
  | none => rfl
  | some type =>
    rw [Option.map_some]
    dsimp only
    rw [kind_uncommented, namedChildren_filter_uncommented (by decide)]
    split <;> rfl

end Node

namespace ComponentProp

section Entries

variable {node : Node} (h : node.CommentsApart)

include h in
theorem ofEntry?_uncommented : ofEntry? node.uncommented = ofEntry? node := by
  unfold ofEntry?
  rw [Node.propertyKey?_uncommented h, Node.entryDefault?_uncommented h]
  simp [Function.comp_def]

include h in
theorem ofMember?_uncommented : ofMember? node.uncommented = ofMember? node := by
  rw [ofMember?, ofMember?, Node.memberName?_uncommented h, Node.child?_uncommented h,
    Node.hasToken_uncommented h, Node.descriptorOf_uncommented fun type htype =>
      Node.typeDescriptor_uncommented (h.of_child? htype)]

include h in
theorem refine_uncommented (props : List ComponentProp) :
    refine props node.uncommented = refine props node := by
  rw [refine, refine, Node.memberName?_uncommented h, Node.child?_uncommented h]
  cases node.memberName? with
  | none => rfl
  | some name =>
    cases htype : node.child? .type with
    | none => rfl
    | some type =>
      have hdeclared : declaredBy node.uncommented type.uncommented = declaredBy node type := by
        funext prop
        rw [declaredBy, declaredBy, Node.hasToken_uncommented h,
          Node.typeDescriptor_uncommented (h.of_child? htype)]
      rw [Option.map_some]
      dsimp only
      rw [hdeclared]

include h in
theorem entryReads_uncommented :
    entryReads node.uncommented = (entryReads node).map Node.uncommented := by
  rw [entryReads, entryReads, Node.propertyKeyNode?_uncommented h,
    Node.entryDefault?_uncommented h, Node.defaultReads_uncommented]
  cases node.propertyKeyNode? <;> rfl

include h in
theorem memberReads_uncommented :
    memberReads node.uncommented = (memberReads node).map Node.uncommented := by
  rw [memberReads, memberReads, Node.memberNameNode?_uncommented h, Node.child?_uncommented h,
    Node.typeReadsOf_uncommented fun type htype =>
      Node.typeReads_uncommented (h.of_child? htype)]
  cases node.memberNameNode? <;> rfl

include h in
theorem refineReads_uncommented (props : List ComponentProp) :
    refineReads props node.uncommented = (refineReads props node).map Node.uncommented := by
  rw [refineReads, refineReads, Node.memberName?_uncommented h, memberReads_uncommented h,
    Node.memberNameNode?_uncommented h, Option.toList_map]
  split <;> rfl

end Entries

variable {param : Node} (h : param.CommentsApart)

include h in
theorem commentsApart_literalMembers {member : Node}
    (hmember : member ∈ Node.literalMembers (ParamParts.ofNode param).annotation?) :
    member.CommentsApart :=
  h.of_mem_walk (Node.mem_walk_of_mem_literalMembers
    (fun _ hmark => ParamParts.mem_walk_ofNode (.inr (.inl hmark))) hmember)

theorem ofEntry?_of_isComment {entry : Node} (hcomment : entry.isComment = true) :
    ofEntry? entry = none := by
  unfold ofEntry?
  simp [Node.propertyKey?, Node.propertyKeyNode?, Node.kind_of_isComment hcomment]

theorem entries_uncommented {pattern : Node} (h : pattern.CommentsApart) :
    pattern.uncommented.namedChildren.filterMap ofEntry?
      = pattern.namedChildren.filterMap ofEntry? := by
  have hentry : ∀ entry ∈ pattern.namedChildren,
      ofEntry? entry.uncommented = Option.map id ( ofEntry? entry) := fun entry hentry => by
    rw [Option.map_id]
    exact ofEntry?_uncommented (h.of_mem_namedChildren hentry)
  rw [Node.namedChildren_uncommented, Node.filterMap_uncommentedEach hentry
    fun entry _ hcomment => ofEntry?_of_isComment hcomment, List.map_id]

include h in
/-- Comments do not change the props that a parameter declares. -/
theorem ofParam_uncommented :
    ofParam (ParamParts.ofNode param).uncommented = ofParam (ParamParts.ofNode param) := by
  rw [ofParam, ofParam, ParamParts.pattern?_uncommented, ParamParts.annotation?_uncommented,
    Node.literalMembers_uncommented]
  cases hpattern : (ParamParts.ofNode param).pattern? with
  | none => rfl
  | some pattern =>
    rw [Option.map_some]
    dsimp only
    rw [Node.kind_uncommented, entries_uncommented (ParamParts.commentsApart h (.inl hpattern)),
      List.foldl_map, List.filterMap_map]
    split
    · refine List.foldl_ext _ _ _ fun props member hmember => ?_
      exact refine_uncommented (commentsApart_literalMembers h hmember) props
    · refine List.filterMap_congr fun member hmember => ?_
      exact ofMember?_uncommented (commentsApart_literalMembers h hmember)
    · rfl

include h in
theorem paramReads_uncommented :
    paramReads (ParamParts.ofNode param).uncommented
      = (paramReads (ParamParts.ofNode param)).map Node.uncommented := by
  rw [paramReads, paramReads, ParamParts.pattern?_uncommented, ParamParts.annotation?_uncommented,
    Node.literalMembers_uncommented]
  cases hpattern : (ParamParts.ofNode param).pattern? with
  | none => rfl
  | some pattern =>
    have happart := ParamParts.commentsApart h (.inl hpattern)
    rw [Option.map_some]
    dsimp only
    rw [Node.kind_uncommented, entries_uncommented happart, Node.namedChildren_uncommented,
      List.flatMap_map, List.flatMap_map]
    split
    · have hentries : (Node.uncommentedEach pattern.namedChildren).flatMap entryReads
          = (pattern.namedChildren.flatMap entryReads).map Node.uncommented := by
        refine Node.flatMap_uncommentedEach ?_ ?_
        · exact fun entry hentry => entryReads_uncommented (happart.of_mem_namedChildren hentry)
        · exact fun entry _ hcomment => by
            simp [entryReads, Node.propertyKeyNode?, Node.kind_of_isComment hcomment]
      rw [List.map_append, hentries, List.map_flatMap (l := Node.literalMembers _)]
      congr 1
      refine List.flatMap_congr fun member hmember => ?_
      exact refineReads_uncommented (commentsApart_literalMembers h hmember) _
    · rw [List.map_flatMap]
      refine List.flatMap_congr fun member hmember => ?_
      exact memberReads_uncommented (commentsApart_literalMembers h hmember)
    · rfl

end ComponentProp

/-! ### Components -/

namespace Node

variable {node : Node} (h : node.CommentsApart)

include h in
theorem CommentsApart.of_mem_parameters {param : Node} (hparam : param ∈ node.parameters) :
    param.CommentsApart :=
  h.of_mem_walk (mem_walk_of_mem_parameters hparam)

include h in
theorem props_uncommented : node.uncommented.props = node.props := by
  rw [props, props, parameters_uncommented h]
  cases hparams : node.parameters with
  | nil => rfl
  | cons param rest =>
    have hparam := h.of_mem_parameters (hparams ▸ List.mem_cons_self)
    exact (congrArg _ (ParamParts.ofNode_uncommented hparam)).trans
      (ComponentProp.ofParam_uncommented hparam)

include h in
theorem propReads_uncommented : node.uncommented.propReads = node.propReads.map uncommented := by
  rw [propReads, propReads, parameters_uncommented h]
  cases hparams : node.parameters with
  | nil => rfl
  | cons param rest =>
    have hparam := h.of_mem_parameters (hparams ▸ List.mem_cons_self)
    exact (congrArg _ (ParamParts.ofNode_uncommented hparam)).trans
      (ComponentProp.paramReads_uncommented hparam)

include h in
theorem calledName?_uncommented :
    node.uncommented.calledName? = node.calledName?.map uncommented := by
  unfold calledName?
  rw [isCall_uncommented, child?_uncommented h]
  split
  · exact ofKind_uncommented .identifier (node.child? .function)
  · rfl

include h in
theorem hookCall?_uncommented : node.uncommented.hookCall? = node.hookCall? := by
  rw [hookCall?, hookCall?, calledName?_uncommented h, Option.map_map]
  congr 2
  funext name
  exact text_uncommented name

theorem calledName?_of_isComment {node : Node} (hcomment : node.isComment = true) :
    node.calledName? = none := by
  simp [calledName?, isCall, kind_of_isComment hcomment]

include h in
theorem hooks_uncommented : node.uncommented.hooks = node.hooks := by
  rw [hooks, hooks, child?_uncommented h]
  cases hbody : node.child? .body with
  | none => rfl
  | some body =>
    have happart := h.of_child? hbody
    rw [Option.map_some]
    dsimp only
    rw [visit_eq_foldl snd_collectHook, visit_eq_foldl snd_collectHook,
      walk_uncommented happart (h.not_isComment_of_child? hbody)]
    refine foldl_uncommentedEach ?_ ?_ []
    · intro inner hinner found
      rw [collectHook, collectHook, hookCall?_uncommented (happart.of_mem_walk hinner)]
    · intro inner _ hcomment found
      rw [collectHook, hookCall?, calledName?_of_isComment hcomment]
      rfl

include h in
theorem hookReads_uncommented : node.uncommented.hookReads = node.hookReads.map uncommented := by
  rw [hookReads, hookReads, child?_uncommented h]
  cases hbody : node.child? .body with
  | none => rfl
  | some body =>
    have happart := h.of_child? hbody
    rw [Option.map_some]
    dsimp only
    rw [walk_uncommented happart (h.not_isComment_of_child? hbody)]
    refine filterMap_uncommentedEach ?_ ?_
    · exact fun inner hinner => calledName?_uncommented (happart.of_mem_walk hinner)
    · exact fun inner _ hcomment => calledName?_of_isComment hcomment

include h in
theorem componentReads_uncommented :
    node.uncommented.componentReads = node.componentReads.map uncommented := by
  rw [componentReads, componentReads, propReads_uncommented h, hookReads_uncommented h,
    List.map_append]

include h in
/-- Comments do not change whether a function is a component. -/
theorem isComponent_uncommented : node.uncommented.isComponent = node.isComponent := by
  rw [isComponent, isComponent, child?_uncommented h]
  cases hbody : node.child? .body with
  | none => rfl
  | some body =>
    exact contains_uncommented (h.of_child? hbody) (h.not_isComment_of_child? hbody) rfl

include h in
/-- Comments do not change the record of a component. -/
theorem describe_uncommented (name path : String) (imports : List Import)
    (wrappers : List String) :
    Component.describe node.uncommented name path imports wrappers
      = Component.describe node name path imports wrappers := by
  rw [Component.describe, Component.describe, kind_uncommented, props_uncommented h,
    hooks_uncommented h]

/-! ### Wrapper calls -/

include h in
theorem appliedName?_uncommented :
    node.uncommented.appliedName? = node.appliedName?.map uncommented := by
  unfold appliedName?
  rw [isCall_uncommented, child?_uncommented h]
  split
  · cases node.child? .function with
    | none => rfl
    | some callee =>
      rw [Option.map_some]
      dsimp only
      rw [kind_uncommented]
      split <;> rfl
  · rfl

include h in
theorem wrapperName?_uncommented : node.uncommented.wrapperName? = node.wrapperName? := by
  rw [wrapperName?, wrapperName?, appliedName?_uncommented h, Option.map_map]
  congr 2
  funext callee
  exact congrArg Text.unspaced (text_uncommented callee)

include h in
theorem firstArgument?_uncommented :
    node.uncommented.firstArgument? = node.firstArgument?.map uncommented := by
  rw [firstArgument?, firstArgument?, child?_uncommented h]
  cases node.child? .arguments with
  | none => rfl
  | some list =>
    rw [Option.map_some, Option.bind_some, Option.bind_some, firstMember?_uncommented]
    cases list.firstMember? with
    | none => rfl
    | some first => exact stripParens_uncommented first

end Node

/-- The end of a chain of wrapper calls without the comments in it. -/
def Unwrapped.uncommented (unwrapped : Unwrapped) : Unwrapped :=
  ⟨unwrapped.target?.map Node.uncommented, unwrapped.chain⟩

/-- Comments do not change where a chain of wrapper calls ends. -/
theorem Node.unwrapFrom_uncommented (line : Nat) {call : Node} (h : call.CommentsApart) :
    call.uncommented.unwrapFrom line = Unwrapped.uncommented <$> call.unwrapFrom line := by
  rw [unwrapFrom_eq, unwrapFrom_eq line call, appliedName?_uncommented h,
    wrapperName?_uncommented h, firstArgument?_uncommented h, Option.toList_map,
    Logged.read_uncommented, map_bind]
  apply bind_congr
  intro _
  cases call.wrapperName? with
  | none => rfl
  | some name =>
    cases hargument : call.firstArgument? with
    | none => rfl
    | some argument =>
      have hlt := size_lt_of_firstArgument? hargument
      have hinner := unwrapFrom_uncommented line (h.of_mem_walk (mem_walk_of_firstArgument? hargument))
      have hread : Logged.read [argument.uncommented] = Logged.read [argument] :=
        Logged.read_uncommented [argument]
      rw [Option.map_some]
      dsimp only
      rw [isFunctionExpression_uncommented, isCall_uncommented, kind_uncommented, text_uncommented,
        hinner, hread, bind_map_left]
      split
      · rfl
      · split
        · rw [map_bind]
          rfl
        · split
          · rw [map_bind]
            rfl
          · rfl
termination_by call.size

theorem Component.ofWrapper_uncommented {call : Node} (h : call.CommentsApart)
    (name path : String) (imports : List Import) :
    ofWrapper call.uncommented name path imports = ofWrapper call name path imports := by
  rw [ofWrapper, ofWrapper, Node.unwrap, Node.unwrap, Node.line_uncommented,
    Node.unwrapFrom_uncommented _ h, bind_map_left]
  -- what the chain ends at lies inside the call, so that its comments stand apart
  apply Logged.bind_congr_value
  rw [Unwrapped.uncommented]
  cases htarget : (call.unwrapFrom call.line).value.target? with
  | none => rfl
  | some target =>
    have happart := h.of_mem_walk (Node.mem_walk_of_target? htarget)
    rw [Option.map_some, Option.elim_some, Option.elim_some, Option.map_some, Option.map_some,
      Node.componentReads_uncommented happart, Logged.read_uncommented,
      Node.describe_uncommented happart]

end ComponentSurvey
