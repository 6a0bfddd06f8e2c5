import ComponentSurvey.Proofs.Readable
import Mathlib.Data.List.Basic
import Mathlib.Data.List.Find

/-!
# Trees without their comments

A comment may stand between any two children of a node. A tree without its comments has the same
nodes otherwise, with the same labels, and every way in which a node is asked for its parts skips
comments: parts under a field and members because no comment is one, tokens because comments are
named, and selections by kind because comments have a kind of their own.

* `Node.uncommented` — a tree without the comments below its root.
* `Node.CommentsApart` — comments are named leaves that no parent holds under a field.
* `Node.find?_uncommentedEach`, `Node.filterMap_uncommentedEach`, `Node.foldl_uncommentedEach` — what
  is computed from a list of nodes by a function that has nothing to say of comments.
* `Node.child?_uncommented`, `Node.members_uncommented`, `Node.hasToken_uncommented` — the parts of a
  construct.
* `Node.walk_uncommented` — the nodes of the tree that are no comments.
-/

namespace ComponentSurvey

namespace Node

/-- Whether a node is a comment. -/
def isComment (node : Node) : Bool := node.kind == .comment

mutual

/-- A tree without the comments below its root. -/
def uncommented : Node → Node
  | mk label children => mk label (uncommentedEach children)

/-- A list of trees without the comments in it and below. -/
def uncommentedEach : List Node → List Node
  | [] => []
  | node :: rest =>
    if node.isComment then uncommentedEach rest else node.uncommented :: uncommentedEach rest

end

/-- The comments of a tree are named leaves that no parent holds under a field. -/
def CommentsApart (root : Node) : Prop :=
  ∀ node ∈ root.walk, node.isComment = true →
    node.named = true ∧ node.children = [] ∧ node.label.field = none

theorem CommentsApart.of_mem_walk {root node : Node} (h : root.CommentsApart)
    (hnode : node ∈ root.walk) : node.CommentsApart :=
  fun inner hinner => h inner (mem_walk_trans hnode hinner)

/-! ### Labels -/

@[simp] theorem label_uncommented (node : Node) : node.uncommented.label = node.label := by
  cases node
  rfl

@[simp] theorem kind_uncommented (node : Node) : node.uncommented.kind = node.kind := by
  simp [kind]

@[simp] theorem named_uncommented (node : Node) : node.uncommented.named = node.named := by
  simp [named]

@[simp] theorem text_uncommented (node : Node) : node.uncommented.text = node.text := by
  simp [text]

@[simp] theorem start_uncommented (node : Node) : node.uncommented.start = node.start := by
  simp [start]

@[simp] theorem line_uncommented (node : Node) : node.uncommented.line = node.line := by
  simp [line]

@[simp] theorem fault?_uncommented (node : Node) : node.uncommented.fault? = node.fault? := by
  simp [fault?]

@[simp] theorem isUnder_uncommented (field : Field) (node : Node) :
    node.uncommented.isUnder field = node.isUnder field := by
  simp [isUnder]

@[simp] theorem isMember_uncommented (node : Node) :
    node.uncommented.isMember = node.isMember := by
  simp [isMember]

@[simp] theorem isCall_uncommented (node : Node) : node.uncommented.isCall = node.isCall := by
  simp [isCall]

@[simp] theorem isFunctionExpression_uncommented (node : Node) :
    node.uncommented.isFunctionExpression = node.isFunctionExpression := by
  simp [isFunctionExpression]

theorem kind_of_isComment {node : Node} (h : node.isComment = true) : node.kind = .comment :=
  beq_iff_eq.1 h

/-! ### Lists without comments -/

/-- Items that give nothing may be left out. -/
theorem flatMap_filter_of_forall {α β : Type} {keep : α → Bool} {f : α → List β} {items : List α}
    (h : ∀ item ∈ items, keep item = false → f item = []) :
    (items.filter keep).flatMap f = items.flatMap f := by
  induction items with
  | nil => rfl
  | cons item rest ih =>
    have hrest := ih fun other hother => h other (List.mem_cons_of_mem _ hother)
    rw [List.flatMap_cons]
    cases hitem : keep item with
    | true => rw [List.filter_cons_of_pos hitem, List.flatMap_cons, hrest]
    | false =>
      rw [List.filter_cons_of_neg (by simp [hitem]), hrest, h item List.mem_cons_self hitem,
        List.nil_append]

section Lists

variable {β γ σ : Type} {nodes : List Node}

@[simp] theorem uncommentedEach_nil : uncommentedEach [] = [] := by simp [uncommentedEach]

theorem uncommentedEach_cons (node : Node) (rest : List Node) :
    uncommentedEach (node :: rest)
      = if node.isComment then uncommentedEach rest
        else node.uncommented :: uncommentedEach rest := by
  rw [uncommentedEach]

theorem uncommentedEach_eq (nodes : List Node) :
    uncommentedEach nodes = (nodes.filter fun node => !node.isComment).map uncommented := by
  induction nodes with
  | nil => simp
  | cons node rest ih =>
    rw [uncommentedEach_cons, ih]
    cases hcomment : node.isComment <;> simp [hcomment]

theorem uncommentedEach_append (first second : List Node) :
    uncommentedEach (first ++ second) = uncommentedEach first ++ uncommentedEach second := by
  simp [uncommentedEach_eq]

/-- What is selected from a list by a test that knows no comments. -/
theorem filter_uncommentedEach {wanted : Node → Bool}
    (hwanted : ∀ node ∈ nodes, wanted node.uncommented = wanted node) :
    (uncommentedEach nodes).filter wanted = uncommentedEach (nodes.filter wanted) := by
  rw [uncommentedEach_eq, uncommentedEach_eq, List.filter_map, List.filter_filter,
    List.filter_filter]
  congr 1
  apply List.filter_congr
  intro node hnode
  simp [hwanted node hnode, Bool.and_comm]

/-- The first item that passes a test which no comment passes. -/
theorem find?_uncommentedEach {wanted : Node → Bool}
    (hwanted : ∀ node ∈ nodes, wanted node.uncommented = wanted node)
    (hcomment : ∀ node ∈ nodes, node.isComment = true → wanted node = false) :
    (uncommentedEach nodes).find? wanted = (nodes.find? wanted).map uncommented := by
  rw [uncommentedEach_eq, List.find?_map, List.find?_filter]
  congr 1
  apply List.find?_congr
  intro node hnode
  cases hnodes : node.isComment with
  | true => simp [hcomment node hnode hnodes]
  | false => simp [hwanted node hnode]

/-- What is read off the items of a list, where nothing is read off a comment. -/
theorem filterMap_uncommentedEach {f : Node → Option β} {g : Node → Option γ} {image : β → γ}
    (hf : ∀ node ∈ nodes, g node.uncommented = (f node).map image)
    (hcomment : ∀ node ∈ nodes, node.isComment = true → f node = none) :
    (uncommentedEach nodes).filterMap g = (nodes.filterMap f).map image := by
  rw [uncommentedEach_eq, List.filterMap_map, List.filterMap_filter, List.map_filterMap]
  apply List.filterMap_congr
  intro node hnode
  cases hnodes : node.isComment with
  | true => simp [hcomment node hnode hnodes]
  | false => simp [hf node hnode]

theorem flatMap_uncommentedEach {f : Node → List β} {g : Node → List γ} {image : β → γ}
    (hf : ∀ node ∈ nodes, g node.uncommented = (f node).map image)
    (hcomment : ∀ node ∈ nodes, node.isComment = true → f node = []) :
    (uncommentedEach nodes).flatMap g = (nodes.flatMap f).map image := by
  rw [uncommentedEach_eq, List.flatMap_map, List.map_flatMap, flatMap_filter_of_forall]
  · exact List.flatMap_congr hf
  · intro node hnode hdropped
    rw [hf node hnode, hcomment node hnode (by simpa using hdropped), List.map_nil]

/-- Whether an item passes a test which no comment passes. -/
theorem any_uncommentedEach {wanted : Node → Bool}
    (hwanted : ∀ node ∈ nodes, wanted node.uncommented = wanted node)
    (hcomment : ∀ node ∈ nodes, node.isComment = true → wanted node = false) :
    (uncommentedEach nodes).any wanted = nodes.any wanted := by
  rw [uncommentedEach_eq, List.any_map, List.any_filter, Bool.eq_iff_iff]
  simp only [List.any_eq_true]
  refine exists_congr fun node => and_congr_right fun hnode => ?_
  cases hnodes : node.isComment with
  | true => simp [hcomment node hnode hnodes]
  | false => simp [hwanted node hnode]

/-- A state that no comment changes is the same after a list without comments. -/
theorem foldl_uncommentedEach {step : σ → Node → σ}
    (hstep : ∀ node ∈ nodes, ∀ state, step state node.uncommented = step state node)
    (hcomment : ∀ node ∈ nodes, node.isComment = true → ∀ state, step state node = state)
    (state : σ) : (uncommentedEach nodes).foldl step state = nodes.foldl step state := by
  induction nodes generalizing state with
  | nil => simp
  | cons node rest ih =>
    have hrest := ih (fun other h => hstep other (List.mem_cons_of_mem _ h))
      fun other h => hcomment other (List.mem_cons_of_mem _ h)
    rw [uncommentedEach_cons, List.foldl_cons]
    cases hnode : node.isComment with
    | true => rw [if_pos rfl, hrest, hcomment node List.mem_cons_self hnode]
    | false =>
      rw [if_neg (by simp), List.foldl_cons, hrest, hstep node List.mem_cons_self]

/-- Of a list without comments nothing is lost. -/
theorem uncommentedEach_of_forall (h : ∀ node ∈ nodes, node.isComment = false) :
    uncommentedEach nodes = nodes.map uncommented := by
  rw [uncommentedEach_eq, List.filter_eq_self.2 fun node hnode => by simp [h node hnode]]

end Lists

/-! ### Parts of a construct -/

theorem children_uncommented (node : Node) :
    node.uncommented.children = uncommentedEach node.children := by
  cases node
  rfl

theorem namedChildren_uncommented (node : Node) :
    node.uncommented.namedChildren = uncommentedEach node.namedChildren := by
  rw [namedChildren, children_uncommented]
  exact filter_uncommentedEach fun child _ => named_uncommented child

/-- The named children of one kind, which is not that of comments. -/
theorem namedChildren_filter_uncommented {kind : Kind} (hkind : kind ≠ .comment) (node : Node) :
    (node.uncommented.namedChildren.filter fun child => child.kind == kind)
      = (node.namedChildren.filter fun child => child.kind == kind).map uncommented := by
  rw [namedChildren_uncommented,
    filter_uncommentedEach fun child _ => by rw [kind_uncommented],
    uncommentedEach_of_forall]
  intro child hchild
  rw [isComment, beq_iff_eq.1 (List.mem_filter.1 hchild).2]
  exact beq_false_of_ne hkind

theorem not_isMember {node : Node} (h : node.isComment = true) : node.isMember = false := by
  simp [isMember, kind_of_isComment h]

theorem members_uncommented (node : Node) :
    node.uncommented.members = node.members.map uncommented := by
  rw [members, children_uncommented, filter_uncommentedEach fun child _ => child.isMember_uncommented]
  refine uncommentedEach_of_forall fun child hchild => ?_
  by_contra hcomment
  have hmember := (List.mem_filter.1 hchild).2
  rw [not_isMember (by simpa using hcomment)] at hmember
  cases hmember

theorem firstMember?_uncommented (node : Node) :
    node.uncommented.firstMember? = node.firstMember?.map uncommented := by
  rw [firstMember?, children_uncommented]
  exact find?_uncommentedEach (fun child _ => child.isMember_uncommented)
    fun child _ hcomment => not_isMember hcomment

section Apart

variable {node : Node} (h : node.CommentsApart)

include h in
theorem CommentsApart.child_of_isComment {child : Node} (hchild : child ∈ node.children)
    (hcomment : child.isComment = true) :
    child.named = true ∧ child.children = [] ∧ child.label.field = none :=
  h child (mem_walk_of_mem_children hchild child.mem_walk_self) hcomment

include h in
theorem CommentsApart.of_child? {child : Node} {field : Field}
    (hchild : node.child? field = some child) : child.CommentsApart :=
  h.of_mem_walk (mem_walk_of_child? hchild)

include h in
theorem CommentsApart.of_firstMember? {child : Node} (hchild : node.firstMember? = some child) :
    child.CommentsApart :=
  h.of_mem_walk (mem_walk_of_firstMember? hchild)

include h in
theorem CommentsApart.of_mem_namedChildren {child : Node} (hchild : child ∈ node.namedChildren) :
    child.CommentsApart :=
  h.of_mem_walk (mem_walk_of_mem_namedChildren hchild)

include h in
/-- What is held under a field is no comment. -/
theorem CommentsApart.not_isComment_of_child? {child : Node} {field : Field}
    (hchild : node.child? field = some child) : child.isComment = false := by
  by_contra hcomment
  have hfield := (h.child_of_isComment (List.mem_of_find?_eq_some hchild)
    (by simpa using hcomment)).2.2
  have hunder := List.find?_some hchild
  simp [isUnder, hfield] at hunder

include h in
theorem child?_uncommented (field : Field) :
    node.uncommented.child? field = (node.child? field).map uncommented := by
  rw [child?, children_uncommented]
  refine find?_uncommentedEach (fun child _ => child.isUnder_uncommented field) ?_
  intro child hchild hcomment
  simp [isUnder, (h.child_of_isComment hchild hcomment).2.2]

include h in
/-- Comments are no bare tokens. -/
theorem hasToken_uncommented (kind : Kind) :
    node.uncommented.hasToken kind = node.hasToken kind := by
  rw [hasToken, hasToken, children_uncommented]
  refine any_uncommentedEach (fun child _ => by rw [named_uncommented, kind_uncommented]) ?_
  intro child hchild hcomment
  rw [(h.child_of_isComment hchild hcomment).1]
  rfl

include h in
theorem ownNameNode?_uncommented :
    node.uncommented.ownNameNode? = node.ownNameNode?.map uncommented := by
  unfold ownNameNode?
  rw [kind_uncommented, child?_uncommented h]
  split
  · rfl
  · rfl
  · rfl
  · cases node.child? .name with
    | none => rfl
    | some name =>
      simp only [Option.map_some, kind_uncommented]
      split <;> rfl

end Apart

theorem stripParens_uncommented (node : Node) :
    node.uncommented.stripParens = node.stripParens.map uncommented := by
  induction node using childInduction with
  | step node ih =>
    by_cases hk : node.kind = .parenthesizedExpression
    · rw [stripParens_of_parens hk, stripParens_of_parens (node.kind_uncommented.trans hk),
        firstMember?_uncommented]
      cases hmember : node.firstMember? with
      | none => rfl
      | some member => exact ih member (List.mem_of_find?_eq_some hmember)
    · rw [stripParens_of_ne hk, stripParens_of_ne (by rw [kind_uncommented]; exact hk)]
      rfl

/-! ### Traversals -/

theorem preorders_uncommentedEach {nodes : List Node}
    (ih : ∀ node ∈ nodes, node.isComment = false →
      node.uncommented.preorder = uncommentedEach node.preorder)
    (hleaf : ∀ node ∈ nodes, node.isComment = true → node.children = []) :
    preorders (uncommentedEach nodes) = uncommentedEach (preorders nodes) := by
  induction nodes with
  | nil => simp
  | cons node rest ihrest =>
    have hrest := ihrest (fun other h => ih other (List.mem_cons_of_mem _ h))
      fun other h => hleaf other (List.mem_cons_of_mem _ h)
    rw [preorders_cons, uncommentedEach_append, ← hrest, uncommentedEach_cons]
    cases hcomment : node.isComment with
    | false =>
      rw [if_neg (by simp), preorders_cons, ih node List.mem_cons_self hcomment]
    | true =>
      rw [if_pos rfl, preorder_eq, hleaf node List.mem_cons_self hcomment, preorders_nil,
        uncommentedEach_cons, if_pos hcomment]
      simp

/-- The nodes of a tree without comments are the nodes of the tree that are no comments. -/
theorem walk_uncommented {node : Node} (h : node.CommentsApart) (hnode : node.isComment = false) :
    node.uncommented.walk = uncommentedEach node.walk := by
  rw [walk_eq_preorder, walk_eq_preorder]
  induction node using childInduction with
  | step node ih =>
    rw [preorder_eq, preorder_eq, children_uncommented, uncommentedEach_cons,
      if_neg (by simp [hnode]), preorders_uncommentedEach]
    · intro child hchild hcomment
      refine ih child hchild (h.of_mem_walk ?_) hcomment
      exact mem_walk_of_mem_children hchild child.mem_walk_self
    · exact fun child hchild hcomment => (h.child_of_isComment hchild hcomment).2.1

theorem contains_uncommented {node : Node} {wanted : Kind → Bool} (h : node.CommentsApart)
    (hnode : node.isComment = false) (hwanted : wanted .comment = false) :
    node.uncommented.contains wanted = node.contains wanted := by
  rw [contains, contains, walk_uncommented h hnode]
  refine any_uncommentedEach (fun inner _ => by rw [kind_uncommented]) ?_
  intro inner _ hcomment
  rw [kind_of_isComment hcomment, hwanted]

end Node

end ComponentSurvey
