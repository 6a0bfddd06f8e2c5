import ComponentSurvey.Proofs.Comments.Function
import Mathlib.Data.List.Basic

/-!
# Comments do not affect a survey

The bindings of a tree without its comments are the bindings of the tree, each in its place without
comments. Considered one after the other they make the same ledger.

* `Node.cursorsBelow_uncommented` — the places of the tree that hold no comment.
* `Binding.ofTree_uncommented` — the bindings of a tree.
* `Ledger.consider_uncommented` — one step of the run.
* `Findings.ofTree_uncommented` — the whole run.
* `FileSurvey.survey_uncommented` — the survey of a tree.
* `FileSurvey.survey_commentedRest` — the one place at which a comment counts.
-/

namespace ComponentSurvey

/-! ### Places -/

namespace Cursor

/-- A place without the comments in the tree around it. -/
def uncommented (cursor : Cursor) : Cursor :=
  ⟨cursor.node.uncommented, cursor.ancestors.map Node.uncommented⟩

@[simp] theorem node_uncommented (cursor : Cursor) :
    cursor.uncommented.node = cursor.node.uncommented := rfl

theorem enclosing_uncommented (cursor : Cursor) :
    cursor.uncommented.enclosing = cursor.enclosing.map Node.uncommented := by
  rw [enclosing, uncommented, List.dropWhile_map]
  simp only [Function.comp_def, Node.kind_uncommented]
  rfl

theorem isExported_uncommented (cursor : Cursor) :
    cursor.uncommented.isExported = cursor.isExported := by
  rw [isExported, isExported, enclosing_uncommented]
  cases cursor.enclosing with
  | nil => rfl
  | cons parent above =>
    rw [List.map_cons]
    dsimp only
    rw [Node.kind_uncommented]
    match above with
    | [] => rfl
    | [_] => rfl
    | statement :: outer :: rest =>
      simp only [List.map_cons, Node.kind_uncommented]

theorem isTopLevel_uncommented (cursor : Cursor) :
    cursor.uncommented.isTopLevel = cursor.isTopLevel := by
  rw [isTopLevel, isTopLevel, uncommented, List.dropWhile_map]
  simp only [Function.comp_def, Node.kind_uncommented]
  cases cursor.ancestors.dropWhile fun node => node.kind.isModuleScope with
  | nil => rfl
  | cons parent above => simp

theorem child?_uncommented {cursor : Cursor} (h : cursor.node.CommentsApart) (field : Field) :
    cursor.uncommented.child? field = (cursor.child? field).map uncommented := by
  rw [child?, child?, node_uncommented, Node.child?_uncommented h, Option.map_map, Option.map_map]
  rfl

end Cursor

namespace Node

theorem stripParensBelow_uncommented (node : Node) (ancestors : List Node) :
    node.uncommented.stripParensBelow (ancestors.map uncommented)
      = (node.stripParensBelow ancestors).map Cursor.uncommented := by
  induction node using childInduction generalizing ancestors with
  | step node ih =>
    by_cases hk : node.kind = .parenthesizedExpression
    · rw [stripParensBelow_of_parens _ hk,
        stripParensBelow_of_parens _ (node.kind_uncommented.trans hk), firstMember?_uncommented]
      cases hmember : node.firstMember? with
      | none => rfl
      | some member => exact ih member (List.mem_of_find?_eq_some hmember) (node :: ancestors)
    · rw [stripParensBelow_of_ne _ hk,
        stripParensBelow_of_ne _ (by rw [kind_uncommented]; exact hk)]
      rfl

theorem cursorsEach_uncommentedEach {nodes ancestors : List Node}
    (ih : ∀ node ∈ nodes, node.isComment = false →
      node.uncommented.cursorsBelow (ancestors.map uncommented)
        = ((node.cursorsBelow ancestors).filter fun cursor => !cursor.node.isComment).map
          Cursor.uncommented)
    (hleaf : ∀ node ∈ nodes, node.isComment = true → node.children = []) :
    cursorsEach (ancestors.map uncommented) (uncommentedEach nodes)
      = ((cursorsEach ancestors nodes).filter fun cursor => !cursor.node.isComment).map
        Cursor.uncommented := by
  induction nodes with
  | nil => simp
  | cons node rest ihrest =>
    have hrest := ihrest (fun other h => ih other (List.mem_cons_of_mem _ h))
      fun other h => hleaf other (List.mem_cons_of_mem _ h)
    rw [cursorsEach_cons, List.filter_append, List.map_append, ← hrest, uncommentedEach_cons]
    cases hcomment : node.isComment with
    | false => rw [if_neg (by simp), cursorsEach_cons, ih node List.mem_cons_self hcomment]
    | true =>
      rw [if_pos rfl, cursorsBelow_eq, hleaf node List.mem_cons_self hcomment]
      simp [hcomment]

/-- The places of a tree without comments are the places of the tree that hold no comment. -/
theorem cursorsBelow_uncommented {node : Node} (h : node.CommentsApart)
    (hnode : node.isComment = false) (ancestors : List Node) :
    node.uncommented.cursorsBelow (ancestors.map uncommented)
      = ((node.cursorsBelow ancestors).filter fun cursor => !cursor.node.isComment).map
        Cursor.uncommented := by
  induction node using childInduction generalizing ancestors with
  | step node ih =>
    rw [cursorsBelow_eq, cursorsBelow_eq, children_uncommented, ← List.map_cons,
      cursorsEach_uncommentedEach, List.filter_cons_of_pos (by simp [hnode]), List.map_cons]
    · rfl
    · intro child hchild hcomment
      refine ih child hchild (h.of_mem_walk ?_) hcomment (node :: ancestors)
      exact mem_walk_of_mem_children hchild child.mem_walk_self
    · exact fun child hchild hcomment => (h.child_of_isComment hchild hcomment).2.1

end Node

/-! ### Bindings -/

theorem Cursor.declaredNode?_uncommented {declarator : Node} (h : declarator.CommentsApart) :
    declaredNode? declarator.uncommented = (declaredNode? declarator).map Node.uncommented := by
  unfold declaredNode?
  rw [Node.child?_uncommented h]
  exact Node.ofKind_uncommented .identifier (declarator.child? .name)

theorem Cursor.declaredName?_uncommented {declarator : Node} (h : declarator.CommentsApart) :
    declaredName? declarator.uncommented = declaredName? declarator := by
  rw [declaredName?, declaredName?, declaredNode?_uncommented h, Option.map_map]
  congr 1
  funext name
  exact Node.text_uncommented name

namespace Binding

/-- A binding without the comments in the tree around it. -/
def uncommented (binding : Binding) : Binding :=
  { binding with cursor := binding.cursor.uncommented }

variable {cursor : Cursor} (h : cursor.node.CommentsApart)

include h in
theorem value?_uncommented :
    value? cursor.uncommented = (value? cursor).map Cursor.uncommented := by
  rw [value?, value?, Cursor.child?_uncommented h]
  cases cursor.child? .value with
  | none => rfl
  | some value => exact Node.stripParensBelow_uncommented value.node value.ancestors

theorem mem_walk_of_value? {value : Cursor} (hvalue : value? cursor = some value) :
    value.node ∈ cursor.node.walk := by
  obtain ⟨child, hchild, hstrip⟩ := Option.bind_eq_some_iff.1 hvalue
  obtain ⟨node, hnode, rfl⟩ := Option.map_eq_some_iff.1 hchild
  have hinner : node.stripParens = some value.node := by
    rw [← Cursor.map_node_stripParens ⟨node, cursor.node :: cursor.ancestors⟩, hstrip]
    rfl
  exact Node.mem_walk_trans (Node.mem_walk_of_child? hnode) (Node.mem_walk_of_stripParens hinner)

include h in
theorem ofDeclaration?_uncommented :
    ofDeclaration? cursor.uncommented = (ofDeclaration? cursor).map uncommented := by
  rw [ofDeclaration?, ofDeclaration?, Cursor.isTopLevel_uncommented, Cursor.node_uncommented,
    Node.ownName?, Node.ownName?, Node.ownNameNode?_uncommented h]
  cases cursor.node.ownNameNode? with
  | none => rfl
  | some name =>
    rw [Option.map_some, Option.map_some, Option.map_some, Option.map_some, Option.map_some,
      Node.text_uncommented]
    rfl

include h in
theorem ofDeclarator?_uncommented :
    ofDeclarator? cursor.uncommented = (ofDeclarator? cursor).map uncommented := by
  have hvalue : (cursor.uncommented.child? .value).bind Cursor.stripParens
      = (value? cursor).map Cursor.uncommented := value?_uncommented h
  rw [ofDeclarator?, ofDeclarator?, hvalue, Cursor.isTopLevel_uncommented, Cursor.node_uncommented,
    Cursor.declaredName?_uncommented h, ← value?]
  cases Cursor.declaredName? cursor.node with
  | none => rfl
  | some name =>
    cases hbound : value? cursor with
    | none => rfl
    | some value =>
      have happart := h.of_mem_walk (mem_walk_of_value? hbound)
      rw [Option.map_some]
      dsimp only
      rw [Cursor.node_uncommented, Node.isFunctionExpression_uncommented,
        Node.wrapperName?_uncommented happart]
      split
      · rfl
      · split <;> rfl

include h in
theorem ofExport?_uncommented :
    ofExport? cursor.uncommented = (ofExport? cursor).map uncommented := by
  have hvalue : (cursor.uncommented.child? .value).bind Cursor.stripParens
      = (value? cursor).map Cursor.uncommented := value?_uncommented h
  rw [ofExport?, ofExport?, hvalue, Cursor.isTopLevel_uncommented, Cursor.node_uncommented,
    Node.hasToken_uncommented h, ← value?]
  split
  · cases hbound : value? cursor with
    | none => rfl
    | some value =>
      have happart := h.of_mem_walk (mem_walk_of_value? hbound)
      rw [Option.map_some]
      dsimp only
      rw [Cursor.node_uncommented, Node.isFunctionExpression_uncommented,
        Node.wrapperName?_uncommented happart]
      split <;> rfl
  · rfl

include h in
/-- A node makes the same binding without comments. -/
theorem ofCursor?_uncommented :
    ofCursor? cursor.uncommented = (ofCursor? cursor).map uncommented := by
  unfold ofCursor?
  rw [Cursor.node_uncommented, Node.kind_uncommented, ofDeclaration?_uncommented h,
    ofDeclarator?_uncommented h, ofExport?_uncommented h]
  split <;> rfl

include h in
theorem valueReads_uncommented :
    valueReads ((value? cursor).map Cursor.uncommented)
      = (valueReads (value? cursor)).map Node.uncommented := by
  cases hbound : value? cursor with
  | none => rfl
  | some value =>
    have happart := h.of_mem_walk (mem_walk_of_value? hbound)
    rw [Option.map_some, valueReads, valueReads, Cursor.node_uncommented,
      Node.isFunctionExpression_uncommented, Node.appliedName?_uncommented happart, Option.toList_map]
    split <;> rfl

include h in
theorem reads_uncommented : reads cursor.uncommented = (reads cursor).map Node.uncommented := by
  have hvalue : (cursor.uncommented.child? .value).bind Cursor.stripParens
      = (value? cursor).map Cursor.uncommented := value?_uncommented h
  unfold reads
  dsimp only
  rw [hvalue, ← value?, valueReads_uncommented h, Cursor.node_uncommented, Node.kind_uncommented,
    Node.ownNameNode?_uncommented h, Node.hasToken_uncommented h,
    Cursor.declaredNode?_uncommented h]
  split
  · rw [Option.toList_map]
  · rw [Option.toList_map]
  · cases Cursor.declaredNode? cursor.node <;> rfl
  · split <;> rfl
  · rfl

theorem ofCursor?_of_isComment (hcomment : cursor.node.isComment = true) :
    ofCursor? cursor = none := by
  simp [ofCursor?, Node.kind_of_isComment hcomment]

theorem reads_of_isComment (hcomment : cursor.node.isComment = true) : reads cursor = [] := by
  simp [reads, Node.kind_of_isComment hcomment]

variable {root : Node} (hroot : root.CommentsApart) (hnode : root.isComment = false)

include hroot hnode in
theorem ofTree_uncommented : ofTree root.uncommented = (ofTree root).map uncommented := by
  rw [ofTree, ofTree, Node.cursors, ← List.map_nil (f := Node.uncommented),
    Node.cursorsBelow_uncommented hroot hnode, List.filterMap_map, List.filterMap_filter,
    List.map_filterMap]
  refine List.filterMap_congr fun cursor hcursor => ?_
  cases hcomment : cursor.node.isComment with
  | true => simp [ofCursor?_of_isComment hcomment]
  | false =>
    rw [if_pos (by rfl)]
    exact ofCursor?_uncommented (hroot.of_mem_walk (Node.mem_walk_of_mem_cursors hcursor))

include hroot hnode in
theorem treeReads_uncommented :
    treeReads root.uncommented = (treeReads root).map Node.uncommented := by
  rw [treeReads, treeReads, Node.cursors, ← List.map_nil (f := Node.uncommented),
    Node.cursorsBelow_uncommented hroot hnode, List.flatMap_map, List.map_flatMap]
  have hreads : ∀ cursor ∈ root.cursors,
      reads cursor.uncommented = (reads cursor).map Node.uncommented := fun cursor hcursor =>
    reads_uncommented (hroot.of_mem_walk (Node.mem_walk_of_mem_cursors hcursor))
  rw [Node.flatMap_filter_of_forall]
  · exact List.flatMap_congr hreads
  · intro cursor hcursor hcomment
    rw [hreads cursor hcursor, reads_of_isComment (by simpa using hcomment), List.map_nil]

theorem topLevelFirst_uncommented (bindings : List Binding) :
    topLevelFirst (bindings.map uncommented) = (topLevelFirst bindings).map uncommented := by
  rw [topLevelFirst, List.filter_map, List.filter_map, topLevelFirst, List.map_append]
  rfl

end Binding

/-! ### Records -/

/-- No function of a tree takes the rest of its arguments under a pattern whose first named child is
a comment. -/
def Node.RestsNamed (root : Node) : Prop :=
  ∀ function ∈ root.walk, ∀ param ∈ function.parameters,
    (ParamParts.ofNode param).isCommentedRest = false

theorem Param.ofFunction_uncommented {function : Node} (h : function.CommentsApart)
    (hrests : function.RestsNamed) :
    ofFunction function.uncommented = ofFunction function := by
  rw [ofFunction, ofFunction, Node.parameters_uncommented h]
  refine Logged.collect_map fun param hparam => ?_
  exact ofNode_uncommented (h.of_mem_parameters hparam)
    (hrests function function.mem_walk_self param hparam)

theorem PlainFunction.describe_uncommented {cursor : Cursor} (h : cursor.node.CommentsApart)
    (hrests : cursor.node.RestsNamed) (name path : String) (imports : List Import) :
    describe cursor.uncommented name path imports = describe cursor name path imports := by
  rw [describe, describe, Cursor.node_uncommented, Param.ofFunction_uncommented h hrests,
    Node.returnReads_uncommented h, Logged.read_uncommented, Node.returnType_uncommented h,
    Node.isAsync_uncommented h, Cursor.isExported_uncommented]

namespace Ledger

variable {binding : Binding} (h : binding.node.CommentsApart) (hrests : binding.node.RestsNamed)

include h hrests in
theorem dispatch_uncommented (file : FileContext) (ledger : Ledger) :
    dispatch file ledger binding.uncommented = dispatch file ledger binding := by
  have hnode : binding.uncommented.node = binding.node.uncommented := rfl
  have hshape : binding.uncommented.shape = binding.shape := rfl
  have hname : binding.uncommented.name = binding.name := rfl
  have hcursor : binding.uncommented.cursor = binding.cursor.uncommented := rfl
  rw [dispatch, dispatch, Binding.isWrapperCall, Binding.isWrapperCall, hnode, hshape, hname, hcursor,
    Node.isCall_uncommented, Node.isComponent_uncommented h, Component.ofWrapper_uncommented h,
    Node.componentReads_uncommented h, Logged.read_uncommented, Node.describe_uncommented h,
    PlainFunction.describe_uncommented h hrests]

include h hrests in
/-- What a binding adds to a ledger does not depend on comments. -/
theorem consider_uncommented (file : FileContext) (ledger : Ledger) :
    consider file ledger binding.uncommented = consider file ledger binding := by
  have hline : binding.uncommented.node.line = binding.node.line := binding.node.line_uncommented
  have hlocate : ledger.locate binding.uncommented = ledger.locate binding := by
    rw [locate, locate, Binding.site, Binding.site, hline]
    show Ledger.mk _ ((_, Site.mk binding.node.uncommented.start _) :: _) _ _ = _
    rw [Node.start_uncommented]
    rfl
  rw [consider, consider, hline, hlocate, dispatch_uncommented h hrests]
  rfl

end Ledger

theorem Findings.ofTree_uncommented {root : Node} (h : root.CommentsApart)
    (hrests : root.RestsNamed) (hnode : root.isComment = false) (file : FileContext) :
    ofTree file root.uncommented = ofTree file root := by
  have hstep : ∀ binding ∈ Binding.topLevelFirst (Binding.ofTree root), ∀ ledger : Ledger,
      Ledger.consider file (id ledger) binding.uncommented
        = id <$> Ledger.consider file ledger binding := by
    intro binding hbinding ledger
    obtain ⟨cursor, hcursor, hmade⟩ := List.mem_filterMap.1 (Binding.mem_topLevelFirst.1 hbinding)
    have hwalk : binding.node ∈ root.walk :=
      Node.mem_walk_of_mem_cursors (Binding.mem_cursors_of_ofCursor? hcursor hmade)
    rw [id_map]
    exact Ledger.consider_uncommented (h.of_mem_walk hwalk)
      (fun function hfunction => hrests function (Node.mem_walk_trans hwalk hfunction)) file ledger
  have hrun := Logged.fold_map hstep .empty
  rw [id_map, id, ← Binding.topLevelFirst_uncommented, ← Binding.ofTree_uncommented h hnode] at hrun
  rw [ofTree, ofTree, Binding.treeReads_uncommented h hnode, Logged.read_uncommented,
    Ledger.ofBindings, hrun]
  rfl

/-! ### Imports -/

namespace Import

variable {statement : Node} (h : statement.CommentsApart)

theorem localName?_uncommented (node : Node) :
    localName? node.uncommented = (localName? node).map Node.uncommented := by
  rw [localName?, Node.namedChildren_uncommented]
  refine Node.find?_uncommentedEach (fun child _ => by rw [Node.kind_uncommented]) ?_
  exact fun child _ hcomment => by rw [Node.kind_of_isComment hcomment]; rfl

include h in
theorem specifierNodes_uncommented :
    specifierNodes statement.uncommented = (specifierNodes statement).map Node.uncommented := by
  rw [specifierNodes, specifierNodes, Node.namedChildren_filter_uncommented (by decide),
    List.filterMap_map, List.map_filterMap]
  refine List.filterMap_congr fun item hitem => ?_
  exact Node.child?_uncommented (h.of_mem_namedChildren (List.mem_filter.1 hitem).1) .name

include h in
theorem partSpecifiers_uncommented :
    partSpecifiers statement.uncommented = partSpecifiers statement := by
  unfold partSpecifiers
  rw [Node.kind_uncommented, Node.text_uncommented, localName?_uncommented, namedSpecifiers,
    namedSpecifiers, specifierNodes_uncommented h, Option.toList_map, List.map_map, List.map_map]
  simp only [Function.comp_def, Node.text_uncommented]

include h in
theorem partReads_uncommented :
    partReads statement.uncommented = (partReads statement).map Node.uncommented := by
  unfold partReads
  rw [Node.kind_uncommented, localName?_uncommented, specifierNodes_uncommented h]
  split
  · rfl
  · rw [Option.toList_map]
  · rfl
  · rfl

theorem clauses_uncommented (statement : Node) :
    clauses statement.uncommented = (clauses statement).map Node.uncommented :=
  Node.namedChildren_filter_uncommented (by decide) statement

theorem requireClause?_uncommented (statement : Node) :
    requireClause? statement.uncommented = (requireClause? statement).map Node.uncommented := by
  rw [requireClause?, Node.namedChildren_uncommented]
  refine Node.find?_uncommentedEach (fun child _ => by rw [Node.kind_uncommented]) ?_
  exact fun child _ hcomment => by rw [Node.kind_of_isComment hcomment]; rfl

/-- The parts of the clauses of an import statement. -/
def parts (statement : Node) : List Node := (clauses statement).flatMap Node.namedChildren

theorem parts_uncommented (statement : Node) :
    parts statement.uncommented = Node.uncommentedEach (parts statement) := by
  rw [parts, parts, clauses_uncommented, List.flatMap_map, Node.uncommentedEach_eq,
    List.filter_flatMap, List.map_flatMap]
  refine List.flatMap_congr fun clause _ => ?_
  rw [Node.namedChildren_uncommented, Node.uncommentedEach_eq]

include h in
theorem commentsApart_parts {part : Node} (hpart : part ∈ parts statement) : part.CommentsApart := by
  obtain ⟨clause, hclause, hpart⟩ := List.mem_flatMap.1 hpart
  exact (h.of_mem_namedChildren (List.mem_filter.1 hclause).1).of_mem_namedChildren hpart

include h in
theorem ofClauses_uncommented (source : Node) :
    ofClauses source.uncommented (clauses statement.uncommented)
      = ofClauses source (clauses statement) := by
  have hpart : ∀ part ∈ parts statement,
      partSpecifiers part.uncommented = (partSpecifiers part).map id := fun part hpart => by
    rw [List.map_id, partSpecifiers_uncommented (commentsApart_parts h hpart)]
  have hspecifiers : (parts statement.uncommented).flatMap partSpecifiers
      = (parts statement).flatMap partSpecifiers := by
    rw [parts_uncommented, Node.flatMap_uncommentedEach hpart, List.map_id]
    exact fun part _ hcomment => by rw [partSpecifiers, Node.kind_of_isComment hcomment]
  have hdefault : ((parts statement.uncommented).any fun part => part.kind == .identifier)
      = (parts statement).any fun part => part.kind == .identifier := by
    rw [parts_uncommented]
    refine Node.any_uncommentedEach (fun part _ => by rw [Node.kind_uncommented]) ?_
    exact fun part _ hcomment => by rw [Node.kind_of_isComment hcomment]; rfl
  rw [ofClauses, ofClauses, Node.stringValue_uncommented]
  show Import.mk _ ((parts statement.uncommented).flatMap partSpecifiers)
    ((parts statement.uncommented).any _) = _
  rw [hspecifiers, hdefault]
  rfl

include h in
theorem reads_uncommented :
    reads statement.uncommented = (reads statement).map Node.uncommented := by
  have hparts : (parts statement.uncommented).flatMap partReads
      = ((parts statement).flatMap partReads).map Node.uncommented := by
    rw [parts_uncommented]
    refine Node.flatMap_uncommentedEach ?_ ?_
    · exact fun part hpart => partReads_uncommented (commentsApart_parts h hpart)
    · exact fun part _ hcomment => by rw [partReads, Node.kind_of_isComment hcomment]
  unfold reads
  rw [Node.child?_uncommented h, requireClause?_uncommented, ← parts, ← parts, hparts]
  cases statement.child? .source with
  | some source => rfl
  | none =>
    cases hclause : requireClause? statement with
    | none => rfl
    | some clause =>
      have happart := h.of_mem_namedChildren (List.mem_of_find?_eq_some hclause)
      rw [Option.map_some]
      dsimp only [Option.map_none, Option.elim_some]
      rw [Node.child?_uncommented happart, localName?_uncommented]
      cases clause.child? .source with
      | none => rfl
      | some source =>
        rw [Option.map_some, Option.elim_some, Option.elim_some, Option.toList_map]
        rfl

include h in
theorem ofRequire?_uncommented : ofRequire? statement.uncommented = ofRequire? statement := by
  rw [ofRequire?, ofRequire?, requireClause?_uncommented]
  cases hclause : requireClause? statement with
  | none => rfl
  | some clause =>
    have happart := h.of_mem_namedChildren (List.mem_of_find?_eq_some hclause)
    rw [Option.map_some, Option.bind_some, Option.bind_some, Node.child?_uncommented happart,
      localName?_uncommented, Option.map_map, Option.toList_map, List.map_map, Option.isSome_map]
    simp only [Function.comp_def, Node.text_uncommented, Node.stringValue_uncommented]

include h in
theorem ofNode_uncommented : ofNode statement.uncommented = ofNode statement := by
  rw [ofNode, ofNode, reads_uncommented h, Logged.read_uncommented, Node.child?_uncommented h,
    ofRequire?_uncommented h, Node.line_uncommented]
  cases statement.child? .source with
  | none => rfl
  | some source =>
    rw [Option.map_some]
    dsimp only
    rw [ofClauses_uncommented h]

theorem ofProgram_uncommented {root : Node} (h : root.CommentsApart) :
    ofProgram root.uncommented = ofProgram root := by
  rw [ofProgram, ofProgram, Node.namedChildren_filter_uncommented (by decide)]
  refine Logged.collect_map fun statement hstatement => ?_
  exact ofNode_uncommented (h.of_mem_namedChildren (List.mem_filter.1 hstatement).1)

end Import

theorem Node.uncommented_of_isComment {root : Node} (h : root.CommentsApart)
    (hroot : root.isComment = true) : root.uncommented = root := by
  have hleaf := (h root root.mem_walk_self hroot).2.1
  cases root with
  | mk label children =>
    rw [Node.children_mk] at hleaf
    rw [hleaf]
    simp [Node.uncommented]

namespace FileSurvey

/-- Comments do not affect a survey, its notes and its failures included, unless a function takes the
rest of its arguments under a pattern whose first named child is a comment. -/
theorem survey_uncommented {root : Node} (h : root.CommentsApart) (hrests : root.RestsNamed)
    (path : String) : ofTree root.uncommented path = ofTree root path := by
  cases hroot : root.isComment with
  | true => rw [Node.uncommented_of_isComment h hroot]
  | false =>
    rw [ofTree, ofTree, Import.ofProgram_uncommented h]
    apply bind_congr
    intro imports
    rw [Findings.ofTree_uncommented h hrests hroot]

/-- A comment of a sample tree. -/
def commentSample (start : Nat) (text : String) : Node := .mk (.sample .comment none start text) []

/-- The tree of `export function f(p) {}` for the children of a parameter pattern `p` of a kind, with
comments in front of the parameter and inside the body. -/
def commentedSample (kind : Kind) (pattern : List Node) : Node :=
  .mk (.sample .program none 0 "")
    [commentSample 0 "/*a*/",
      .mk (.sample .exportStatement none 5 "")
        [.mk (.sample .functionDeclaration (some (.other "declaration")) 12 "")
          [.mk (.sample .identifier (some .name) 21 "f") [],
            .mk (.sample (.other "formal_parameters") (some .parameters) 22 "")
              [commentSample 23 "/*b*/",
                .mk (.sample .requiredParameter none 28 "")
                  [.mk (.sample kind (some .pattern) 28 "p") pattern]],
            .mk (.sample (.other "statement_block") (some .body) 40 "") [commentSample 41 "/*d*/"]]]]

theorem survey_uncommented_sample :
    (commentedSample .identifier []).CommentsApart ∧ (commentedSample .identifier []).RestsNamed ∧
      (commentedSample .identifier []).uncommented.size < (commentedSample .identifier []).size ∧
      ofTree (commentedSample .identifier []).uncommented "a.ts"
        = ofTree (commentedSample .identifier []) "a.ts" := by
  have hapart : (commentedSample .identifier []).CommentsApart := by
    unfold Node.CommentsApart
    rw [Node.walk_eq_preorder]
    decide
  have hrests : (commentedSample .identifier []).RestsNamed := by
    unfold Node.RestsNamed
    rw [Node.walk_eq_preorder]
    decide
  exact ⟨hapart, hrests, by decide, survey_uncommented hapart hrests "a.ts"⟩

/-- The tree of `export function f(.../*c*/xs) {}` with more comments in it. -/
def commentedRestSample : Node :=
  commentedSample .restPattern
    [commentSample 31 "/*c*/", .mk (.sample .identifier none 36 "xs") []]

/-- A comment behind the dots is taken for the name of a rest parameter. -/
theorem survey_commentedRest :
    commentedRestSample.CommentsApart ∧
      (ofTree commentedRestSample "a.ts").value.functions.map
        (fun function => function.params.map Param.name) = [[".../*c*/"]] ∧
      (ofTree commentedRestSample.uncommented "a.ts").value.functions.map
        (fun function => function.params.map Param.name) = [["...xs"]] := by
  refine ⟨?_, by decide +kernel, by decide +kernel⟩
  unfold Node.CommentsApart
  rw [Node.walk_eq_preorder]
  decide

end FileSurvey

end ComponentSurvey
