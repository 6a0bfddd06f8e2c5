import ComponentSurvey.Survey
import ComponentSurvey.Proofs.Places

/-!
# Trees whose texts can all be read

A survey stops where it needs the text of a node whose bytes are no text. Every text it needs is
that of a node of the tree, so the survey of a tree whose texts can all be read gives a result.

* `Node.Readable` — every node of a tree has a text.
* `Node.typeReads_subset`, `Node.componentReads_subset`, ... — the nodes whose texts are needed are
  nodes of the tree.
* `Logged.IsClean` — a computation that is not interrupted.
* `Logged.value_outcome_eq_ok_iff` — such computations are those that give their value.
* `FileSurvey.outcome_ofTree` — a readable tree is surveyed to the end.
-/

namespace ComponentSurvey

namespace Node

/-- Every node of a tree has a text. -/
def Readable (node : Node) : Prop := ∀ inner ∈ node.walk, inner.fault? = none

theorem Readable.of_mem_walk {node inner : Node} (h : node.Readable) (hinner : inner ∈ node.walk) :
    inner.Readable := by
  intro other hother
  exact h other (mem_walk_trans hinner hother)

/-! ### Parts of a tree -/

theorem mem_walk_of_child? {node child : Node} {field : Field}
    (h : node.child? field = some child) : child ∈ node.walk :=
  mem_walk_of_mem_children (List.mem_of_find?_eq_some h) (mem_walk_self child)

theorem mem_walk_of_firstMember? {node child : Node} (h : node.firstMember? = some child) :
    child ∈ node.walk :=
  mem_walk_of_mem_children (List.mem_of_find?_eq_some h) (mem_walk_self child)

theorem mem_walk_of_mem_namedChildren {node child : Node} (h : child ∈ node.namedChildren) :
    child ∈ node.walk :=
  mem_walk_of_mem_children (List.mem_filter.1 h).1 (mem_walk_self child)

theorem mem_walk_of_stripParens {node inner : Node} (h : node.stripParens = some inner) :
    inner ∈ node.walk := by
  rw [← Cursor.map_node_stripParens ⟨node, []⟩] at h
  obtain ⟨cursor, hcursor, rfl⟩ := Option.map_eq_some_iff.1 h
  refine mem_walk_of_mem_cursors (Cursor.mem_of_stripParens ?_ hcursor)
  exact mem_cursorsBelow_iff.2 (.inl rfl)

theorem mem_walk_of_firstArgument? {call argument : Node}
    (h : call.firstArgument? = some argument) : argument ∈ call.walk := by
  obtain ⟨first, hfirst, hargument⟩ := Option.bind_eq_some_iff.1 h
  obtain ⟨list, hlist, hfirst⟩ := Option.bind_eq_some_iff.1 hfirst
  exact mem_walk_trans (mem_walk_of_child? hlist)
    (mem_walk_trans (mem_walk_of_firstMember? hfirst) (mem_walk_of_stripParens hargument))

/-! ### Texts needed for types and defaults -/

mutual

/-- The texts that the descriptor of a type is made of are texts of its nodes. -/
theorem typeReads_subset : (node : Node) → node.typeReads ⊆ node.walk
  | mk label children => by
    have hbelow : preorders children ⊆ (mk label children).walk := by
      rw [walk_eq_preorder, preorder]
      exact List.subset_cons_self _ _
    have hfirst := List.Subset.trans (firstReads_subset children) hbelow
    have hmember := List.Subset.trans (memberReads_subset children) hbelow
    have hfield := List.Subset.trans (fieldReads_subset children) hbelow
    have hself : [mk label children] ⊆ (mk label children).walk :=
      List.cons_subset.2 ⟨mem_walk_self _, List.nil_subset _⟩
    have hname : ((mk label children).child? .name).toList ⊆ (mk label children).walk :=
      fun _ h => mem_walk_of_child? (Option.mem_toList.1 h)
    have hliteral : literalReads (mk label children).firstMember? ⊆ (mk label children).walk :=
      fun _ h => mem_walk_of_firstMember? (Option.mem_toList.1 (List.mem_filter.1 h).1)
    have hnone : [] ⊆ (mk label children).walk := List.nil_subset _
    rw [typeReads]
    split <;> assumption

theorem firstReads_subset : (nodes : List Node) → firstReads nodes ⊆ preorders nodes
  | [] => by simp [firstReads]
  | node :: rest => by
    rw [firstReads, preorders_cons, ← walk_eq_preorder]
    split
    · exact List.subset_append_of_subset_left _ (typeReads_subset node)
    · exact List.subset_append_of_subset_right _ (firstReads_subset rest)

theorem memberReads_subset : (nodes : List Node) → memberReads nodes ⊆ preorders nodes
  | [] => by simp [memberReads]
  | node :: rest => by
    rw [memberReads, preorders_cons, ← walk_eq_preorder]
    split
    · exact List.append_subset.2
        ⟨List.subset_append_of_subset_left _ (typeReads_subset node),
          List.subset_append_of_subset_right _ (memberReads_subset rest)⟩
    · exact List.subset_append_of_subset_right _ (memberReads_subset rest)

theorem fieldReads_subset : (nodes : List Node) → fieldReads nodes ⊆ preorders nodes
  | [] => by simp [fieldReads]
  | node :: rest => by
    rw [fieldReads, preorders_cons, ← walk_eq_preorder]
    split
    · exact List.subset_append_of_subset_left _ (typeReads_subset node)
    · exact List.subset_append_of_subset_right _ (fieldReads_subset rest)

end

theorem typeReadsOf_subset {node : Node} {type? : Option Node}
    (h : ∀ type, type? = some type → type ∈ node.walk) : typeReadsOf type? ⊆ node.walk := by
  cases type? with
  | none => simp [typeReadsOf]
  | some type =>
    intro inner hinner
    exact mem_walk_trans (h type rfl) (typeReads_subset type hinner)

theorem defaultReads_subset {node : Node} {default? : Option Node}
    (h : ∀ value, default? = some value → value ∈ node.walk) :
    defaultReads default? ⊆ node.walk := by
  intro inner hinner
  exact h inner (Option.mem_toList.1 (List.mem_filter.1 hinner).1)

/-! ### Texts needed for parameters and props -/

theorem mem_walk_of_propertyKeyNode? {entry key : Node} (h : entry.propertyKeyNode? = some key) :
    key ∈ entry.walk := by
  rw [propertyKeyNode?] at h
  split at h
  · cases h
    exact mem_walk_self _
  · split at h
    · rename_i left hleft
      split at h
      · cases h
        exact mem_walk_of_child? hleft
      · cases h
    · cases h
  · split at h
    · rename_i pair hpair
      split at h
      · cases h
        exact mem_walk_of_child? hpair
      · cases h
    · cases h
  · cases h

theorem mem_walk_of_entryDefault? {entry value : Node} (h : entry.entryDefault? = some value) :
    value ∈ entry.walk := by
  rw [entryDefault?] at h
  split at h
  · exact mem_walk_of_child? h
  · split at h
    · rename_i inner hinner
      split at h
      · exact mem_walk_trans (mem_walk_of_child? hinner) (mem_walk_of_child? h)
      · cases h
    · cases h
  · cases h

theorem mem_walk_of_mem_literalMembers {node member : Node} {mark? : Option Node}
    (h : ∀ mark, mark? = some mark → mark ∈ node.walk)
    (hmember : member ∈ literalMembers mark?) : member ∈ node.walk := by
  rw [literalMembers] at hmember
  split at hmember
  · rename_i type htype
    obtain ⟨mark, hmark, htype⟩ := Option.bind_eq_some_iff.1 htype
    split at hmember
    · have htree := mem_walk_trans (h mark hmark) (mem_walk_of_firstMember? htype)
      exact mem_walk_trans htree (mem_walk_of_mem_namedChildren (List.mem_filter.1 hmember).1)
    · cases hmember
  · cases hmember

theorem mem_walk_of_memberNameNode? {member name : Node} (h : member.memberNameNode? = some name) :
    name ∈ member.walk := by
  rw [memberNameNode?] at h
  split at h
  · rename_i inner hinner
    split at h
    · cases h
      exact mem_walk_of_child? hinner
    · cases h
  · cases h

theorem mem_walk_of_mem_parameters {function param : Node} (h : param ∈ function.parameters) :
    param ∈ function.walk := by
  rw [parameters] at h
  split at h
  · rename_i single hsingle
    rw [List.mem_singleton.1 h]
    exact mem_walk_of_child? hsingle
  · split at h
    · rename_i list hlist
      exact mem_walk_trans (mem_walk_of_child? hlist)
        (mem_walk_of_mem_children (List.mem_filter.1 h).1 (mem_walk_self param))
    · cases h

/-- The texts needed for what a function returns are texts of its nodes. -/
theorem returnReads_subset (function : Node) : function.returnReads ⊆ function.walk :=
  typeReadsOf_subset fun _ h => mem_walk_of_child? h

theorem hookReads_subset (function : Node) : function.hookReads ⊆ function.walk := by
  intro inner hinner
  rw [hookReads] at hinner
  split at hinner
  · rename_i body hbody
    obtain ⟨call, hcall, hname⟩ := List.mem_filterMap.1 hinner
    have htree := mem_walk_trans (mem_walk_of_child? hbody) hcall
    rw [calledName?] at hname
    split at hname
    · split at hname
      · rename_i callee hcallee
        split at hname
        · cases hname
          exact mem_walk_trans htree (mem_walk_of_child? hcallee)
        · cases hname
      · cases hname
    · cases hname
  · cases hinner

end Node

namespace ParamParts

/-- The parts of a parameter are nodes below it, or the parameter itself. -/
theorem mem_walk_ofNode {param part : Node}
    (h : (ofNode param).pattern? = some part ∨ (ofNode param).annotation? = some part ∨
      (ofNode param).default? = some part) : part ∈ param.walk := by
  rw [ofNode] at h
  split at h
  · rcases h with h | h | h <;> exact Node.mem_walk_of_child? h
  · rcases h with h | h | h <;> exact Node.mem_walk_of_child? h
  · rcases h with h | h | h
    · exact Node.mem_walk_of_child? h
    · cases h
    · exact Node.mem_walk_of_child? h
  · rcases h with h | h | h
    · cases h
      exact Node.mem_walk_self _
    · cases h
    · cases h

theorem patternReads_subset (pattern : Node) : pattern.patternReads ⊆ pattern.walk := by
  intro inner hinner
  rw [Node.patternReads] at hinner
  split at hinner
  · rw [List.mem_singleton.1 hinner]
    exact Node.mem_walk_self _
  · exact Node.mem_walk_of_mem_namedChildren (List.mem_of_head? (Option.mem_toList.1 hinner))
  · obtain ⟨entry, hentry, hkey⟩ := List.mem_filterMap.1 hinner
    exact Node.mem_walk_trans (Node.mem_walk_of_mem_namedChildren hentry)
      (Node.mem_walk_of_propertyKeyNode? hkey)
  · cases hinner

/-- The texts needed for the record of a parameter are texts of its nodes. -/
theorem reads_ofNode_subset (param : Node) : (ofNode param).reads ⊆ param.walk := by
  rw [reads]
  split
  · exact List.nil_subset _
  · rename_i pattern hpattern
    have htype : Node.typeReadsOf (ofNode param).annotation? ⊆ param.walk :=
      Node.typeReadsOf_subset fun _ h => mem_walk_ofNode (.inr (.inl h))
    have hdefault : Node.defaultReads (ofNode param).default? ⊆ param.walk :=
      Node.defaultReads_subset fun _ h => mem_walk_ofNode (.inr (.inr h))
    have hname : pattern.patternReads ⊆ param.walk := fun _ h =>
      Node.mem_walk_trans (mem_walk_ofNode (.inl hpattern)) (patternReads_subset pattern h)
    exact List.append_subset.2 ⟨List.append_subset.2 ⟨htype, hdefault⟩, hname⟩

end ParamParts

namespace ComponentProp

theorem entryReads_subset (entry : Node) : entryReads entry ⊆ entry.walk := by
  rw [entryReads]
  cases hkey : entry.propertyKeyNode? with
  | none => exact List.nil_subset _
  | some key =>
    exact List.cons_subset.2 ⟨Node.mem_walk_of_propertyKeyNode? hkey,
      Node.defaultReads_subset fun _ h => Node.mem_walk_of_entryDefault? h⟩

theorem memberReads_subset (member : Node) : memberReads member ⊆ member.walk := by
  rw [memberReads]
  cases hname : member.memberNameNode? with
  | none => exact List.nil_subset _
  | some name =>
    exact List.cons_subset.2 ⟨Node.mem_walk_of_memberNameNode? hname,
      Node.typeReadsOf_subset fun _ h => Node.mem_walk_of_child? h⟩

theorem refineReads_subset (props : List ComponentProp) (member : Node) :
    refineReads props member ⊆ member.walk := by
  rw [refineReads]
  split
  · exact memberReads_subset member
  · intro inner hinner
    exact Node.mem_walk_of_memberNameNode? (Option.mem_toList.1 hinner)

/-- The texts needed for the props that a parameter declares are texts of its nodes. -/
theorem paramReads_subset (param : Node) : paramReads (ParamParts.ofNode param) ⊆ param.walk := by
  have hmember : ∀ member ∈ Node.literalMembers (ParamParts.ofNode param).annotation?,
      member ∈ param.walk := fun member h =>
    Node.mem_walk_of_mem_literalMembers (fun _ h => ParamParts.mem_walk_ofNode (.inr (.inl h))) h
  rw [paramReads]
  split
  · exact List.nil_subset _
  · rename_i pattern hpattern
    have hentry : ∀ entry ∈ pattern.namedChildren, entry ∈ param.walk := fun entry h =>
      Node.mem_walk_trans (ParamParts.mem_walk_ofNode (.inl hpattern))
        (Node.mem_walk_of_mem_namedChildren h)
    split
    · refine List.append_subset.2 ⟨?_, ?_⟩
      · intro inner hinner
        obtain ⟨entry, h, hinner⟩ := List.mem_flatMap.1 hinner
        exact Node.mem_walk_trans (hentry entry h) (entryReads_subset entry hinner)
      · intro inner hinner
        obtain ⟨member, h, hinner⟩ := List.mem_flatMap.1 hinner
        exact Node.mem_walk_trans (hmember member h) (refineReads_subset _ member hinner)
    · intro inner hinner
      obtain ⟨member, h, hinner⟩ := List.mem_flatMap.1 hinner
      exact Node.mem_walk_trans (hmember member h) (memberReads_subset member hinner)
    · exact List.nil_subset _

end ComponentProp

/-- The texts needed for the record of a component are texts of its nodes. -/
theorem Node.componentReads_subset (function : Node) :
    function.componentReads ⊆ function.walk := by
  refine List.append_subset.2 ⟨?_, hookReads_subset function⟩
  rw [propReads]
  split
  · exact List.nil_subset _
  · rename_i param rest hparams
    have hparam : param ∈ function.walk :=
      mem_walk_of_mem_parameters (hparams ▸ List.mem_cons_self)
    exact fun _ h => mem_walk_trans hparam (ComponentProp.paramReads_subset param h)

/-! ### Computations that are not interrupted -/

namespace Logged

variable {α β σ : Type}

/-- A computation is not interrupted. -/
def IsClean (x : Logged α) : Prop := ∀ note ∈ x.notes, note.interruption? = none

theorem isClean_pure (a : α) : (pure a : Logged α).IsClean := by
  simp [IsClean]

theorem isClean_note {message : Note} (h : message.interruption? = none) :
    (note message).IsClean := by
  simp [IsClean, note, h]

theorem isClean_bind_iff {x : Logged α} {f : α → Logged β} :
    (x >>= f).IsClean ↔ x.IsClean ∧ (f x.value).IsClean := by
  rw [IsClean, notes_bind, List.forall_mem_append]
  rfl

theorem IsClean.bind {x : Logged α} {f : α → Logged β} (hx : x.IsClean)
    (hf : (f x.value).IsClean) : (x >>= f).IsClean :=
  isClean_bind_iff.2 ⟨hx, hf⟩

theorem isClean_map_iff {f : α → β} {x : Logged α} : (f <$> x).IsClean ↔ x.IsClean := by
  rw [IsClean, notes_map]
  rfl

theorem isClean_read {root : Node} {nodes : List Node} (hroot : root.Readable)
    (h : nodes ⊆ root.walk) : (read nodes).IsClean := by
  intro message hmessage
  rw [notes_read fun node hnode => hroot node (h hnode)] at hmessage
  cases hmessage

theorem isClean_collect_iff {f : α → Logged (Option β)} {items : List α} :
    (collect f items).IsClean ↔ ∀ item ∈ items, (f item).IsClean := by
  induction items with
  | nil => simp [collect, isClean_pure]
  | cons item rest ih =>
    rw [collect, isClean_bind_iff, isClean_bind_iff, ih, List.forall_mem_cons]
    simp [isClean_pure]

theorem isClean_fold {f : σ → α → Logged σ} {items : List α}
    (h : ∀ state, ∀ item ∈ items, (f state item).IsClean) (state : σ) :
    (fold f state items).IsClean := by
  induction items generalizing state with
  | nil => exact isClean_pure state
  | cons item rest ih =>
    refine (h state item List.mem_cons_self).bind (ih ?_ _)
    exact fun other next hnext => h other next (List.mem_cons_of_mem _ hnext)

/-- A computation gives its value exactly if it is clean. -/
theorem value_outcome_eq_ok_iff {x : Logged α} {a : α} :
    x.outcome.value = .ok a ↔ x.IsClean ∧ x.value = a := by
  rw [outcome, IsClean, ← List.findSome?_eq_none_iff]
  cases x.notes.findSome? Note.interruption? <;> simp

/-- A value is given if the texts it needs are those of a readable tree. -/
theorem value_outcome_reading {root : Node} {nodes : List Node} (hroot : root.Readable)
    (h : nodes ⊆ root.walk) (value : α) : (reading nodes value).outcome.value = .ok value :=
  value_outcome_eq_ok_iff.2 ⟨(isClean_read hroot h).bind (isClean_pure value), rfl⟩

end Logged

/-! ### Surveys of readable trees -/

theorem Param.isClean_ofNode {param : Node} (h : param.Readable) : (ofNode param).IsClean := by
  refine (Logged.isClean_read h (ParamParts.reads_ofNode_subset param)).bind ?_
  split
  · exact Logged.isClean_pure _
  · split
    · exact Logged.isClean_pure _
    · exact Logged.isClean_pure _
    · exact Logged.isClean_pure _
    · exact Logged.isClean_pure _
    · exact (Logged.isClean_note rfl).bind (Logged.isClean_pure _)

theorem PlainFunction.isClean_describe {cursor : Cursor} (h : cursor.node.Readable)
    (name path : String) (imports : List Import) : (describe cursor name path imports).IsClean := by
  have hparams : (Param.ofFunction cursor.node).IsClean := by
    refine Logged.isClean_collect_iff.2 fun param hparam => ?_
    exact Param.isClean_ofNode (h.of_mem_walk (Node.mem_walk_of_mem_parameters hparam))
  exact hparams.bind ((Logged.isClean_read h (Node.returnReads_subset _)).bind
    (Logged.isClean_pure _))

namespace Node

theorem mem_walk_of_appliedName? {call name : Node} (h : call.appliedName? = some name) :
    name ∈ call.walk := by
  rw [appliedName?] at h
  split at h
  · split at h
    · rename_i callee hcallee
      split at h
      · cases h
        exact mem_walk_of_child? hcallee
      · cases h
        exact mem_walk_of_child? hcallee
      · cases h
    · cases h
  · cases h

/-- Only a call applies a wrapper. -/
theorem isCall_of_wrapperName? {call : Node} (h : call.wrapperName?.isSome = true) :
    call.isCall = true := by
  cases hcall : call.isCall with
  | true => rfl
  | false => simp [wrapperName?, appliedName?, hcall] at h

theorem appliedReads_subset (call : Node) : call.appliedName?.toList ⊆ call.walk :=
  fun _ h => mem_walk_of_appliedName? (Option.mem_toList.1 h)

/-- The function at the end of a chain of wrapper calls: the first argument of the call, if it is a
function, or what the chain that begins there ends at. -/
theorem target?_unwrapFrom (line : Nat) (call : Node) :
    (call.unwrapFrom line).value.target? =
      if call.wrapperName?.isSome then
        call.firstArgument?.bind fun argument =>
          if argument.isFunctionExpression then some argument
          else if argument.isCall then (argument.unwrapFrom line).value.target?
          else none
      else none := by
  rw [unwrapFrom, Logged.value_bind]
  split
  · rename_i hname
    rw [hname]
    rfl
  · rename_i name hname
    rw [hname, Option.isSome_some, if_pos rfl]
    split
    · rename_i hnone
      rw [hnone]
      rfl
    · rename_i argument hargument
      rw [hargument, Option.bind_some]
      split
      · rfl
      · split
        · rfl
        · split <;> rfl

theorem mem_walk_of_target? {call target : Node} {line : Nat}
    (h : (call.unwrapFrom line).value.target? = some target) : target ∈ call.walk := by
  rw [target?_unwrapFrom] at h
  split at h
  · obtain ⟨argument, hargument, h⟩ := Option.bind_eq_some_iff.1 h
    have hwalk := mem_walk_of_firstArgument? hargument
    split at h
    · cases h
      exact hwalk
    · split at h
      · have hlt := size_lt_of_firstArgument? hargument
        exact mem_walk_trans hwalk (mem_walk_of_target? h)
      · cases h
  · cases h
termination_by call.size

/-- Following a chain of wrapper calls needs no text but those of the chain. -/
theorem isClean_unwrapFrom {call : Node} (line : Nat) (h : call.Readable) :
    (call.unwrapFrom line).IsClean := by
  rw [unwrapFrom]
  refine (Logged.isClean_read h call.appliedReads_subset).bind ?_
  split
  · exact Logged.isClean_pure _
  · split
    · exact Logged.isClean_pure _
    · rename_i argument hargument
      have hwalk := mem_walk_of_firstArgument? hargument
      split
      · exact Logged.isClean_pure _
      · split
        · have hlt := size_lt_of_firstArgument? hargument
          exact (isClean_unwrapFrom line (h.of_mem_walk hwalk)).bind (Logged.isClean_pure _)
        · split
          · have hread : [argument] ⊆ call.walk := List.cons_subset.2 ⟨hwalk, List.nil_subset _⟩
            exact (Logged.isClean_read h hread).bind
              ((Logged.isClean_note rfl).bind (Logged.isClean_pure _))
          · exact Logged.isClean_pure _
termination_by call.size

end Node

theorem Component.isClean_ofWrapper {call : Node} (h : call.Readable) (name path : String)
    (imports : List Import) : (ofWrapper call name path imports).IsClean := by
  refine (Node.isClean_unwrapFrom call.line h).bind
    (Logged.IsClean.bind (Logged.isClean_read h ?_) (Logged.isClean_pure _))
  cases htarget : (call.unwrapFrom call.line).value.target? with
  | none => exact List.nil_subset _
  | some target =>
    exact fun _ hinner => Node.mem_walk_trans (Node.mem_walk_of_target? htarget)
      (Node.componentReads_subset target hinner)

/-- Considering a binding of a readable tree needs no text that cannot be read. -/
theorem Ledger.isClean_consider {binding : Binding} (h : binding.node.Readable)
    (file : FileContext) (ledger : Ledger) : (consider file ledger binding).IsClean := by
  rw [consider]
  split
  · exact (Logged.isClean_note rfl).bind (Logged.isClean_pure _)
  · refine (Logged.isClean_note rfl).bind ?_
    split
    · exact (Component.isClean_ofWrapper h _ _ _).bind (Logged.isClean_pure _)
    · split
      · exact (Logged.isClean_read h (Node.componentReads_subset _)).bind (Logged.isClean_pure _)
      · refine (PlainFunction.isClean_describe h _ _ _).bind ?_
        split
        · exact Logged.isClean_pure _
        · exact (Logged.isClean_note rfl).bind (Logged.isClean_pure _)

/-! ### Texts needed to find bindings and imports -/

namespace Binding

theorem valueReads_subset {root : Node} {bound? : Option Cursor}
    (h : ∀ value, bound? = some value → value ∈ root.cursors) : valueReads bound? ⊆ root.walk := by
  cases bound? with
  | none => exact List.nil_subset _
  | some value =>
    have hwalk := Node.mem_walk_of_mem_cursors (h value rfl)
    show (if value.node.isFunctionExpression then []
      else value.node.appliedName?.toList) ⊆ root.walk
    split
    · exact List.nil_subset _
    · exact fun _ hinner => Node.mem_walk_trans hwalk (Node.appliedReads_subset _ hinner)

theorem mem_walk_of_ownNameNode? {node name : Node} (h : node.ownNameNode? = some name) :
    name ∈ node.walk := by
  unfold Node.ownNameNode? at h
  split at h
  · cases h
    exact Node.mem_walk_self _
  · cases h
    exact Node.mem_walk_self _
  · cases h
    exact Node.mem_walk_self _
  · split at h
    · rename_i inner hinner
      split at h
      · cases h
        exact Node.mem_walk_of_child? hinner
      · cases h
        exact Node.mem_walk_of_child? hinner
      · cases h
    · cases h

theorem mem_walk_of_declaredNode? {declarator name : Node}
    (h : Cursor.declaredNode? declarator = some name) : name ∈ declarator.walk := by
  unfold Cursor.declaredNode? at h
  split at h
  · rename_i inner hinner
    split at h
    · cases h
      exact Node.mem_walk_of_child? hinner
    · cases h
  · cases h

theorem reads_subset {root : Node} {cursor : Cursor} (h : cursor ∈ root.cursors) :
    reads cursor ⊆ root.walk := by
  have hvalue : valueReads (value? cursor) ⊆ root.walk :=
    valueReads_subset fun _ hvalue => mem_of_value? h hvalue
  have hown : cursor.node.ownNameNode?.toList ⊆ root.walk := fun _ hname =>
    Node.mem_walk_trans (Node.mem_walk_of_mem_cursors h)
      (mem_walk_of_ownNameNode? (Option.mem_toList.1 hname))
  unfold reads
  split
  · exact hown
  · exact hown
  · cases hname : Cursor.declaredNode? cursor.node with
    | none => exact List.nil_subset _
    | some name =>
      refine List.cons_subset.2 ⟨?_, hvalue⟩
      exact Node.mem_walk_trans (Node.mem_walk_of_mem_cursors h) (mem_walk_of_declaredNode? hname)
  · split
    · exact hvalue
    · exact List.nil_subset _
  · exact List.nil_subset _

/-- The texts needed for the bindings of a tree are texts of its nodes. -/
theorem treeReads_subset (root : Node) : treeReads root ⊆ root.walk := by
  intro inner hinner
  obtain ⟨cursor, hcursor, hinner⟩ := List.mem_flatMap.1 hinner
  exact reads_subset hcursor hinner

end Binding

namespace Import

theorem mem_walk_of_localName? {node name : Node} (h : localName? node = some name) :
    name ∈ node.walk :=
  Node.mem_walk_of_mem_namedChildren (List.mem_of_find?_eq_some h)

theorem partReads_subset (part : Node) : partReads part ⊆ part.walk := by
  intro inner hinner
  unfold partReads at hinner
  split at hinner
  · rw [List.mem_singleton.1 hinner]
    exact Node.mem_walk_self _
  · exact mem_walk_of_localName? (Option.mem_toList.1 hinner)
  · obtain ⟨item, hitem, hname⟩ := List.mem_filterMap.1 hinner
    exact Node.mem_walk_trans (Node.mem_walk_of_mem_namedChildren (List.mem_filter.1 hitem).1)
      (Node.mem_walk_of_child? hname)
  · cases hinner

/-- The texts needed for the record of an import statement are texts of its nodes. -/
theorem reads_subset (statement : Node) : reads statement ⊆ statement.walk := by
  unfold reads
  split
  · rename_i source hsource
    refine List.cons_subset.2 ⟨Node.mem_walk_of_child? hsource, ?_⟩
    intro inner hinner
    obtain ⟨part, hpart, hinner⟩ := List.mem_flatMap.1 hinner
    obtain ⟨clause, hclause, hpart⟩ := List.mem_flatMap.1 hpart
    have hwalk := Node.mem_walk_of_mem_namedChildren (List.mem_filter.1 hclause).1
    exact Node.mem_walk_trans hwalk (Node.mem_walk_trans
      (Node.mem_walk_of_mem_namedChildren hpart) (partReads_subset part hinner))
  · cases hclause : requireClause? statement with
    | none => exact List.nil_subset _
    | some clause =>
      have hwalk := Node.mem_walk_of_mem_namedChildren (List.mem_of_find?_eq_some hclause)
      show (clause.child? .source).elim [] _ ⊆ statement.walk
      cases hsource : clause.child? .source with
      | none => exact List.nil_subset _
      | some source =>
        refine List.cons_subset.2 ⟨?_, fun _ hname => ?_⟩
        · exact Node.mem_walk_trans hwalk (Node.mem_walk_of_child? hsource)
        · exact Node.mem_walk_trans hwalk (mem_walk_of_localName? (Option.mem_toList.1 hname))

theorem isClean_ofNode {statement : Node} (h : statement.Readable) :
    (ofNode statement).IsClean := by
  refine (Logged.isClean_read h (reads_subset statement)).bind ?_
  split
  · exact Logged.isClean_pure _
  · split
    · exact Logged.isClean_pure _
    · exact (Logged.isClean_note rfl).bind (Logged.isClean_pure _)

end Import

namespace FileSurvey

theorem isClean_ofTree {root : Node} (h : root.Readable) (path : String) :
    (ofTree root path).IsClean := by
  have himports : (Import.ofProgram root).IsClean := by
    refine Logged.isClean_collect_iff.2 fun statement hstatement => Import.isClean_ofNode ?_
    exact h.of_mem_walk (Node.mem_walk_of_mem_namedChildren (List.mem_filter.1 hstatement).1)
  have hledger : ∀ file, (Ledger.ofBindings file (Binding.ofTree root)).IsClean := by
    intro file
    refine Logged.isClean_fold (fun ledger binding hbinding => ?_) _
    obtain ⟨cursor, hcursor, hbinding⟩ :=
      List.mem_filterMap.1 (Binding.mem_topLevelFirst.1 hbinding)
    have hplace := Binding.mem_cursors_of_ofCursor? hcursor hbinding
    exact Ledger.isClean_consider (h.of_mem_walk (Node.mem_walk_of_mem_cursors hplace)) _ _
  have hfound : ∀ file, (Findings.ofTree file root).IsClean := fun file =>
    (Logged.isClean_read h (Binding.treeReads_subset root)).bind
      ((hledger file).bind (Logged.isClean_pure _))
  exact himports.bind ((hfound _).bind ((Logged.isClean_note rfl).bind (Logged.isClean_pure _)))

/-- A tree whose texts can all be read is surveyed to the end. -/
theorem outcome_ofTree {root : Node} (h : root.Readable) (path : String) :
    (ofTree root path).outcome.value = .ok (ofTree root path).value :=
  Logged.value_outcome_eq_ok_iff.2 ⟨isClean_ofTree h path, rfl⟩

end FileSurvey

end ComponentSurvey
