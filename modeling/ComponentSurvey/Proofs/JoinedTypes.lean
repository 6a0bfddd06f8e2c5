import ComponentSurvey.Proofs.Readable

/-!
# Unions and intersections of any nesting

A union of three types is read as a union of two, one of them a union itself, and parentheses and
annotations may stand around any of them. The descriptor shows none of this: it is that of the types
at the leaves, in source order, with the separator between them.

* `Joint` — unions and intersections, with the separator of their members.
* `Node.leaves` — the types at the leaves of a union or an intersection.
* `Node.Joins` — a type is reached from another through members and through the wrappers around types.
* `Node.mem_leaves_iff`, `Node.leaves_sublist` — the leaves are the other types that are reached, in
  source order.
* `Text.intercalate_flatMap`, `Text.count_intercalate` — joining what was joined already, and the marks
  in what is joined.
* `Node.typeDescriptor_flattens` — the descriptor of a union or an intersection.
-/

namespace ComponentSurvey

/-! ### Joining texts -/

namespace Text

/-- Texts that were joined already are joined to what all their pieces are joined to. -/
theorem intercalate_flatMap {α : Type} (separator : String) {parts : List α}
    {pieces : α → List String} (h : ∀ part ∈ parts, pieces part ≠ []) :
    separator.intercalate (parts.map fun part => separator.intercalate (pieces part))
      = separator.intercalate (parts.flatMap pieces) := by
  induction parts with
  | nil => rfl
  | cons part rest ih =>
    have hrest := ih fun other hother => h other (List.mem_cons_of_mem _ hother)
    rw [List.map_cons, List.flatMap_cons]
    by_cases hnil : rest = []
    · subst hnil
      simp
    · obtain ⟨next, hnext⟩ := List.exists_mem_of_ne_nil rest hnil
      have hpieces : rest.flatMap pieces ≠ [] := by
        intro hempty
        exact h next (List.mem_cons_of_mem _ hnext) (List.flatMap_eq_nil_iff.1 hempty next hnext)
      rw [String.intercalate_cons_of_ne_nil (by simpa using hnil), hrest,
        String.intercalate_append_of_ne_nil (h part List.mem_cons_self) hpieces]

/-- Texts without a mark are joined with one mark less than there are texts. -/
theorem count_intercalate {mark : Char} {separator : String}
    (hseparator : separator.toList.count mark = 1) {parts : List String} (hne : parts ≠ [])
    (h : ∀ part ∈ parts, mark ∉ part.toList) :
    (separator.intercalate parts).toList.count mark + 1 = parts.length := by
  induction parts with
  | nil => exact absurd rfl hne
  | cons part rest ih =>
    have hpart : part.toList.count mark = 0 := List.count_eq_zero.2 (h part List.mem_cons_self)
    by_cases hnil : rest = []
    · subst hnil
      rw [String.intercalate_singleton, hpart]
      rfl
    · have hrest := ih hnil fun other hother => h other (List.mem_cons_of_mem _ hother)
      rw [String.intercalate_cons_of_ne_nil hnil, String.toList_append, String.toList_append,
        List.count_append, List.count_append, hpart, hseparator, List.length_cons]
      omega

end Text

theorem Kind.isTransparentType_iff {kind : Kind} :
    kind.isTransparentType = true ↔
      kind = .annotatedType ∨ kind = .parenthesizedType ∨ kind = .optingAnnotatedType := by
  cases kind <;> simp [Kind.isTransparentType]

/-- The types that are written as members with a mark between them. -/
inductive Joint where
  | union
  | intersection

namespace Joint

/-- The kind of the types. -/
def kind : Joint → Kind
  | union => .unionType
  | intersection => .intersectionType

/-- The mark between two members. -/
def mark : Joint → Char
  | union => '|'
  | intersection => '&'

/-- What a descriptor has between two members. -/
def separator : Joint → String
  | union => " | "
  | intersection => " & "

theorem count_mark_separator (joint : Joint) : joint.separator.toList.count joint.mark = 1 := by
  cases joint <;> decide

/-- No union or intersection stands for the one type it holds. -/
theorem not_isTransparentType (joint : Joint) : joint.kind.isTransparentType = false := by
  cases joint <;> rfl

theorem typeDescriptor_eq (joint : Joint) {node : Node} (h : node.kind = joint.kind) :
    node.typeDescriptor = joint.separator.intercalate (node.members.map Node.typeDescriptor) := by
  rw [Node.typeDescriptor_eq, h]
  cases joint <;> rfl

end Joint

namespace Node

/-- A wrapper around a type has the descriptor of the type. -/
theorem typeDescriptor_of_isTransparentType {node : Node} (h : node.kind.isTransparentType = true) :
    node.typeDescriptor = descriptorOf node.firstMember? := by
  rcases Kind.isTransparentType_iff.1 h with hkind | hkind | hkind
  all_goals
    rw [typeDescriptor_eq, hkind]

/-! ### The leaves of a type -/

mutual

/-- The types at the leaves of a union or an intersection: those of its members. Wrappers stand for
the type they hold, and every other type is a leaf. -/
def leaves (joint : Joint) : Node → List Node
  | mk label children =>
    if label.kind = joint.kind then memberLeaves joint children
    else if label.kind.isTransparentType then
      (firstLeaves? joint children).getD [mk label children]
    else [mk label children]

/-- The leaves of the members of a list. -/
def memberLeaves (joint : Joint) : List Node → List Node
  | [] => []
  | node :: rest =>
    if node.isMember then node.leaves joint ++ memberLeaves joint rest else memberLeaves joint rest

/-- The leaves of the first member of a list, if it has one. -/
def firstLeaves? (joint : Joint) : List Node → Option (List Node)
  | [] => none
  | node :: rest => if node.isMember then some (node.leaves joint) else firstLeaves? joint rest

end

theorem memberLeaves_eq (joint : Joint) (nodes : List Node) :
    memberLeaves joint nodes = (nodes.filter isMember).flatMap (leaves joint) := by
  induction nodes with
  | nil => simp [memberLeaves]
  | cons node rest ih =>
    rw [memberLeaves]
    cases h : node.isMember <;> simp [h, ih]

theorem firstLeaves?_eq (joint : Joint) (nodes : List Node) :
    firstLeaves? joint nodes = (nodes.find? isMember).map (leaves joint) := by
  induction nodes with
  | nil => simp [firstLeaves?]
  | cons node rest ih =>
    rw [firstLeaves?]
    cases h : node.isMember <;> simp [h, ih]

/-- The leaves of a type in terms of its parts. -/
theorem leaves_eq (joint : Joint) (node : Node) :
    node.leaves joint =
      if node.kind = joint.kind then node.members.flatMap (leaves joint)
      else if node.kind.isTransparentType then (node.firstMember?.map (leaves joint)).getD [node]
      else [node] := by
  cases node with
  | mk label children =>
    rw [leaves, memberLeaves_eq, firstLeaves?_eq]
    rfl

section Leaves

variable {joint : Joint} {node first leaf : Node}

theorem leaves_of_kind (h : node.kind = joint.kind) :
    node.leaves joint = node.members.flatMap (leaves joint) := by
  rw [leaves_eq, if_pos h]

theorem leaves_of_wrapper (h : node.kind.isTransparentType = true)
    (hfirst : node.firstMember? = some first) : node.leaves joint = first.leaves joint := by
  have hkind : node.kind ≠ joint.kind := by
    intro hkind
    rw [hkind, joint.not_isTransparentType] at h
    cases h
  rw [leaves_eq, if_neg hkind, if_pos h, hfirst]
  rfl

/-- A node is a leaf if it is no such union or intersection and holds no type in place of itself. -/
def IsLeaf (joint : Joint) (node : Node) : Prop :=
  node.kind ≠ joint.kind ∧ (node.kind.isTransparentType = true → node.firstMember? = none)

theorem leaves_of_isLeaf (h : node.IsLeaf joint) : node.leaves joint = [node] := by
  obtain ⟨hkind, hempty⟩ := h
  rw [leaves_eq, if_neg hkind]
  by_cases htransparent : node.kind.isTransparentType = true
  · rw [if_pos htransparent, hempty htransparent]
    rfl
  · rw [if_neg htransparent]

/-- A type is a union or an intersection of the sort, a wrapper around a type, or a leaf. -/
theorem isLeaf_or (joint : Joint) (node : Node) :
    node.kind = joint.kind ∨
    (∃ first, node.kind.isTransparentType = true ∧ node.firstMember? = some first) ∨
    node.IsLeaf joint := by
  by_cases hkind : node.kind = joint.kind
  · exact .inl hkind
  · by_cases htransparent : node.kind.isTransparentType = true
    · cases hfirst : node.firstMember? with
      | none => exact .inr (.inr ⟨hkind, fun _ => hfirst⟩)
      | some first => exact .inr (.inl ⟨first, htransparent, rfl⟩)
    · exact .inr (.inr ⟨hkind, fun h => absurd h htransparent⟩)

/-! ### Types that are reached -/

/-- A type is reached from another through the members of unions, or of intersections, and through
the wrappers around types. -/
inductive Joins (joint : Joint) : Node → Node → Prop
  | here (node : Node) : Joins joint node node
  | member {node member inner : Node} : node.kind = joint.kind → member ∈ node.members →
      Joins joint member inner → Joins joint node inner
  | wrapped {node first inner : Node} : node.kind.isTransparentType = true →
      node.firstMember? = some first → Joins joint first inner → Joins joint node inner

theorem Joins.mem_walk {inner : Node} (h : Joins joint node inner) : inner ∈ node.walk := by
  induction h with
  | here node => exact mem_walk_self node
  | member _ hmember _ ih => exact mem_walk_of_mem_children (List.mem_filter.1 hmember).1 ih
  | wrapped _ hfirst _ ih => exact mem_walk_of_mem_children (List.mem_of_find?_eq_some hfirst) ih

/-- The leaves of a type are the types that are reached from it and lead no further. -/
theorem mem_leaves_iff : leaf ∈ node.leaves joint ↔ Joins joint node leaf ∧ leaf.IsLeaf joint := by
  constructor
  · intro hleaf
    induction node using childInduction with
    | step node ih =>
      rcases isLeaf_or joint node with hkind | ⟨first, htransparent, hfirst⟩ | hself
      · rw [leaves_of_kind hkind] at hleaf
        obtain ⟨member, hmember, hleaf⟩ := List.mem_flatMap.1 hleaf
        obtain ⟨hreach, hend⟩ := ih member (List.mem_filter.1 hmember).1 hleaf
        exact ⟨.member hkind hmember hreach, hend⟩
      · rw [leaves_of_wrapper htransparent hfirst] at hleaf
        obtain ⟨hreach, hend⟩ := ih first (List.mem_of_find?_eq_some hfirst) hleaf
        exact ⟨.wrapped htransparent hfirst hreach, hend⟩
      · rw [leaves_of_isLeaf hself, List.mem_singleton] at hleaf
        subst hleaf
        exact ⟨.here leaf, hself⟩
  · rintro ⟨hreach, hend⟩
    induction hreach with
    | here node =>
      rw [leaves_of_isLeaf hend]
      exact List.mem_singleton.2 rfl
    | member hkind hmember _ ih =>
      rw [leaves_of_kind hkind]
      exact List.mem_flatMap.2 ⟨_, hmember, ih hend⟩
    | wrapped htransparent hfirst _ ih =>
      rw [leaves_of_wrapper htransparent hfirst]
      exact ih hend

end Leaves

mutual

/-- The leaves of a type stand in the order of the source. -/
theorem leaves_sublist (joint : Joint) : (node : Node) → (node.leaves joint).Sublist node.preorder
  | mk label children => by
    have hself : [mk label children].Sublist (mk label children :: preorders children) :=
      List.singleton_sublist.2 List.mem_cons_self
    rw [leaves, preorder]
    split
    · exact (memberLeaves_sublist joint children).cons _
    · split
      · cases hfirst : firstLeaves? joint children with
        | none => exact hself
        | some found => exact (firstLeaves?_sublist joint children hfirst).cons _
      · exact hself

theorem memberLeaves_sublist (joint : Joint) :
    (nodes : List Node) → (memberLeaves joint nodes).Sublist (preorders nodes)
  | [] => by simp [memberLeaves]
  | node :: rest => by
    rw [memberLeaves, preorders_cons]
    split
    · exact (leaves_sublist joint node).append (memberLeaves_sublist joint rest)
    · exact (memberLeaves_sublist joint rest).trans (List.sublist_append_right _ _)

theorem firstLeaves?_sublist (joint : Joint) : (nodes : List Node) → {found : List Node} →
    firstLeaves? joint nodes = some found → found.Sublist (preorders nodes)
  | [], found, h => by simp [firstLeaves?] at h
  | node :: rest, found, h => by
    rw [firstLeaves?] at h
    rw [preorders_cons]
    split at h
    · cases h
      exact (leaves_sublist joint node).trans (List.sublist_append_left _ _)
    · exact (firstLeaves?_sublist joint rest h).trans (List.sublist_append_right _ _)

end

/-! ### The descriptor of the leaves -/

section Flattening

variable {joint : Joint} {node : Node}

/-- Every union, or every intersection, that is reached from a type has a member. -/
def Populated (joint : Joint) (node : Node) : Prop :=
  ∀ inner, Joins joint node inner → inner.kind = joint.kind → inner.members ≠ []

theorem leaves_ne_nil (h : node.Populated joint) : node.leaves joint ≠ [] := by
  induction node using childInduction with
  | step node ih =>
    rcases isLeaf_or joint node with hkind | ⟨first, htransparent, hfirst⟩ | hself
    · obtain ⟨member, hmember⟩ := List.exists_mem_of_ne_nil _ (h node (.here node) hkind)
      have hbelow : member.Populated joint := fun inner hreach =>
        h inner (.member hkind hmember hreach)
      rw [leaves_of_kind hkind]
      intro hempty
      exact ih member (List.mem_filter.1 hmember).1 hbelow
        (List.flatMap_eq_nil_iff.1 hempty member hmember)
    · rw [leaves_of_wrapper htransparent hfirst]
      exact ih first (List.mem_of_find?_eq_some hfirst) fun inner hreach =>
        h inner (.wrapped htransparent hfirst hreach)
    · rw [leaves_of_isLeaf hself]
      exact List.cons_ne_nil _ _

/-- Members whose descriptors are those of their leaves are joined to the leaves of them all. -/
theorem typeDescriptor_of_members (hkind : node.kind = joint.kind)
    (hpopulated : ∀ member ∈ node.members, member.Populated joint)
    (ih : ∀ member ∈ node.members, member.typeDescriptor
      = joint.separator.intercalate ((member.leaves joint).map typeDescriptor)) :
    node.typeDescriptor
      = joint.separator.intercalate ((node.leaves joint).map typeDescriptor) := by
  calc node.typeDescriptor
      = joint.separator.intercalate (node.members.map typeDescriptor) :=
        joint.typeDescriptor_eq hkind
    _ = joint.separator.intercalate (node.members.map fun member =>
          joint.separator.intercalate ((member.leaves joint).map typeDescriptor)) := by
        rw [List.map_congr_left ih]
    _ = joint.separator.intercalate
          (node.members.flatMap fun member => (member.leaves joint).map typeDescriptor) := by
        refine Text.intercalate_flatMap _ fun member hmember => ?_
        simpa using leaves_ne_nil (hpopulated member hmember)
    _ = joint.separator.intercalate ((node.leaves joint).map typeDescriptor) := by
        rw [leaves_of_kind hkind, List.map_flatMap]

/-- The descriptor of a type is that of its leaves. -/
theorem typeDescriptor_of_populated (h : node.Populated joint) :
    node.typeDescriptor
      = joint.separator.intercalate ((node.leaves joint).map typeDescriptor) := by
  induction node using childInduction with
  | step node ih =>
    rcases isLeaf_or joint node with hkind | ⟨first, htransparent, hfirst⟩ | hself
    · have hbelow : ∀ member ∈ node.members, member.Populated joint :=
        fun member hmember inner hreach => h inner (.member hkind hmember hreach)
      exact typeDescriptor_of_members hkind hbelow fun member hmember =>
        ih member (List.mem_filter.1 hmember).1 (hbelow member hmember)
    · rw [typeDescriptor_of_isTransparentType htransparent, hfirst,
        leaves_of_wrapper htransparent hfirst]
      exact ih first (List.mem_of_find?_eq_some hfirst) fun inner hreach =>
        h inner (.wrapped htransparent hfirst hreach)
    · rw [leaves_of_isLeaf hself, List.map_singleton, String.intercalate_singleton]

/-- **Nested unions flatten.** Let every union that is reached from the members of a union have a
member. Then the descriptor of the union is made of the descriptors of its leaves with ` | ` between
them, whatever the nesting and the parentheses. The leaves are the types other than unions that are
reached through members and wrappers, in source order. If none of their descriptors has a `|`, that of
the union has one less than there are leaves. The same holds of intersections with ` & `. -/
theorem typeDescriptor_flattens (joint : Joint) (node : Node) (hkind : node.kind = joint.kind)
    (hpopulated : ∀ member ∈ node.members, ∀ inner, member.Joins joint inner →
      inner.kind = joint.kind → inner.members ≠ []) :
    (node.Readable →
      (Logged.reading node.typeReads node.typeDescriptor).outcome.value = .ok node.typeDescriptor) ∧
    node.typeDescriptor
      = joint.separator.intercalate ((node.leaves joint).map typeDescriptor) ∧
    (∀ leaf, leaf ∈ node.leaves joint ↔ node.Joins joint leaf ∧ leaf.kind ≠ joint.kind ∧
      (leaf.kind.isTransparentType = true → leaf.firstMember? = none)) ∧
    (node.leaves joint).Sublist node.preorder ∧
    (node.members ≠ [] → (∀ leaf ∈ node.leaves joint, joint.mark ∉ leaf.typeDescriptor.toList) →
      node.typeDescriptor.toList.count joint.mark + 1 = (node.leaves joint).length) := by
  have hdescriptor : node.typeDescriptor
      = joint.separator.intercalate ((node.leaves joint).map typeDescriptor) :=
    typeDescriptor_of_members hkind hpopulated fun member hmember =>
      typeDescriptor_of_populated (hpopulated member hmember)
  refine ⟨?_, hdescriptor, fun leaf => mem_leaves_iff, leaves_sublist joint node, ?_⟩
  · intro hreadable
    exact Logged.value_outcome_reading hreadable node.typeReads_subset _
  · intro hmembers hmarks
    obtain ⟨member, hmember⟩ := List.exists_mem_of_ne_nil _ hmembers
    have hleaves : (node.leaves joint).map typeDescriptor ≠ [] := by
      rw [leaves_of_kind hkind]
      intro hempty
      have hnil := List.flatMap_eq_nil_iff.1 (List.map_eq_nil_iff.1 hempty) member hmember
      exact leaves_ne_nil (hpopulated member hmember) hnil
    rw [hdescriptor, Text.count_intercalate joint.count_mark_separator hleaves, List.length_map]
    intro text htext
    obtain ⟨leaf, hleaf, rfl⟩ := List.mem_map.1 htext
    exact hmarks leaf hleaf

/-- A type of a sample tree that is a name. -/
def sampleName (start : Nat) (name : String) : Node :=
  .mk (.sample .typeIdentifier none start name) []

/-- The type `(A | (/* */ B | C)) | D[]`. -/
def sampleUnion : Node :=
  .mk (.sample .unionType none 0 "")
    [.mk (.sample .parenthesizedType none 1 "")
        [.mk (.sample .unionType none 2 "")
          [sampleName 3 "A",
            .mk (.sample .parenthesizedType none 4 "")
              [.mk (.sample .comment none 5 "/* */") [],
                .mk (.sample .unionType none 6 "") [sampleName 7 "B", sampleName 8 "C"]]]],
      .mk (.sample .arrayType none 9 "") [sampleName 10 "D"]]

theorem typeDescriptor_flattens_nested :
    sampleUnion.kind = Joint.union.kind ∧
    (∀ member ∈ sampleUnion.members, ∀ inner, member.Joins .union inner →
      inner.kind = Joint.union.kind → inner.members ≠ []) ∧
    (sampleUnion.leaves .union).map typeDescriptor = ["A", "B", "C", "D[]"] ∧
    sampleUnion.typeDescriptor = "A | B | C | D[]" ∧
    sampleUnion.typeDescriptor.toList.count '|' = 3 := by
  have hall : ∀ inner ∈ sampleUnion.preorder,
      inner.kind = Joint.union.kind → inner.members ≠ [] := by decide
  have hpopulated : ∀ member ∈ sampleUnion.members, ∀ inner, member.Joins .union inner →
      inner.kind = Joint.union.kind → inner.members ≠ [] := by
    intro member hmember inner hreach
    have hwalk := mem_walk_of_mem_children (List.mem_filter.1 hmember).1 hreach.mem_walk
    exact hall inner (walk_eq_preorder sampleUnion ▸ hwalk)
  have hleaves : (sampleUnion.leaves .union).map typeDescriptor = ["A", "B", "C", "D[]"] := by rfl
  obtain ⟨_, hdescriptor, _, _, hcount⟩ :=
    typeDescriptor_flattens .union sampleUnion rfl hpopulated
  rw [hleaves] at hdescriptor
  refine ⟨rfl, hpopulated, hleaves, hdescriptor, ?_⟩
  have hmarks : ∀ leaf ∈ sampleUnion.leaves .union, '|' ∉ leaf.typeDescriptor.toList := by
    have htexts : ∀ text ∈ ["A", "B", "C", "D[]"], '|' ∉ text.toList := by decide
    exact fun leaf hleaf => htexts _ (hleaves ▸ List.mem_map_of_mem hleaf)
  have hlength : (sampleUnion.leaves .union).length = 4 := by rfl
  have hmembers : sampleUnion.members ≠ [] := by decide
  have hsum := hcount hmembers hmarks
  rw [hlength] at hsum
  exact Nat.succ.inj hsum

end Flattening

end Node

end ComponentSurvey
