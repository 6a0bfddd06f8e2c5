import ComponentSurvey.Tree.Outline
import ComponentSurvey.Proofs.Findings
import Mathlib.Data.List.Nodup

/-!
# No function is recorded twice

A record is made from a function of the tree: the one that is bound, or the one at the end of the
chain of wrapper calls that is bound. The same function might be reached in many ways: as the value
of a declarator or of a default export, inside parentheses, or through calls. Climbing from the
function shows that only one site can have led to it.

* `Cursor.firstArgument?`, `Cursor.target?` — the first argument of a call, and the function at the
  end of a chain of wrapper calls, in their places.
* `Binding.source?` — the function that a binding is analysed by, in its place.
* `Reaches` — a declarator or export leads to an expression by its value and by first arguments.
* `Reaches.unique` — only one site leads to an expression.
* `Node.numbered_ofOutline` — the nodes of a tree that is read have different numbers.
* `FileSurvey.sources_distinct` — the records of a survey are made from different functions.
-/

namespace ComponentSurvey

/-! ### Chains of wrapper calls in their places -/

namespace Cursor

/-- The first member of a node, in its place. -/
def firstMember? (cursor : Cursor) : Option Cursor :=
  cursor.node.firstMember?.map fun member => ⟨member, cursor.node :: cursor.ancestors⟩

/-- The first argument of a call, inside any parentheses, in its place. -/
def firstArgument? (call : Cursor) : Option Cursor :=
  ((call.child? .arguments).bind firstMember?).bind stripParens

theorem map_node_firstArgument? (call : Cursor) :
    call.firstArgument?.map node = call.node.firstArgument? := by
  rw [firstArgument?, Node.firstArgument?, child?]
  cases call.node.child? .arguments with
  | none => rfl
  | some list =>
    show ((list.firstMember?.map fun member => _).bind stripParens).map node
      = list.firstMember?.bind Node.stripParens
    cases list.firstMember? with
    | none => rfl
    | some member => exact map_node_stripParens _

theorem size_lt_of_firstArgument? {call argument : Cursor}
    (h : call.firstArgument? = some argument) : argument.node.size < call.node.size := by
  apply Node.size_lt_of_firstArgument?
  rw [← map_node_firstArgument?, h]
  rfl

/-- The function at the end of a chain of wrapper calls, in its place. -/
def target? (call : Cursor) : Option Cursor :=
  if call.node.wrapperName?.isSome then
    match _h : call.firstArgument? with
    | none => none
    | some argument =>
      if argument.node.isFunctionExpression then some argument
      else if argument.node.isCall then argument.target?
      else none
  else none
termination_by call.node.size
decreasing_by exact size_lt_of_firstArgument? _h

/-- One step along a chain of wrapper calls. -/
theorem target?_cases {call target : Cursor} (h : call.target? = some target) :
    ∃ argument, call.firstArgument? = some argument ∧
      (argument.node.isFunctionExpression = true ∧ target = argument ∨
        argument.node.isCall = true ∧ argument.target? = some target) := by
  rw [target?] at h
  split at h
  · split at h
    · cases h
    · rename_i argument hargument
      refine ⟨argument, hargument, ?_⟩
      split at h
      · rename_i hfun
        cases h
        exact .inl ⟨hfun, rfl⟩
      · split at h
        · rename_i hcall
          exact .inr ⟨hcall, h⟩
        · cases h
  · cases h

/-- Without its place, the end of a chain is the function that unwrapping gives. -/
theorem map_node_target? (call : Cursor) (line : Nat) :
    call.target?.map node = (call.node.unwrapFrom line).value.target? := by
  rw [target?, Node.target?_unwrapFrom, ← map_node_firstArgument?]
  split
  · split
    · rename_i hnone
      rw [hnone]
      rfl
    · rename_i argument hargument
      have hlt := size_lt_of_firstArgument? hargument
      rw [hargument]
      show _ = if argument.node.isFunctionExpression then some argument.node
        else if argument.node.isCall then (argument.node.unwrapFrom line).value.target? else none
      split
      · rfl
      · split
        · exact map_node_target? argument line
        · rfl
  · rfl
termination_by call.node.size

/-! ### What stands above a value and above a first argument -/

theorem mem_of_firstArgument? {root : Node} {call argument : Cursor} (hcall : call ∈ root.cursors)
    (h : call.firstArgument? = some argument) : argument ∈ root.cursors := by
  obtain ⟨first, hfirst, hargument⟩ := Option.bind_eq_some_iff.1 h
  obtain ⟨list, hlist, hfirst⟩ := Option.bind_eq_some_iff.1 hfirst
  obtain ⟨member, hmember, rfl⟩ := Option.map_eq_some_iff.1 hfirst
  refine mem_of_stripParens (Node.mem_cursors_child (mem_of_child? hcall hlist) ?_) hargument
  exact List.mem_of_find?_eq_some hmember

/-- Above a first argument stand parentheses, the list of arguments and the call. -/
theorem ancestors_firstArgument? {call argument : Cursor}
    (h : call.firstArgument? = some argument) :
    ∃ (parens : List Node) (list : Node),
      argument.ancestors = parens ++ list :: call.node :: call.ancestors ∧
      (∀ node ∈ parens, node.kind = .parenthesizedExpression) ∧
      call.node.child? .arguments = some list := by
  obtain ⟨first, hfirst, hargument⟩ := Option.bind_eq_some_iff.1 h
  obtain ⟨place, hplace, hfirst⟩ := Option.bind_eq_some_iff.1 hfirst
  obtain ⟨list, hlist, rfl⟩ := Option.map_eq_some_iff.1 hplace
  obtain ⟨member, _, rfl⟩ := Option.map_eq_some_iff.1 hfirst
  obtain ⟨parens, hparens, hkinds⟩ := ancestors_stripParens hargument
  exact ⟨parens, list, hparens, hkinds, hlist⟩

/-- Above a value stand parentheses and the declarator or export that holds it. -/
theorem ancestors_value? {site value : Cursor} (h : Binding.value? site = some value) :
    ∃ parens : List Node, value.ancestors = parens ++ site.node :: site.ancestors ∧
      ∀ node ∈ parens, node.kind = .parenthesizedExpression := by
  obtain ⟨place, hplace, hvalue⟩ := Option.bind_eq_some_iff.1 h
  obtain ⟨child, _, rfl⟩ := Option.map_eq_some_iff.1 hplace
  exact ancestors_stripParens hvalue

theorem eq_of_cons_eq {first second : Cursor}
    (h : first.node :: first.ancestors = second.node :: second.ancestors) : first = second := by
  obtain ⟨node, ancestors⟩ := first
  cases h
  rfl

theorem enclosing_eq {cursor : Cursor} {parens rest : List Node} {parent : Node}
    (h : cursor.ancestors = parens ++ parent :: rest)
    (hparens : ∀ node ∈ parens, node.kind = .parenthesizedExpression)
    (hparent : parent.kind ≠ .parenthesizedExpression) : cursor.enclosing = parent :: rest := by
  have hdrop : ∀ node ∈ parens, (node.kind == .parenthesizedExpression) = true :=
    fun node hnode => beq_iff_eq.2 (hparens node hnode)
  rw [enclosing, h, List.dropWhile_append_of_pos hdrop,
    List.dropWhile_cons_of_neg (by simpa using hparent)]

theorem enclosing_value? {site value : Cursor} (h : Binding.value? site = some value)
    (hsite : site.node.kind = .variableDeclarator ∨ site.node.kind = .exportStatement) :
    value.enclosing = site.node :: site.ancestors := by
  obtain ⟨parens, hparens, hkinds⟩ := ancestors_value? h
  refine enclosing_eq hparens hkinds ?_
  rcases hsite with hkind | hkind <;> simp [hkind]

/-- Climbing from a first argument leads to the list of arguments, or, where that is a parenthesis
itself, to the call. -/
theorem enclosing_firstArgument? {call argument : Cursor} (h : call.firstArgument? = some argument)
    (hcall : call.node.kind = .callExpression) :
    ∃ list, call.node.child? .arguments = some list ∧
      (argument.enclosing = list :: call.node :: call.ancestors ∨
        argument.enclosing = call.node :: call.ancestors) := by
  obtain ⟨parens, list, hparens, hkinds, hlist⟩ := ancestors_firstArgument? h
  refine ⟨list, hlist, ?_⟩
  by_cases hk : list.kind = .parenthesizedExpression
  · right
    rw [← List.singleton_append, ← List.append_assoc] at hparens
    refine enclosing_eq hparens ?_ (by simp [hcall])
    intro node hnode
    rcases List.mem_append.1 hnode with hnode | hnode
    · exact hkinds node hnode
    · rw [List.mem_singleton.1 hnode, hk]
  · exact .inl (enclosing_eq hparens hkinds hk)

end Cursor

/-! ### The site that leads to an expression -/

/-- No call holds a declarator or an export as its list of arguments. -/
def Node.PlainArguments (root : Node) : Prop :=
  ∀ call ∈ root.walk, call.kind = .callExpression → ∀ list, call.child? .arguments = some list →
    list.kind ≠ .variableDeclarator ∧ list.kind ≠ .exportStatement

instance (root : Node) : Decidable root.PlainArguments :=
  decidable_of_iff (∀ call ∈ root.preorder, call.kind = .callExpression →
    ∀ list ∈ call.child? .arguments,
      list.kind ≠ .variableDeclarator ∧ list.kind ≠ .exportStatement) <| by
    rw [Node.PlainArguments, Node.walk_eq_preorder]
    rfl

/-- A declarator or export of a tree leads to its value, and to the first argument of every call it
leads to. -/
inductive Reaches (root : Node) (site : Cursor) : Cursor → Prop
  | value {value : Cursor} : site ∈ root.cursors →
      (site.node.kind = .variableDeclarator ∨ site.node.kind = .exportStatement) →
      Binding.value? site = some value → Reaches root site value
  | argument {call argument : Cursor} : Reaches root site call →
      call.node.kind = .callExpression → call.firstArgument? = some argument →
      Reaches root site argument

namespace Reaches

variable {root : Node} {site other call inner target : Cursor}

theorem mem_cursors (h : Reaches root site target) : target ∈ root.cursors := by
  induction h with
  | value hsite _ hvalue => exact Binding.mem_of_value? hsite hvalue
  | argument _ _ hargument ih => exact Cursor.mem_of_firstArgument? ih hargument

/-- A call and one of its children are not both led to. Only a call further up could have led to the
child, with the first call as its list of arguments, and the same then holds of these two. -/
theorem not_child (hinner : Reaches root site inner) (hcall : Reaches root other call)
    (hancestors : inner.ancestors = call.node :: call.ancestors)
    (hkind : call.node.kind = .callExpression) : False := by
  obtain ⟨node, ancestors⟩ := inner
  induction ancestors generalizing node site other call with
  | nil => cases hancestors
  | cons first rest ih =>
    obtain ⟨callNode, callAncestors⟩ := call
    cases hancestors
    cases hinner with
    | value _ hsite hvalue =>
      obtain ⟨parens, hparens, hkinds⟩ := Cursor.ancestors_value? hvalue
      cases parens with
      | nil =>
        cases hparens
        rcases hsite with hsite | hsite <;> cases hsite.symm.trans hkind
      | cons paren parens =>
        cases hparens
        cases (hkinds callNode List.mem_cons_self).symm.trans hkind
    | @argument upper _ hupper hupperKind hargument =>
      obtain ⟨parens, list, hparens, hkinds, _⟩ := Cursor.ancestors_firstArgument? hargument
      cases parens with
      | nil =>
        -- the call is the list of arguments of `upper`, hence a child of it
        obtain ⟨rfl, hrest⟩ := List.cons.inj hparens
        exact ih hupper hupperKind callNode hcall hrest
      | cons paren parens =>
        cases hparens
        cases (hkinds callNode List.mem_cons_self).symm.trans hkind

/-- What a site holds as its value is the first argument of no call that is led to. -/
theorem not_firstArgument (hplain : root.PlainArguments) (hcall : Reaches root other call)
    (hkind : call.node.kind = .callExpression) (hargument : call.firstArgument? = some target)
    (hsite : site.node.kind = .variableDeclarator ∨ site.node.kind = .exportStatement) :
    Binding.value? site ≠ some target := by
  intro hvalue
  have hup := Cursor.enclosing_value? hvalue hsite
  obtain ⟨list, hlist, henclosing⟩ := Cursor.enclosing_firstArgument? hargument hkind
  have hwalk := Node.mem_walk_of_mem_cursors hcall.mem_cursors
  obtain ⟨hdeclarator, hexport⟩ := hplain _ hwalk hkind list hlist
  rcases henclosing with henclosing | henclosing
  · have hnode : site.node = list := (List.cons.inj (hup.symm.trans henclosing)).1
    rw [hnode] at hsite
    exact hsite.elim hdeclarator hexport
  · have hnode : site.node = call.node := (List.cons.inj (hup.symm.trans henclosing)).1
    rw [hnode] at hsite
    rcases hsite with hsite | hsite <;> cases hsite.symm.trans hkind

/-- Two calls that are led to have different first arguments. -/
theorem firstArgument_inj (hcall : Reaches root site call) (hinner : Reaches root other inner)
    (hcallKind : call.node.kind = .callExpression) (hinnerKind : inner.node.kind = .callExpression)
    (hcallArgument : call.firstArgument? = some target)
    (hinnerArgument : inner.firstArgument? = some target) : call = inner := by
  obtain ⟨list, _, hup⟩ := Cursor.enclosing_firstArgument? hcallArgument hcallKind
  obtain ⟨list', _, hup'⟩ := Cursor.enclosing_firstArgument? hinnerArgument hinnerKind
  -- where one list of arguments is a parenthesis and the other is not, one call holds the other
  rcases hup with hup | hup <;> rcases hup' with hup' | hup' <;> rw [hup] at hup'
  · obtain ⟨_, htail⟩ := List.cons.inj hup'
    exact Cursor.eq_of_cons_eq htail
  · obtain ⟨_, hancestors⟩ := List.cons.inj hup'
    exact (hinner.not_child hcall hancestors.symm hcallKind).elim
  · obtain ⟨_, hancestors⟩ := List.cons.inj hup'
    exact (hcall.not_child hinner hancestors hinnerKind).elim
  · exact Cursor.eq_of_cons_eq hup'

/-- Only one site leads to an expression. -/
theorem unique (hplain : root.PlainArguments) (h : Reaches root site target)
    (h' : Reaches root other target) : site = other := by
  induction h generalizing other with
  | value _ hsite hvalue =>
    cases h' with
    | value _ hother hvalue' =>
      have hup := Cursor.enclosing_value? hvalue hsite
      rw [Cursor.enclosing_value? hvalue' hother] at hup
      exact (Cursor.eq_of_cons_eq hup).symm
    | argument hcall hkind hargument =>
      exact absurd hvalue (not_firstArgument hplain hcall hkind hargument hsite)
  | argument hcall hkind hargument ih =>
    cases h' with
    | value _ hother hvalue =>
      exact absurd hvalue (not_firstArgument hplain hcall hkind hargument hother)
    | argument hinner hinnerKind hinnerArgument =>
      have hsame := firstArgument_inj hcall hinner hkind hinnerKind hargument hinnerArgument
      subst hsame
      exact ih hinner

/-- A site that leads to a call leads to the end of the chain that starts there. -/
theorem of_target? {call : Cursor} (hcall : Reaches root site call)
    (hkind : call.node.kind = .callExpression) (h : call.target? = some target) :
    Reaches root site target ∧ target.node.isFunctionExpression = true := by
  obtain ⟨argument, hargument, hstep⟩ := Cursor.target?_cases h
  have hreach : Reaches root site argument := hcall.argument hkind hargument
  have hlt := Cursor.size_lt_of_firstArgument? hargument
  rcases hstep with ⟨hfun, rfl⟩ | ⟨hisCall, hrest⟩
  · exact ⟨hreach, hfun⟩
  · exact hreach.of_target? (by simpa [Node.isCall] using hisCall) hrest
termination_by call.node.size

end Reaches

/-! ### The function that a binding is analysed by -/

namespace Binding

/-- The function that a binding is analysed by, in its place: the one at the end of the chain of a
wrapper call, or else the one that is bound. -/
def source? (binding : Binding) : Option Cursor :=
  if binding.isWrapperCall then binding.cursor.target? else some binding.cursor

variable {root : Node} {site place : Cursor} {binding : Binding} {file : FileContext}

theorem map_node_source? (binding : Binding) :
    binding.source?.map Cursor.node
      = if binding.isWrapperCall then binding.node.unwrap.value.target? else some binding.node := by
  rw [source?]
  split
  · exact Cursor.map_node_target? _ _
  · rfl

/-- A binding is analysed by the declaration that makes it, or by a function expression that its
site leads to. -/
theorem source?_cases (hsite : site ∈ root.cursors) (h : ofCursor? site = some binding)
    (hsource : binding.source? = some place) :
    (site.node.kind.isFunctionDeclaration = true ∧ place = site) ∨
    (Reaches root site place ∧ place.node.isFunctionExpression = true) := by
  rcases ofCursor?_cases h with ⟨hkind, hcursor⟩ | ⟨hkind, hvalue, hbound⟩
  · refine .inl ⟨hkind, ?_⟩
    have hnot : ¬ binding.isWrapperCall = true := by
      intro hcall
      rw [isWrapperCall, node, hcursor, Node.isCall, beq_iff_eq] at hcall
      rw [hcall] at hkind
      cases hkind
    rw [source?, if_neg hnot, hcursor] at hsource
    exact (Option.some.inj hsource).symm
  · refine .inr ?_
    have hreach : Reaches root site binding.cursor := .value hsite hkind hvalue
    rw [source?] at hsource
    split at hsource
    · rename_i hcall
      exact hreach.of_target? (beq_iff_eq.1 hcall) hsource
    · rename_i hcall
      cases hsource
      exact ⟨hreach, hbound.resolve_right fun hwrap => hcall (Node.isCall_of_wrapperName? hwrap)⟩

/-- What a binding is analysed by is a function of the tree. -/
theorem mem_of_source? (h : binding ∈ ofTree root) (hsource : binding.source? = some place) :
    place ∈ root.cursors ∧ place.node.kind.isFunctionLike = true := by
  obtain ⟨site, hsite, hbinding⟩ := List.mem_filterMap.1 h
  rcases source?_cases hsite hbinding hsource with ⟨hdecl, rfl⟩ | ⟨hreach, hexpr⟩
  · exact ⟨hsite, by simp [Kind.isFunctionLike, hdecl]⟩
  · have hkind : place.node.kind.isFunctionExpression = true := (Bool.and_eq_true_iff.1 hexpr).2
    exact ⟨hreach.mem_cursors, by simp [Kind.isFunctionLike, hkind]⟩

/-- Different bindings of a tree are analysed by different functions. -/
theorem eq_of_source? (hplain : root.PlainArguments) {other : Binding} (h : binding ∈ ofTree root)
    (hother : other ∈ ofTree root) (hsource : binding.source? = some place)
    (hsource' : other.source? = some place) : binding = other := by
  obtain ⟨site, hsite, hbinding⟩ := List.mem_filterMap.1 h
  obtain ⟨site', hsite', hother⟩ := List.mem_filterMap.1 hother
  have hexcl : ∀ node : Node, node.kind.isFunctionDeclaration = true →
      ¬ node.isFunctionExpression = true := by
    intro node hdecl hexpr
    cases hk : node.kind <;> simp_all [Kind.isFunctionDeclaration, Node.isFunctionExpression,
      Kind.isFunctionExpression]
  have hsame : site = site' := by
    rcases source?_cases hsite hbinding hsource with ⟨hdecl, rfl⟩ | ⟨hreach, hexpr⟩ <;>
      rcases source?_cases hsite' hother hsource' with ⟨hdecl', hplace⟩ | ⟨hreach', hexpr'⟩
    · exact hplace
    · exact absurd hexpr' (hexcl _ hdecl)
    · exact absurd (hplace ▸ hexpr) (hexcl _ hdecl')
    · exact hreach.unique hplain hreach'
  rw [hsame, hother] at hbinding
  exact (Option.some.inj hbinding).symm

end Binding

/-! ### Numbers of nodes -/

namespace Node

/-- No two nodes of a tree have the same number. -/
def Numbered (root : Node) : Prop := (root.walk.map Node.index).Nodup

/-- A node that is put in front of trees comes first in pre-order and changes nothing after it. -/
theorem map_index_adopt (depth : Nat) (label : Label) (following : List (Nat × Node)) :
    (preorders ((adopt depth label following).map Prod.snd)).map Node.index
      = label.index :: (preorders (following.map Prod.snd)).map Node.index := by
  rw [adopt, List.map_cons, preorders_cons, preorder_eq, List.cons_append, List.map_cons]
  show _ :: (preorders ((following.takeWhile _).map Prod.snd)
    ++ preorders ((following.dropWhile _).map Prod.snd)).map Node.index = _
  rw [← preorders_append, ← List.map_append, List.takeWhile_append_dropWhile]
  rfl

/-- In a numbered tree, a node's number tells its place. -/
theorem Numbered.eq_of_index {root : Node} (h : root.Numbered) {first second : Cursor}
    (hfirst : first ∈ root.cursors) (hsecond : second ∈ root.cursors)
    (hindex : first.node.index = second.node.index) : first = second := by
  rw [Numbered, ← map_node_cursors, List.map_map] at h
  exact List.inj_on_of_nodup_map h hfirst hsecond hindex

/-- The tree of an outline is numbered. -/
theorem numbered_ofOutline {source : String} {entries : List Entry} {root : Node}
    (h : ofOutline source entries = some root) : root.Numbered := by
  have hindices : ∀ pairs : List (Entry × Nat),
      (preorders ((pairs.foldr (fun entry following =>
        adopt entry.1.depth (entry.1.label source.toUTF8 entry.2) following) []).map
          Prod.snd)).map Node.index = pairs.map Prod.snd := by
    intro pairs
    induction pairs with
    | nil => rfl
    | cons pair rest ih =>
      rw [List.foldr_cons, map_index_adopt, ih]
      rfl
  obtain ⟨tree, htree, rfl⟩ := Option.map_eq_some_iff.1 h
  obtain ⟨rest, hrest⟩ := List.head?_eq_some_iff.1 htree
  have hall := hindices entries.zipIdx
  rw [hrest, List.map_cons, preorders_cons, List.map_append, List.zipIdx_map_snd] at hall
  rw [Numbered, walk_eq_preorder]
  exact (hall ▸ List.nodup_range').sublist (List.sublist_append_left _ _)

end Node

/-! ### The functions of the records -/

namespace FileSurvey

/-- The function that the record of a name is made from, in its place. -/
def source? (root : Node) (name : String) : Option Cursor :=
  (Binding.winner? (Binding.ofTree root) name).bind Binding.source?

variable {root : Node} {path : String}

/-- A record is contributed by the winner of its name, from a function of the tree. -/
theorem exists_source {finding : Finding} (h : finding ∈ (ofTree root path).value.findings) :
    ∃ winner place, Binding.winner? (Binding.ofTree root) finding.name = some winner ∧
      winner.finding? (context root path) = some finding ∧
      winner.source? = some place ∧ winner ∈ Binding.ofTree root := by
  obtain ⟨winner, hwinner, hfinding⟩ :=
    List.mem_filterMap.1 ((findings_ofTree_perm root path).subset h)
  have hname := Binding.name_of_finding? hfinding
  have hsome : winner.source?.isSome = true := by
    rw [Binding.source?]
    split
    · rename_i hcall
      rw [Binding.finding?, if_pos hcall] at hfinding
      obtain ⟨record, hrecord, _⟩ := Option.map_eq_some_iff.1 hfinding
      obtain ⟨target, htarget, _⟩ := Option.map_eq_some_iff.1 hrecord
      rw [← Option.isSome_map, Cursor.map_node_target? _ winner.node.line]
      exact Option.isSome_of_eq_some htarget
    · rfl
  obtain ⟨place, hplace⟩ := Option.isSome_iff_exists.1 hsome
  refine ⟨winner, place, Binding.winner?_eq_some_iff.2 ⟨hwinner, hname.symm⟩, hfinding, hplace, ?_⟩
  exact Binding.mem_topLevelFirst.1 ((Binding.winners_sublist _).subset hwinner)

/-- **No function is recorded twice.** Each record is made from a function of the tree: for a
wrapper call the one that unwrapping ends at, otherwise the one that is bound. The records of a
survey, of both sorts together, are made from functions in different places, which have different
numbers in the tree of an outline; so a function inside wrapper calls is not found again as a record
of its own. -/
theorem sources_distinct (root : Node) (path : String) (hplain : root.PlainArguments) :
    let survey := (ofTree root path).value
    (root.Readable → (ofTree root path).outcome.value = .ok survey) ∧
    (∀ finding ∈ survey.findings, ∃ winner place,
      Binding.winner? (Binding.ofTree root) finding.name = some winner ∧
      winner.finding? ⟨path, survey.imports⟩ = some finding ∧
      source? root finding.name = some place ∧
      place ∈ root.cursors ∧ place.node.kind.isFunctionLike = true ∧
      some place.node = if winner.isWrapperCall then winner.node.unwrap.value.target?
        else some winner.node) ∧
    (survey.findings.map fun finding => source? root finding.name).Nodup ∧
    (∀ source entries, Node.ofOutline source entries = some root →
      (survey.findings.map fun finding =>
        (source? root finding.name).map fun place => place.node.index).Nodup) := by
  intro survey
  have hnames : survey.findings.Pairwise fun a b => a.name ≠ b.name :=
    List.pairwise_map.1 (nodup_map_name_findings root path)
  have hdistinct : survey.findings.Pairwise fun a b => ∃ x y,
      source? root a.name = some x ∧ source? root b.name = some y ∧
      x ∈ root.cursors ∧ y ∈ root.cursors ∧ x ≠ y := by
    refine hnames.imp_of_mem ?_
    intro a b ha hb hne
    obtain ⟨first, x, hfirst, _, hx, hfirstMem⟩ := exists_source ha
    obtain ⟨second, y, hsecond, _, hy, hsecondMem⟩ := exists_source hb
    refine ⟨x, y, by rw [source?, hfirst]; exact hx, by rw [source?, hsecond]; exact hy,
      (Binding.mem_of_source? hfirstMem hx).1, (Binding.mem_of_source? hsecondMem hy).1, ?_⟩
    rintro rfl
    have hsame := Binding.eq_of_source? hplain hfirstMem hsecondMem hx hy
    apply hne
    rw [← (Binding.winner?_eq_some_iff.1 hfirst).2, hsame]
    exact (Binding.winner?_eq_some_iff.1 hsecond).2
  refine ⟨fun h => outcome_ofTree h path, ?_, ?_, ?_⟩
  · intro finding hmem
    obtain ⟨winner, place, hwinner, hfinding, hplace, hbinding⟩ := exists_source hmem
    obtain ⟨hcursor, hfunction⟩ := Binding.mem_of_source? hbinding hplace
    refine ⟨winner, place, hwinner, hfinding, ?_, hcursor, hfunction, ?_⟩
    · rw [source?, hwinner]
      exact hplace
    · rw [← Binding.map_node_source?, hplace]
      rfl
  · refine List.pairwise_map.2 (hdistinct.imp ?_)
    rintro a b ⟨x, y, hx, hy, _, _, hne⟩ heq
    rw [hx, hy] at heq
    exact hne (Option.some.inj heq)
  · intro source entries houtline
    have hnumbered := Node.numbered_ofOutline houtline
    refine List.pairwise_map.2 (hdistinct.imp ?_)
    rintro a b ⟨x, y, hx, hy, hxmem, hymem, hne⟩ heq
    rw [hx, hy] at heq
    exact hne (hnumbered.eq_of_index hxmem hymem (Option.some.inj heq))

/-- A call with one argument in a sample tree. -/
def sampleCall (field : Option Field) (start : Nat) (callee : String) (argument : Node) : Node :=
  .mk (.sample .callExpression field start "")
    [.mk (.sample .identifier (some .function) (start + 1) callee) [],
      .mk (.sample (.other "arguments") (some .arguments) (start + 2) "") [argument]]

/-- The program `const A = memo(forwardRef(() => { function b() { return <p></p> } }))` with an
exported function `g` after it. -/
def wrappedSample : Node :=
  let inner : Node := .mk (.sample .arrowFunction none 10 "")
    [.sampleFunction 11 "b" [.mk (.sample .jsxElement none 14 "") []]]
  let declarator : Node := .mk (.sample .variableDeclarator none 2 "")
    [.mk (.sample .identifier (some .name) 3 "A") [],
      sampleCall (some .value) 4 "memo" (sampleCall none 7 "forwardRef" inner)]
  .mk (.sample .program none 0 "")
    [.mk (.sample .lexicalDeclaration none 1 "") [declarator],
      .mk (.sample .exportStatement none 20 "") [.sampleFunction 21 "g" []]]

theorem sources_distinct_wrapped :
    let survey := (ofTree wrappedSample "a.js").value
    wrappedSample.PlainArguments ∧
    survey.findings.map Finding.name = ["A", "b", "g"] ∧
    (survey.findings.map fun finding =>
      (source? wrappedSample finding.name).map fun place => place.node.index)
        = [some 10, some 11, some 21] ∧
    (survey.findings.map fun finding => source? wrappedSample finding.name).Nodup := by
  have hplain : wrappedSample.PlainArguments := by decide
  have hdistinct := sources_distinct wrappedSample "a.js" hplain
  have hcomponents : (ofTree wrappedSample "a.js").value.components = _ :=
    components_ofTree_of_pairwise (by decide +kernel)
  refine ⟨hplain, ?_, ?_, hdistinct.2.2.1⟩
  · rw [findings, hcomponents]
    decide +kernel
  · rw [findings, hcomponents]
    decide +kernel

end FileSurvey

end ComponentSurvey
