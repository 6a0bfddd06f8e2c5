import ComponentSurvey.Console.Report
import ComponentSurvey.Proofs.HookCalls
import ComponentSurvey.Proofs.Sources
import ComponentSurvey.Proofs.VerbatimMarkup
import ComponentSurvey.Proofs.WrapperChain

/-!
# Tables that show what was found

The cells of a report hold names, props and signatures with their types, and are printed with markup.
A tuple such as `[string, number]` looks like a tag and is lost; nearly all else is shown as it is.

* `FileSurvey.textCells` — the cells with what was found.
* `Node.ShowsPlainly` — the texts that a node gives to a survey are plain, and it is no tuple that
  looks like a tag.
* `Node.settles_typeDescriptor`, `Node.settles_defaultText` — types and defaults of such trees.
* `Param.Settled`, `ComponentProp.Settled`, `Component.Settled`, `PlainFunction.Settled` — the records of
  such trees.
* `FileSurvey.tables_show_findings` — the cells that are printed as they are.
-/

namespace ComponentSurvey

open Markup

/-! ### Texts of nodes -/

namespace Node

/-- The kinds of nodes whose own texts are shown. -/
def wordKinds : List Kind :=
  [.identifier, .propertyIdentifier, .shorthandPropertyIdentifierPattern, .typeIdentifier,
    .nestedTypeIdentifier, .string, .number, .trueLiteral, .falseLiteral, .nullLiteral,
    .undefinedLiteral]

/-- What a node gives to a survey is shown as it is: its text if it is a word, the name of a generic
type and what a rest pattern binds are plain, and a tuple has no character behind its opening bracket
that starts a tag. -/
@[mk_iff]
structure ShowsPlainly (node : Node) : Prop where
  word : node.kind ∈ wordKinds → IsPlain node.text
  genericName : node.kind = .genericType → ∀ name ∈ node.child? .name, IsPlain name.text
  restTarget : node.kind = .restPattern → ∀ target ∈ node.namedChildren.head?, IsPlain target.text
  tuple : node.kind = .tupleType →
    (", ".intercalate (node.members.map typeDescriptor)).toList.head?.any startsTag = false

instance (node : Node) : Decidable node.ShowsPlainly := decidable_of_iff' _ node.showsPlainly_iff

/-- All nodes of a tree are shown as they are. -/
def AllPlain (root : Node) : Prop := ∀ node ∈ root.walk, node.ShowsPlainly

instance (root : Node) : Decidable root.AllPlain :=
  decidable_of_iff (∀ node ∈ root.preorder, node.ShowsPlainly) (by rw [AllPlain, walk_eq_preorder])

theorem mem_wordKinds {node : Node} {kind : Kind} (hkind : node.kind = kind)
    (hword : kind ∈ wordKinds) : node.kind ∈ wordKinds :=
  hkind ▸ hword

theorem ShowsPlainly.text {node : Node} (h : node.ShowsPlainly) {kind : Kind} (hkind : node.kind = kind)
    (hword : kind ∈ wordKinds) : IsPlain node.text :=
  h.word (mem_wordKinds hkind hword)

theorem AllPlain.of_mem_walk {root node : Node} (h : root.AllPlain) (hnode : node ∈ root.walk) :
    node.AllPlain :=
  fun inner hinner => h inner (mem_walk_trans hnode hinner)

theorem AllPlain.word {root node : Node} (h : root.AllPlain) (hnode : node ∈ root.walk)
    (hkind : node.kind ∈ wordKinds) : IsPlain node.text :=
  (h node hnode).word hkind

/-! ### Types and defaults -/

theorem between?_subset {chars inner : List Char} (h : Text.between? chars = some inner) :
    inner ⊆ chars := by
  rw [Text.between?.eq_def] at h
  split at h
  · rename_i mark rest
    split at h
    · split at h
      · cases h
        exact List.Subset.trans (List.dropLast_subset rest) (List.subset_cons_self mark rest)
      · cases h
    · cases h
  · cases h

/-- A plain literal is settled in apostrophes, too. -/
theorem settles_inApostrophes {text : String} (h : IsPlain text) :
    Settles (Text.inApostrophes (Text.unquoted text)) := by
  have hsubset : (Text.unquoted text).toList ⊆ text.toList := by
    rw [Text.unquoted]
    cases hbetween : Text.between? text.toList with
    | none => exact List.Subset.refl _
    | some inner =>
      rw [Option.map_some, Option.getD_some, String.toList_ofList]
      exact between?_subset hbetween
  have hquote : Settles "'" := by decide
  exact (hquote.append (h.of_subset hsubset).settles).append hquote

theorem settles_unspaced {text : String} (h : IsPlain text) : Settles (Text.unspaced text) := by
  refine (h.of_subset ?_).settles
  rw [Text.unspaced, String.toList_ofList]
  exact List.filter_sublist.subset

theorem settles_anyType : Settles anyType := by decide

theorem settles_literalDescriptor {literal? : Option Node}
    (h : ∀ literal, literal? = some literal → literal.ShowsPlainly) :
    Settles (literalDescriptor literal?) := by
  have hother : Settles "literal" := by decide
  cases literal? with
  | none => exact hother
  | some literal =>
    have hplain := h literal rfl
    rw [literalDescriptor]
    split
    next hkind => exact settles_inApostrophes (hplain.text hkind (by decide))
    next hkind => exact (hplain.text hkind (by decide)).settles
    next hkind => exact (hplain.text hkind (by decide)).settles
    next hkind => exact (hplain.text hkind (by decide)).settles
    next hkind => exact (hplain.text hkind (by decide)).settles
    next hkind => exact (hplain.text hkind (by decide)).settles
    next => exact hother

/-- The descriptor of a type is settled. -/
theorem settles_typeDescriptor (node : Node) (h : node.AllPlain) : Settles node.typeDescriptor := by
  induction node using childInduction with
  | step node ih =>
    have hinner : ∀ inner ∈ node.children, Settles inner.typeDescriptor := fun inner hinner =>
      ih inner hinner (h.of_mem_walk (mem_walk_of_mem_children hinner (mem_walk_self inner)))
    have hfirst : Settles (descriptorOf node.firstMember?) := by
      cases hmember : node.firstMember? with
      | none => exact settles_anyType
      | some member => exact hinner member (List.mem_of_find?_eq_some hmember)
    have hfield : Settles (descriptorOf (node.child? .type)) := by
      cases htype : node.child? .type with
      | none => exact settles_anyType
      | some type => exact hinner type (List.mem_of_find?_eq_some htype)
    have hmembers : ∀ text ∈ node.members.map typeDescriptor, Settles text := by
      intro text htext
      obtain ⟨member, hmember, rfl⟩ := List.mem_map.1 htext
      exact hinner member (List.mem_filter.1 hmember).1
    have hplain := h node (mem_walk_self node)
    have hliteral : Settles (literalDescriptor node.firstMember?) :=
      settles_literalDescriptor fun literal hliteral => h literal (mem_walk_of_firstMember? hliteral)
    have hprimitive : ∀ name ∈ primitiveTypes, Settles name := by decide
    rw [typeDescriptor_eq]
    split
    · exact hfirst
    · exact hfirst
    · exact hfirst
    · split
      · rename_i hmem
        exact hprimitive _ hmem
      · exact settles_anyType
    · rename_i hkind
      exact settles_unspaced (hplain.text hkind (by decide))
    · rename_i hkind
      exact settles_unspaced (hplain.text hkind (by decide))
    · rename_i hkind
      rw [qualifiedName]
      cases hname : node.child? .name with
      | none => exact (by decide : Settles "unknown")
      | some name => exact settles_unspaced (hplain.genericName hkind name hname)
    · exact hfirst.append (by decide)
    · exact Settles.intercalate (by decide) hmembers
    · exact Settles.intercalate (by decide) hmembers
    · exact hliteral
    · rename_i hkind
      exact Settles.inBrackets (Settles.intercalate (by decide) hmembers) (hplain.tuple hkind)
    · exact hfield
    · exact (by decide : Settles functionType)
    · exact (by decide : Settles objectType)
    · exact settles_anyType

/-- The descriptor of a type that may be absent is settled. -/
theorem settles_descriptorOf {type? : Option Node}
    (h : ∀ type, type? = some type → type.AllPlain) : Settles (descriptorOf type?) := by
  cases type? with
  | none => exact settles_anyType
  | some type => exact settles_typeDescriptor type (h type rfl)

theorem settles_defaultText {node : Node} (h : node.ShowsPlainly) : Settles node.defaultText := by
  rw [defaultText]
  split
  next hkind => exact settles_inApostrophes (h.text hkind (by decide))
  next hkind => exact (h.text hkind (by decide)).settles
  next hkind => exact (h.text hkind (by decide)).settles
  next hkind => exact (h.text hkind (by decide)).settles
  next hkind => exact (h.text hkind (by decide)).settles
  next => exact (by decide : Settles "[]")
  next => exact (by decide : Settles "\x7b\x7d")
  next => exact (by decide : Settles "undefined")

theorem settles_map_defaultText {value? : Option Node}
    (h : ∀ value, value? = some value → value.ShowsPlainly) :
    ∀ text, value?.map defaultText = some text → Settles text := by
  intro text htext
  obtain ⟨value, hvalue, rfl⟩ := Option.map_eq_some_iff.1 htext
  exact settles_defaultText (h value hvalue)

/-! ### Names

Each node that gives a name to a record is a word. -/

theorem kind_of_propertyKeyNode? {entry key : Node} (h : entry.propertyKeyNode? = some key) :
    key.kind ∈ wordKinds := by
  rw [propertyKeyNode?] at h
  split at h
  next hkind =>
    cases h
    exact mem_wordKinds hkind (by decide)
  next =>
    split at h
    next =>
      split at h
      next hkind =>
        cases h
        exact mem_wordKinds hkind (by decide)
      next => cases h
    next => cases h
  next =>
    split at h
    next =>
      split at h
      next hkind =>
        cases h
        exact mem_wordKinds hkind (by decide)
      next => cases h
    next => cases h
  next => cases h

theorem kind_of_memberNameNode? {member name : Node} (h : member.memberNameNode? = some name) :
    name.kind ∈ wordKinds := by
  rw [memberNameNode?] at h
  split at h
  next =>
    split at h
    next hkind =>
      cases h
      exact mem_wordKinds hkind (by decide)
    next => cases h
  next => cases h

theorem kind_of_ownNameNode? {node name : Node} (h : node.ownNameNode? = some name) :
    name.kind ∈ wordKinds := by
  rw [ownNameNode?] at h
  split at h
  next hkind =>
    cases h
    exact mem_wordKinds hkind (by decide)
  next hkind =>
    cases h
    exact mem_wordKinds hkind (by decide)
  next hkind =>
    cases h
    exact mem_wordKinds hkind (by decide)
  next =>
    split at h
    next =>
      split at h
      next hkind =>
        cases h
        exact mem_wordKinds hkind (by decide)
      next hkind =>
        cases h
        exact mem_wordKinds hkind (by decide)
      next => cases h
    next => cases h

theorem kind_of_declaredNode? {declarator name : Node}
    (h : Cursor.declaredNode? declarator = some name) : name.kind ∈ wordKinds := by
  rw [Cursor.declaredNode?] at h
  split at h
  next =>
    split at h
    next hkind =>
      cases h
      exact mem_wordKinds hkind (by decide)
    next => cases h
  next => cases h

theorem AllPlain.propertyKey {root entry : Node} {name : String} (h : root.AllPlain)
    (hentry : entry ∈ root.walk) (hname : entry.propertyKey? = some name) : Settles name := by
  obtain ⟨key, hkey, rfl⟩ := Option.map_eq_some_iff.1 hname
  have hwalk := mem_walk_trans hentry (mem_walk_of_propertyKeyNode? hkey)
  exact (h.word hwalk (kind_of_propertyKeyNode? hkey)).settles

end Node

/-! ### Records -/

theorem settles_defaultSuffix {default? : Option String}
    (h : ∀ text, default? = some text → Settles text) : Settles (defaultSuffix default?) := by
  cases default? with
  | none => exact (by decide : Settles "")
  | some text => exact Settles.append (by decide) (h text rfl)

/-- The texts of a parameter are settled. -/
structure Param.Settled (param : Param) : Prop where
  name : Settles param.name
  type : Settles param.type
  default : ∀ text, param.default? = some text → Settles text

theorem Param.Settled.text {param : Param} (h : param.Settled) : Settles param.text := by
  have hmark : ∀ optional : Bool, Settles (if optional then "?" else "") := by decide
  exact (((h.name.append (hmark _)).append (by decide)).append h.type).append
    (settles_defaultSuffix h.default)

/-- The texts of a prop are settled. -/
structure ComponentProp.Settled (prop : ComponentProp) : Prop where
  name : Settles prop.name
  type : Settles prop.type
  default : ∀ text, prop.default? = some text → Settles text

theorem ComponentProp.Settled.text {prop : ComponentProp} (h : prop.Settled) : Settles prop.text := by
  have hmark : ∀ required : Bool, Settles (if required then "" else "?") := by decide
  exact (((h.name.append (hmark _)).append (by decide)).append h.type).append
    (settles_defaultSuffix h.default)

theorem Param.settled_ofNode {param : Node} (h : param.AllPlain) {record : Param}
    (hrecord : (ofNode param).value = some record) : record.Settled := by
  have htype : Settles (Node.descriptorOf (ParamParts.ofNode param).annotation?) :=
    Node.settles_descriptorOf fun type htype =>
      h.of_mem_walk (ParamParts.mem_walk_ofNode (.inr (.inl htype)))
  have hdefault : ∀ text, (ParamParts.ofNode param).default?.map Node.defaultText = some text →
      Settles text :=
    Node.settles_map_defaultText fun value hvalue =>
      h value (ParamParts.mem_walk_ofNode (.inr (.inr hvalue)))
  rw [ofNode, Logged.value_bind] at hrecord
  split at hrecord
  · cases hrecord
  · rename_i pattern hpattern
    have hwalk : pattern ∈ param.walk := ParamParts.mem_walk_ofNode (.inl hpattern)
    split at hrecord
    · rename_i hkind
      cases hrecord
      exact ⟨((h _ hwalk).text hkind (by decide)).settles, htype, hdefault⟩
    · rename_i hkind
      cases hrecord
      refine ⟨Settles.append (by decide) ?_, ?_, hdefault⟩
      · cases htarget : pattern.namedChildren.head? with
        | none => exact (by decide : Settles "")
        | some target => exact ((h pattern hwalk).restTarget hkind target htarget).settles
      · dsimp only
        split
        · exact (by decide : Settles "any[]")
        · exact htype
    · cases hrecord
      refine ⟨?_, htype, hdefault⟩
      refine Settles.append (Settles.append (by decide) (Settles.intercalate (by decide) ?_)) (by decide)
      intro name hname
      obtain ⟨entry, hentry, hname⟩ := List.mem_filterMap.1 hname
      exact h.propertyKey (Node.mem_walk_trans hwalk (Node.mem_walk_of_mem_namedChildren hentry)) hname
    · cases hrecord
      exact ⟨(by decide : Settles "[...]"), htype, hdefault⟩
    · cases hrecord

namespace ComponentProp

theorem settled_ofEntry? {root entry : Node} (h : root.AllPlain) (hentry : entry ∈ root.walk)
    {prop : ComponentProp} (hprop : ofEntry? entry = some prop) : prop.Settled := by
  obtain ⟨name, hname, rfl⟩ := Option.map_eq_some_iff.1 hprop
  refine ⟨h.propertyKey hentry hname, Node.settles_anyType, ?_⟩
  exact Node.settles_map_defaultText fun value hvalue =>
    h value (Node.mem_walk_trans hentry (Node.mem_walk_of_entryDefault? hvalue))

theorem settled_ofMember? {root member : Node} (h : root.AllPlain) (hmember : member ∈ root.walk)
    {prop : ComponentProp} (hprop : ofMember? member = some prop) : prop.Settled := by
  obtain ⟨text, htext, rfl⟩ := Option.map_eq_some_iff.1 hprop
  obtain ⟨name, hname, rfl⟩ := Option.map_eq_some_iff.1 htext
  have hwalk := Node.mem_walk_trans hmember (Node.mem_walk_of_memberNameNode? hname)
  refine ⟨(h.word hwalk (Node.kind_of_memberNameNode? hname)).settles, ?_, ?_⟩
  · exact Node.settles_descriptorOf fun type htype =>
      (h.of_mem_walk hmember).of_mem_walk (Node.mem_walk_of_child? htype)
  · intro text htext
    cases htext

/-- A change that keeps what holds of an item keeps what holds of all items. -/
theorem forall_mem_updateLast {α : Type} {p : α → Bool} {f : α → α} {good : α → Prop}
    (hf : ∀ item, good item → good (f item)) {items : List α} (h : ∀ item ∈ items, good item) :
    ∀ item ∈ updateLast p f items, good item := by
  induction items with
  | nil => exact h
  | cons item rest ih =>
    obtain ⟨hitem, hrest⟩ := List.forall_mem_cons.1 h
    rw [updateLast]
    split
    · exact List.forall_mem_cons.2 ⟨hf item hitem, hrest⟩
    · exact List.forall_mem_cons.2 ⟨hitem, ih hrest⟩

theorem settled_refine {root member : Node} (h : root.AllPlain) (hmember : member ∈ root.walk)
    {props : List ComponentProp} (hprops : ∀ prop ∈ props, prop.Settled) :
    ∀ prop ∈ refine props member, prop.Settled := by
  rw [refine]
  split
  · rename_i name type _ htype
    refine forall_mem_updateLast (fun prop hprop => ?_) hprops
    have hplain := (h.of_mem_walk hmember).of_mem_walk (Node.mem_walk_of_child? htype)
    exact ⟨hprop.name, Node.settles_typeDescriptor type hplain, hprop.default⟩
  · exact hprops

theorem settled_foldl_refine {root : Node} (h : root.AllPlain) {members : List Node}
    (hmembers : ∀ member ∈ members, member ∈ root.walk) {props : List ComponentProp}
    (hprops : ∀ prop ∈ props, prop.Settled) :
    ∀ prop ∈ members.foldl refine props, prop.Settled := by
  induction members generalizing props with
  | nil => exact hprops
  | cons member rest ih =>
    obtain ⟨hmember, hrest⟩ := List.forall_mem_cons.1 hmembers
    exact ih hrest (settled_refine h hmember hprops)

theorem settled_ofParam {param : Node} (h : param.AllPlain) :
    ∀ prop ∈ ofParam (ParamParts.ofNode param), prop.Settled := by
  have hmembers : ∀ member ∈ Node.literalMembers (ParamParts.ofNode param).annotation?,
      member ∈ param.walk := fun member hmember =>
    Node.mem_walk_of_mem_literalMembers
      (fun mark hmark => ParamParts.mem_walk_ofNode (.inr (.inl hmark))) hmember
  rw [ofParam]
  split
  · intro prop hprop
    cases hprop
  · rename_i pattern hpattern
    split
    · refine settled_foldl_refine h hmembers fun prop hprop => ?_
      obtain ⟨entry, hentry, hprop⟩ := List.mem_filterMap.1 hprop
      exact settled_ofEntry? h (Node.mem_walk_trans (ParamParts.mem_walk_ofNode (.inl hpattern))
        (Node.mem_walk_of_mem_namedChildren hentry)) hprop
    · intro prop hprop
      obtain ⟨member, hmember, hprop⟩ := List.mem_filterMap.1 hprop
      exact settled_ofMember? h (hmembers member hmember) hprop
    · intro prop hprop
      cases hprop

end ComponentProp

namespace Node

theorem settled_props {function : Node} (h : function.AllPlain) :
    ∀ prop ∈ function.props, prop.Settled := by
  rw [props]
  split
  · intro prop hprop
    cases hprop
  · rename_i param rest hparams
    exact ComponentProp.settled_ofParam
      (h.of_mem_walk (mem_walk_of_mem_parameters (hparams ▸ List.mem_cons_self)))

theorem settles_hooks {function : Node} (h : function.AllPlain) :
    ∀ hook ∈ function.hooks, Settles hook := by
  intro hook hhook
  rw [hooks_eq_eraseDups, List.mem_eraseDups, hookCalls] at hhook
  cases hbody : function.child? .body with
  | none => simp [hbody] at hhook
  | some body =>
    rw [hbody, Option.elim_some] at hhook
    obtain ⟨call, hcall, hname⟩ := List.mem_filterMap.1 hhook
    obtain ⟨-, -, callee, hcallee, hkind, rfl⟩ := hookCall?_eq_some_iff.1 hname
    rw [← walk_eq_preorder] at hcall
    have hwalk := mem_walk_trans (mem_walk_of_child? hbody)
      (mem_walk_trans hcall (mem_walk_of_child? hcallee))
    exact ((h _ hwalk).text hkind (by decide)).settles

/-- Only the known wrappers stand in a chain of wrapper calls. -/
theorem WrapsTo.mem_wrapperNames {call inner : Node} {names : List String}
    (h : call.WrapsTo names inner) : ∀ name ∈ names, name ∈ wrapperNames := by
  induction h with
  | here =>
    intro name hname
    cases hname
  | inside hwrapper _ _ ih =>
    refine List.forall_mem_cons.2 ⟨?_, ih⟩
    simpa using (Option.filter_eq_some_iff.1 hwrapper).2

end Node

/-- The texts of a component are settled. -/
structure Component.Settled (component : Component) : Prop where
  name : Settles component.name
  props : ∀ prop ∈ component.props, prop.Settled
  hooks : ∀ hook ∈ component.hooks, Settles hook
  events : ∀ event ∈ component.events, Settles event
  wrappers : ∀ wrapper ∈ component.wrappers, Settles wrapper

/-- The texts of a function are settled. -/
structure PlainFunction.Settled (function : PlainFunction) : Prop where
  name : Settles function.name
  params : ∀ param ∈ function.params, param.Settled
  returnType : Settles function.returnType

/-- The texts of a record are settled. -/
def Finding.Settled : Finding → Prop
  | .component record => record.Settled
  | .function record => record.Settled

theorem Component.settled_describe {function : Node} (h : function.AllPlain) {name path : String}
    (hname : Settles name) {imports : List Import} {wrappers : List String}
    (hwrappers : ∀ wrapper ∈ wrappers, wrapper ∈ wrapperNames) :
    (describe function name path imports wrappers).Settled := by
  have hknown : ∀ wrapper ∈ wrapperNames, Settles wrapper := by decide
  have hprops := Node.settled_props h
  refine ⟨hname, hprops, Node.settles_hooks h, ?_, fun wrapper h => hknown _ (hwrappers wrapper h)⟩
  intro event hevent
  obtain ⟨prop, hprop, rfl⟩ := List.mem_map.1 (List.mem_filter.1 (List.mem_eraseDups.1 hevent)).1
  exact (hprops prop hprop).name

theorem PlainFunction.settled_describe {cursor : Cursor} (h : cursor.node.AllPlain)
    {name path : String} (hname : Settles name) {imports : List Import} :
    (describe cursor name path imports).value.Settled := by
  refine ⟨hname, ?_, ?_⟩
  · intro param hparam
    replace hparam : param ∈ (Param.ofFunction cursor.node).value := hparam
    rw [Param.ofFunction, Logged.value_collect] at hparam
    obtain ⟨node, hnode, hvalue⟩ := List.mem_filterMap.1 hparam
    exact Param.settled_ofNode (h.of_mem_walk (Node.mem_walk_of_mem_parameters hnode)) hvalue
  · show Settles cursor.node.returnType
    rw [Node.returnType]
    split
    · rename_i type htype
      exact Node.settles_typeDescriptor type (h.of_mem_walk (Node.mem_walk_of_child? htype))
    · split
      · exact (by decide : Settles "Promise<any>")
      · exact Node.settles_anyType

namespace Binding

variable {root : Node} {binding : Binding}

/-- A name is bound by a word of the tree, or is that of default exports. -/
theorem settles_name (h : root.AllPlain) (hbinding : binding ∈ ofTree root) : Settles binding.name := by
  obtain ⟨site, hsite, hmade⟩ := List.mem_filterMap.1 hbinding
  have hwalk := Node.mem_walk_of_mem_cursors hsite
  have hdeclared : ∀ name, Cursor.declaredName? site.node = some name → Settles name := by
    intro name hname
    obtain ⟨node, hnode, rfl⟩ := Option.map_eq_some_iff.1 hname
    exact (h.word (Node.mem_walk_trans hwalk (mem_walk_of_declaredNode? hnode))
      (Node.kind_of_declaredNode? hnode)).settles
  cases MadeAt.of_ofCursor? hmade with
  | byDeclaration _ hname =>
    obtain ⟨node, hnode, rfl⟩ := Option.map_eq_some_iff.1 hname
    exact (h.word (Node.mem_walk_trans hwalk (mem_walk_of_ownNameNode? hnode))
      (Node.kind_of_ownNameNode? hnode)).settles
  | byVariable _ hname _ _ => exact hdeclared _ hname
  | byWrapper _ hname _ _ => exact hdeclared _ hname
  | byExport _ _ _ _ => exact (by decide : Settles defaultExportName)

/-- What a binding contributes to the survey of a plain tree is settled. -/
theorem settled_of_finding? {file : FileContext} {finding : Finding} (h : root.AllPlain)
    (hbinding : binding ∈ ofTree root) (hfinding : binding.finding? file = some finding) :
    finding.Settled := by
  have hname := settles_name h hbinding
  have hnode : binding.node.AllPlain := by
    obtain ⟨site, hsite, hmade⟩ := List.mem_filterMap.1 hbinding
    exact h.of_mem_walk (Node.mem_walk_of_mem_cursors (mem_cursors_of_ofCursor? hsite hmade))
  unfold finding? at hfinding
  split at hfinding
  · obtain ⟨component, hcomponent, rfl⟩ := Option.map_eq_some_iff.1 hfinding
    obtain ⟨target, htarget, rfl⟩ := Option.map_eq_some_iff.1 hcomponent
    have hend : (binding.node.unwrapFrom binding.node.line).value
        = ⟨some target, binding.node.unwrap.value.chain⟩ := by
      rw [← htarget]
      rfl
    have hchain := ((Node.value_unwrapFrom_eq_some_iff binding.node.line).1 hend).2.1
    exact Component.settled_describe (hnode.of_mem_walk (Node.mem_walk_of_target? htarget)) hname
      hchain.mem_wrapperNames
  · split at hfinding
    · cases hfinding
      refine Component.settled_describe hnode hname ?_
      intro wrapper hwrapper
      cases hwrapper
    · cases hfinding
      exact PlainFunction.settled_describe hnode hname

end Binding

/-! ### Cells -/

theorem settles_orDash {separator : String} (hseparator : Settles separator) {texts : List String}
    (h : ∀ text ∈ texts, Settles text) : Settles (orDash separator texts) := by
  rw [orDash]
  split
  · exact (by decide : Settles "-")
  · exact hseparator.intercalate h

theorem Component.Settled.title {component : Component} (h : component.Settled) :
    Settles component.title := by
  rw [Component.title]
  split
  · exact h.name
  · exact ((h.name.append (by decide)).append (Settles.intercalate (by decide) h.wrappers)).append
      (by decide)

theorem PlainFunction.Settled.signature {function : PlainFunction} (h : function.Settled) :
    Settles (signature function.params function.returnType function.isAsync) := by
  have hasync : ∀ isAsync : Bool, Settles (if isAsync then "async " else "") := by decide
  have hparams : Settles (", ".intercalate (function.params.map Param.text)) := by
    refine Settles.intercalate (by decide) fun text htext => ?_
    obtain ⟨param, hparam, rfl⟩ := List.mem_map.1 htext
    exact (h.params param hparam).text
  exact ((((hasync _).append (by decide)).append hparams).append (by decide)).append h.returnType

namespace FileSurvey

/-- The cells of the tables of a report that hold what was found: the names, the props, the hooks, the
events and the signatures. -/
def textCells (survey : FileSurvey) : List String :=
  ((componentColumns survey.components).filter (fun column => column.header != "Kind") ++
    (functionColumns survey.functions).filter fun column => column.header != "Exported").flatMap
      Column.cells

theorem textCells_eq (survey : FileSurvey) :
    survey.textCells = survey.components.map Component.title ++
      (survey.components.map fun component =>
        orDash "\n" (component.props.map ComponentProp.text)) ++
      (survey.components.map fun component => orDash ", " component.hooks) ++
      (survey.components.map fun component => orDash ", " component.events) ++
      survey.functions.map PlainFunction.name ++
      survey.functions.map fun function =>
        signature function.params function.returnType function.isAsync := by
  simp [textCells, componentColumns, functionColumns]

/-- If all records are settled, then so are the cells. -/
theorem settles_textCells {survey : FileSurvey} (h : ∀ finding ∈ survey.findings, finding.Settled) :
    ∀ cell ∈ survey.textCells, Settles cell := by
  have hcomponent : ∀ component ∈ survey.components, component.Settled := fun component hmem =>
    h (.component component) (List.mem_append_left _ (List.mem_map_of_mem hmem))
  have hfunction : ∀ function ∈ survey.functions, function.Settled := fun function hmem =>
    h (.function function) (List.mem_append_right _ (List.mem_map_of_mem hmem))
  rw [textCells_eq]
  simp only [List.forall_mem_append, List.forall_mem_map]
  refine ⟨⟨⟨⟨⟨?_, ?_⟩, ?_⟩, ?_⟩, ?_⟩, ?_⟩
  · exact fun component hmem => (hcomponent component hmem).title
  · intro component hmem
    refine settles_orDash (by decide) fun text htext => ?_
    obtain ⟨prop, hprop, rfl⟩ := List.mem_map.1 htext
    exact ((hcomponent component hmem).props prop hprop).text
  · exact fun component hmem => settles_orDash (by decide) (hcomponent component hmem).hooks
  · exact fun component hmem => settles_orDash (by decide) (hcomponent component hmem).events
  · exact fun function hmem => (hfunction function hmem).name
  · exact fun function hmem => (hfunction function hmem).signature

/-- **Tables show what was found, unless it looks like markup.** A cell with what was found is printed
as it is if there is no tag, no backslash before an opening bracket, no name of a picture and no
character in it that would move the cursor; a cell that has no colons without white space between them,
and so no name of a picture, is printed as it is only then. All cells are, if the words of the source are
plain and no type is a tuple with a character behind its opening bracket that starts a tag. -/
theorem tables_show_findings (root : Node) (path : String) :
    let survey := (ofTree root path).value
    (root.Readable → (ofTree root path).outcome.value = .ok survey) ∧
    (∀ cell ∈ survey.textCells,
      (¬ HoldsTag cell.toList ∧ ¬ HoldsEscape cell.toList ∧ ¬ HoldsPicture cell.toList ∧
        ¬ HoldsCursorMove cell.toList → printed cell = .ok cell) ∧
      (¬ HoldsCode cell.toList → printed cell = .ok cell →
        ¬ HoldsTag cell.toList ∧ ¬ HoldsEscape cell.toList ∧ ¬ HoldsPicture cell.toList ∧
          ¬ HoldsCursorMove cell.toList)) ∧
    (root.AllPlain → ∀ cell ∈ survey.textCells, printed cell = .ok cell) := by
  intro survey
  refine ⟨fun h => outcome_ofTree h path, fun cell _ => ⟨?_, ?_⟩, ?_⟩
  · rintro ⟨htag, hescape, hpicture, hcursor⟩
    exact printed_eq_self htag hescape hpicture hcursor
  · intro hcode hprinted
    obtain ⟨htag, hescape, hcursor⟩ := holds_none_of_printed hcode hprinted
    exact ⟨htag, hescape, fun hpicture => hcode hpicture.holdsCode, hcursor⟩
  · intro hplain cell hcell
    have hsettled : ∀ finding ∈ survey.findings, finding.Settled := by
      intro finding hfinding
      obtain ⟨winner, _, _, hwinner, _, hbinding⟩ := exists_source hfinding
      exact Binding.settled_of_finding? hplain hbinding hwinner
    exact (settles_textCells hsettled cell hcell).printed

/-- The program `export function f(p: [T, number]) {}` with a type for `T`. -/
def samplePair (first : Node) : Node :=
  .mk (.sample .program none 0 "")
    [.mk (.sample .exportStatement none 1 "")
      [.mk (.sample .functionDeclaration none 2 "")
        [.mk (.sample .identifier (some .name) 3 "f") [],
          .mk (.sample (.other "formal_parameters") (some .parameters) 4 "")
            [.mk (.sample .requiredParameter none 5 "")
              [.mk (.sample .identifier (some .pattern) 6 "p") [],
                .mk (.sample .annotatedType (some .type) 7 "")
                  [.mk (.sample .tupleType none 8 "")
                    [first, .mk (.sample .predefinedType none 11 "number") []]]]]]]]

/-- With the type `User[]` for `T` the signature is printed as it is. -/
theorem tables_show_findings_sample :
    let root := samplePair (.mk (.sample .arrayType none 9 "")
      [.mk (.sample .typeIdentifier none 10 "User") []])
    root.AllPlain ∧ (ofTree root "a.ts").value.textCells = ["f", "(p: [User[], number]) => any"] ∧
      ∀ cell ∈ (ofTree root "a.ts").value.textCells, printed cell = .ok cell := by
  intro root
  have hplain : root.AllPlain := by decide
  exact ⟨hplain, by decide +kernel, (tables_show_findings root "a.ts").2.2 hplain⟩

/-- With the type `string` for `T` it is not, as `[string, number]` looks like a tag. -/
theorem pair_of_string_not_shown :
    let root := samplePair (.mk (.sample .predefinedType none 9 "string") [])
    (ofTree root "a.ts").value.textCells = ["f", "(p: [string, number]) => any"] ∧
      printed "(p: [string, number]) => any" ≠ .ok "(p: [string, number]) => any" := by
  intro root
  refine ⟨by decide +kernel, fun hprinted => ?_⟩
  obtain ⟨htag, -⟩ := holds_none_of_printed (by decide) hprinted
  exact htag ⟨'s', "tring, number".toList, by decide, by simp, "(p: ".toList, ") => any".toList,
    by decide⟩

end FileSurvey

end ComponentSurvey
