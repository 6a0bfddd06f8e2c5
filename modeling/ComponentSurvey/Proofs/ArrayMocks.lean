import ComponentSurvey.Mock.Value
import ComponentSurvey.Proofs.JoinedTypes
import Mathlib.Data.List.Basic

/-!
# Which types are mocked by an empty array

The mock of a type is chosen by the end of its descriptor. What a descriptor ends with is decided along
the right spine of the type: wrappers and members of tuples with a name end with the type they hold,
unions and intersections with their last member.

* `mockValue_eq_brackets_iff` — the descriptors that are mocked by an empty array.
* `Node.spineNext?`, `Node.spineEnd` — one step along the right spine of a type, and its end.
* `Node.Mentions` — the descriptor of a type is made of that of another.
* `Node.PlainlyWritten` — unions and intersections have members, names and literals have no brackets.
* `Node.exists_of_spineNext?`, `Node.endsBare_of_spineNext?_eq_none` — how a descriptor ends at a step
  along the spine, and at its end.
* `Node.endsWith_typeDescriptor_iff` — the descriptors that end with brackets.
* `Node.mockValue_eq_brackets_iff_spineEnd` — which types are mocked by an empty array.
-/

namespace ComponentSurvey

/-! ### Ends of texts -/

namespace Text

/-- A text has no square bracket and is not empty. -/
def IsBare (text : String) : Prop :=
  text.toList ≠ [] ∧ '[' ∉ text.toList ∧ ']' ∉ text.toList

instance (text : String) : Decidable (IsBare text) := inferInstanceAs (Decidable (_ ∧ _))

/-- Whether a text ends with a character other than an opening bracket. -/
def endsClosed (text : String) : Bool := text.toList.getLast?.any (· != '[')

/-- Whether a text ends with a character other than a bracket. -/
def endsBare (text : String) : Bool :=
  text.toList.getLast?.any fun last => last != '[' && last != ']'

theorem endsBare_of_isBare {text : String} (h : IsBare text) : endsBare text = true := by
  obtain ⟨hne, hopen, hclose⟩ := h
  have hlast := List.getLast_mem hne
  rw [endsBare, List.getLast?_eq_some_getLast hne, Option.any_some, Bool.and_eq_true, bne_iff_ne,
    bne_iff_ne]
  constructor
  · intro heq
    exact hopen (heq ▸ hlast)
  · intro heq
    exact hclose (heq ▸ hlast)

theorem endsClosed_of_endsBare {text : String} (h : endsBare text = true) :
    endsClosed text = true := by
  rw [endsBare, Option.any_eq_true] at h
  rw [endsClosed, Option.any_eq_true]
  obtain ⟨last, hlast, hbare⟩ := h
  exact ⟨last, hlast, (Bool.and_eq_true_iff.1 hbare).1⟩

/-- How a text ends is told by any text at its end that is not empty. -/
theorem endsClosed_of_eq_append {text rest : String} {front : List Char}
    (htext : text.toList = front ++ rest.toList) (h : endsClosed rest = true) :
    endsClosed text = true := by
  rw [endsClosed, Option.any_eq_true] at h ⊢
  obtain ⟨last, hlast, hclosed⟩ := h
  refine ⟨last, ?_, hclosed⟩
  rw [htext, List.getLast?_append, hlast]
  rfl

/-- What ends with no bracket does not end with two. -/
theorem not_endsWith_of_endsBare {text : String} (h : endsBare text = true) :
    endsWith "[]" text = false := by
  rw [← Bool.not_eq_true, endsWith_iff]
  rintro ⟨front, hfront⟩
  have hlast : text.toList.getLast? = some ']' := by
    rw [← hfront]
    exact List.getLast?_append_of_ne_nil _ (List.cons_ne_nil _ _)
  rw [endsBare, hlast] at h
  cases h

/-- Nothing that ends in the last part of a text reaches over a character that it does not hold. -/
theorem suffix_append_iff {word front rest : List Char}
    (h : front = [] ∨ ∃ last, front.getLast? = some last ∧ last ∉ word) :
    word <:+ front ++ rest ↔ word <:+ rest := by
  constructor
  · intro hword
    rcases h with rfl | ⟨last, hlast, hnot⟩
    · exact hword
    · obtain ⟨init, rfl⟩ := List.getLast?_eq_some_iff.1 hlast
      rw [List.append_assoc, List.singleton_append] at hword
      rcases List.suffix_or_suffix_of_suffix hword (List.suffix_append init (last :: rest)) with
        hshort | hlong
      · rcases List.suffix_cons_iff.1 hshort with rfl | hrest
        · exact absurd List.mem_cons_self hnot
        · exact hrest
      · exact absurd (hlong.subset List.mem_cons_self) hnot
  · exact fun hword => hword.trans (List.suffix_append front rest)

/-- A joined text ends with its last part, alone or after the blank of a separator. -/
theorem exists_toList_intercalate_concat {separator : String}
    (hseparator : separator.toList.getLast? = some ' ') (init : List String) (last : String) :
    ∃ front : List Char, (front = [] ∨ front.getLast? = some ' ') ∧
      (separator.intercalate (init ++ [last])).toList = front ++ last.toList := by
  by_cases hinit : init = []
  · refine ⟨[], .inl rfl, ?_⟩
    rw [hinit, List.nil_append, String.intercalate_singleton, List.nil_append]
  · refine ⟨(separator.intercalate init ++ separator).toList, .inr ?_, ?_⟩
    · rw [String.toList_append, List.getLast?_append, hseparator]
      rfl
    · rw [String.intercalate_append_of_ne_nil hinit (List.cons_ne_nil _ _),
        String.intercalate_singleton, String.toList_append]

/-- The brackets around a text that ends with no opening bracket are not side by side. -/
theorem not_endsWith_in_brackets {text : String} (h : endsClosed text = true) :
    endsWith "[]" ("[" ++ text ++ "]") = false := by
  rw [endsClosed, Option.any_eq_true] at h
  obtain ⟨last, hlast, hclosed⟩ := h
  obtain ⟨init, hinit⟩ := List.getLast?_eq_some_iff.1 hlast
  rw [← Bool.not_eq_true, endsWith_iff]
  rintro ⟨front, hfront⟩
  rw [String.toList_append, String.toList_append, hinit, ← List.append_assoc,
    List.append_assoc] at hfront
  obtain ⟨_, hend⟩ := List.append_inj' hfront rfl
  rw [(List.cons.inj hend).1.symm] at hclosed
  cases hclosed

end Text

/-- The descriptors that are mocked by an empty array: those that end with brackets, and `array`. -/
theorem mockValue_eq_brackets_iff (type : String) :
    mockValue type = "[]" ↔ Text.endsWith "[]" type = true ∨ type = "array" := by
  constructor
  · intro hvalue
    by_cases hend : Text.endsWith "[]" type = true
    · exact .inl hend
    · rw [mockValue, if_neg hend] at hvalue
      split at hvalue
      · exact absurd hvalue (by decide)
      · have hkeys : ∀ entry ∈ mockValues, entry.2 = "[]" → entry.1 = "array" := by decide
        cases hlookup : mockValues.lookup type with
        | none => rw [hlookup] at hvalue; exact absurd hvalue (by decide)
        | some value =>
          rw [hlookup] at hvalue
          obtain ⟨earlier, later, hentries, _⟩ := List.lookup_eq_some_iff.1 hlookup
          refine .inr (hkeys (type, value) ?_ hvalue)
          rw [hentries]
          exact List.mem_append_right _ List.mem_cons_self
  · rintro (hend | rfl)
    · rw [mockValue, if_pos hend]
    · decide

namespace Node

/-! ### The right spine of a type -/

/-- The type at the right end of a type: what a wrapper or a member of a tuple with a name holds, or
the last member of a union or an intersection. -/
def spineNext? (node : Node) : Option Node :=
  if node.kind.isTransparentType then node.firstMember?
  else if node.kind = .unionType ∨ node.kind = .intersectionType then node.members.getLast?
  else if node.kind = .namedTupleMember then node.child? .type
  else none

theorem mem_children_of_spineNext? {node next : Node} (h : node.spineNext? = some next) :
    next ∈ node.children := by
  rw [spineNext?] at h
  split at h
  · exact List.mem_of_find?_eq_some h
  · split at h
    · exact (List.mem_filter.1 (List.mem_of_getLast? h)).1
    · split at h
      · exact List.mem_of_find?_eq_some h
      · cases h

/-- The type at the end of the right spine. -/
def spineEnd (node : Node) : Node :=
  match _h : node.spineNext? with
  | some next => next.spineEnd
  | none => node
termination_by node.size
decreasing_by exact size_lt_of_mem (mem_children_of_spineNext? _h)

theorem spineEnd_of_some {node next : Node} (h : node.spineNext? = some next) :
    node.spineEnd = next.spineEnd := by
  rw [spineEnd]
  split
  · rename_i other hother
    rw [h] at hother
    cases hother
    rfl
  · rename_i hnone
    rw [h] at hnone
    cases hnone

theorem spineEnd_of_none {node : Node} (h : node.spineNext? = none) : node.spineEnd = node := by
  rw [spineEnd]
  split
  · rename_i other hother
    rw [h] at hother
    cases hother
  · rfl

/-! ### Types that a descriptor is made of -/

/-- The descriptor of a type is made of that of another. -/
inductive Mentions : Node → Node → Prop
  | here (node : Node) : Mentions node node
  | first {node first inner : Node} :
      node.kind.isTransparentType = true ∨ node.kind = .arrayType →
      node.firstMember? = some first → Mentions first inner → Mentions node inner
  | member {node member inner : Node} :
      node.kind = .unionType ∨ node.kind = .intersectionType ∨ node.kind = .tupleType →
      member ∈ node.members → Mentions member inner → Mentions node inner
  | named {node type inner : Node} : node.kind = .namedTupleMember →
      node.child? .type = some type → Mentions type inner → Mentions node inner

theorem Mentions.mem_walk {node inner : Node} (h : node.Mentions inner) : inner ∈ node.walk := by
  induction h with
  | here node => exact mem_walk_self node
  | first _ hfirst _ ih => exact mem_walk_of_mem_children (List.mem_of_find?_eq_some hfirst) ih
  | member _ hmember _ ih => exact mem_walk_of_mem_children (List.mem_filter.1 hmember).1 ih
  | named _ htype _ ih => exact mem_walk_of_mem_children (List.mem_of_find?_eq_some htype) ih

/-- The literals whose source text is their descriptor. -/
def verbatimLiterals : List Kind :=
  [.number, .trueLiteral, .falseLiteral, .nullLiteral, .undefinedLiteral]

/-- A union or an intersection has a member; the name of a type, without its white space, and the text
of a literal other than a string are not empty and have no square bracket. -/
structure PlainlyWritten (type : Node) : Prop where
  populated : type.kind = .unionType ∨ type.kind = .intersectionType → type.members ≠ []
  name : type.kind = .typeIdentifier ∨ type.kind = .nestedTypeIdentifier →
    Text.IsBare (Text.unspaced type.text)
  generic : type.kind = .genericType → ∀ name ∈ type.child? .name,
    Text.IsBare (Text.unspaced name.text)
  literal : type.kind = .literalType → ∀ literal ∈ type.firstMember?,
    literal.kind ∈ verbatimLiterals → Text.IsBare literal.text

instance (type : Node) : Decidable type.PlainlyWritten :=
  decidable_of_iff
    ((type.kind = .unionType ∨ type.kind = .intersectionType → type.members ≠ []) ∧
      (type.kind = .typeIdentifier ∨ type.kind = .nestedTypeIdentifier →
        Text.IsBare (Text.unspaced type.text)) ∧
      (type.kind = .genericType → ∀ name ∈ type.child? .name,
        Text.IsBare (Text.unspaced name.text)) ∧
      (type.kind = .literalType → ∀ literal ∈ type.firstMember?,
        literal.kind ∈ verbatimLiterals → Text.IsBare literal.text))
    ⟨fun ⟨populated, name, generic, literal⟩ => ⟨populated, name, generic, literal⟩,
      fun h => ⟨h.populated, h.name, h.generic, h.literal⟩⟩

/-! ### How a descriptor ends -/

/-- A step along the spine: the descriptor ends with that of the next type, alone or after a blank. -/
theorem exists_of_spineNext? {node next : Node} (h : node.spineNext? = some next) :
    (∀ inner, next.Mentions inner → node.Mentions inner) ∧
    ∃ front : List Char, (front = [] ∨ front.getLast? = some ' ') ∧
      node.typeDescriptor.toList = front ++ next.typeDescriptor.toList := by
  rw [spineNext?] at h
  split at h
  · rename_i htransparent
    refine ⟨fun inner hinner => .first (.inl htransparent) h hinner, [], .inl rfl, ?_⟩
    rw [typeDescriptor_of_isTransparentType htransparent, h]
    rfl
  · split at h
    · rename_i hjoint
      obtain ⟨init, hmembers⟩ := List.getLast?_eq_some_iff.1 h
      have hmember : next ∈ node.members := List.mem_of_getLast? h
      refine ⟨fun inner hinner => .member ?_ hmember hinner, ?_⟩
      · exact hjoint.imp_right .inl
      obtain ⟨joint, hkind⟩ : ∃ joint : Joint, node.kind = joint.kind :=
        hjoint.elim (fun hkind => ⟨.union, hkind⟩) fun hkind => ⟨.intersection, hkind⟩
      have hseparator : joint.separator.toList.getLast? = some ' ' := by cases joint <;> rfl
      rw [joint.typeDescriptor_eq hkind, hmembers, List.map_append, List.map_singleton]
      exact Text.exists_toList_intercalate_concat hseparator _ _
    · split at h
      · rename_i hkind
        refine ⟨fun inner hinner => .named hkind h hinner, [], .inl rfl, ?_⟩
        rw [typeDescriptor_eq, hkind, h]
        rfl
      · cases h

/-- The descriptor of a literal ends with an apostrophe or as the literal does. -/
theorem endsBare_literalDescriptor {literal? : Option Node}
    (h : ∀ literal ∈ literal?, literal.kind ∈ verbatimLiterals → Text.IsBare literal.text) :
    Text.endsBare (literalDescriptor literal?) = true := by
  cases literal? with
  | none => rfl
  | some literal =>
    have hverbatim : ∀ kind ∈ verbatimLiterals, literal.kind = kind →
        Text.endsBare literal.text = true := by
      intro kind hmem hkind
      exact Text.endsBare_of_isBare (h literal rfl (hkind ▸ hmem))
    rw [literalDescriptor]
    split
    · rw [Text.endsBare, Text.inApostrophes, String.toList_append,
        List.getLast?_append_of_ne_nil _ (by decide)]
      rfl
    · exact hverbatim .number (by decide) ‹_›
    · exact hverbatim .trueLiteral (by decide) ‹_›
    · exact hverbatim .falseLiteral (by decide) ‹_›
    · exact hverbatim .nullLiteral (by decide) ‹_›
    · exact hverbatim .undefinedLiteral (by decide) ‹_›
    · rfl

theorem endsBare_qualifiedName {name? : Option Node}
    (h : ∀ name ∈ name?, Text.IsBare (Text.unspaced name.text)) :
    Text.endsBare (qualifiedName name?) = true := by
  cases name? with
  | none => rfl
  | some name => exact Text.endsBare_of_isBare (h name rfl)

/-- At the end of the spine, a type other than an array or a tuple has no bracket at its end. -/
theorem endsBare_of_spineNext?_eq_none {node : Node} (hnone : node.spineNext? = none)
    (h : node.PlainlyWritten) (harray : node.kind ≠ .arrayType) (htuple : node.kind ≠ .tupleType) :
    Text.endsBare node.typeDescriptor = true := by
  rw [spineNext?] at hnone
  split at hnone
  · rename_i htransparent
    rw [typeDescriptor_of_isTransparentType htransparent, hnone]
    rfl
  · rename_i htransparent
    split at hnone
    · rename_i hjoint
      exact absurd (List.getLast?_eq_none_iff.1 hnone) (h.populated hjoint)
    · rename_i hjoint
      split at hnone
      · rename_i hkind
        rw [typeDescriptor_eq, hkind, hnone]
        show Text.endsBare (descriptorOf none) = true
        rfl
      · rename_i hnamed
        have hprimitive : ∀ text ∈ primitiveTypes, Text.endsBare text = true := by decide
        -- one case for each kind of type; those that lead on along the spine were ruled out above
        rw [typeDescriptor_eq]
        split
        · exact absurd (by rw [‹node.kind = _›]; rfl) htransparent
        · exact absurd (by rw [‹node.kind = _›]; rfl) htransparent
        · exact absurd (by rw [‹node.kind = _›]; rfl) htransparent
        · split
          · exact hprimitive _ ‹_›
          · rfl
        · exact Text.endsBare_of_isBare (h.name (.inl ‹_›))
        · exact Text.endsBare_of_isBare (h.name (.inr ‹_›))
        · exact endsBare_qualifiedName (h.generic ‹_›)
        · exact absurd ‹_› harray
        · exact absurd (.inl ‹_›) hjoint
        · exact absurd (.inr ‹_›) hjoint
        · exact endsBare_literalDescriptor (h.literal ‹_›)
        · exact absurd ‹_› htuple
        · exact absurd ‹_› hnamed
        · rfl
        · rfl
        · rfl

/-- No descriptor ends with an opening bracket, and none is empty. -/
theorem endsClosed_typeDescriptor {node : Node}
    (h : ∀ inner, node.Mentions inner → inner.PlainlyWritten) :
    Text.endsClosed node.typeDescriptor = true := by
  induction node using childInduction with
  | step node ih =>
    cases hnext : node.spineNext? with
    | some next =>
      obtain ⟨hmentions, front, _, hdescriptor⟩ := exists_of_spineNext? hnext
      refine Text.endsClosed_of_eq_append hdescriptor ?_
      exact ih next (mem_children_of_spineNext? hnext) fun inner hinner =>
        h inner (hmentions inner hinner)
    | none =>
      by_cases harray : node.kind = .arrayType
      · rw [Text.endsClosed, typeDescriptor_eq, harray, String.toList_append,
          List.getLast?_append_of_ne_nil _ (by decide)]
        rfl
      · by_cases htuple : node.kind = .tupleType
        · rw [Text.endsClosed, typeDescriptor_eq, htuple, String.toList_append,
            List.getLast?_append_of_ne_nil _ (by decide)]
          rfl
        · exact Text.endsClosed_of_endsBare
            (endsBare_of_spineNext?_eq_none hnext (h node (.here node)) harray htuple)

/-- An array ends with brackets, whatever its elements are. -/
theorem endsWith_of_arrayType {node : Node} (h : node.kind = .arrayType) :
    Text.endsWith "[]" node.typeDescriptor = true := by
  rw [Text.endsWith_iff, typeDescriptor_eq, h, String.toList_append]
  exact List.suffix_append _ _

/-- A tuple ends with empty brackets only if it has no members. -/
theorem endsWith_tuple_iff {node : Node} (hkind : node.kind = .tupleType)
    (h : ∀ member ∈ node.members, Text.endsClosed member.typeDescriptor = true) :
    Text.endsWith "[]" node.typeDescriptor = true ↔ node.members = [] := by
  have hdescriptor : node.typeDescriptor
      = "[" ++ ", ".intercalate (node.members.map typeDescriptor) ++ "]" := by
    rw [typeDescriptor_eq, hkind]
  rw [hdescriptor]
  constructor
  · intro hend
    rcases List.eq_nil_or_concat node.members with hnil | ⟨init, last, hmembers⟩
    · exact hnil
    · rw [List.concat_eq_append] at hmembers
      have hlast : last ∈ node.members := by
        rw [hmembers]
        exact List.mem_append_right _ List.mem_cons_self
      have hseparator : ", ".toList.getLast? = some ' ' := rfl
      obtain ⟨front, _, hjoined⟩ := Text.exists_toList_intercalate_concat hseparator
        (init.map typeDescriptor) last.typeDescriptor
      have hclosed := Text.endsClosed_of_eq_append hjoined (h last hlast)
      rw [hmembers, List.map_append, List.map_singleton,
        Text.not_endsWith_in_brackets hclosed] at hend
      cases hend
  · intro hmembers
    rw [hmembers]
    decide

/-- What a descriptor ends with is decided at the end of the spine. -/
theorem endsWith_typeDescriptor_iff {node : Node}
    (h : ∀ inner, node.Mentions inner → inner.PlainlyWritten) :
    Text.endsWith "[]" node.typeDescriptor = true ↔
      node.spineEnd.kind = .arrayType ∨
      (node.spineEnd.kind = .tupleType ∧ node.spineEnd.members = []) := by
  induction node using childInduction with
  | step node ih =>
    cases hnext : node.spineNext? with
    | some next =>
      obtain ⟨hmentions, front, hfront, hdescriptor⟩ := exists_of_spineNext? hnext
      have hbelow := ih next (mem_children_of_spineNext? hnext) fun inner hinner =>
        h inner (hmentions inner hinner)
      rw [spineEnd_of_some hnext, ← hbelow, Text.endsWith_iff, Text.endsWith_iff, hdescriptor]
      refine Text.suffix_append_iff (hfront.imp_right fun hlast => ⟨' ', hlast, by decide⟩)
    | none =>
      rw [spineEnd_of_none hnext]
      by_cases harray : node.kind = .arrayType
      · exact iff_of_true (endsWith_of_arrayType harray) (.inl harray)
      · by_cases htuple : node.kind = .tupleType
        · have hmembers : ∀ member ∈ node.members,
              Text.endsClosed member.typeDescriptor = true := by
            intro member hmember
            exact endsClosed_typeDescriptor fun inner hinner =>
              h inner (.member (.inr (.inr htuple)) hmember hinner)
          rw [endsWith_tuple_iff htuple hmembers]
          simp [htuple]
        · have hbare := endsBare_of_spineNext?_eq_none hnext (h node (.here node)) harray htuple
          simp [Text.not_endsWith_of_endsBare hbare, harray, htuple]

/-! ### Types that are mocked by an empty array -/

/-- **Which types are mocked by an empty array.** Let the types that a descriptor is made of be plainly
written. Then the type is mocked by an empty array exactly if its right spine ends at an array or at a
tuple without members, or if the whole descriptor is the name `array`. An array is so mocked whatever
its elements are. -/
theorem mockValue_eq_brackets_iff_spineEnd (node : Node)
    (h : ∀ inner, node.Mentions inner → inner.PlainlyWritten) :
    (node.Readable →
      (Logged.reading node.typeReads node.typeDescriptor).outcome.value = .ok node.typeDescriptor) ∧
    (mockValue node.typeDescriptor = "[]" ↔
      node.spineEnd.kind = .arrayType ∨
      (node.spineEnd.kind = .tupleType ∧ node.spineEnd.members = []) ∨
      node.typeDescriptor = "array") ∧
    (∀ array : Node, array.kind = .arrayType → mockValue array.typeDescriptor = "[]") := by
  refine ⟨?_, ?_, ?_⟩
  · intro hreadable
    exact Logged.value_outcome_reading hreadable node.typeReads_subset _
  · rw [mockValue_eq_brackets_iff, endsWith_typeDescriptor_iff h, or_assoc]
  · intro array harray
    exact (mockValue_eq_brackets_iff _).2 (.inl (endsWith_of_arrayType harray))

/-- The type `string | ('=>'[])`. -/
def sampleArrows : Node :=
  .mk (.sample .unionType none 0 "")
    [.mk (.sample .predefinedType none 1 "string") [],
      .mk (.sample .parenthesizedType none 2 "")
        [.mk (.sample .arrayType none 3 "")
          [.mk (.sample .literalType none 4 "") [.mk (.sample .string none 5 "'=>'") []]]]]

theorem mockValue_eq_brackets_of_arrows :
    (∀ inner, sampleArrows.Mentions inner → inner.PlainlyWritten) ∧
    sampleArrows.typeDescriptor = "string | '=>'[]" ∧
    sampleArrows.spineEnd.kind = .arrayType ∧
    mockValue sampleArrows.typeDescriptor = "[]" := by
  have hall : ∀ inner ∈ sampleArrows.preorder, inner.PlainlyWritten := by decide
  have hwritten : ∀ inner, sampleArrows.Mentions inner → inner.PlainlyWritten := by
    intro inner hinner
    exact hall inner (walk_eq_preorder sampleArrows ▸ hinner.mem_walk)
  have hspine : sampleArrows.spineEnd.kind = .arrayType := by
    rw [spineEnd_of_some rfl, spineEnd_of_some rfl, spineEnd_of_none rfl]
    rfl
  obtain ⟨_, hmock, _⟩ := mockValue_eq_brackets_iff_spineEnd sampleArrows hwritten
  exact ⟨hwritten, rfl, hspine, hmock.2 (.inl hspine)⟩

end Node

end ComponentSurvey
