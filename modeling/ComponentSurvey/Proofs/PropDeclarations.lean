import ComponentSurvey.Proofs.Destructuring
import ComponentSurvey.Proofs.Positions
import Mathlib.Data.List.Basic

/-!
# What declares the props of a component

Props are declared by the entries of an object pattern, or by the members of a type literal where the
parameter is a plain name. Each entry and each member that has a name declares one prop, and the prop
takes over the name. So the props have different names only if the entries or members do. An entry
whose key is a string names a property as well, but no prop is made of it. The members of one and the
same literal say the same in both positions, except that a member without a type is passed over where
it meets an entry.

* `Node.KeysApart`, `Node.filter_of_keysApart` — nodes that have no key in common.
* `Node.props_distinct_iff` — when the props have different names.
* `Node.staticKey?`, `Node.hasQuotedKey` — the properties that entries name, and the keys that are
  quoted.
* `Node.props_complete_iff` — when no property that is named is lost.
* `Node.OpensWith`, `Node.props_agree_with_declared` — when an entry and a member agree on a prop.
-/

namespace ComponentSurvey

namespace Node

variable {function param pattern : Node} {others : List Node}

/-! ### The props of a parameter -/

theorem props_eq_ofParam (hparameters : function.parameters = param :: others) :
    function.props = ComponentProp.ofParam (ParamParts.ofNode param) := by
  rw [props_eq, hparameters]
  rfl

theorem props_eq_members (hparameters : function.parameters = param :: others)
    (hpattern : (ParamParts.ofNode param).pattern? = some pattern)
    (hkind : pattern.kind = .identifier) :
    function.props
      = (literalMembers (ParamParts.ofNode param).annotation?).filterMap ComponentProp.ofMember? := by
  rw [props_eq_ofParam hparameters, ComponentProp.ofParam, hpattern]
  dsimp only
  rw [hkind]

/-- A pattern that is no object pattern and no plain name declares nothing. -/
theorem props_eq_nil (hparameters : function.parameters = param :: others)
    (hpattern : (ParamParts.ofNode param).pattern? = some pattern)
    (hobject : pattern.kind ≠ .objectPattern) (hname : pattern.kind ≠ .identifier) :
    function.props = [] := by
  rw [props_eq_ofParam hparameters, ComponentProp.ofParam, hpattern]
  dsimp only
  split
  · rename_i hkind
    exact absurd hkind hobject
  · rename_i hkind
    exact absurd hkind hname
  · rfl

/-- The props of a plain name have the names of the members. -/
theorem map_name_members (members : List Node) :
    (members.filterMap ComponentProp.ofMember?).map ComponentProp.name
      = members.filterMap memberName? := by
  rw [List.map_filterMap]
  apply List.filterMap_congr
  intro member _
  rw [ComponentProp.ofMember?, Option.map_map]
  exact Option.map_id'

/-! ### Keys that are different -/

/-- Two nodes have no key in common. -/
def KeysApart (key : Node → Option String) (first second : Node) : Prop :=
  ∀ name, key first = some name → key second ≠ some name

theorem pairwise_keysApart_iff {key : Node → Option String} {nodes : List Node} :
    nodes.Pairwise (KeysApart key) ↔ (nodes.filterMap key).Nodup := by
  rw [List.nodup_iff_pairwise_ne, List.pairwise_filterMap]
  refine List.Pairwise.iff fun first second => ?_
  constructor
  · rintro hapart name hfirst _ hsecond rfl
    exact hapart name hfirst hsecond
  · intro hne name hfirst hsecond
    exact hne name hfirst name hsecond rfl

/-- Of nodes whose keys are different, only one has a given key. -/
theorem filter_of_keysApart {key : Node → Option String} {nodes : List Node}
    (hapart : nodes.Pairwise (KeysApart key)) {node : Node} (hnode : node ∈ nodes) {name : String}
    (hname : key node = some name) : (nodes.filter fun other => key other == some name) = [node] := by
  induction nodes with
  | nil => exact (List.not_mem_nil hnode).elim
  | cons first rest ih =>
    obtain ⟨hfirst, hrest⟩ := List.pairwise_cons.1 hapart
    rcases List.mem_cons.1 hnode with rfl | hnode
    · have hnone : (rest.filter fun other => key other == some name) = [] := by
        rw [List.filter_eq_nil_iff]
        intro other hother hsame
        exact hfirst other hother name hname (beq_iff_eq.1 hsame)
      rw [List.filter_cons_of_pos (by simp [hname]), hnone]
    · have hother : ¬ key first = some name := fun h => hfirst node hnode name h hname
      rw [List.filter_cons_of_neg (by simpa using hother), ih hrest hnode]

/-! ### Different names -/

theorem nodup_props_of_objectPattern (hparameters : function.parameters = param :: others)
    (hpattern : (ParamParts.ofNode param).pattern? = some pattern)
    (hkind : pattern.kind = .objectPattern) :
    (function.props.map ComponentProp.name).Nodup ↔
      pattern.namedChildren.Pairwise (KeysApart propertyKey?) := by
  rw [props_eq_described hparameters hpattern hkind, ComponentProp.map_name_described,
    pairwise_keysApart_iff]

theorem nodup_props_of_identifier (hparameters : function.parameters = param :: others)
    (hpattern : (ParamParts.ofNode param).pattern? = some pattern)
    (hkind : pattern.kind = .identifier) :
    (function.props.map ComponentProp.name).Nodup ↔
      (literalMembers (ParamParts.ofNode param).annotation?).Pairwise (KeysApart memberName?) := by
  rw [props_eq_members hparameters hpattern hkind, map_name_members, pairwise_keysApart_iff]

/-- The props of a function have different names exactly if no two entries of the object pattern that
is its first parameter take the same property, and, where the parameter is a plain name, no two
members of its type literal have the same name. -/
theorem props_distinct_iff (function : Node) :
    (function.props.map ComponentProp.name).Nodup ↔
      ∀ param others pattern, function.parameters = param :: others →
        (ParamParts.ofNode param).pattern? = some pattern →
        (pattern.kind = .objectPattern →
          pattern.namedChildren.Pairwise (KeysApart propertyKey?)) ∧
        (pattern.kind = .identifier →
          (literalMembers (ParamParts.ofNode param).annotation?).Pairwise
            (KeysApart memberName?)) := by
  constructor
  · intro hnodup param others pattern hparameters hpattern
    constructor
    · intro hkind
      exact (nodup_props_of_objectPattern hparameters hpattern hkind).1 hnodup
    · intro hkind
      exact (nodup_props_of_identifier hparameters hpattern hkind).1 hnodup
  · intro hapart
    cases hparameters : function.parameters with
    | nil =>
      rw [props_eq, hparameters]
      exact List.nodup_nil
    | cons param others =>
      cases hpattern : (ParamParts.ofNode param).pattern? with
      | none =>
        rw [props_eq_ofParam hparameters, ComponentProp.ofParam, hpattern]
        exact List.nodup_nil
      | some pattern =>
        obtain ⟨hentries, hmembers⟩ := hapart param others pattern hparameters hpattern
        by_cases hobject : pattern.kind = .objectPattern
        · exact (nodup_props_of_objectPattern hparameters hpattern hobject).2 (hentries hobject)
        · by_cases hname : pattern.kind = .identifier
          · exact (nodup_props_of_identifier hparameters hpattern hname).2 (hmembers hname)
          · rw [props_eq_nil hparameters hpattern hobject hname]
            exact List.nodup_nil

/-- An arrow function with one parameter in a sample tree. -/
def sampleArrow (start : Nat) (parameter : Node) : Node :=
  .mk (.sample .arrowFunction none start "")
    [.mk (.sample (.other "formal_parameters") (some .parameters) start "") [parameter]]

/-- The parameter of a sample tree that binds its argument by a pattern without an annotation. -/
def sampleBare (start : Nat) (pattern : Node) : Node :=
  .mk (.sample .requiredParameter none start "") [pattern]

/-- The type literal of a sample tree. -/
def sampleLiteral (start : Nat) (members : List Node) : Node :=
  .mk (.sample .objectType none start "") members

/-- The parameter of a sample tree that has a type literal. -/
def sampleTyped (start : Nat) (pattern literal : Node) : Node :=
  .mk (.sample .requiredParameter none start "")
    [pattern, .mk (.sample .annotatedType (some .type) (start + 1) "") [literal]]

/-- An object pattern in a sample tree. -/
def sampleObjectPattern (start : Nat) (entries : List Node) : Node :=
  .mk (.sample .objectPattern (some .pattern) start "") entries

/-- The plain name of a parameter in a sample tree. -/
def samplePlainName (start : Nat) : Node :=
  .mk (.sample .identifier (some .pattern) start "props") []

/-- The entry of a sample tree that binds the property of a key to another name. -/
def samplePair (start : Nat) (kind : Kind) (key value : String) : Node :=
  .mk (.sample .pairPattern none start "")
    [.mk (.sample kind (some .key) start key) [],
      .mk (.sample .identifier (some .value) (start + 1) value) []]

/-- The functions `({ a: x, a: y }) => …` and `(props: { a: string; a: number }) => …` have two props
of one name. -/
theorem props_repeated :
    ¬ ((sampleArrow 0 (sampleBare 1 (sampleObjectPattern 2
        [samplePair 3 .propertyIdentifier "a" "x",
          samplePair 5 .propertyIdentifier "a" "y"]))).props.map ComponentProp.name).Nodup ∧
      ¬ ((sampleArrow 0 (sampleTyped 1 (samplePlainName 2) (sampleLiteral 3
        [sampleMember 4 "a" "string" [], sampleMember 8 "a" "number" []]))).props.map
          ComponentProp.name).Nodup := by
  decide

/-! ### Properties that are named -/

/-- The text of a key that is written out: a plain name, or a string without its quotes. -/
def writtenKey? (key : Node) : Option String :=
  if key.kind = .propertyIdentifier then some key.text
  else if key.kind = .string then some key.stringValue
  else none

/-- The property that an entry of an object pattern names in the source itself. -/
def staticKey? (entry : Node) : Option String :=
  if entry.kind = .shorthandPropertyIdentifierPattern then some entry.text
  else if entry.kind = .objectAssignmentPattern then
    (entry.child? .left).bind fun left =>
      if left.kind = .shorthandPropertyIdentifierPattern then some left.text else none
  else if entry.kind = .pairPattern then (entry.child? .key).bind writtenKey?
  else none

/-- Whether an entry of an object pattern has a string for its key. -/
def hasQuotedKey (entry : Node) : Bool :=
  entry.kind == .pairPattern && (entry.child? .key).any fun key => key.kind == .string

/-- An entry with a quoted key names a property, but has no plain name. -/
theorem propertyKey?_of_quoted {entry : Node} (h : entry.hasQuotedKey = true) :
    entry.propertyKey? = none ∧ entry.staticKey?.isSome = true := by
  obtain ⟨hkind, hkey⟩ := Bool.and_eq_true_iff.1 h
  rw [beq_iff_eq] at hkind
  obtain ⟨key, hchild, hstring⟩ := (Option.any_eq_true _ _).1 hkey
  rw [beq_iff_eq] at hstring
  constructor
  · simp [propertyKey?, propertyKeyNode?, hkind, hchild, hstring]
  · simp [staticKey?, writtenKey?, hkind, hchild, hstring]

/-- An entry whose key is not quoted names the property that it has for a plain name, if any. -/
theorem staticKey?_of_unquoted {entry : Node} (h : entry.hasQuotedKey = false) :
    entry.staticKey? = entry.propertyKey? := by
  rw [propertyKey?, propertyKeyNode?]
  split
  · rename_i hkind
    simp [staticKey?, hkind]
  · rename_i hkind
    cases hleft : entry.child? .left with
    | none => simp [staticKey?, hkind, hleft]
    | some left => simp [staticKey?, hkind, hleft]
  · rename_i hkind
    cases hkey : entry.child? .key with
    | none => simp [staticKey?, hkind, hkey]
    | some key =>
      have hstring : key.kind ≠ .string := by
        intro hstring
        simp [hasQuotedKey, hkind, hkey, hstring] at h
      simp [staticKey?, writtenKey?, hkind, hkey, hstring]
  · rename_i hshorthand hassigned hpair
    rw [staticKey?, if_neg hshorthand, if_neg hassigned, if_neg hpair]
    rfl

/-- The plain name of an entry is the property that it names, unless its key is quoted. -/
theorem propertyKey?_eq_ite (entry : Node) :
    entry.propertyKey? = if entry.hasQuotedKey then none else entry.staticKey? := by
  cases hquoted : entry.hasQuotedKey with
  | true => exact (propertyKey?_of_quoted hquoted).1
  | false => exact (staticKey?_of_unquoted hquoted).symm

theorem propertyKey?_eq_staticKey?_iff (entry : Node) :
    entry.propertyKey? = entry.staticKey? ↔ entry.hasQuotedKey = false := by
  constructor
  · intro hsame
    by_contra hquoted
    obtain ⟨hnone, hsome⟩ := propertyKey?_of_quoted (by simpa using hquoted)
    rw [← hsame, hnone] at hsome
    cases hsome
  · intro hplain
    exact (staticKey?_of_unquoted hplain).symm

/-- Two readings of a list, one of which may give less, are equal exactly if they agree on every
item. -/
theorem filterMap_eq_filterMap_iff {α β : Type} {f g : α → Option β} {items : List α}
    (h : ∀ item ∈ items, f item = g item ∨ f item = none) :
    items.filterMap f = items.filterMap g ↔ ∀ item ∈ items, f item = g item := by
  refine ⟨?_, List.filterMap_congr⟩
  induction items with
  | nil => simp
  | cons item rest ih =>
    obtain ⟨hitem, hrest⟩ := List.forall_mem_cons.1 h
    intro heq
    have hle : (rest.filterMap f).length ≤ (rest.filterMap g).length := by
      rw [List.length_filterMap_eq_countP, List.length_filterMap_eq_countP]
      refine List.countP_mono_left fun next hnext hsome => ?_
      rcases hrest next hnext with hsame | hnone
      · rwa [← hsame]
      · rw [hnone] at hsome
        cases hsome
    -- an item that only the second reading gives would make the first one too short
    have hsame : f item = g item := by
      rcases hitem with hsame | hnone
      · exact hsame
      · cases hvalue : g item with
        | none => exact hnone
        | some value =>
          rw [List.filterMap_cons_none hnone, List.filterMap_cons_some hvalue] at heq
          rw [heq, List.length_cons] at hle
          omega
    rw [List.filterMap_cons, List.filterMap_cons, hsame] at heq
    refine List.forall_mem_cons.2 ⟨hsame, ih hrest ?_⟩
    cases hvalue : g item with
    | none => simpa [hvalue] using heq
    | some value => simpa [hvalue] using heq

/-- The props of an object pattern are those of the properties that its entries name, without the
entries that have a quoted key. So no property is lost exactly if no key is quoted. -/
theorem props_complete_iff (hparameters : function.parameters = param :: others)
    (hpattern : (ParamParts.ofNode param).pattern? = some pattern)
    (hkind : pattern.kind = .objectPattern) :
    function.props.map ComponentProp.name
      = (pattern.namedChildren.filter fun entry => !entry.hasQuotedKey).filterMap staticKey? ∧
    (function.props.map ComponentProp.name = pattern.namedChildren.filterMap staticKey? ↔
      ∀ entry ∈ pattern.namedChildren, entry.hasQuotedKey = false) := by
  have hnames : function.props.map ComponentProp.name
      = pattern.namedChildren.filterMap propertyKey? := by
    rw [props_eq_described hparameters hpattern hkind, ComponentProp.map_name_described]
  constructor
  · rw [hnames, List.filterMap_filter]
    apply List.filterMap_congr
    intro entry _
    rw [propertyKey?_eq_ite]
    cases entry.hasQuotedKey <;> rfl
  · have hless : ∀ entry ∈ pattern.namedChildren,
        entry.propertyKey? = entry.staticKey? ∨ entry.propertyKey? = none := by
      intro entry _
      rw [propertyKey?_eq_ite]
      cases entry.hasQuotedKey with
      | true => exact .inr rfl
      | false => exact .inl rfl
    rw [hnames, filterMap_eq_filterMap_iff hless]
    exact forall₂_congr fun entry _ => propertyKey?_eq_staticKey?_iff entry

/-- The pattern `{ a, b = 1, c: d, [k]: e, ...rest }`. -/
def sampleEntries : Node :=
  sampleObjectPattern 2
    [.mk (.sample .shorthandPropertyIdentifierPattern none 3 "a") [],
      .mk (.sample .objectAssignmentPattern none 4 "")
        [.mk (.sample .shorthandPropertyIdentifierPattern (some .left) 5 "b") [],
          .mk (.sample .number (some .right) 6 "1") []],
      samplePair 7 .propertyIdentifier "c" "d",
      samplePair 9 (.other "computed_property_name") "[k]" "e",
      .mk (.sample .restPattern none 11 "...rest") [.mk (.sample .identifier none 12 "rest") []]]

theorem props_complete_sample :
    (sampleArrow 0 (sampleBare 1 sampleEntries)).parameters = [sampleBare 1 sampleEntries] ∧
      (ParamParts.ofNode (sampleBare 1 sampleEntries)).pattern? = some sampleEntries ∧
      sampleEntries.kind = .objectPattern ∧
      (∀ entry ∈ sampleEntries.namedChildren, entry.hasQuotedKey = false) ∧
      (sampleArrow 0 (sampleBare 1 sampleEntries)).props.map ComponentProp.name = ["a", "b", "c"] := by
  have hparameters :
      (sampleArrow 0 (sampleBare 1 sampleEntries)).parameters = [sampleBare 1 sampleEntries] := by rfl
  have hpattern : (ParamParts.ofNode (sampleBare 1 sampleEntries)).pattern? = some sampleEntries := by
    rfl
  have hplain : ∀ entry ∈ sampleEntries.namedChildren, entry.hasQuotedKey = false := by decide
  refine ⟨hparameters, hpattern, rfl, hplain, ?_⟩
  exact (props_complete_iff hparameters hpattern rfl).2.2 hplain

/-- The function `({ 'data-testid': id }) => …` names a property and has no prop. -/
theorem props_lose_quotedKey :
    let pattern := sampleObjectPattern 2 [samplePair 3 .string "'data-testid'" "id"]
    pattern.namedChildren.filterMap staticKey? = ["data-testid"] ∧
      (sampleArrow 0 (sampleBare 1 pattern)).props = [] := by
  decide

/-! ### Two ways of declaring props -/

/-- The property signatures of a type literal. -/
def signatures (literal : Node) : List Node :=
  literal.namedChildren.filter fun member => member.kind == .propertySignature

/-- The first parameter of a function binds its argument by a pattern and has a type literal. -/
def OpensWith (function pattern literal : Node) : Prop :=
  ∃ param others, function.parameters = param :: others ∧
    (ParamParts.ofNode param).pattern? = some pattern ∧
    (ParamParts.ofNode param).annotation?.bind firstMember? = some literal ∧
    literal.kind = .objectType

theorem literalMembers_eq {annotation? : Option Node} {literal : Node}
    (hliteral : annotation?.bind firstMember? = some literal) (hkind : literal.kind = .objectType) :
    literalMembers annotation? = literal.signatures := by
  rw [literalMembers, hliteral]
  dsimp only
  rw [if_pos hkind, signatures]

theorem signatures_unplaced (literal : Node) :
    literal.unplaced.signatures = literal.signatures.map unplaced := by
  rw [signatures, namedChildren_unplaced, List.filter_map, signatures]
  congr 1
  apply List.filter_congr
  intro member _
  rw [Function.comp_apply, kind_unplaced]

/-- A type literal declares the same props wherever it is written. -/
theorem filterMap_ofMember?_of_unplaced {literal other : Node}
    (halike : literal.unplaced = other.unplaced) :
    other.signatures.filterMap ComponentProp.ofMember?
      = literal.signatures.filterMap ComponentProp.ofMember? := by
  have hread : ∀ node : Node, node.unplaced.signatures.filterMap ComponentProp.ofMember?
      = node.signatures.filterMap ComponentProp.ofMember? := by
    intro node
    rw [signatures_unplaced, List.filterMap_map]
    exact List.filterMap_congr fun member _ => ComponentProp.ofMember?_unplaced member
  rw [← hread other, ← halike, hread literal]

/-- The props of one name that members declare. -/
theorem filter_name_members (members : List Node) (name : String) :
    ((members.filterMap ComponentProp.ofMember?).filter fun prop => prop.name == name)
      = (members.filter fun member => member.memberName? == some name).filterMap
          ComponentProp.ofMember? := by
  rw [List.filter_filterMap, List.filterMap_filter]
  apply List.filterMap_congr
  intro member _
  rw [ComponentProp.ofMember?]
  cases member.memberName? with
  | none => rfl
  | some other =>
    by_cases hsame : other = name
    · simp [hsame]
    · simp [hsame, Option.filter]

/-- Among members of different names, the one of a name decides on it if it has a type. -/
theorem lastDeclaring?_of_keysApart {members : List Node}
    (hmembers : members.Pairwise (KeysApart memberName?)) {member : Node} (hmember : member ∈ members)
    {name : String} (hname : member.memberName? = some name) :
    lastDeclaring? members name = if (member.child? .type).isSome then some member else none := by
  have hdeclaring : members.filter (declares name)
      = (members.filter fun other => other.memberName? == some name).filter fun other =>
          (other.child? .type).isSome := by
    rw [List.filter_filter]
    apply List.filter_congr
    intro other _
    rw [declares, Bool.and_comm]
  rw [lastDeclaring?, hdeclaring, filter_of_keysApart hmembers hmember hname]
  split
  · rw [List.filter_cons_of_pos ‹_›]
    rfl
  · rw [List.filter_cons_of_neg ‹_›]
    rfl

end Node

namespace ComponentProp

/-- A prop that is described is that of an entry. -/
theorem exists_of_mem_described {members entries : List Node} {prop : ComponentProp}
    (h : prop ∈ described members entries) :
    ∃ earlier entry later name, entries = earlier ++ entry :: later ∧
      entry.propertyKey? = some name ∧ prop = ofEntry name entry (decider? members later name) := by
  induction entries with
  | nil => exact (List.not_mem_nil h).elim
  | cons first rest ih =>
    have hrest : prop ∈ described members rest →
        ∃ earlier entry later name, first :: rest = earlier ++ entry :: later ∧
          entry.propertyKey? = some name ∧
          prop = ofEntry name entry (decider? members later name) := by
      intro hprop
      obtain ⟨earlier, entry, later, name, hentries, hname, hprop⟩ := ih hprop
      exact ⟨first :: earlier, entry, later, name, by rw [hentries, List.cons_append], hname, hprop⟩
    cases hkey : first.propertyKey? with
    | none =>
      rw [described_cons_of_none hkey] at h
      exact hrest h
    | some name =>
      rw [described_cons_of_some hkey] at h
      rcases List.mem_cons.1 h with hprop | hprop
      · exact ⟨[], first, rest, name, rfl, hkey, hprop⟩
      · exact hrest hprop

/-- Where no two entries take the same property, the last member that declares the type of a name
decides on its only entry. -/
theorem exists_entry_of_keysApart {members entries : List Node} {prop : ComponentProp}
    (hentries : entries.Pairwise (Node.KeysApart Node.propertyKey?))
    (h : prop ∈ described members entries) :
    ∃ entry ∈ entries, prop = ofEntry prop.name entry (Node.lastDeclaring? members prop.name) := by
  obtain ⟨earlier, entry, later, name, rfl, hname, rfl⟩ := exists_of_mem_described h
  have hlast : ∀ other ∈ later, other.propertyKey? ≠ some name := by
    intro other hother
    have hlater := (List.pairwise_append.1 hentries).2.1
    exact (List.pairwise_cons.1 hlater).1 other hother name hname
  refine ⟨entry, List.mem_append_right _ List.mem_cons_self, ?_⟩
  rw [decider?_of_last hlast]
  rfl

end ComponentProp

namespace Node

/-- The two ways of declaring props agree. Let a type literal whose members have different names be
written on an object pattern whose entries take different properties without defaults, and also on a
plain name. Each prop of the pattern that the literal declares is then a prop of the plain name as
well, of the same type. Both are required or both are not, unless the member that declares them has a
question mark and no type. -/
theorem props_agree_with_declared {destructured plain pattern name literal other : Node}
    (hdestructured : destructured.OpensWith pattern literal)
    (hpattern : pattern.kind = .objectPattern)
    (hplain : plain.OpensWith name other) (hname : name.kind = .identifier)
    (halike : literal.unplaced = other.unplaced)
    (hmembers : literal.signatures.Pairwise (KeysApart memberName?))
    (hentries : pattern.namedChildren.Pairwise (KeysApart propertyKey?))
    (hdefaults : ∀ entry ∈ pattern.namedChildren, entry.entryDefault? = none) :
    ∀ prop ∈ destructured.props, ∀ member ∈ literal.signatures,
      member.memberName? = some prop.name →
      ∃ declared, (plain.props.filter fun found => found.name == prop.name) = [declared] ∧
        declared.type = prop.type ∧
        (declared.required = prop.required ↔
          (member.child? .type).isSome = true ∨ member.hasToken .questionToken = false) := by
  intro prop hprop member hmember hmemberName
  obtain ⟨param, others, hparameters, hbinds, hannotation, hkind⟩ := hdestructured
  obtain ⟨plainParam, plainOthers, hplainParameters, hplainBinds, hplainAnnotation, hplainKind⟩ :=
    hplain
  -- the prop of the pattern: the member decides on it if it has a type
  rw [props_eq_described hparameters hbinds hpattern, literalMembers_eq hannotation hkind] at hprop
  obtain ⟨entry, hentry, hprop⟩ := ComponentProp.exists_entry_of_keysApart hentries hprop
  rw [lastDeclaring?_of_keysApart hmembers hmember hmemberName] at hprop
  have hdefault : entry.entryDefault?.isNone = true := by rw [hdefaults entry hentry]; rfl
  -- the prop of the plain name: the member declares it
  have hdeclared : plain.props = literal.signatures.filterMap ComponentProp.ofMember? := by
    rw [props_eq_members hplainParameters hplainBinds hname,
      literalMembers_eq hplainAnnotation hplainKind, filterMap_ofMember?_of_unplaced halike]
  refine ⟨⟨prop.name, descriptorOf (member.child? .type), !member.hasToken .questionToken, none⟩,
    ?_, ?_, ?_⟩
  · rw [hdeclared, filter_name_members, filter_of_keysApart hmembers hmember hmemberName]
    simp [ComponentProp.ofMember?, hmemberName]
  · rw [hprop]
    cases htype : member.child? .type with
    | none => rfl
    | some type => simp [ComponentProp.ofEntry, htype]
  · rw [hprop]
    cases htype : member.child? .type with
    | none => simp [ComponentProp.ofEntry, hdefault]
    | some type => simp [ComponentProp.ofEntry, hdefault]

/-- The question mark of a member of a sample tree. -/
def sampleMark (start : Nat) : Node := .mk ⟨start, .questionToken, false, none, start, 1, "?", none⟩ []

/-- The members of `{ a: string; b?: number }`. -/
def sampleTypedMembers (start : Nat) : List Node :=
  [sampleMember start "a" "string" [],
    sampleMember (start + 4) "b" "number" [sampleMark (start + 8)]]

/-- The pattern `{ b, a }`. -/
def sampleShorthands : Node :=
  sampleObjectPattern 2
    [.mk (.sample .shorthandPropertyIdentifierPattern none 3 "b") [],
      .mk (.sample .shorthandPropertyIdentifierPattern none 4 "a") []]

/-- The functions `({ b, a }: { a: string; b?: number }) => …` and
`(props: { a: string; b?: number }) => …` agree on their props. -/
theorem props_agree_sample :
    let destructured := sampleArrow 0
      (sampleTyped 1 sampleShorthands (sampleLiteral 5 (sampleTypedMembers 6)))
    let plain := sampleArrow 20
      (sampleTyped 21 (samplePlainName 22) (sampleLiteral 23 (sampleTypedMembers 24)))
    (⟨"b", "number", false, none⟩ : ComponentProp) ∈ destructured.props ∧
      ∃ declared, (plain.props.filter fun found => found.name == "b") = [declared] ∧
        declared.type = "number" ∧ declared.required = false := by
  intro destructured plain
  have hprop : (⟨"b", "number", false, none⟩ : ComponentProp) ∈ destructured.props := by decide
  have hdestructured : destructured.OpensWith sampleShorthands
      (sampleLiteral 5 (sampleTypedMembers 6)) := ⟨_, [], rfl, rfl, rfl, rfl⟩
  have hplain : plain.OpensWith (samplePlainName 22) (sampleLiteral 23 (sampleTypedMembers 24)) :=
    ⟨_, [], rfl, rfl, rfl, rfl⟩
  have hagree := props_agree_with_declared hdestructured rfl hplain rfl (by rfl)
    (pairwise_keysApart_iff.2 (by decide)) (pairwise_keysApart_iff.2 (by decide)) (by decide)
  obtain ⟨declared, hfound, htype, hrequired⟩ :=
    hagree _ hprop (sampleMember 10 "b" "number" [sampleMark 14])
      (List.mem_of_getElem? (i := 1) rfl) rfl
  exact ⟨hprop, declared, hfound, htype, hrequired.2 (.inl rfl)⟩

/-- The type literal `{ a? }`. -/
def sampleUntyped (start : Nat) : Node :=
  sampleLiteral start
    [.mk (.sample .propertySignature none (start + 1) "")
      [.mk (.sample .propertyIdentifier (some .name) (start + 2) "a") [], sampleMark (start + 3)]]

/-- The function `({ a }: { a? }) => …` has a prop that is required, and `(props: { a? }) => …` has
one that is not. -/
theorem props_disagree_untyped :
    let pattern := sampleObjectPattern 2
      [.mk (.sample .shorthandPropertyIdentifierPattern none 3 "a") []]
    let destructured := sampleArrow 0 (sampleTyped 1 pattern (sampleUntyped 4))
    let plain := sampleArrow 10 (sampleTyped 11 (samplePlainName 12) (sampleUntyped 13))
    destructured.OpensWith pattern (sampleUntyped 4) ∧
      plain.OpensWith (samplePlainName 12) (sampleUntyped 13) ∧
      (sampleUntyped 4).unplaced = (sampleUntyped 13).unplaced ∧
      (sampleUntyped 4).signatures.Pairwise (KeysApart memberName?) ∧
      pattern.namedChildren.Pairwise (KeysApart propertyKey?) ∧
      (∀ entry ∈ pattern.namedChildren, entry.entryDefault? = none) ∧
      destructured.props = [⟨"a", anyType, true, none⟩] ∧
      plain.props = [⟨"a", anyType, false, none⟩] := by
  intro pattern destructured plain
  exact ⟨⟨_, [], rfl, rfl, rfl, rfl⟩, ⟨_, [], rfl, rfl, rfl, rfl⟩, by rfl,
    pairwise_keysApart_iff.2 (by decide), pairwise_keysApart_iff.2 (by decide), by decide, by rfl,
    by rfl⟩

end Node

end ComponentSurvey
