import ComponentSurvey.Component.Props
import ComponentSurvey.Proofs.Places

/-!
# Props taken by an object pattern

The props of a pattern are made in two passes: one prop for each entry that names a property, and then
one change for each member of the type literal. Here they are described in one pass, entry by entry:
the last member that declares the type of a name decides on the last entry of this name, and on no
other.

* `Node.lastDeclaring?` — the member that decides on a name.
* `ComponentProp.described` — the props of entries in the light of members, entry by entry.
* `ComponentProp.refine_described` — one more member; `ComponentProp.foldl_refine_eq` — all of them.
* `Node.props_of_objectPattern` — what the props of an object pattern are.
-/

namespace ComponentSurvey

namespace Node

/-- Whether a member declares the type of a name. -/
def declares (name : String) (member : Node) : Bool :=
  member.memberName? == some name && (member.child? .type).isSome

/-- The last member that declares the type of a name. -/
def lastDeclaring? (members : List Node) (name : String) : Option Node :=
  (members.filter (declares name)).getLast?

theorem lastDeclaring?_concat (members : List Node) (member : Node) (name : String) :
    lastDeclaring? (members ++ [member]) name
      = if member.declares name then some member else lastDeclaring? members name := by
  rw [lastDeclaring?, List.filter_append]
  by_cases h : member.declares name
  · simp [h]
  · simp [h, lastDeclaring?]

end Node

namespace ComponentProp

/-- The prop of an entry of a name, on which a member may decide. -/
def ofEntry (name : String) (entry : Node) (member? : Option Node) : ComponentProp where
  name := name
  type := member?.elim anyType fun member => Node.descriptorOf (member.child? .type)
  required := !(member?.any (Node.hasToken .questionToken)) && entry.entryDefault?.isNone
  default? := entry.entryDefault?.map Node.defaultText

/-- The member that decides on an entry of a name: none if a later entry has the name. -/
def decider? (members later : List Node) (name : String) : Option Node :=
  if later.any fun entry => entry.propertyKey? == some name then none
  else Node.lastDeclaring? members name

/-- The props of the entries of an object pattern in the light of the members of a type literal. -/
def described (members : List Node) : List Node → List ComponentProp
  | [] => []
  | entry :: later =>
    (entry.propertyKey?.map fun name => ofEntry name entry (decider? members later name)).toList ++
      described members later

/-- No member decides if there is none. -/
theorem decider?_nil (later : List Node) (name : String) : decider? [] later name = none := by
  rw [decider?]
  split <;> rfl

/-- A member that does not declare the type of a name changes nothing for it. -/
theorem decider?_concat_of_not_declares {members later : List Node} {member : Node} {name : String}
    (h : member.declares name = false) :
    decider? (members ++ [member]) later name = decider? members later name := by
  rw [decider?, decider?, Node.lastDeclaring?_concat, h]
  rfl

/-- A member that declares the type of a name decides on its last entry. -/
theorem decider?_concat_of_declares {members later : List Node} {member : Node} {name : String}
    (h : member.declares name = true) :
    decider? (members ++ [member]) later name
      = if later.any fun entry => entry.propertyKey? == some name then none else some member := by
  rw [decider?, Node.lastDeclaring?_concat, h]
  rfl

/-- The last entry of a name is decided on by the last member that declares the type of the name. -/
theorem decider?_of_last {members later : List Node} {name : String}
    (h : ∀ other ∈ later, other.propertyKey? ≠ some name) :
    decider? members later name = Node.lastDeclaring? members name := by
  have hnone : (later.any fun entry => entry.propertyKey? == some name) = false := by
    simpa [List.any_eq_false] using h
  rw [decider?, hnone]
  rfl

/-- No member decides on an entry whose name is taken once more. -/
theorem decider?_of_repeated {members later : List Node} {name : String} {other : Node}
    (hother : other ∈ later) (h : other.propertyKey? = some name) :
    decider? members later name = none := by
  have hany : (later.any fun entry => entry.propertyKey? == some name) = true :=
    List.any_eq_true.2 ⟨other, hother, by simp [h]⟩
  rw [decider?, hany]
  rfl

theorem described_cons_of_none {members later : List Node} {entry : Node}
    (h : entry.propertyKey? = none) :
    described members (entry :: later) = described members later := by
  rw [described, h]
  rfl

theorem described_cons_of_some {members later : List Node} {entry : Node} {name : String}
    (h : entry.propertyKey? = some name) :
    described members (entry :: later)
      = ofEntry name entry (decider? members later name) :: described members later := by
  rw [described, h]
  rfl

/-- Without members, the props are those of the entries alone. -/
theorem described_nil (entries : List Node) : described [] entries = entries.filterMap ofEntry? := by
  induction entries with
  | nil => rfl
  | cons entry later ih =>
    cases h : entry.propertyKey? with
    | none =>
      have hentry : ComponentProp.ofEntry? entry = none := by rw [ComponentProp.ofEntry?, h]; rfl
      rw [described_cons_of_none h, List.filterMap_cons_none hentry, ih]
    | some name =>
      have hentry : ComponentProp.ofEntry? entry = some (ofEntry name entry none) := by
        rw [ComponentProp.ofEntry?, h]
        rfl
      rw [described_cons_of_some h, List.filterMap_cons_some hentry, decider?_nil, ih]

/-- The props have the names that the entries take, in their order. -/
theorem map_name_described (members entries : List Node) :
    (described members entries).map ComponentProp.name = entries.filterMap Node.propertyKey? := by
  induction entries with
  | nil => rfl
  | cons entry later ih =>
    cases h : entry.propertyKey? with
    | none => rw [described_cons_of_none h, List.filterMap_cons_none h, ih]
    | some name =>
      rw [described_cons_of_some h, List.filterMap_cons_some h, List.map_cons, ih]
      rfl

theorem any_name_described (members entries : List Node) (name : String) :
    ((described members entries).any fun prop => prop.name == name)
      = entries.any fun entry => entry.propertyKey? == some name := by
  induction entries with
  | nil => rfl
  | cons entry later ih =>
    cases h : entry.propertyKey? with
    | none => simp [described_cons_of_none h, h, ih]
    | some other => simp [described_cons_of_some h, h, ih, ofEntry]

theorem updateLast_of_not_any {α : Type} {p : α → Bool} {f : α → α} {items : List α}
    (h : items.any p = false) : updateLast p f items = items := by
  induction items with
  | nil => rfl
  | cons item rest ih =>
    rw [List.any_cons, Bool.or_eq_false_iff] at h
    rw [updateLast, h.1, ih h.2]
    rfl

/-- A member that declares the type of a name gives it to the last entry of the name, whatever the
members before it said. -/
theorem declaredBy_ofEntry {member type entry : Node} (htype : member.child? .type = some type)
    (name : String) (member? : Option Node) :
    declaredBy member type (ofEntry name entry member?) = ofEntry name entry (some member) := by
  simp [declaredBy, ofEntry, htype, Node.descriptorOf]

/-- Props in the light of one more member that declares a type. -/
theorem updateLast_described {members : List Node} {member type : Node} {name : String}
    (hname : member.memberName? = some name) (htype : member.child? .type = some type)
    (entries : List Node) :
    updateLast (fun prop => prop.name == name) (declaredBy member type) (described members entries)
      = described (members ++ [member]) entries := by
  have hdeclares : ∀ other, member.declares other = (name == other) := by
    intro other
    simp [Node.declares, hname, htype]
  induction entries with
  | nil => rfl
  | cons entry later ih =>
    cases hkey : entry.propertyKey? with
    | none => rw [described_cons_of_none hkey, described_cons_of_none hkey, ih]
    | some key =>
      rw [described_cons_of_some hkey, described_cons_of_some hkey, updateLast, any_name_described]
      by_cases hsame : key = name
      · subst hsame
        rw [decider?_concat_of_declares (by simp [hdeclares])]
        cases hlater : later.any fun entry => entry.propertyKey? == some key with
        | true =>
          rw [ih, decider?, hlater]
          simp
        | false =>
          have hrest : described (members ++ [member]) later = described members later := by
            rw [← ih, updateLast_of_not_any (by rw [any_name_described, hlater])]
          rw [hrest, declaredBy_ofEntry htype]
          simp [ofEntry]
      · rw [decider?_concat_of_not_declares (by simp [hdeclares, Ne.symm hsame]), ih]
        simp [ofEntry, hsame]

/-- Props in the light of one more member. -/
theorem refine_described (members : List Node) (member : Node) (entries : List Node) :
    refine (described members entries) member = described (members ++ [member]) entries := by
  have hsame : (∀ name, member.declares name = false) →
      described (members ++ [member]) entries = described members entries := by
    intro hnone
    induction entries with
    | nil => rfl
    | cons entry later ih =>
      rw [described, described, ih]
      simp only [decider?_concat_of_not_declares (hnone _)]
  rw [refine]
  cases hname : member.memberName? with
  | none => exact (hsame fun name => by simp [Node.declares, hname]).symm
  | some name =>
    cases htype : member.child? .type with
    | none => exact (hsame fun other => by simp [Node.declares, htype]).symm
    | some type => exact updateLast_described hname htype entries

/-- The two passes make the props that are described in one. -/
theorem foldl_refine_eq (members entries : List Node) :
    members.foldl refine (entries.filterMap ofEntry?) = described members entries := by
  have hstep : ∀ before, members.foldl refine (described before entries)
      = described (before ++ members) entries := by
    induction members with
    | nil =>
      intro before
      rw [List.append_nil]
      rfl
    | cons member rest ih =>
      intro before
      rw [List.foldl_cons, refine_described, ih, List.append_assoc]
      rfl
  rw [← described_nil, hstep, List.nil_append]

/-- The prop of an entry stands behind those of the entries in front. -/
theorem getElem?_described (members earlier : List Node) {entry : Node} {later : List Node}
    {name : String} (h : entry.propertyKey? = some name) :
    (described members (earlier ++ entry :: later))[(earlier.filterMap Node.propertyKey?).length]?
      = some (ofEntry name entry (decider? members later name)) := by
  induction earlier with
  | nil =>
    rw [List.nil_append, described_cons_of_some h]
    rfl
  | cons first rest ih =>
    rw [List.cons_append]
    cases hfirst : first.propertyKey? with
    | none => rw [described_cons_of_none hfirst, List.filterMap_cons_none hfirst, ih]
    | some other =>
      rw [described_cons_of_some hfirst, List.filterMap_cons_some hfirst, List.length_cons,
        List.getElem?_cons_succ, ih]

/-- A prop on which a member decides has the type that the member declares. It is required if the
member has no question mark and the entry no default. -/
theorem ofEntry_some {member type : Node} (htype : member.child? .type = some type) (name : String)
    (entry : Node) :
    (ofEntry name entry (some member)).type = type.typeDescriptor ∧
      ((ofEntry name entry (some member)).required = true ↔
        member.hasToken .questionToken = false ∧
          (ofEntry name entry (some member)).default? = none) := by
  simp [ofEntry, htype, Node.descriptorOf]

/-- A prop on which no member decides has no known type, and is required if the entry has no
default. -/
theorem ofEntry_none (name : String) (entry : Node) :
    (ofEntry name entry none).type = anyType ∧
      ((ofEntry name entry none).required = true ↔ (ofEntry name entry none).default? = none) := by
  simp [ofEntry]

/-- A prop with a default is not required, whatever the members say. -/
theorem required_of_mem_described {members entries : List Node} {prop : ComponentProp}
    (h : prop ∈ described members entries) (hdefault : prop.default? ≠ none) :
    prop.required = false := by
  induction entries with
  | nil => exact (List.not_mem_nil h).elim
  | cons entry later ih =>
    cases hkey : entry.propertyKey? with
    | none =>
      rw [described_cons_of_none hkey] at h
      exact ih h
    | some name =>
      rw [described_cons_of_some hkey] at h
      rcases List.mem_cons.1 h with rfl | h
      · have hentry : entry.entryDefault?.isNone = false := by
          simpa [ofEntry, Option.isSome_iff_ne_none] using hdefault
        simp only [ofEntry, hentry, Bool.and_false]
      · exact ih h

end ComponentProp

namespace Node

variable {function param pattern : Node} {others : List Node}

theorem props_eq_described (hparameters : function.parameters = param :: others)
    (hpattern : (ParamParts.ofNode param).pattern? = some pattern)
    (hkind : pattern.kind = .objectPattern) :
    function.props
      = ComponentProp.described (literalMembers (ParamParts.ofNode param).annotation?)
          pattern.namedChildren := by
  rw [props, hparameters]
  dsimp only
  rw [ComponentProp.ofParam, hpattern]
  dsimp only
  rw [hkind]
  exact ComponentProp.foldl_refine_eq _ _

/-- A parameter that is an object pattern is shown by the names of the properties that it takes. -/
theorem name_of_objectPattern (hpattern : (ParamParts.ofNode param).pattern? = some pattern)
    (hkind : pattern.kind = .objectPattern) :
    (Param.ofNode param).value.map Param.name
      = some (Param.objectPatternName pattern.propertyNames) := by
  rw [Param.ofNode, Logged.value_bind]
  dsimp only
  rw [hpattern]
  dsimp only
  rw [hkind]
  rfl

/-- The props of a function whose first parameter is an object pattern. There is one for each entry
that names a property, in declared order and with the default of the entry, so that their names are
those that the parameter is shown with. On the last entry of a name, the last member of the type
literal decides that declares the type of the name: it gives the type, and it marks the prop as
optional by its question mark. Where no member decides, the type is unknown. A prop with a default is
never required. -/
theorem props_of_objectPattern (hparameters : function.parameters = param :: others)
    (hpattern : (ParamParts.ofNode param).pattern? = some pattern)
    (hkind : pattern.kind = .objectPattern) :
    let members := literalMembers (ParamParts.ofNode param).annotation?
    function.props.map ComponentProp.name = pattern.propertyNames ∧
    (Param.ofNode param).value.map Param.name
      = some (Param.objectPatternName (function.props.map ComponentProp.name)) ∧
    (∀ earlier entry later name, pattern.namedChildren = earlier ++ entry :: later →
      entry.propertyKey? = some name →
      ∃ prop, function.props[(earlier.filterMap propertyKey?).length]? = some prop ∧
        prop.name = name ∧ prop.default? = entry.entryDefault?.map defaultText ∧
        ((∀ other ∈ later, other.propertyKey? ≠ some name) →
          ∀ member type, lastDeclaring? members name = some member →
            member.child? .type = some type →
            prop.type = type.typeDescriptor ∧
            (prop.required = true ↔ member.hasToken .questionToken = false ∧ prop.default? = none)) ∧
        ((∃ other ∈ later, other.propertyKey? = some name) ∨ lastDeclaring? members name = none →
          prop.type = anyType ∧ (prop.required = true ↔ prop.default? = none))) ∧
    (∀ prop ∈ function.props, prop.default? ≠ none → prop.required = false) := by
  intro members
  have hprops : function.props = ComponentProp.described members pattern.namedChildren :=
    props_eq_described hparameters hpattern hkind
  have hnames : function.props.map ComponentProp.name = pattern.propertyNames := by
    rw [hprops, ComponentProp.map_name_described]
    rfl
  refine ⟨hnames, ?_, ?_, ?_⟩
  · rw [hnames, name_of_objectPattern hpattern hkind]
  · intro earlier entry later name hentries hname
    refine ⟨.ofEntry name entry (ComponentProp.decider? members later name), ?_, rfl, rfl, ?_, ?_⟩
    · rw [hprops, hentries, ComponentProp.getElem?_described members earlier hname]
    · intro hlast member type hmember htype
      rw [ComponentProp.decider?_of_last hlast, hmember]
      exact ComponentProp.ofEntry_some htype name entry
    · intro hnone
      have hdecider : ComponentProp.decider? members later name = none := by
        rcases hnone with ⟨other, hother, hsame⟩ | hnone
        · exact ComponentProp.decider?_of_repeated hother hsame
        · rw [ComponentProp.decider?, hnone, ite_self]
      rw [hdecider]
      exact ComponentProp.ofEntry_none name entry
  · intro prop hprop hdefault
    rw [hprops] at hprop
    exact ComponentProp.required_of_mem_described hprop hdefault

/-! ### A sample -/

/-- The property signature of a sample tree, with a type of one word. -/
def sampleMember (start : Nat) (name type : String) (tokens : List Node) : Node :=
  .mk (.sample .propertySignature none start "")
    ([.mk (.sample .propertyIdentifier (some .name) (start + 1) name) []] ++ tokens ++
      [.mk (.sample .annotatedType (some .type) (start + 2) "")
        [.mk (.sample .predefinedType none (start + 3) type) []]])

/-- The pattern `{ a, b = 1, a }`. -/
def samplePattern : Node :=
  .mk (.sample .objectPattern (some .pattern) 2 "")
    [.mk (.sample .shorthandPropertyIdentifierPattern none 3 "a") [],
      .mk (.sample .objectAssignmentPattern none 4 "")
        [.mk (.sample .shorthandPropertyIdentifierPattern (some .left) 5 "b") [],
          .mk (.sample .number (some .right) 6 "1") []],
      .mk (.sample .shorthandPropertyIdentifierPattern none 7 "a") []]

/-- That pattern with the type `{ a: string; b: string; a?: boolean }`. -/
def sampleParameter : Node :=
  .mk (.sample .requiredParameter none 1 "")
    [samplePattern,
      .mk (.sample .annotatedType (some .type) 8 "")
        [.mk (.sample .objectType none 9 "")
          [sampleMember 10 "a" "string" [], sampleMember 20 "b" "string" [],
            sampleMember 30 "a" "boolean"
              [.mk ⟨35, .questionToken, false, none, 35, 1, "?", none⟩ []]]]]

/-- An arrow function with that parameter. -/
def sampleDestructuring : Node :=
  .mk (.sample .arrowFunction none 0 "")
    [.mk (.sample (.other "formal_parameters") (some .parameters) 0 "") [sampleParameter]]

theorem props_of_objectPattern_sample :
    sampleDestructuring.parameters = [sampleParameter] ∧
      (ParamParts.ofNode sampleParameter).pattern? = some samplePattern ∧
      samplePattern.kind = .objectPattern ∧
      sampleDestructuring.props.map ComponentProp.name = ["a", "b", "a"] ∧
      sampleDestructuring.props
        = [⟨"a", anyType, true, none⟩, ⟨"b", "string", false, some "1"⟩,
            ⟨"a", "boolean", false, none⟩] := by
  have hparameters : sampleDestructuring.parameters = [sampleParameter] := by rfl
  have hpattern : (ParamParts.ofNode sampleParameter).pattern? = some samplePattern := by rfl
  exact ⟨hparameters, hpattern, rfl, (props_of_objectPattern hparameters hpattern rfl).1, by rfl⟩

end Node

end ComponentSurvey
