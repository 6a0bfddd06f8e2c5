import ComponentSurvey.Proofs.Findings

/-!
# Unrelated declarations do not influence each other

The bindings of a program are those of its statements: the program above them decides nothing. So a
survey can be read off the forest of statements, and where two parts of a file bind different names
and one stands before the other, the survey of the file is that of the parts, one after the other.

* `Cursor.under`, `Binding.under` — a place in a forest, seen from the program above.
* `Binding.ofForest` — the bindings made by a list of statements.
* `Binding.ofTree_program` — the bindings of a program are those of its statements.
* `Binding.claimants_append` — parts that share no name keep their winners and their order.
* `FileSurvey.survey_append` — the survey of a file is that of its parts.
-/

namespace ComponentSurvey

/-! ### Forests below a root -/

/-- A place in a forest as a place in the tree whose root is above the forest. -/
def Cursor.under (root : Node) (cursor : Cursor) : Cursor :=
  ⟨cursor.node, cursor.ancestors ++ [root]⟩

namespace Node

theorem cursorsEach_append (ancestors first second : List Node) :
    cursorsEach ancestors (first ++ second)
      = cursorsEach ancestors first ++ cursorsEach ancestors second := by
  induction first with
  | nil => simp
  | cons node rest ih => simp [ih]

mutual

theorem cursorsBelow_under (root : Node) (ancestors : List Node) :
    (node : Node) → node.cursorsBelow (ancestors ++ [root])
      = (node.cursorsBelow ancestors).map (Cursor.under root)
  | mk label children => by
    have h := cursorsEach_under root (mk label children :: ancestors) children
    rw [List.cons_append] at h
    rw [cursorsBelow, cursorsBelow, h]
    rfl

theorem cursorsEach_under (root : Node) (ancestors : List Node) :
    (nodes : List Node) → cursorsEach (ancestors ++ [root]) nodes
      = (cursorsEach ancestors nodes).map (Cursor.under root)
  | [] => by simp
  | node :: rest => by
    rw [cursorsEach_cons, cursorsEach_cons, cursorsBelow_under root ancestors node,
      cursorsEach_under root ancestors rest, List.map_append]

end

/-- The places of a tree are its root and the places of the forest below it. -/
theorem cursors_eq (root : Node) :
    root.cursors = ⟨root, []⟩ :: (cursorsEach [] root.children).map (Cursor.under root) := by
  rw [cursors, cursorsBelow_eq, ← cursorsEach_under root [] root.children]
  rfl

theorem stripParensBelow_under (root node : Node) (ancestors : List Node) :
    node.stripParensBelow (ancestors ++ [root])
      = (node.stripParensBelow ancestors).map (Cursor.under root) := by
  induction node using childInduction generalizing ancestors with
  | step node ih =>
    by_cases hk : node.kind = .parenthesizedExpression
    · rw [stripParensBelow_of_parens _ hk, stripParensBelow_of_parens _ hk]
      cases hmember : node.firstMember? with
      | none => rfl
      | some member => exact ih member (List.mem_of_find?_eq_some hmember) (node :: ancestors)
    · rw [stripParensBelow_of_ne _ hk, stripParensBelow_of_ne _ hk]
      rfl

end Node

/-! ### Bindings seen from a program -/

theorem dropWhile_concat_of_neg {α : Type} (drop : α → Bool) (items : List α) {last : α}
    (h : drop last = false) :
    (items ++ [last]).dropWhile drop = items.dropWhile drop ++ [last] := by
  rw [List.dropWhile_append]
  split
  · rename_i hempty
    rw [List.isEmpty_iff.1 hempty, List.dropWhile_cons_of_neg (by simp [h])]
    rfl
  · rfl

namespace Cursor

variable {root : Node} (cursor : Cursor)

theorem node_under : (cursor.under root).node = cursor.node := rfl

/-- To stand at module scope is to stand there in the forest, if the root is a program. -/
theorem isTopLevel_under (hroot : root.kind = .program) :
    (cursor.under root).isTopLevel = cursor.isTopLevel := by
  unfold isTopLevel
  rw [under, dropWhile_concat_of_neg _ _ (by rw [hroot]; rfl)]
  cases cursor.ancestors.dropWhile fun node => node.kind.isModuleScope with
  | nil => exact beq_iff_eq.2 hroot
  | cons parent above => rfl

theorem enclosing_under (hroot : root.kind = .program) :
    (cursor.under root).enclosing = cursor.enclosing ++ [root] :=
  dropWhile_concat_of_neg _ cursor.ancestors (by rw [hroot]; rfl)

/-- A program exports nothing, so that a function is exported as it is in the forest. -/
theorem isExported_under (hroot : root.kind = .program) :
    (cursor.under root).isExported = cursor.isExported := by
  unfold isExported
  rw [enclosing_under cursor hroot]
  cases cursor.enclosing with
  | nil => simp [hroot]
  | cons parent above =>
    rw [List.cons_append]
    dsimp only
    split
    · rfl
    · -- above a declarator two more nodes are looked at, and a program is not an export
      cases above with
      | nil => rfl
      | cons statement outer =>
        cases outer with
        | nil => simp [hroot]
        | cons next rest => rfl
    · rfl

theorem child?_under (field : Field) :
    (cursor.under root).child? field = (cursor.child? field).map (under root) := by
  rw [child?, child?, Option.map_map]
  rfl

theorem stripParens_under :
    (cursor.under root).stripParens = cursor.stripParens.map (under root) :=
  Node.stripParensBelow_under root cursor.node cursor.ancestors

end Cursor

namespace Binding

variable {root : Node} (hroot : root.kind = .program)

/-- A binding of a forest as a binding of the tree whose root is above the forest. -/
def under (root : Node) (binding : Binding) : Binding :=
  { binding with cursor := binding.cursor.under root }

theorem value?_under (cursor : Cursor) :
    value? (cursor.under root) = (value? cursor).map (Cursor.under root) := by
  rw [value?, value?, Cursor.child?_under]
  cases cursor.child? .value with
  | none => rfl
  | some value => exact value.stripParens_under

include hroot in
theorem ofDeclaration?_under (cursor : Cursor) :
    ofDeclaration? (cursor.under root) = (ofDeclaration? cursor).map (under root) := by
  rw [ofDeclaration?, ofDeclaration?, Cursor.isTopLevel_under cursor hroot, Option.map_map]
  rfl

include hroot in
theorem ofDeclarator?_under (cursor : Cursor) :
    ofDeclarator? (cursor.under root) = (ofDeclarator? cursor).map (under root) := by
  have hvalue : ((cursor.under root).child? .value).bind Cursor.stripParens
      = ((cursor.child? .value).bind Cursor.stripParens).map (Cursor.under root) :=
    value?_under cursor
  rw [ofDeclarator?, ofDeclarator?, hvalue, Cursor.isTopLevel_under cursor hroot, Cursor.node_under]
  cases Cursor.declaredName? cursor.node with
  | none => rfl
  | some name =>
    cases (cursor.child? .value).bind Cursor.stripParens with
    | none => rfl
    | some value =>
      show (if value.node.isFunctionExpression then
          some ⟨.variable, name, value.under root, cursor.isTopLevel⟩
        else if value.node.wrapperName?.isSome then
          some ⟨.wrapped, name, value.under root, cursor.isTopLevel⟩
        else none) = Option.map (under root) (if _ then _ else _)
      by_cases hfun : value.node.isFunctionExpression = true
      · rw [if_pos hfun, if_pos hfun]
        rfl
      · rw [if_neg hfun, if_neg hfun]
        by_cases hwrap : value.node.wrapperName?.isSome = true
        · rw [if_pos hwrap, if_pos hwrap]
          rfl
        · rw [if_neg hwrap, if_neg hwrap]
          rfl

include hroot in
theorem ofExport?_under (cursor : Cursor) :
    ofExport? (cursor.under root) = (ofExport? cursor).map (under root) := by
  have hvalue : ((cursor.under root).child? .value).bind Cursor.stripParens
      = ((cursor.child? .value).bind Cursor.stripParens).map (Cursor.under root) :=
    value?_under cursor
  rw [ofExport?, ofExport?, hvalue, Cursor.isTopLevel_under cursor hroot, Cursor.node_under]
  split
  · cases (cursor.child? .value).bind Cursor.stripParens with
    | none => rfl
    | some value =>
      show (if value.node.isFunctionExpression || value.node.wrapperName?.isSome then
          some ⟨.defaultExport, defaultExportName, value.under root, cursor.isTopLevel⟩
        else none) = Option.map (under root) (if _ then _ else _)
      by_cases h : (value.node.isFunctionExpression || value.node.wrapperName?.isSome) = true
      · rw [if_pos h, if_pos h]
        rfl
      · rw [if_neg h, if_neg h]
        rfl
  · rfl

include hroot in
/-- A node makes the binding in the tree that it makes in the forest. -/
theorem ofCursor?_under (cursor : Cursor) :
    ofCursor? (cursor.under root) = (ofCursor? cursor).map (under root) := by
  unfold ofCursor?
  rw [Cursor.node_under, ofDeclaration?_under hroot, ofDeclarator?_under hroot,
    ofExport?_under hroot]
  split <;> simp_all

/-- The bindings made by a list of statements, in pre-order. -/
def ofForest (nodes : List Node) : List Binding := (Node.cursorsEach [] nodes).filterMap ofCursor?

theorem ofForest_append (first second : List Node) :
    ofForest (first ++ second) = ofForest first ++ ofForest second := by
  rw [ofForest, Node.cursorsEach_append, List.filterMap_append]
  rfl

include hroot in
/-- The bindings of a program are those of its statements. -/
theorem ofTree_program : ofTree root = (ofForest root.children).map (under root) := by
  have hself : ofCursor? ⟨root, []⟩ = none := by
    unfold ofCursor?
    rw [hroot]
  rw [ofTree, Node.cursors_eq, List.filterMap_cons_none hself, List.filterMap_map, ofForest,
    List.map_filterMap]
  congr 1
  funext cursor
  exact ofCursor?_under hroot cursor

/-! ### Winners seen from a program -/

include hroot in
theorem isClaiming_under (binding : Binding) :
    (binding.under root).isClaiming = binding.isClaiming := by
  unfold isClaiming
  rw [show (binding.under root).cursor.isExported = binding.cursor.isExported from
    Cursor.isExported_under binding.cursor hroot]
  rfl

include hroot in
/-- A binding contributes to the tree what it contributes to the forest. -/
theorem finding?_under (file : FileContext) (binding : Binding) :
    (binding.under root).finding? file = binding.finding? file := by
  unfold finding?
  have hfun : (PlainFunction.ofCursor (binding.under root).cursor (some (binding.under root).name)
      file.path file.imports).value
        = (PlainFunction.ofCursor binding.cursor (some binding.name) file.path
            file.imports).value := by
    simp [PlainFunction.ofCursor, PlainFunction.describe, under, Cursor.node_under,
      Cursor.isExported_under binding.cursor hroot]
  rw [hfun]
  rfl

include hroot in
theorem winners_under (order : List Binding) :
    winners (order.map (under root)) = (winners order).map (under root) := by
  induction order with
  | nil => rfl
  | cons binding rest ih =>
    rw [List.map_cons, winners, winners, isClaiming_under hroot, ih]
    split
    · rw [List.map_cons, List.filter_map]
      rfl
    · rfl

theorem topLevelFirst_under (bindings : List Binding) :
    topLevelFirst (bindings.map (under root)) = (topLevelFirst bindings).map (under root) := by
  rw [topLevelFirst, topLevelFirst, List.filter_map, List.filter_map, List.map_append]
  rfl

include hroot in
theorem claimants_under (bindings : List Binding) :
    claimants (bindings.map (under root)) = (claimants bindings).map (under root) := by
  rw [claimants, topLevelFirst_under, winners_under hroot, claimants, List.map_mergeSort]
  intro a _ b _
  rfl

/-! ### Parts that share no name -/

/-- Whether a name is kept or dropped, its winner stays the same. -/
theorem filter_winners (keep : String → Bool) (order : List Binding) :
    (winners order).filter (fun binding => keep binding.name)
      = winners (order.filter fun binding => keep binding.name) := by
  induction order with
  | nil => rfl
  | cons binding rest ih =>
    rw [winners, List.filter_cons]
    by_cases hkeep : keep binding.name = true
    · rw [if_pos hkeep, winners]
      split
      · rw [List.filter_cons, if_pos hkeep, List.filter_filter, ← ih, List.filter_filter]
        congr 2
        funext other
        exact Bool.and_comm _ _
      · exact ih
    · rw [if_neg hkeep, ← ih]
      split
      · -- the names that the binding takes from later ones are dropped anyway
        rw [List.filter_cons, if_neg hkeep, List.filter_filter]
        apply List.filter_congr
        intro other _
        by_cases hname : other.name = binding.name
        · simp [hname, hkeep]
        · simp [hname]
      · rfl

theorem filter_topLevelFirst (keep : Binding → Bool) (bindings : List Binding) :
    (topLevelFirst bindings).filter keep = topLevelFirst (bindings.filter keep) := by
  rw [topLevelFirst, topLevelFirst, List.filter_append, List.filter_filter, List.filter_filter,
    List.filter_filter, List.filter_filter]
  congr 2 <;> funext binding <;> exact Bool.and_comm _ _

/-- Two parts of a file that share no name, one before the other, keep their winners and the order
of these. -/
theorem claimants_append {first second : List Binding}
    (hnames : ∀ a ∈ first, ∀ b ∈ second, a.name ≠ b.name)
    (hstarts : ∀ a ∈ first, ∀ b ∈ second, a.node.start < b.node.start) :
    claimants (first ++ second) = claimants first ++ claimants second := by
  -- the names of the first part tell its winners from those of the second
  let keep : String → Bool := fun name => first.any fun binding => binding.name == name
  have hfirst : ∀ a ∈ first, keep a.name = true := fun a ha =>
    List.any_eq_true.2 ⟨a, ha, by simp⟩
  have hsecond : ∀ b ∈ second, keep b.name = false := fun b hb =>
    List.any_eq_false.2 fun a ha => by simpa using hnames a ha b hb
  have hkept : (first ++ second).filter (fun binding => keep binding.name) = first := by
    rw [List.filter_append, List.filter_eq_self.2 hfirst,
      List.filter_eq_nil_iff.2 (fun b hb => by simp [hsecond b hb]), List.append_nil]
  have hleft : (first ++ second).filter (fun binding => !keep binding.name) = second := by
    rw [List.filter_append, List.filter_eq_nil_iff.2 (fun a ha => by simp [hfirst a ha]),
      List.filter_eq_self.2 (fun b hb => by simp [hsecond b hb]), List.nil_append]
  have hmem : ∀ binding ∈ winners (topLevelFirst (first ++ second)),
      binding ∈ first ∨ binding ∈ second := fun binding h =>
    List.mem_append.1 (mem_topLevelFirst.1 ((winners_sublist _).subset h))
  rw [claimants, mergeSort_eq_append (fun binding => keep binding.name) (nodup_winners _),
    filter_winners keep, filter_topLevelFirst, hkept,
    filter_winners fun name => !keep name, filter_topLevelFirst, hleft]
  · rfl
  · intro a ha b hb hka hkb
    rcases hmem a ha with ha | ha
    · rcases hmem b hb with hb | hb
      · rw [hfirst b hb] at hkb
        cases hkb
      · exact hstarts a ha b hb
    · rw [hsecond a ha] at hka
      cases hka

end Binding

/-! ### What depends on the whole file -/

/-- A record with other imports in it. -/
def Finding.withImports (imports : List Import) : Finding → Finding
  | .component record => .component { record with imports := imports }
  | .function record => .function { record with imports := imports }

/-- The imports of the file are copied into a record and decide nothing else of it. -/
theorem Binding.finding?_imports (binding : Binding) (path : String)
    (imports others : List Import) :
    binding.finding? ⟨path, imports⟩
      = (binding.finding? ⟨path, others⟩).map (Finding.withImports imports) := by
  unfold finding?
  split
  · rw [Component.ofWrapper, Component.ofWrapper]
    simp only [Logged.value_bind, Logged.value_pure]
    cases binding.node.unwrap.value.target? <;> rfl
  · split <;> rfl

theorem Import.ofProgram_append (label labelFirst labelSecond : Label) (first second : List Node) :
    (ofProgram (.mk label (first ++ second))).value
      = (ofProgram (.mk labelFirst first)).value ++ (ofProgram (.mk labelSecond second)).value := by
  simp [ofProgram, Node.namedChildren]

theorem Framework.ofImports_append (first second : List Import) :
    ofImports (first ++ second)
      = if ofImports first = .vanilla then ofImports second else ofImports first := by
  have hsource : ∀ record : Import, ofSource? record.source ≠ some .vanilla := by
    intro record h
    unfold ofSource? at h
    split at h
    · cases h
    · split at h <;> cases h
  unfold ofImports
  rw [List.findSome?_append]
  cases hfirst : first.findSome? fun record => ofSource? record.source with
  | none => rfl
  | some framework =>
    obtain ⟨record, _, hrecord⟩ := List.exists_of_findSome?_eq_some hfirst
    have hne : framework ≠ .vanilla := fun h => hsource record (h ▸ hrecord)
    rw [Option.some_or, Option.getD_some, if_neg hne]

namespace FileSurvey

variable {label : Label} (hlabel : label.kind = .program)

include hlabel in
/-- What a survey of a program records of one sort is read off its statements. -/
theorem filterMap_claimants_program {α : Type} (nodes : List Node) (file : FileContext)
    (select : Finding → Option α) :
    (Binding.claimants (Binding.ofTree (.mk label nodes))).filterMap
        (fun winner => (winner.finding? file).bind select)
      = (Binding.claimants (Binding.ofForest nodes)).filterMap fun winner =>
          (winner.finding? file).bind select := by
  have hroot : (Node.mk label nodes).kind = .program := hlabel
  rw [Binding.ofTree_program hroot, Binding.claimants_under hroot, List.filterMap_map]
  congr 1
  funext winner
  exact congrArg (fun finding? => finding?.bind select) (Binding.finding?_under hroot file winner)

include hlabel in
/-- What a survey of a program records of one sort, with any imports in it, is read off its
statements. -/
theorem map_withImports_program {α : Type} (nodes : List Node) (path : String)
    (imports others : List Import) {select : Finding → Option α} {update : α → α}
    (hselect : ∀ finding, select (finding.withImports imports) = (select finding).map update) :
    ((Binding.claimants (Binding.ofTree (.mk label nodes))).filterMap fun winner =>
        (winner.finding? ⟨path, others⟩).bind select).map update
      = (Binding.claimants (Binding.ofForest nodes)).filterMap fun winner =>
          (winner.finding? ⟨path, imports⟩).bind select := by
  rw [filterMap_claimants_program hlabel, List.map_filterMap]
  congr 1
  funext winner
  rw [winner.finding?_imports path imports others]
  cases winner.finding? ⟨path, others⟩ with
  | none => rfl
  | some finding => exact (hselect finding).symm

include hlabel in
theorem components_program (nodes : List Node) (path : String) (imports : List Import) :
    (ofTree (.mk label nodes) path).value.components.map
        (fun component => { component with imports := imports })
      = (Binding.claimants (Binding.ofForest nodes)).filterMap fun winner =>
          (winner.finding? ⟨path, imports⟩).bind Finding.component? := by
  rw [components_ofTree]
  refine map_withImports_program hlabel nodes path imports _ fun finding => ?_
  cases finding <;> rfl

include hlabel in
theorem functions_program (nodes : List Node) (path : String) (imports : List Import) :
    (ofTree (.mk label nodes) path).value.functions.map
        (fun function => { function with imports := imports })
      = (Binding.claimants (Binding.ofForest nodes)).filterMap fun winner =>
          (winner.finding? ⟨path, imports⟩).bind Finding.function? := by
  rw [functions_ofTree]
  refine map_withImports_program hlabel nodes path imports _ fun finding => ?_
  cases finding <;> rfl

include hlabel in
theorem under_mem_ofTree {nodes : List Node} {binding : Binding}
    (h : binding ∈ Binding.ofForest nodes) :
    binding.under (.mk label nodes) ∈ Binding.ofTree (.mk label nodes) := by
  have hroot : (Node.mk label nodes).kind = .program := hlabel
  rw [Binding.ofTree_program hroot]
  exact List.mem_map_of_mem h

/-- **Unrelated declarations do not influence each other.** Where two lists of statements bind
different names and the bindings of one start before those of the other, a program of both is
surveyed as the program of one and then that of the other, but for the imports, which every record
has of the whole file. -/
theorem survey_append (path : String) (label labelFirst labelSecond : Label)
    (first second : List Node) (hlabel : label.kind = .program)
    (hlabelFirst : labelFirst.kind = .program) (hlabelSecond : labelSecond.kind = .program)
    (hnames : ∀ a ∈ Binding.ofTree (.mk labelFirst first),
      ∀ b ∈ Binding.ofTree (.mk labelSecond second), a.name ≠ b.name)
    (hstarts : ∀ a ∈ Binding.ofTree (.mk labelFirst first),
      ∀ b ∈ Binding.ofTree (.mk labelSecond second), a.node.start < b.node.start) :
    let whole := (ofTree (.mk label (first ++ second)) path).value
    let one := (ofTree (.mk labelFirst first) path).value
    let two := (ofTree (.mk labelSecond second) path).value
    ((Node.mk label (first ++ second)).Readable →
      (ofTree (.mk label (first ++ second)) path).outcome.value = .ok whole) ∧
    whole.components = (one.components ++ two.components).map (fun component =>
      { component with imports := whole.imports }) ∧
    whole.functions = (one.functions ++ two.functions).map (fun function =>
      { function with imports := whole.imports }) ∧
    whole.imports = one.imports ++ two.imports ∧
    whole.framework = (if one.framework = .vanilla then two.framework else one.framework) := by
  intro whole one two
  have himports : whole.imports = one.imports ++ two.imports := Import.ofProgram_append _ _ _ _ _
  have hclaimants : Binding.claimants (Binding.ofForest (first ++ second))
      = Binding.claimants (Binding.ofForest first)
        ++ Binding.claimants (Binding.ofForest second) := by
    rw [Binding.ofForest_append]
    refine Binding.claimants_append (fun a ha b hb => ?_) fun a ha b hb => ?_
    · have hne := hnames _ (under_mem_ofTree hlabelFirst ha) _ (under_mem_ofTree hlabelSecond hb)
      exact hne
    · have hlt := hstarts _ (under_mem_ofTree hlabelFirst ha) _ (under_mem_ofTree hlabelSecond hb)
      exact hlt
  refine ⟨fun h => outcome_ofTree h path, ?_, ?_, himports, ?_⟩
  · rw [List.map_append, components_program hlabelFirst, components_program hlabelSecond,
      ← List.filterMap_append, ← hclaimants, ← filterMap_claimants_program hlabel]
    exact components_ofTree _ path
  · rw [List.map_append, functions_program hlabelFirst, functions_program hlabelSecond,
      ← List.filterMap_append, ← hclaimants, ← filterMap_claimants_program hlabel]
    exact functions_ofTree _ path
  · show Framework.ofImports whole.imports = _
    rw [himports]
    exact Framework.ofImports_append _ _

/-- The statements of `function f() { function h() { return <p></p> } }`. -/
def nestedSample : List Node :=
  [.sampleFunction 0 "f" [.sampleFunction 10 "h" [.mk (.sample .jsxElement none 20 "") []]]]

/-- The statements of `export function g() {}`, further down. -/
def exportedSample : List Node :=
  [.mk (.sample .exportStatement none 40 "") [.sampleFunction 41 "g" []]]

theorem survey_append_nested :
    let label := Label.sample .program none 0 ""
    let whole := (ofTree (.mk label (nestedSample ++ exportedSample)) "a.js").value
    let one := (ofTree (.mk label nestedSample) "a.js").value
    let two := (ofTree (.mk label exportedSample) "a.js").value
    whole.components = (one.components ++ two.components).map (fun component =>
      { component with imports := whole.imports }) ∧
    whole.functions = (one.functions ++ two.functions).map (fun function =>
      { function with imports := whole.imports }) ∧
    whole.components.map Component.name = ["f", "h"] ∧
    whole.functions.map PlainFunction.name = ["g"] := by
  intro label whole one two
  have hnames : ∀ a ∈ Binding.ofTree (.mk label nestedSample),
      ∀ b ∈ Binding.ofTree (.mk label exportedSample), a.name ≠ b.name := by decide
  have hstarts : ∀ a ∈ Binding.ofTree (.mk label nestedSample),
      ∀ b ∈ Binding.ofTree (.mk label exportedSample), a.node.start < b.node.start := by decide
  have happend := survey_append "a.js" label label label nestedSample exportedSample rfl rfl rfl
    hnames hstarts
  have hcomponents : whole.components = _ := components_ofTree_of_pairwise (by decide +kernel)
  refine ⟨happend.2.1, happend.2.2.1, ?_, by decide +kernel⟩
  rw [hcomponents]
  decide +kernel

end FileSurvey

end ComponentSurvey
