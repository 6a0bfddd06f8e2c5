import ComponentSurvey.Proofs.Sources

/-!
# From a binding back to its site

A declarator or an export binds its name to what stands inside the parentheses of its value. Other
parts of the survey start at the function and climb through the parentheses, to find its name and
whether it is exported. The two ways meet at the same node, at any depth.

* `Cursor.boundName?_of_declarator`, `Cursor.isExported_of_declarator` — what climbing tells of the
  value of a variable.
* `Cursor.boundName?_of_defaultExport`, `Cursor.isExported_of_export` — what climbing tells of the
  value of an export.
* `Binding.isWrapperCall_iff`, `Binding.isFunctionLike_of_not_isWrapperCall` — a name is bound to a
  wrapper call or to a function, and the kind of the node tells which.
* `Binding.climbs_back_to_site` — climbing from what a name is bound to leads back to the site.
-/

namespace ComponentSurvey

namespace Cursor

variable {cursor : Cursor} {parent : Node} {above : List Node}

/-! ### Climbing to a declarator -/

theorem boundNode?_of_declarator (henclosing : cursor.enclosing = parent :: above)
    (hkind : parent.kind = .variableDeclarator) {name : Node}
    (hname : declaredNode? parent = some name) : cursor.boundNode? = some name := by
  rw [boundNode?, henclosing]
  dsimp only
  rw [if_pos hkind, hname]
  rfl

/-- The value of a variable is named after the variable. -/
theorem boundName?_of_declarator (henclosing : cursor.enclosing = parent :: above)
    (hkind : parent.kind = .variableDeclarator) {name : String}
    (hname : declaredName? parent = some name) : cursor.boundName? = some name := by
  obtain ⟨node, hnode, rfl⟩ := Option.map_eq_some_iff.1 hname
  rw [boundName?, boundNode?_of_declarator henclosing hkind hnode]
  rfl

/-- The value of a variable is exported if the statement that declares the variable is. -/
theorem isExported_of_declarator (henclosing : cursor.enclosing = parent :: above)
    (hkind : parent.kind = .variableDeclarator) :
    cursor.isExported = true ↔ ∃ statement outer rest, above = statement :: outer :: rest ∧
      (statement.kind = .lexicalDeclaration ∨ statement.kind = .variableDeclaration) ∧
      outer.kind = .exportStatement := by
  have hstatement : ∀ kind : Kind, kind.isVariableStatement = true ↔
      kind = .lexicalDeclaration ∨ kind = .variableDeclaration := by
    intro kind
    cases kind <;> simp [Kind.isVariableStatement]
  rw [isExported, henclosing]
  simp only [hkind]
  rcases above with _ | ⟨statement, _ | ⟨outer, rest⟩⟩
  · simp
  · simp
  · simp [hstatement]

/-! ### Climbing to an export -/

theorem boundNode?_of_export (henclosing : cursor.enclosing = parent :: above)
    (hkind : parent.kind = .exportStatement) : cursor.boundNode? = cursor.node.ownNameNode? := by
  rw [boundNode?, henclosing]
  dsimp only
  rw [if_neg (by simp [hkind])]
  rfl

/-- The value of a default export has its own name, or else the name of default exports. -/
theorem boundName?_of_defaultExport (henclosing : cursor.enclosing = parent :: above)
    (hkind : parent.kind = .exportStatement) (hdefault : parent.hasToken .defaultToken = true) :
    cursor.boundName? = some (cursor.node.ownName?.getD defaultExportName) := by
  have hexport : cursor.isDefaultExport = true := by
    rw [isDefaultExport, henclosing]
    simp [hkind, hdefault]
  rw [boundName?, boundNode?_of_export henclosing hkind, if_pos hexport]
  show (cursor.node.ownName? <|> some defaultExportName) = _
  cases cursor.node.ownName? <;> rfl

theorem isExported_of_export (henclosing : cursor.enclosing = parent :: above)
    (hkind : parent.kind = .exportStatement) : cursor.isExported = true := by
  rw [isExported, henclosing]
  simp only [hkind]

end Cursor

namespace Binding

variable {root : Node} {site : Cursor} {binding : Binding}

/-! ### Functions and wrapper calls -/

/-- A name is bound to a call only if the call applies a wrapper. -/
theorem isWrapperCall_iff (h : ofCursor? site = some binding) :
    binding.isWrapperCall = true ↔ binding.node.wrapperName?.isSome = true := by
  constructor
  · intro hcall
    have hcallKind : binding.cursor.node.kind = .callExpression := beq_iff_eq.1 hcall
    rcases ofCursor?_cases h with ⟨hkind, hcursor⟩ | ⟨_, _, hfunction | hwrapper⟩
    · rw [← hcursor, hcallKind] at hkind
      cases hkind
    · have hkind : binding.cursor.node.kind.isFunctionExpression = true :=
        (Bool.and_eq_true_iff.1 hfunction).2
      rw [hcallKind] at hkind
      cases hkind
    · exact hwrapper
  · exact Node.isCall_of_wrapperName?

/-- What is no wrapper call is a function. -/
theorem isFunctionLike_of_not_isWrapperCall (h : ofCursor? site = some binding)
    (hcall : binding.isWrapperCall = false) : binding.node.kind.isFunctionLike = true := by
  rcases ofCursor?_cases h with ⟨hkind, hcursor⟩ | ⟨_, _, hfunction | hwrapper⟩
  · rw [← hcursor] at hkind
    rw [Kind.isFunctionLike, Bool.or_eq_true, Bool.or_eq_true]
    exact .inl (.inl hkind)
  · rw [Kind.isFunctionLike, Bool.or_eq_true, Bool.or_eq_true]
    exact .inl (.inr (Bool.and_eq_true_iff.1 hfunction).2)
  · have hisCall : binding.isWrapperCall = true := (isWrapperCall_iff h).2 hwrapper
    rw [hcall] at hisCall
    cases hisCall

/-! ### The way back -/

/-- Above what a declarator or an export binds its name to stand parentheses, and then the site. -/
theorem enclosing_of_ofCursor? (h : ofCursor? site = some binding)
    (hkind : site.node.kind = .variableDeclarator ∨ site.node.kind = .exportStatement) :
    binding.cursor.enclosing = site.node :: site.ancestors := by
  rcases ofCursor?_cases h with ⟨hdeclaration, _⟩ | ⟨_, hvalue, _⟩
  · rcases hkind with hkind | hkind <;> rw [hkind] at hdeclaration <;> cases hdeclaration
  · exact Cursor.enclosing_value? hvalue hkind

/-- **Descending and climbing agree.** What a declarator or an export of a tree binds its name to has
its place in the tree, and the first node above it that is no parenthesis is the declarator or export
itself, at any depth. So the value of a variable is named after the variable, from texts that were
needed for the binding already, and it is exported exactly if the statement that declares the variable
is held by an export. The value of a default export is exported and has its own name, or else the name
of default exports. Every name is bound to the call of a wrapper or to a function. -/
theorem climbs_back_to_site (hsite : site ∈ root.cursors) (h : ofCursor? site = some binding) :
    binding.cursor ∈ root.cursors ∧
    (site.node.kind = .variableDeclarator ∨ site.node.kind = .exportStatement →
      binding.cursor.enclosing = site.node :: site.ancestors) ∧
    (binding.shape = .variable →
      binding.cursor.boundName? = some binding.name ∧
      binding.cursor.boundReads none ⊆ reads site ∧
      (binding.cursor.isExported = true ↔
        ∃ statement outer above, site.ancestors = statement :: outer :: above ∧
          (statement.kind = .lexicalDeclaration ∨ statement.kind = .variableDeclaration) ∧
          outer.kind = .exportStatement)) ∧
    (binding.shape = .defaultExport →
      binding.cursor.isExported = true ∧
      binding.cursor.boundName? = some (binding.node.ownName?.getD defaultExportName) ∧
      binding.cursor.boundReads none = binding.node.ownNameNode?.toList) ∧
    (binding.isWrapperCall = true ↔ binding.node.wrapperName?.isSome = true) ∧
    (binding.isWrapperCall = false → binding.node.kind.isFunctionLike = true) := by
  refine ⟨mem_cursors_of_ofCursor? hsite h, enclosing_of_ofCursor? h, ?_, ?_, isWrapperCall_iff h,
    isFunctionLike_of_not_isWrapperCall h⟩
  · intro hshape
    cases MadeAt.of_ofCursor? h with
    | byVariable hkind hname hvalue _ =>
      have hup := enclosing_of_ofCursor? h (.inl hkind)
      obtain ⟨node, hnode, _⟩ := Option.map_eq_some_iff.1 hname
      have hbound := Cursor.boundNode?_of_declarator hup hkind hnode
      refine ⟨Cursor.boundName?_of_declarator hup hkind hname, ?_,
        Cursor.isExported_of_declarator hup hkind⟩
      rw [Cursor.boundReads, hbound, reads]
      simp only [hkind, hnode]
      exact List.cons_subset_cons _ (List.nil_subset _)
    | _ => cases hshape
  · intro hshape
    cases MadeAt.of_ofCursor? h with
    | byExport hkind hdefault hvalue _ =>
      have hup := enclosing_of_ofCursor? h (.inr hkind)
      refine ⟨Cursor.isExported_of_export hup hkind,
        Cursor.boundName?_of_defaultExport hup hkind hdefault, ?_⟩
      rw [Cursor.boundReads, Cursor.boundNode?_of_export hup hkind]
      rfl
    | _ => cases hshape

/-- The declarator `f = (/* */ (() => {}))` of a sample tree. -/
def sampleDeclarator : Node :=
  .mk (.sample .variableDeclarator none 3 "")
    [.mk (.sample .identifier (some .name) 4 "f") [],
      .mk (.sample .parenthesizedExpression (some .value) 5 "")
        [.mk (.sample .comment none 6 "") [],
          .mk (.sample .parenthesizedExpression none 7 "")
            [.mk (.sample .arrowFunction none 8 "") []]]]

/-- The statement `const f = (/* */ (() => {}))` of a sample tree. -/
def sampleStatement : Node := .mk (.sample .lexicalDeclaration none 2 "") [sampleDeclarator]

/-- That statement with `export` in front of it. -/
def sampleExport : Node := .mk (.sample .exportStatement none 1 "") [sampleStatement]

/-- The program that holds nothing else. -/
def sampleProgram : Node := .mk (.sample .program none 0 "") [sampleExport]

/-- The declarator in its place. -/
def sampleSite : Cursor := ⟨sampleDeclarator, [sampleStatement, sampleExport, sampleProgram]⟩

theorem climbs_back_to_site_parenthesized :
    sampleSite ∈ sampleProgram.cursors ∧
    ∃ binding, ofCursor? sampleSite = some binding ∧ binding.shape = .variable ∧
      binding.name = "f" ∧ binding.cursor.ancestors.length = 6 ∧
      binding.cursor.enclosing = [sampleDeclarator, sampleStatement, sampleExport, sampleProgram] ∧
      binding.cursor.boundName? = some "f" ∧ binding.cursor.isExported = true := by
  have hsite : sampleSite ∈ sampleProgram.cursors :=
    List.mem_of_getElem? (show sampleProgram.cursors[3]? = some sampleSite by rfl)
  obtain ⟨binding, hbinding⟩ : ∃ binding, ofCursor? sampleSite = some binding := ⟨_, by rfl⟩
  obtain ⟨hshape, hname, hdepth⟩ : binding.shape = .variable ∧ binding.name = "f" ∧
      binding.cursor.ancestors.length = 6 := by
    cases hbinding
    exact ⟨rfl, rfl, rfl⟩
  obtain ⟨_, hup, hvariable, _⟩ := climbs_back_to_site hsite hbinding
  obtain ⟨hbound, _, hexported⟩ := hvariable hshape
  refine ⟨hsite, binding, hbinding, hshape, hname, hdepth, hup (.inl rfl), ?_, ?_⟩
  · rw [hbound, hname]
  · exact hexported.2 ⟨sampleStatement, sampleExport, [sampleProgram], rfl, .inl rfl, rfl⟩

end Binding

end ComponentSurvey
