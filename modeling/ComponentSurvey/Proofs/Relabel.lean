import ComponentSurvey.Proofs.Findings

/-!
# The path is only a label

The path of a file is copied into its survey and into every record of it, and nothing is ever
decided by it. Two surveys of one tree under different paths are followed step by step: after every
binding that is considered the two ledgers are the same but for the paths in their records.

* `Component.relabel`, `Ledger.relabel`, `FileSurvey.relabel` — what a record, a ledger and a survey
  are under another path.
* `Ledger.consider_relabel` — one step under another path.
* `Findings.ofTree_relabel` — the whole run under another path.
* `FileSurvey.survey_relabel` — the survey of a tree under another path, failures included.
-/

namespace ComponentSurvey

/-! ### Records under another path -/

/-- A component under another path. -/
def Component.relabel (path : String) (component : Component) : Component :=
  { component with path := path }

/-- A function under another path. -/
def PlainFunction.relabel (path : String) (function : PlainFunction) : PlainFunction :=
  { function with path := path }

theorem Component.ofWrapper_relabel (call : Node) (name path other : String)
    (imports : List Import) :
    ofWrapper call name other imports
      = Option.map (relabel other) <$> ofWrapper call name path imports := by
  rw [ofWrapper, ofWrapper, map_bind]
  apply bind_congr
  intro unwrapped
  rw [map_bind]
  apply bind_congr
  intro _
  rw [map_pure, Option.map_map]
  rfl

theorem PlainFunction.describe_relabel (cursor : Cursor) (name path other : String)
    (imports : List Import) :
    describe cursor name other imports = relabel other <$> describe cursor name path imports := by
  rw [describe, describe, map_bind]
  apply bind_congr
  intro params
  rw [map_bind]
  rfl

/-! ### Ledgers under another path -/

namespace Ledger

/-- A ledger whose records are under another path. -/
def relabel (path : String) (ledger : Ledger) : Ledger :=
  { ledger with
    components := ledger.components.map (Component.relabel path)
    functions := ledger.functions.map (PlainFunction.relabel path) }

theorem relabel_addComponent (path : String) (ledger : Ledger) (component? : Option Component) :
    (ledger.addComponent component?).relabel path
      = (ledger.relabel path).addComponent (component?.map (Component.relabel path)) := by
  cases component? <;> simp [relabel, addComponent]

theorem relabel_addFunction (path : String) (ledger : Ledger) (function : PlainFunction) :
    (ledger.addFunction function).relabel path
      = (ledger.relabel path).addFunction (function.relabel path) := by
  simp [relabel, addFunction]

variable (path other : String) (imports : List Import)

/-- What a binding adds under another path is what it adds, under that path. -/
theorem dispatch_relabel (ledger : Ledger) (binding : Binding) :
    dispatch ⟨other, imports⟩ (ledger.relabel other) binding
      = relabel other <$> dispatch ⟨path, imports⟩ ledger binding := by
  rw [dispatch, dispatch, map_bind]
  apply bind_congr
  intro _
  by_cases hwrap : binding.isWrapperCall = true
  · rw [if_pos hwrap, if_pos hwrap, map_bind, Component.ofWrapper_relabel _ _ path other,
      bind_map_left]
    apply bind_congr
    intro component?
    rw [map_pure, relabel_addComponent]
    rfl
  · rw [if_neg hwrap, if_neg hwrap]
    by_cases hcomponent : binding.node.isComponent = true
    · rw [if_pos hcomponent, if_pos hcomponent, map_bind]
      apply bind_congr
      intro _
      rw [map_pure, relabel_addComponent]
      rfl
    · rw [if_neg hcomponent, if_neg hcomponent, map_bind,
        PlainFunction.describe_relabel _ _ path other, bind_map_left]
      apply bind_congr
      intro function
      show (if function.isExported then _ else _) = _
      by_cases hexported : function.isExported = true
      · rw [if_pos hexported, if_pos hexported, map_pure, relabel_addFunction]
        rfl
      · rw [if_neg hexported, if_neg hexported]
        rfl

/-- **One step under another path.** Whether a name is taken and where it was bound does not depend
on the path. -/
theorem consider_relabel (ledger : Ledger) (binding : Binding) :
    consider ⟨other, imports⟩ (ledger.relabel other) binding
      = relabel other <$> consider ⟨path, imports⟩ ledger binding := by
  rw [consider, consider]
  by_cases htaken : ledger.taken.has binding.name = true
  · rw [if_pos htaken, if_pos (show (ledger.relabel other).taken.has binding.name = true from htaken)]
    rfl
  · rw [if_neg htaken,
      if_neg (show ¬ (ledger.relabel other).taken.has binding.name = true from htaken)]
    exact dispatch_relabel path other imports (ledger.locate binding) binding

/-- The whole run under another path. -/
theorem ofBindings_relabel (bindings : List Binding) :
    ofBindings ⟨other, imports⟩ bindings
      = relabel other <$> ofBindings ⟨path, imports⟩ bindings := by
  have hstep : ∀ binding ∈ Binding.topLevelFirst bindings, ∀ ledger : Ledger,
      consider ⟨other, imports⟩ (ledger.relabel other) (id binding)
        = relabel other <$> consider ⟨path, imports⟩ ledger binding :=
    fun binding _ ledger => consider_relabel path other imports ledger binding
  have hrun := Logged.fold_map hstep .empty
  rwa [List.map_id] at hrun

theorem sortedComponents_relabel (ledger : Ledger) :
    (ledger.relabel other).sortedComponents
      = ledger.sortedComponents.map (Component.relabel other) := by
  rw [sortedComponents, sortedComponents, List.map_mergeSort]
  · rfl
  · intro a _ b _
    rfl

theorem sortedFunctions_relabel (ledger : Ledger) :
    (ledger.relabel other).sortedFunctions
      = ledger.sortedFunctions.map (PlainFunction.relabel other) := by
  rw [sortedFunctions, sortedFunctions, List.map_mergeSort]
  · rfl
  · intro a _ b _
    rfl

end Ledger

/-- Components and functions under another path. -/
def Findings.relabel (path : String) (found : Findings) : Findings :=
  ⟨found.components.map (Component.relabel path), found.functions.map (PlainFunction.relabel path)⟩

theorem Findings.ofTree_relabel (path other : String) (imports : List Import) (root : Node) :
    ofTree ⟨other, imports⟩ root = relabel other <$> ofTree ⟨path, imports⟩ root := by
  rw [ofTree, ofTree, map_bind]
  apply bind_congr
  intro _
  rw [map_bind, Ledger.ofBindings_relabel path other, bind_map_left]
  apply bind_congr
  intro ledger
  rw [map_pure, Ledger.sortedComponents_relabel, Ledger.sortedFunctions_relabel]
  rfl

/-! ### What a record says of its file -/

/-- What a record says of its file. -/
def Finding.file : Finding → FileContext
  | .component record => ⟨record.path, record.imports⟩
  | .function record => ⟨record.path, record.imports⟩

/-- On each way to a record the path and the imports of the file are copied into it. -/
theorem Binding.file_of_finding? {file : FileContext} {binding : Binding} {finding : Finding}
    (h : binding.finding? file = some finding) : finding.file = file := by
  rcases eq_describe_of_finding? h with ⟨function, wrappers, rfl⟩ | rfl <;> rfl

namespace FileSurvey

/-- A survey under another path, which is that of all its records. -/
def relabel (path : String) (survey : FileSurvey) : FileSurvey :=
  { survey with
    path := path
    components := survey.components.map (Component.relabel path)
    functions := survey.functions.map (PlainFunction.relabel path) }

theorem value_ofTree_relabel (root : Node) (path other : String) :
    (ofTree root other).value = (ofTree root path).value.relabel other := by
  have hfound := congrArg Logged.value
    (Findings.ofTree_relabel path other (Import.ofProgram root).value root)
  simp only [ofTree, Logged.value_bind, Logged.value_pure]
  rw [hfound]
  simp [relabel, Findings.relabel, FileRole.ofContents]

/-- What interrupts a survey, if anything does, is the same under every path. -/
theorem interruption_ofTree_relabel (root : Node) (path other : String) :
    (ofTree root other).notes.findSome? Note.interruption?
      = (ofTree root path).notes.findSome? Note.interruption? := by
  have hfound := congrArg Logged.notes
    (Findings.ofTree_relabel path other (Import.ofProgram root).value root)
  rw [Logged.notes_map] at hfound
  simp only [ofTree, Logged.notes_bind, Logged.notes_pure, List.append_nil]
  rw [hfound]
  simp [List.findSome?_append, Logged.note, Note.interruption?]

theorem outcome_ofTree_relabel (root : Node) (path other : String) :
    (ofTree root other).outcome.value = (ofTree root path).outcome.value.map (relabel other) := by
  simp only [Logged.outcome]
  rw [interruption_ofTree_relabel root path other, value_ofTree_relabel root path other]
  cases (ofTree root path).notes.findSome? Note.interruption? <;> rfl

/-- Every record of a survey says of its file what the survey says. -/
theorem file_of_mem_findings {root : Node} {path : String} {finding : Finding}
    (h : finding ∈ (ofTree root path).value.findings) :
    finding.file = ⟨(ofTree root path).value.path, (ofTree root path).value.imports⟩ := by
  obtain ⟨winner, _, hfinding⟩ := List.mem_filterMap.1 ((findings_ofTree_perm root path).subset h)
  exact Binding.file_of_finding? hfinding

/-- **The path is only a label.** Under another path a tree has the same outcome, but that the survey
and all its records carry the other path; and in every survey each record carries the path and the
imports of the survey. -/
theorem survey_relabel (root : Node) (path other : String) :
    (ofTree root other).outcome.value = (ofTree root path).outcome.value.map (relabel other) ∧
    (root.Readable → (ofTree root path).outcome.value = .ok (ofTree root path).value) ∧
    ∀ survey, (ofTree root path).outcome.value = .ok survey →
      survey.path = path ∧
      (∀ component ∈ survey.components,
        component.path = survey.path ∧ component.imports = survey.imports) ∧
      ∀ function ∈ survey.functions,
        function.path = survey.path ∧ function.imports = survey.imports := by
  refine ⟨outcome_ofTree_relabel root path other, fun h => outcome_ofTree h path, ?_⟩
  intro survey hsurvey
  have hvalue : survey = (ofTree root path).value :=
    (Logged.value_outcome_eq_ok_iff.1 hsurvey).2.symm
  have hfile : ∀ finding ∈ survey.findings, finding.file = ⟨survey.path, survey.imports⟩ := by
    rw [hvalue]
    exact fun finding h => file_of_mem_findings h
  refine ⟨by rw [hvalue]; rfl, ?_, ?_⟩
  · intro component hcomponent
    have := hfile (.component component)
      (List.mem_append_left _ (List.mem_map_of_mem hcomponent))
    exact FileContext.mk.inj this
  · intro function hfunction
    have := hfile (.function function)
      (List.mem_append_right _ (List.mem_map_of_mem hfunction))
    exact FileContext.mk.inj this

end FileSurvey

end ComponentSurvey
