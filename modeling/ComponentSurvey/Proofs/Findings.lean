import ComponentSurvey.Proofs.Winners
import ComponentSurvey.Proofs.Readable
import ComponentSurvey.Proofs.StableOrder

/-!
# What a survey records, and in which order

The components and functions of a file are what the winners of its names contribute, in the order
in which the winners stand in the source.

* `Binding.claimants` — the winners of a tree in source order.
* `Binding.eq_describe_of_finding?` — what a binding contributes.
* `FileSurvey.components_ofTree`, `FileSurvey.functions_ofTree` — the two lists of a survey are read
  off the claimants.
* `FileSurvey.findings_perm_winners` — the records are those of one winner for each bound name.
* `FileSurvey.findings_in_source_order` — the records stand in the order of their winners, and the
  ledger never has to guess where a name was bound.
-/

namespace ComponentSurvey

namespace Binding

/-- The winners among bindings in the order of the source. -/
def claimants (bindings : List Binding) : List Binding :=
  (winners (topLevelFirst bindings)).mergeSort fun a b => a.node.start ≤ b.node.start

theorem winner?_eq_some_iff {bindings : List Binding} {name : String} {winner : Binding} :
    winner? bindings name = some winner ↔
      winner ∈ winners (topLevelFirst bindings) ∧ winner.name = name := by
  constructor
  · intro h
    have hname : winner.isClaiming = true ∧ winner.name = name := by
      simpa using List.find?_some h
    refine ⟨mem_winners_iff.2 ?_, hname.2⟩
    rw [hname.2]
    exact h
  · rintro ⟨hmem, rfl⟩
    exact mem_winners_iff.1 hmem

/-- Taking the winner of each bound name in turn gives the winners, in some order. -/
theorem filterMap_winner?_perm (bindings : List Binding) :
    ((bindings.map name).dedup.filterMap (winner? bindings)).Perm
      (winners (topLevelFirst bindings)) := by
  have hnodup : ((bindings.map name).dedup.filterMap (winner? bindings)).Nodup := by
    refine (List.nodup_dedup _).filterMap ?_
    intro first second winner hfirst hsecond
    exact (winner?_eq_some_iff.1 hfirst).2.symm.trans (winner?_eq_some_iff.1 hsecond).2
  refine (List.perm_ext_iff_of_nodup hnodup (nodup_winners _)).2 fun winner => ?_
  rw [List.mem_filterMap]
  constructor
  · rintro ⟨name, _, h⟩
    exact (winner?_eq_some_iff.1 h).1
  · intro h
    refine ⟨winner.name, ?_, winner?_eq_some_iff.2 ⟨h, rfl⟩⟩
    have hmem : winner ∈ bindings := mem_topLevelFirst.1 ((winners_sublist _).subset h)
    exact List.mem_dedup.2 (List.mem_map_of_mem hmem)

/-! ### What a winner contributes -/

variable {file : FileContext} {binding : Binding}

/-- What a binding contributes describes a function under the name of the binding: as a component,
possibly inside wrappers, or as the function that is bound. -/
theorem eq_describe_of_finding? {finding : Finding} (h : binding.finding? file = some finding) :
    (∃ function wrappers, finding =
      .component (.describe function binding.name file.path file.imports wrappers)) ∨
    finding = .function
      (PlainFunction.describe binding.cursor binding.name file.path file.imports).value := by
  unfold finding? at h
  split at h
  · obtain ⟨component, hcomponent, rfl⟩ := Option.map_eq_some_iff.1 h
    obtain ⟨target, _, rfl⟩ := Option.map_eq_some_iff.1 hcomponent
    exact .inl ⟨_, _, rfl⟩
  · split at h
    · cases h
      exact .inl ⟨_, _, rfl⟩
    · cases h
      exact .inr rfl

/-- A record stands under the name of the binding that contributes it. -/
theorem name_of_finding? {finding : Finding} (h : binding.finding? file = some finding) :
    finding.name = binding.name := by
  rcases eq_describe_of_finding? h with ⟨function, wrappers, rfl⟩ | rfl <;> rfl

/-- A wrapper call contributes a record if a function stands at the end of its chain; a component
contributes a component; any other winner contributes a function, which is exported. -/
theorem finding?_cases (h : binding.isClaiming = true) :
    (binding.isWrapperCall = true ∧
      (binding.finding? file).isSome = binding.node.unwrap.value.target?.isSome) ∨
    (binding.isWrapperCall = false ∧ binding.node.isComponent = true ∧
      ∃ component, binding.finding? file = some (.component component)) ∨
    (binding.isWrapperCall = false ∧ binding.node.isComponent = false ∧
      ∃ function, binding.finding? file = some (.function function) ∧
        function.isExported = true) := by
  unfold finding?
  cases hwrap : binding.isWrapperCall with
  | true =>
    refine .inl ⟨rfl, ?_⟩
    rw [if_pos rfl, Option.isSome_map]
    exact Option.isSome_map
  | false =>
    refine .inr ?_
    cases hcomp : binding.node.isComponent with
    | true => exact .inl ⟨rfl, rfl, _, rfl⟩
    | false =>
      refine .inr ⟨rfl, rfl, _, rfl, ?_⟩
      show binding.cursor.isExported = true
      simpa [isClaiming, hwrap, hcomp] using h

end Binding

/-! ### The lists of a survey -/

namespace Finding

/-- The components among some records and the functions among them are all of them. -/
theorem perm_components_functions (findings : List Finding) :
    ((findings.filterMap component?).map component
      ++ (findings.filterMap function?).map function).Perm findings := by
  induction findings with
  | nil => exact List.Perm.refl []
  | cons finding rest ih =>
    cases finding with
    | component record => exact ih.cons _
    | function record =>
      show ((rest.filterMap component?).map component
        ++ function record :: (rest.filterMap function?).map function).Perm _
      exact List.perm_middle.trans (ih.cons _)

theorem name_of_component? {finding : Finding} {record : Component}
    (h : finding.component? = some record) : record.name = finding.name := by
  cases finding with
  | component other => cases h; rfl
  | function other => cases h

theorem name_of_function? {finding : Finding} {record : PlainFunction}
    (h : finding.function? = some record) : record.name = finding.name := by
  cases finding with
  | component other => cases h
  | function other => cases h; rfl

end Finding

namespace Ledger

variable {file : FileContext} {won : List Binding} {ledger : Ledger}

/-- The records of one sort stand, sorted by the positions of their names in the ledger, in the
order in which the bindings that contribute them stand in the source. -/
theorem Reflects.mergeSort_position {α : Type} (h : Reflects file won ledger)
    (hnames : (won.map Binding.name).Nodup) {select : Finding → Option α} {nameOf : α → String}
    (hselect : ∀ finding record, select finding = some record → nameOf record = finding.name) :
    ((won.filterMap fun winner => (winner.finding? file).bind select).mergeSort fun a b =>
        ledger.position (nameOf a) ≤ ledger.position (nameOf b))
      = (won.mergeSort fun a b => a.node.start ≤ b.node.start).filterMap fun winner =>
          (winner.finding? file).bind select := by
  have hname : ∀ (winner : Binding) record, (winner.finding? file).bind select = some record →
      nameOf record = winner.name := by
    intro winner record hrecord
    obtain ⟨finding, hfinding, hrecord⟩ := Option.bind_eq_some_iff.1 hrecord
    exact (hselect finding record hrecord).trans (Binding.name_of_finding? hfinding)
  symm
  refine filterMap_mergeSort hnames.of_map ?_ ?_
  · rw [List.nodup_iff_pairwise_ne, List.pairwise_filterMap]
    rw [List.nodup_iff_pairwise_ne, List.pairwise_map] at hnames
    refine hnames.imp ?_
    rintro a b hne record hrecord _ hother rfl
    exact hne ((hname a record hrecord).symm.trans (hname b record hother))
  · intro winner hwinner record hrecord
    rw [hname winner record hrecord, position, h.sites winner hwinner]
    rfl

end Ledger

namespace FileSurvey

/-- What every record of a tree says of its file. -/
def context (root : Node) (path : String) : FileContext := ⟨path, (Import.ofProgram root).value⟩

/-- The ledger of a tree once all its bindings were considered. -/
def ledger (root : Node) (path : String) : Ledger :=
  (Ledger.ofBindings (context root path) (Binding.ofTree root)).value

theorem reflects_ledger (root : Node) (path : String) :
    Ledger.Reflects (context root path)
      (Binding.winners (Binding.topLevelFirst (Binding.ofTree root))) (ledger root path) :=
  Ledger.reflects_fold _ _

/-- The components of a survey are those that the claimants contribute, in their order. -/
theorem components_ofTree (root : Node) (path : String) :
    (ofTree root path).value.components
      = (Binding.claimants (Binding.ofTree root)).filterMap fun winner =>
          (winner.finding? (context root path)).bind Finding.component? := by
  have hrun := reflects_ledger root path
  show (ledger root path).sortedComponents = _
  rw [Ledger.sortedComponents, hrun.components]
  exact hrun.mergeSort_position (Binding.nodup_map_name_winners _)
    fun _ _ h => Finding.name_of_component? h

/-- Components that are recorded in source order stay as they are. -/
theorem components_ofTree_of_pairwise {root : Node} {path : String}
    (h : (ledger root path).components.Pairwise fun a b =>
      (ledger root path).position a.name ≤ (ledger root path).position b.name) :
    (ofTree root path).value.components = (ledger root path).components :=
  List.mergeSort_of_pairwise (h.imp decide_eq_true)

/-- The functions of a survey are those that the claimants contribute, in their order. -/
theorem functions_ofTree (root : Node) (path : String) :
    (ofTree root path).value.functions
      = (Binding.claimants (Binding.ofTree root)).filterMap fun winner =>
          (winner.finding? (context root path)).bind Finding.function? := by
  have hrun := reflects_ledger root path
  show (ledger root path).sortedFunctions = _
  rw [Ledger.sortedFunctions, hrun.functions]
  exact hrun.mergeSort_position (Binding.nodup_map_name_winners _)
    fun _ _ h => Finding.name_of_function? h

/-- The records of a survey are those that the winners contribute. -/
theorem findings_ofTree_perm (root : Node) (path : String) :
    (ofTree root path).value.findings.Perm
      ((Binding.winners (Binding.topLevelFirst (Binding.ofTree root))).filterMap fun winner =>
        winner.finding? (context root path)) := by
  have hclaimants : (Binding.claimants (Binding.ofTree root)).Perm
      (Binding.winners (Binding.topLevelFirst (Binding.ofTree root))) := List.mergeSort_perm _ _
  refine List.Perm.trans ?_ (hclaimants.filterMap _)
  rw [findings, components_ofTree, functions_ofTree, ← List.filterMap_filterMap,
    ← List.filterMap_filterMap]
  exact Finding.perm_components_functions _

/-- No name stands over two records of a survey. -/
theorem nodup_map_name_findings (root : Node) (path : String) :
    ((ofTree root path).value.findings.map Finding.name).Nodup := by
  rw [((findings_ofTree_perm root path).map Finding.name).nodup_iff, List.nodup_iff_pairwise_ne,
    List.pairwise_map, List.pairwise_filterMap]
  have hnames := Binding.nodup_map_name_winners (Binding.topLevelFirst (Binding.ofTree root))
  rw [List.nodup_iff_pairwise_ne, List.pairwise_map] at hnames
  refine hnames.imp ?_
  intro a b hne finding hfinding other hother heq
  rw [Binding.name_of_finding? hfinding, Binding.name_of_finding? hother] at heq
  exact hne heq

/-- **The records are those of one winner for each bound name.** The winner is the first binding of
the name that takes it, in the stable order by whether bindings are at module scope. What it
contributes is said by `Binding.finding?`; a wrapper call without a function contributes nothing and
keeps its name all the same, and every function that is recorded is exported. -/
theorem findings_perm_winners (root : Node) (path : String) :
    let survey := (ofTree root path).value
    let file : FileContext := ⟨path, survey.imports⟩
    let bindings := Binding.ofTree root
    (root.Readable → (ofTree root path).outcome.value = .ok survey) ∧
    (∀ name, Binding.winner? bindings name
      = (bindings.mergeSort fun a b => a.topLevel || !b.topLevel).find? fun binding =>
        binding.isClaiming && binding.name == name) ∧
    survey.findings.Perm ((bindings.map Binding.name).dedup.filterMap fun name =>
      (Binding.winner? bindings name).bind fun winner => winner.finding? file) ∧
    (∀ name winner, Binding.winner? bindings name = some winner →
      (winner.isWrapperCall = true ∧
        (winner.finding? file).isSome = winner.node.unwrap.value.target?.isSome) ∨
      (winner.isWrapperCall = false ∧ winner.node.isComponent = true ∧
        ∃ component, winner.finding? file = some (.component component)) ∨
      (winner.isWrapperCall = false ∧ winner.node.isComponent = false ∧
        ∃ function, winner.finding? file = some (.function function) ∧
          function.isExported = true)) ∧
    (survey.findings.map Finding.name).Nodup := by
  intro survey file bindings
  refine ⟨fun h => outcome_ofTree h path, fun name => ?_, ?_, ?_, nodup_map_name_findings root path⟩
  · rw [Binding.winner?, Binding.topLevelFirst_eq_mergeSort]
  · rw [← List.filterMap_filterMap]
    exact (findings_ofTree_perm root path).trans
      ((Binding.filterMap_winner?_perm bindings).filterMap _).symm
  · intro name winner h
    have hmem := (Binding.winner?_eq_some_iff.1 h).1
    exact Binding.finding?_cases (Binding.isClaiming_of_mem_winners hmem)

end FileSurvey

/-! ### Source order -/

namespace Binding

/-- The winner of one name stands before that of another: it starts earlier, or at the same byte and
was considered earlier. -/
def ClaimedBefore (bindings : List Binding) (name other : String) : Prop :=
  ∃ a b, winner? bindings name = some a ∧ winner? bindings other = some b ∧
    Precedes (fun binding => binding.node.start) (topLevelFirst bindings) a b

/-- The winner of one name comes before that of another in the pre-order of the tree. -/
def BoundBefore (bindings : List Binding) (name other : String) : Prop :=
  ∃ a b, winner? bindings name = some a ∧ winner? bindings other = some b ∧
    [a, b].Sublist bindings

theorem mem_claimants {bindings : List Binding} {binding : Binding} :
    binding ∈ claimants bindings ↔ binding ∈ winners (topLevelFirst bindings) :=
  List.mem_mergeSort

theorem pairwise_claimants (bindings : List Binding) :
    (claimants bindings).Pairwise
      (Precedes (fun binding => binding.node.start) (topLevelFirst bindings)) := by
  refine (pairwise_mergeSort_position _ (nodup_winners _)).imp ?_
  rintro a b (hlt | ⟨heq, hsub⟩)
  · exact .inl hlt
  · exact .inr ⟨heq, hsub.trans (winners_sublist _)⟩

/-- If bindings start one after the other in pre-order, their winners stand in pre-order. -/
theorem pairwise_claimants_of_increasing {bindings : List Binding}
    (h : bindings.Pairwise fun a b => a.node.start < b.node.start) :
    (claimants bindings).Pairwise fun a b => [a, b].Sublist bindings := by
  have hmem : ∀ binding ∈ claimants bindings, binding ∈ bindings := fun binding hbinding =>
    mem_topLevelFirst.1 ((winners_sublist _).subset (mem_claimants.1 hbinding))
  have hnodup : (claimants bindings).Pairwise (· ≠ ·) :=
    List.nodup_iff_pairwise_ne.1 ((List.mergeSort_perm _ _).nodup_iff.2 (nodup_winners _))
  refine ((pairwise_claimants bindings).and hnodup).imp_of_mem ?_
  rintro a b ha hb ⟨hab, hne⟩
  have hle : a.node.start ≤ b.node.start := hab.le
  rcases sublist_or_swap (hmem a ha) (hmem b hb) hne with hsub | hsub
  · exact hsub
  · have hlt := List.pairwise_iff_forall_sublist.1 h hsub
    omega

/-- What holds between claimants in their order holds between the winners of the names of the
records of one sort. -/
theorem pairwise_select {α : Type} {file : FileContext} {bindings : List Binding}
    {before : Binding → Binding → Prop} (h : (claimants bindings).Pairwise before)
    {select : Finding → Option α} {nameOf : α → String}
    (hselect : ∀ finding record, select finding = some record → nameOf record = finding.name) :
    ((claimants bindings).filterMap fun winner => (winner.finding? file).bind select).Pairwise
      fun record other => ∃ a b, winner? bindings (nameOf record) = some a ∧
        winner? bindings (nameOf other) = some b ∧ before a b := by
  have hwinner : ∀ winner ∈ claimants bindings, ∀ record,
      (winner.finding? file).bind select = some record →
      winner? bindings (nameOf record) = some winner := by
    intro winner hwinner record hrecord
    obtain ⟨finding, hfinding, hrecord⟩ := Option.bind_eq_some_iff.1 hrecord
    rw [hselect finding record hrecord, name_of_finding? hfinding]
    exact winner?_eq_some_iff.2 ⟨mem_claimants.1 hwinner, rfl⟩
  rw [List.pairwise_filterMap]
  refine h.imp_of_mem ?_
  intro a b ha hb hab record hrecord other hother
  exact ⟨a, b, hwinner a ha record hrecord, hwinner b hb other hother, hab⟩

end Binding

/-- A binding that is skipped is skipped for the winner of its name, and the note of it says where
that winner stands. -/
theorem Ledger.exists_winner_of_skipped {file : FileContext} {bindings done rest : List Binding}
    {binding : Binding} (horder : Binding.topLevelFirst bindings = done ++ binding :: rest)
    (htaken : (Logged.fold (consider file) .empty done).value.taken.has binding.name = true) :
    ∃ winner, Binding.winner? bindings binding.name = some winner ∧
      (Logged.fold (consider file) .empty done).value.site? binding.name = some winner.site ∧
      (consider file (Logged.fold (consider file) .empty done).value binding).notes
        = [.alreadyRecorded binding.name binding.node.line (some winner.node.line)] := by
  obtain ⟨winner, hwinner, hname, hsite⟩ := (reflects_fold file done).exists_winner htaken
  -- who has won a name so far keeps it to the end
  have hfinal : winner ∈ Binding.winners (Binding.topLevelFirst bindings) := by
    rw [horder]
    exact Binding.mem_winners_append _ hwinner
  refine ⟨winner, Binding.winner?_eq_some_iff.2 ⟨hfinal, hname⟩, hsite, ?_⟩
  rw [notes_consider_of_taken htaken, hsite]
  rfl

namespace FileSurvey

theorem pairwise_components (root : Node) (path : String) {before : Binding → Binding → Prop}
    (h : (Binding.claimants (Binding.ofTree root)).Pairwise before) :
    (ofTree root path).value.components.Pairwise fun record other =>
      ∃ a b, Binding.winner? (Binding.ofTree root) record.name = some a ∧
        Binding.winner? (Binding.ofTree root) other.name = some b ∧ before a b := by
  rw [components_ofTree]
  exact Binding.pairwise_select h fun _ _ h => Finding.name_of_component? h

theorem pairwise_functions (root : Node) (path : String) {before : Binding → Binding → Prop}
    (h : (Binding.claimants (Binding.ofTree root)).Pairwise before) :
    (ofTree root path).value.functions.Pairwise fun record other =>
      ∃ a b, Binding.winner? (Binding.ofTree root) record.name = some a ∧
        Binding.winner? (Binding.ofTree root) other.name = some b ∧ before a b := by
  rw [functions_ofTree]
  exact Binding.pairwise_select h fun _ _ h => Finding.name_of_function? h

/-- **Records stand in the order of their winners.** The ledger knows of each name that is taken
where its winner stands, both at the end and whenever a later binding of the name is skipped. -/
theorem findings_in_source_order (root : Node) (path : String) :
    let survey := (ofTree root path).value
    let bindings := Binding.ofTree root
    let file : FileContext := ⟨path, survey.imports⟩
    let ledger := (Ledger.ofBindings file bindings).value
    (root.Readable → (ofTree root path).outcome.value = .ok survey) ∧
    survey.components = ledger.sortedComponents ∧ survey.functions = ledger.sortedFunctions ∧
    survey.components.Pairwise (fun a b => Binding.ClaimedBefore bindings a.name b.name) ∧
    survey.functions.Pairwise (fun a b => Binding.ClaimedBefore bindings a.name b.name) ∧
    (∀ name, ledger.taken.has name = true →
      ∃ winner, Binding.winner? bindings name = some winner ∧
        ledger.site? name = some winner.site) ∧
    (∀ finding ∈ survey.findings, ledger.taken.has finding.name = true) ∧
    (∀ done binding rest, Binding.topLevelFirst bindings = done ++ binding :: rest →
      let before := (Logged.fold (Ledger.consider file) .empty done).value
      before.taken.has binding.name = true →
        ∃ winner, Binding.winner? bindings binding.name = some winner ∧
          before.site? binding.name = some winner.site ∧
          (Ledger.consider file before binding).notes
            = [.alreadyRecorded binding.name binding.node.line (some winner.node.line)]) ∧
    (bindings.Pairwise (fun a b => a.node.start < b.node.start) →
      survey.components.Pairwise (fun a b => Binding.BoundBefore bindings a.name b.name) ∧
      survey.functions.Pairwise (fun a b => Binding.BoundBefore bindings a.name b.name)) := by
  intro survey bindings file ledger
  have hrun : Ledger.Reflects file (Binding.winners (Binding.topLevelFirst bindings)) ledger :=
    reflects_ledger root path
  have hclaimants := Binding.pairwise_claimants bindings
  refine ⟨fun h => outcome_ofTree h path, rfl, rfl, pairwise_components root path hclaimants,
    pairwise_functions root path hclaimants, ?_, ?_, ?_, ?_⟩
  · intro name htaken
    obtain ⟨winner, hwinner, hname, hsite⟩ := hrun.exists_winner htaken
    exact ⟨winner, Binding.winner?_eq_some_iff.2 ⟨hwinner, hname⟩, hsite⟩
  · intro finding hfinding
    obtain ⟨winner, hwinner, hrecord⟩ :=
      List.mem_filterMap.1 ((findings_ofTree_perm root path).subset hfinding)
    rw [Ledger.has_iff, hrun.names, Binding.name_of_finding? hrecord]
    exact List.mem_map_of_mem hwinner
  · intro done binding rest horder before htaken
    exact Ledger.exists_winner_of_skipped horder htaken
  · intro hincreasing
    have hsource := Binding.pairwise_claimants_of_increasing hincreasing
    exact ⟨pairwise_components root path hsource, pairwise_functions root path hsource⟩

end FileSurvey

end ComponentSurvey
