import ComponentSurvey.CommandLine.Run
import ComponentSurvey.Proofs.Completion
import ComponentSurvey.Proofs.Decoding
import ComponentSurvey.Proofs.Findings
import ComponentSurvey.Proofs.JsonText

/-!
# The document of a run loses nothing

The command `analyze` prints its surveys as one JSON document when it is asked to. The document is
read back to the surveys it was made from: every value is read as it was written, and every record
is found again in its JSON form. Records may name a role, a framework or a form that no survey
finds, so the second step is for surveys that are told by the names they are written with; those of
a run all are.

* `FileSurvey.Canonical` — surveys that are told by the names they are written with.
* `FileSurvey.ofJson?_toJson` — a canonical survey is found again in its JSON form.
* `FileSurvey.canonical_ofTree`, `World.Yields.canonical` — every survey of a run is canonical.
* `surveysOfDocument?_surveysDocument` — a document is read back to its surveys.
* `runAnalyze_of_yields` — how a run ends that makes surveys without a failure.
* `analyze_document_lossless` — what the command prints, and when.
-/

namespace ComponentSurvey

/-! ### Records and their JSON form -/

theorem mapM_map_of_forall {α β : Type} {read : β → Option α} {write : α → β} (items : List α)
    (h : ∀ item ∈ items, read (write item) = some item) :
    (items.map write).mapM read = some items := by
  induction items with
  | nil => rfl
  | cons item rest ih =>
    rw [List.forall_mem_cons] at h
    rw [List.map_cons, List.mapM_cons, h.1, ih h.2]
    rfl

theorem Json.strings?_ofStrings (texts : List String) : (ofStrings texts).strings? = some texts :=
  mapM_map_of_forall texts fun _ _ => rfl

theorem Json.records?_array {α : Type} {read : Json → Option α} {write : α → Json} (items : List α)
    (h : ∀ item ∈ items, read (write item) = some item) :
    (Json.array (items.map write)).records? read = some items :=
  mapM_map_of_forall items h

theorem Json.stringOrNull?_ofString? (text? : Option String) :
    (ofString? text?).stringOrNull? = some text? := by
  cases text? <;> rfl

theorem Import.ofJson?_toJson (record : Import) : ofJson? record.toJson = some record := by
  simp [ofJson?, toJson, Json.record?, Json.string?, Json.bool?, Json.strings?_ofStrings]

theorem Param.ofJson?_toJson (param : Param) : ofJson? param.toJson = some param := by
  simp [ofJson?, toJson, Json.record?, Json.string?, Json.bool?, Json.stringOrNull?_ofString?]

theorem ComponentProp.ofJson?_toJson (prop : ComponentProp) : ofJson? prop.toJson = some prop := by
  simp [ofJson?, toJson, Json.record?, Json.string?, Json.bool?, Json.stringOrNull?_ofString?]

theorem PlainFunction.ofJson?_toJson (function : PlainFunction) :
    ofJson? function.toJson = some function := by
  have hparams := Json.records?_array function.params fun param _ => param.ofJson?_toJson
  have himports := Json.records?_array function.imports fun record _ => record.ofJson?_toJson
  simp [ofJson?, toJson, Json.record?, Json.string?, Json.bool?, hparams, himports]

theorem Component.ofJson?_toJson {component : Component}
    (hform : .ofName component.form.name = component.form) :
    ofJson? component.toJson = some component := by
  have hprops := Json.records?_array component.props fun prop _ => prop.ofJson?_toJson
  have himports := Json.records?_array component.imports fun record _ => record.ofJson?_toJson
  simp [ofJson?, toJson, Json.record?, Json.string?, Json.bool?, Json.strings?_ofStrings, hform,
    hprops, himports]

namespace FileSurvey

/-- The role, the framework and the forms of the components are told by their names. -/
structure Canonical (survey : FileSurvey) : Prop where
  role : .ofName survey.role.name = survey.role
  framework : .ofName survey.framework.name = survey.framework
  form : ∀ component ∈ survey.components, .ofName component.form.name = component.form

/-- A canonical survey is found again in its JSON form. -/
theorem ofJson?_toJson {survey : FileSurvey} (h : survey.Canonical) :
    ofJson? survey.toJson = some survey := by
  have hcomponents := Json.records?_array survey.components fun component hcomponent =>
    Component.ofJson?_toJson (h.form component hcomponent)
  have hfunctions := Json.records?_array survey.functions fun function _ => function.ofJson?_toJson
  have himports := Json.records?_array survey.imports fun record _ => record.ofJson?_toJson
  simp [ofJson?, toJson, Json.record?, Json.string?, h.role, h.framework, hcomponents, hfunctions,
    himports]

end FileSurvey

/-- The surveys that a document holds, where every record has all its fields and no others. -/
def surveysOfDocument? (document : String) : Option (List FileSurvey) :=
  (Json.parse document).bind fun json => json.records? FileSurvey.ofJson?

/-- A document is read back to its surveys. -/
theorem surveysOfDocument?_surveysDocument {surveys : List FileSurvey}
    (h : ∀ survey ∈ surveys, survey.Canonical) :
    surveysOfDocument? (surveysDocument surveys) = some surveys := by
  rw [surveysOfDocument?, surveysDocument, Json.parse_pretty]
  exact Json.records?_array surveys fun survey hsurvey => FileSurvey.ofJson?_toJson (h survey hsurvey)

/-! ### What surveys find is told by its name -/

theorem FileRole.ofName_name_ofContents (components : List Component)
    (functions : List PlainFunction) :
    .ofName (ofContents components functions).name = ofContents components functions := by
  rw [ofContents]
  split
  · rfl
  · split <;> rfl

theorem Framework.ofName_name_ofImports (imports : List Import) :
    .ofName (ofImports imports).name = ofImports imports := by
  rw [ofImports]
  cases hfound : imports.findSome? fun record => ofSource? record.source with
  | none => rfl
  | some framework =>
    obtain ⟨record, _, hsource⟩ := List.exists_of_findSome?_eq_some hfound
    rw [ofSource?] at hsource
    split at hsource
    · cases hsource
      rfl
    · split at hsource
      · cases hsource
        rfl
      · cases hsource

/-- A binding contributes a component with one of the two forms that are found. -/
theorem Binding.ofName_form_of_finding? {file : FileContext} {binding : Binding}
    {component : Component} (h : (binding.finding? file).bind Finding.component? = some component) :
    .ofName component.form.name = component.form := by
  obtain ⟨finding, hfinding, hcomponent⟩ := Option.bind_eq_some_iff.1 h
  rcases eq_describe_of_finding? hfinding with ⟨function, wrappers, rfl⟩ | rfl
  · cases hcomponent
    rw [Component.describe]
    dsimp only
    split <;> rfl
  · cases hcomponent

theorem FileSurvey.canonical_ofTree (root : Node) (path : String) :
    (ofTree root path).value.Canonical where
  role := FileRole.ofName_name_ofContents _ _
  framework := Framework.ofName_name_ofImports _
  form := by
    intro component hcomponent
    rw [components_ofTree] at hcomponent
    obtain ⟨winner, _, hfinding⟩ := List.mem_filterMap.1 hcomponent
    exact Binding.ofName_form_of_finding? hfinding

theorem FileSurvey.canonical_ofFile {parser : Parser} {files : FileTree} {place : Location}
    {survey : FileSurvey} (h : (ofFile parser files place).value = .ok survey) :
    survey.Canonical := by
  obtain ⟨_, root, rfl⟩ := exists_tree_of_ofFile h
  exact canonical_ofTree root place.text

theorem canonical_of_surveyDirectory {parser : Parser} {files : FileTree} {directory : Location}
    {pattern? : Option String} {exclusions : List String} {surveys : List FileSurvey}
    (h : (surveyDirectory parser files directory pattern? exclusions).value = .ok surveys) :
    ∀ survey ∈ surveys, survey.Canonical := by
  cases hspots : filesToSurvey files directory pattern? exclusions with
  | error failure =>
    rw [surveyDirectory, surveyConcurrently, hspots] at h
    cases h
  | ok spots =>
    have hself : ∀ spots : List Spot, (id spots).Perm spots := fun spots => .refl spots
    rw [surveyDirectory, value_surveyConcurrently parser hself hspots] at h
    cases h
    intro survey hsurvey
    obtain ⟨spot, _, hfile⟩ := mem_surveysAt.1 ((sortedByPath_perm_self _).mem_iff.1 hsurvey)
    exact FileSurvey.canonical_ofFile (FileSurvey.ofFile?_eq_some_iff.1 hfile)

/-! ### The command -/

/-- Arguments of `analyze` that ask for a document about one path. -/
structure AsksForDocument (arguments : List String) (path : String) (given : Arguments) : Prop where
  scanned : Arguments.scan Command.analyze.options true arguments = .ok given
  others : given.others = [path]
  json : given.has .json = true
  help : given.has .help = false

/-- The switch may follow a path that does not look like an option. -/
theorem AsksForDocument.path_first {path : String} (h : Arguments.reading path = .other) :
    AsksForDocument [path, "--json"] path ⟨[.json], [], [path]⟩ where
  scanned := by
    rw [Arguments.scan, h]
    rfl
  others := rfl
  json := rfl
  help := rfl

/-- Any path may follow the mark that no more options follow. -/
theorem AsksForDocument.path_last (path : String) :
    AsksForDocument ["--json", "--", path] path ⟨[.json], [], [path]⟩ where
  scanned := rfl
  others := rfl
  json := rfl
  help := rfl

/-- The surveys that an analysis yields if nothing fails: those of the files of a directory, or that
of a file. -/
inductive World.Yields (world : World) (path : String) (given : Arguments) :
    List FileSurvey → Prop
  | directory {surveys : List FileSurvey}
      (hdirectory : world.files.hasDirectory ((Path.ofString path).resolve world.here) = true)
      (hsurveys : (surveyDirectory world.parser world.files
        ((Path.ofString path).resolve world.here) (given.valuesOf .pattern).getLast?
        (defaultExclusions ++ given.valuesOf .exclude)).outcome.value = .ok (.ok surveys)) :
      Yields world path given surveys
  | file {survey : FileSurvey}
      (hdirectory : world.files.hasDirectory ((Path.ofString path).resolve world.here) = false)
      (hsurvey : (FileSurvey.ofFile world.parser world.files
        ((Path.ofString path).resolve world.here)).outcome.value = .ok (.ok survey)) :
      Yields world path given [survey]

section Command

variable {world : World} {path : String} {given : Arguments} {surveys : List FileSurvey}

theorem World.Yields.canonical (h : world.Yields path given surveys) :
    ∀ survey ∈ surveys, survey.Canonical := by
  cases h with
  | directory _ hsurveys =>
    exact canonical_of_surveyDirectory (Logged.value_outcome_eq_ok_iff.1 hsurveys).2
  | file _ hsurvey =>
    intro survey hmem
    rw [List.mem_singleton.1 hmem]
    exact FileSurvey.canonical_ofFile (Logged.value_outcome_eq_ok_iff.1 hsurvey).2

/-- An analysis that is asked for a document prints nothing in front of it. -/
theorem runAnalyze_of_yields (hjson : given.has .json = true)
    (h : world.Yields path given surveys) :
    ∃ errors, runAnalyze world path given = Outcome.ofSurveys true [] surveys errors := by
  cases h with
  | directory hdirectory hsurveys =>
    rw [runAnalyze, if_pos hdirectory, hjson]
    dsimp only
    rw [if_pos rfl, Printout.ofPrints, hsurveys]
    exact ⟨_, rfl⟩
  | file hdirectory hsurvey =>
    rw [runAnalyze, if_neg (by rw [hdirectory]; exact Bool.false_ne_true), hjson]
    dsimp only
    rw [hsurvey]
    exact ⟨_, rfl⟩

theorem runCommandLine_of_asks {arguments : List String} (h : AsksForDocument arguments path given)
    (hpath : (world.find? path).isSome = true) :
    runCommandLine world ("analyze" :: arguments) = runAnalyze world path given := by
  have hcommand : runCommandLine world ("analyze" :: arguments)
      = runCommand world .analyze arguments := rfl
  have hchecked : checkPath world .analyze given = .ok path := by
    obtain ⟨found, hfound⟩ := Option.isSome_iff_exists.1 hpath
    rw [checkPath, h.others]
    dsimp only
    rw [hfound]
    rfl
  rw [hcommand, runCommand, h.scanned]
  dsimp only
  rw [h.help, hchecked]
  rfl

end Command

theorem Outcome.ofSurveys_of_any {surveys : List FileSurvey}
    (h : surveys.any FileSurvey.hasFindings = true) (errors : String) :
    ofSurveys true [] surveys errors = ⟨0, surveysDocument surveys ++ "\n", errors, none⟩ := by
  rw [ofSurveys, if_pos h, ofPrints, surveyPrints, if_pos rfl]
  simp [Printout.ofPrints]

theorem Outcome.status_ofPrints_one (prints : List Print) (errors : String) :
    (ofPrints 1 prints errors).status = 1 := by
  rw [ofPrints]
  split <;> rfl

theorem Outcome.status_ofSurveys_eq_zero_iff {surveys : List FileSurvey} {errors : String} :
    (ofSurveys true [] surveys errors).status = 0
      ↔ surveys.any FileSurvey.hasFindings = true := by
  cases h : surveys.any FileSurvey.hasFindings with
  | true =>
    rw [ofSurveys_of_any h]
    simp
  | false =>
    rw [ofSurveys, h, if_neg Bool.false_ne_true, status_ofPrints_one]
    simp

/-- An analysis that is asked for a document about a path that is there, and that makes its surveys
without a failure, succeeds exactly if something was found. It then prints one document and a line
break: in plain characters, the surveys in their order with all fields and null for what is absent,
from which the surveys are read back as they were. -/
theorem analyze_document_lossless {world : World} {arguments : List String} {path : String}
    {given : Arguments} {surveys : List FileSurvey} (hasks : AsksForDocument arguments path given)
    (hpath : (world.find? path).isSome = true) (hyields : world.Yields path given surveys) :
    let outcome := runCommandLine world ("analyze" :: arguments)
    (outcome.status = 0 ↔ ∃ survey ∈ surveys, survey.components ≠ [] ∨ survey.functions ≠ []) ∧
    (outcome.status = 0 → outcome.escape? = none ∧
      ∃ document, outcome.output = document ++ "\n" ∧
        document.toList.all Json.isPlain = true ∧
        Json.parse document = some (.array (surveys.map FileSurvey.toJson)) ∧
        surveysOfDocument? document = some surveys) := by
  intro outcome
  obtain ⟨errors, hrun⟩ := runAnalyze_of_yields hasks.json hyields
  have houtcome : outcome = .ofSurveys true [] surveys errors :=
    (runCommandLine_of_asks hasks hpath).trans hrun
  rw [houtcome, Outcome.status_ofSurveys_eq_zero_iff]
  refine ⟨?_, fun hany => ?_⟩
  · simp [FileSurvey.hasFindings]
  · rw [Outcome.ofSurveys_of_any hany]
    exact ⟨rfl, surveysDocument surveys, rfl, Json.all_isPlain_pretty _, Json.parse_pretty _,
      surveysOfDocument?_surveysDocument hyields.canonical⟩

/-- A string literal with a quote, a backslash, a control character, a letter beyond ASCII and one
beyond the first plane. -/
def literalSample : String := "'\x22\\\x01é😀'"

/-- A function with a parameter whose default is that literal. -/
def defaultSource : String := "export function f(p = " ++ literalSample ++ ") {}"

/-- The tree of that function. -/
def defaultSample : Node :=
  .mk (.sample .program none 0 defaultSource)
    [.mk (.sample .exportStatement none 0 defaultSource)
      [.mk (.sample .functionDeclaration (some (.other "declaration")) 7
          ("function f(p = " ++ literalSample ++ ") {}"))
        [.mk (.sample .identifier (some .name) 16 "f") [],
          .mk (.sample (.other "formal_parameters") (some .parameters) 17
              ("(p = " ++ literalSample ++ ")"))
            [.mk (.sample .requiredParameter none 18 ("p = " ++ literalSample))
              [.mk (.sample .identifier (some .pattern) 18 "p") [],
                .mk (.sample .string (some .value) 22 literalSample) []]],
          .mk (.sample (.other "statement_block") (some .body) 35 "{}") []]]]

/-- A current directory with one file that holds the function, which is all that the parser knows. -/
def defaultWorld : World where
  parser := fun _ => .ok fun text =>
    if text = defaultSource then .ok ⟨defaultSample, false⟩ else .error "unknown source"
  files := .put (.file defaultSource.toUTF8.data.toList) ["a.ts"] .empty
  here := []

/-- The survey of that file. -/
def defaultSurvey : FileSurvey :=
  ⟨"/a.ts", .function, .vanilla, [],
    [⟨"f", [⟨"p", anyType, true, some literalSample⟩], anyType, false, true, [], "/a.ts"⟩], []⟩

theorem analyze_document_sample :
    let given : Arguments := ⟨[.json], [], ["a.ts"]⟩
    (defaultWorld.find? "a.ts").isSome = true ∧
      defaultWorld.Yields "a.ts" given [defaultSurvey] ∧
      ∀ arguments ∈ [["a.ts", "--json"], ["--json", "--", "a.ts"]],
        AsksForDocument arguments "a.ts" given ∧
        ∃ document,
          (runCommandLine defaultWorld ("analyze" :: arguments)).output = document ++ "\n" ∧
            surveysOfDocument? document = some [defaultSurvey] := by
  intro given
  have hpath : (defaultWorld.find? "a.ts").isSome = true := by decide +kernel
  have hfile : defaultWorld.files.find? ["a.ts"]
      = some (.file defaultSource.toUTF8.data.toList) := rfl
  have hbreaks : Text.unifiedBreaks defaultSource = defaultSource := by decide +kernel
  have hplace : Location.text ["a.ts"] = "/a.ts" := by decide +kernel
  have hparse : parseSource defaultWorld.parser defaultSource "/a.ts" = pure (.ok defaultSample) := by
    simp [parseSource, defaultWorld]
  have hyields : defaultWorld.Yields "a.ts" given [defaultSurvey] := by
    refine .file (by decide +kernel) ?_
    show (FileSurvey.ofFile defaultWorld.parser defaultWorld.files ["a.ts"]).outcome.value = _
    rw [FileSurvey.ofFile_of_encoded hfile, hbreaks, hplace, FileSurvey.ofSource, hparse]
    decide +kernel
  have hasks : ∀ arguments ∈ [["a.ts", "--json"], ["--json", "--", "a.ts"]],
      AsksForDocument arguments "a.ts" given := by
    simp only [List.forall_mem_cons]
    exact ⟨.path_first rfl, .path_last "a.ts", by simp⟩
  refine ⟨hpath, hyields, fun arguments harguments => ⟨hasks arguments harguments, ?_⟩⟩
  obtain ⟨hstatus, houtput⟩ := analyze_document_lossless (hasks arguments harguments) hpath hyields
  have hzero := hstatus.2 ⟨defaultSurvey, List.mem_singleton.2 rfl, .inr (List.cons_ne_nil _ _)⟩
  obtain ⟨_, document, hdocument, _, _, hsurveys⟩ := houtput hzero
  exact ⟨document, hdocument, hsurveys⟩

end ComponentSurvey
