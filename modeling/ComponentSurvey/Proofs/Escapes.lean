import ComponentSurvey.CommandLine.Run
import ComponentSurvey.Proofs.Document
import ComponentSurvey.Proofs.Printing
import ComponentSurvey.Proofs.Readable
import Mathlib.Data.List.Basic

/-!
# Failures that escape a run

A command reports that a file cannot be surveyed. Four other things can go wrong that it does not
report: the pattern for the files of a directory is refused, the grammar of a source cannot be loaded,
a text that is needed cannot be read, and a text that is printed holds markup that cannot be printed.
Nothing else escapes.

* `Glob.WellFormed`, `exists_globs_iff` — the patterns that are not refused.
* `World.Runs` — the arguments that run a command; all others end with status 0 or 2.
* `World.Parses` — the sources that a command parses; `FileSurvey.isClean_ofFile_iff` — what can
  interrupt the survey of one.
* `World.analysis`, `World.markedTexts` — what a command surveys, and what it prints with markup.
* `World.Contains` — nothing that goes wrong escapes.
* `World.Ends`, `World.ends_run` — the ways in which a command can end.
* `World.Ends.escape?_eq_none_iff` — when a failure escapes a command.
* `runCommandLine_contains_failures` — how every run of the program ends.
-/

namespace ComponentSurvey

/-! ### Patterns -/

/-- Two asterisks next to each other are a whole component. -/
def GlobStep.WellFormed (component : String) : Prop :=
  component = "**" ∨ ¬ "**".toList <:+: component.toList

/-- A pattern is a relative path that is not empty and has well-formed components. -/
structure Glob.WellFormed (pattern : String) : Prop where
  relative : (Path.ofString pattern).isAbsolute = false
  nonempty : (Path.ofString pattern).components ≠ []
  components : ∀ component ∈ (Path.ofString pattern).components, GlobStep.WellFormed component

theorem GlobStep.exists_ofString_iff {component : String} :
    (∃ step, ofString component = .ok step) ↔ WellFormed component := by
  rw [ofString, WellFormed, ← Text.occursIn_iff]
  split
  · simp_all
  · split
    · simp_all
    · split <;> simp_all

theorem Glob.exists_ofString_iff {pattern : String} :
    (∃ glob, ofString pattern = .ok glob) ↔ WellFormed pattern := by
  rw [ofString]
  split
  · rename_i habsolute
    exact iff_of_false (by simp) fun h => absurd habsolute (by simp [h.relative])
  · rename_i hrelative
    split
    · rename_i hempty
      exact iff_of_false (by simp) fun h => h.nonempty (List.isEmpty_iff.1 hempty)
    · rename_i hnonempty
      have hsteps : (∃ glob, ((Path.ofString pattern).components.mapM GlobStep.ofString).map
          (fun steps => Glob.mk steps (Text.endsWith "/" pattern)) = .ok glob)
          ↔ ∀ component ∈ (Path.ofString pattern).components, GlobStep.WellFormed component := by
        simp only [← GlobStep.exists_ofString_iff, ← exists_mapM_eq_ok_iff]
        cases (Path.ofString pattern).components.mapM GlobStep.ofString <;> simp [Except.map]
      rw [hsteps]
      exact ⟨fun h => ⟨Bool.eq_false_iff.2 hrelative, fun h => hnonempty (by simp [h]), h⟩,
        fun h => h.components⟩

/-- The pattern that is asked for, if it is not empty, is well formed. -/
def Glob.Acceptable (pattern? : Option String) : Prop :=
  ∀ pattern, pattern? = some pattern → pattern ≠ "" → WellFormed pattern

theorem exists_globs_default : ∃ globs, defaultPatterns.mapM Glob.ofString = .ok globs := ⟨_, rfl⟩

/-- The patterns to search for are accepted exactly if the one that is asked for is well formed. -/
theorem exists_globs_iff {pattern? : Option String} :
    (∃ globs, (patternsOf pattern?).mapM Glob.ofString = .ok globs)
      ↔ Glob.Acceptable pattern? := by
  rw [Glob.Acceptable]
  cases pattern? with
  | none => simp [patternsOf, exists_globs_default]
  | some pattern =>
    rw [patternsOf]
    by_cases hempty : pattern = ""
    · simp [hempty, exists_globs_default]
    · rw [if_neg hempty, exists_mapM_eq_ok_iff, List.forall_mem_singleton, Glob.exists_ofString_iff]
      simp [hempty]

theorem exists_sourceFiles_iff {files : FileTree} {directory : Location} {pattern? : Option String}
    {exclusions : List String} :
    (∃ spots, sourceFiles files directory pattern? exclusions = .ok spots)
      ↔ Glob.Acceptable pattern? := by
  rw [← exists_globs_iff, sourceFiles, exists_bind_eq_ok_iff]
  simp [pure, Except.pure]

/-- In a directory, there are files to survey exactly if the pattern is well formed. -/
theorem exists_filesToSurvey_iff {files : FileTree} {directory : Location}
    {pattern? : Option String} {exclusions : List String}
    (hdirectory : files.hasDirectory directory = true) :
    (∃ spots, filesToSurvey files directory pattern? exclusions = .ok spots)
      ↔ Glob.Acceptable pattern? := by
  rw [FileTree.hasDirectory] at hdirectory
  rw [← exists_sourceFiles_iff, filesToSurvey]
  cases hfound : files.find? directory with
  | none => rw [hfound] at hdirectory; cases hdirectory
  | some found =>
    cases found with
    | file bytes => rw [hfound] at hdirectory; cases hdirectory
    | directory entries =>
      cases sourceFiles files directory pattern? exclusions <;> simp [Except.mapError]

/-- A directory is surveyed exactly if there are files to survey. -/
theorem exists_surveyDirectory_iff {parser : Parser} {files : FileTree} {directory : Location}
    {pattern? : Option String} {exclusions : List String} :
    (∃ surveys, (surveyDirectory parser files directory pattern? exclusions).value = .ok surveys)
      ↔ ∃ spots, filesToSurvey files directory pattern? exclusions = .ok spots := by
  rw [surveyDirectory, surveyConcurrently]
  rcases filesToSurvey files directory pattern? exclusions with failure | (_ | ⟨spot, spots⟩)
  · simp
  · simp
  · simp

/-! ### Arguments that run a command -/

/-- A command, the path that it is given and its arguments. -/
structure Request where
  command : Command
  path : String
  given : Arguments

namespace World

/-- Arguments ask for a command: they are right, the path is there, and neither the version nor help
is asked for. -/
structure Runs (world : World) (arguments : List String) (request : Request) : Prop where
  program : ∃ options rest, Arguments.scan programOptions false arguments = .ok options ∧
    options.has .version = false ∧ options.has .help = false ∧
    options.others = request.command.name :: rest ∧
    Arguments.scan request.command.options true rest = .ok request.given
  help : request.given.has .help = false
  path : checkPath world request.command request.given = .ok request.path

/-- Runs a command. -/
def run (world : World) (request : Request) : Outcome :=
  match request.command with
  | .analyze => runAnalyze world request.path request.given
  | .mocks => runMocks world request.path request.given

end World

/-- How a run ends that does not get as far as a command. -/
structure Outcome.IsUsage (outcome : Outcome) : Prop where
  escape : outcome.escape? = none
  status : outcome.status = 0 ∨ outcome.status = 2

theorem isUsage_usageOutcome (command? : Option Command) (fault : UsageFault) :
    (usageOutcome command? fault).IsUsage := ⟨rfl, .inr rfl⟩

theorem isUsage_of_programOutcome? {arguments : List String}
    {given : Except UsageFault Arguments} {outcome : Outcome}
    (h : programOutcome? arguments given = some outcome) : outcome.IsUsage := by
  rw [programOutcome?.eq_def] at h
  split at h
  · cases h
    exact isUsage_usageOutcome none _
  · split at h
    · cases h
      exact ⟨rfl, .inl rfl⟩
    · split at h
      · cases h
        exact ⟨rfl, .inl rfl⟩
      · cases h

theorem programOutcome?_eq_none_iff {arguments : List String} {options : Arguments} :
    programOutcome? arguments (.ok options) = none
      ↔ options.has .version = false ∧ options.has .help = false ∧ arguments ≠ [] := by
  rw [programOutcome?]
  cases options.has .version <;> cases options.has .help <;> cases arguments <;> simp

theorem Command.ofName?_name (command : Command) : ofName? command.name = some command := by
  cases command <;> rfl

theorem Command.name_of_ofName? {name : String} {command : Command}
    (h : ofName? name = some command) : name = command.name := by
  rw [ofName?] at h
  have hname := List.find?_some h
  exact (eq_of_beq hname).symm

section Program

variable {world : World} {arguments : List String}

/-- Arguments that ask for a command run it. -/
theorem runCommandLine_of_runs {request : Request} (h : world.Runs arguments request) :
    runCommandLine world arguments = world.run request := by
  obtain ⟨options, rest, hscan, hversion, hhelp, hothers, hgiven⟩ := h.program
  have harguments : arguments ≠ [] := by
    rintro rfl
    cases hscan
    cases hothers
  have hprogram := programOutcome?_eq_none_iff.2 ⟨hversion, hhelp, harguments⟩
  rw [runCommandLine, hscan]
  dsimp only
  rw [hprogram]
  dsimp only
  rw [hothers]
  dsimp only
  rw [Command.ofName?_name]
  dsimp only
  rw [runCommand, hgiven]
  dsimp only
  rw [h.help, h.path]
  rfl

/-- Arguments of a command that are wrong, or that ask for help, end without a failure. -/
theorem isUsage_runCommand_or (world : World) (command : Command) (arguments : List String) :
    (runCommand world command arguments).IsUsage ∨
      ∃ path given, Arguments.scan command.options true arguments = .ok given ∧
        given.has .help = false ∧ checkPath world command given = .ok path := by
  rw [runCommand]
  cases hgiven : Arguments.scan command.options true arguments with
  | error fault => exact .inl (isUsage_usageOutcome (some command) fault)
  | ok given =>
    dsimp only
    cases hhelp : given.has .help with
    | true => exact .inl ⟨rfl, .inl rfl⟩
    | false =>
      cases hpath : checkPath world command given with
      | error fault => exact .inl (isUsage_usageOutcome (some command) fault)
      | ok path => exact .inr ⟨path, given, rfl, hhelp, hpath⟩

/-- Arguments that ask for no command end without a failure. -/
theorem isUsage_or_runs (world : World) (arguments : List String) :
    (runCommandLine world arguments).IsUsage ∨ ∃ request, world.Runs arguments request := by
  rw [runCommandLine]
  cases hscan : Arguments.scan programOptions false arguments with
  | error fault => exact .inl (isUsage_usageOutcome none fault)
  | ok options =>
    dsimp only
    cases hprogram : programOutcome? arguments (.ok options) with
    | some outcome => exact .inl (isUsage_of_programOutcome? hprogram)
    | none =>
      obtain ⟨hversion, hhelp, -⟩ := programOutcome?_eq_none_iff.1 hprogram
      dsimp only
      cases hothers : options.others with
      | nil => exact .inl (isUsage_usageOutcome none .missingCommand)
      | cons name rest =>
        dsimp only
        cases hname : Command.ofName? name with
        | none =>
          -- An unknown command may be read as an option of the program; that ends the run as well.
          dsimp only
          cases hoptions : programOutcome? (name :: rest)
              (Arguments.scan programOptions false (name :: rest)) with
          | some outcome => exact .inl (isUsage_of_programOutcome? hoptions)
          | none => exact .inl (isUsage_usageOutcome none _)
        | some command =>
          rw [Command.name_of_ofName? hname] at hothers
          refine (isUsage_runCommand_or world command rest).imp id ?_
          rintro ⟨path, given, hgiven, hasked, hpath⟩
          exact ⟨⟨command, path, given⟩,
            ⟨options, rest, hscan, hversion, hhelp, hothers, hgiven⟩, hasked, hpath⟩

end Program

/-! ### What can interrupt the survey of a file -/

/-- There is a file at a place whose bytes are a text, which is a source with line feeds for all its
line breaks. -/
def FileTree.HasSource (files : FileTree) (place : Location) (source : String) : Prop :=
  ∃ bytes text, files.find? place = some (.file bytes) ∧ Utf8.decode bytes = .ok text ∧
    source = Text.unifiedBreaks text

section Interruptions

variable {parser : Parser} {files : FileTree} {source path : String} {place : Location}

/-- A grammar that cannot be loaded interrupts the parsing of a source. -/
theorem not_isClean_parseSource {reason : String} (hload : parser (.ofPath path) = .error reason) :
    ¬ (parseSource parser source path).IsClean := by
  intro hclean
  rw [parseSource, hload] at hclean
  cases hclean (.interrupted (.noParser ⟨.ofPath path, reason⟩)) (by simp [Logged.note])

/-- A source that cannot be parsed has no tree. -/
theorem parseSource_of_failed {parse : String → Except String Parsed} {reason : String}
    (hload : parser (.ofPath path) = .ok parse) (hparse : parse source = .error reason) :
    (parseSource parser source path).IsClean ∧
      (parseSource parser source path).value = .error (.notParsed path reason) := by
  rw [parseSource, hload]
  dsimp only
  rw [hparse]
  exact ⟨(Logged.isClean_note rfl).bind (Logged.isClean_pure _), rfl⟩

/-- A source that is parsed has the tree that the parser gives, whether it is well formed or not. -/
theorem parseSource_of_parsed {parse : String → Except String Parsed} {parsed : Parsed}
    (hload : parser (.ofPath path) = .ok parse) (hparse : parse source = .ok parsed) :
    (parseSource parser source path).IsClean ∧
      (parseSource parser source path).value = .ok parsed.root := by
  rw [parseSource, hload]
  dsimp only
  rw [hparse]
  dsimp only
  cases parsed.hasErrors with
  | false => exact ⟨Logged.isClean_pure _, rfl⟩
  | true => exact ⟨(Logged.isClean_note rfl).bind (Logged.isClean_pure _), rfl⟩

/-- The survey of a source is not interrupted exactly if its grammar can be loaded and, where it has a
tree, the texts that are needed of the tree can be read. -/
theorem FileSurvey.isClean_ofSource_iff :
    (ofSource parser source path).IsClean ↔
      (∃ parse, parser (.ofPath path) = .ok parse) ∧
      ∀ parse parsed, parser (.ofPath path) = .ok parse → parse source = .ok parsed →
        (ofTree parsed.root path).IsClean := by
  rw [ofSource, Logged.isClean_bind_iff]
  cases hload : parser (.ofPath path) with
  | error reason =>
    refine iff_of_false (fun h => not_isClean_parseSource hload h.1) fun h => ?_
    obtain ⟨parse, hparse⟩ := h.1
    cases hparse
  | ok parse =>
    cases hparse : parse source with
    | error reason =>
      obtain ⟨hclean, hvalue⟩ := parseSource_of_failed hload hparse
      rw [hvalue]
      refine iff_of_true ⟨hclean, Logged.isClean_pure _⟩ ⟨⟨parse, rfl⟩, ?_⟩
      intro other parsed hother hparsed
      cases hother
      cases hparse.symm.trans hparsed
    | ok parsed =>
      obtain ⟨hclean, hvalue⟩ := parseSource_of_parsed hload hparse
      rw [hvalue]
      dsimp only
      rw [Logged.isClean_map_iff]
      constructor
      · intro h
        refine ⟨⟨parse, rfl⟩, fun other tree hother htree => ?_⟩
        cases hother
        cases hparse.symm.trans htree
        exact h.2
      · exact fun h => ⟨hclean, h.2 parse parsed rfl hparse⟩

theorem FileSurvey.isClean_ofFile_iff :
    (ofFile parser files place).IsClean ↔
      ∀ source, files.HasSource place source → (ofSource parser source place.text).IsClean := by
  rw [ofFile]
  constructor
  · rintro h source ⟨bytes, text, hfile, htext, rfl⟩
    rw [hfile] at h
    dsimp only at h
    rw [htext] at h
    exact h
  · intro h
    cases hfound : files.find? place with
    | none => exact Logged.isClean_pure _
    | some found =>
      cases found with
      | directory entries => exact Logged.isClean_pure _
      | file bytes =>
        dsimp only
        cases htext : Utf8.decode bytes with
        | error fault => exact Logged.isClean_pure _
        | ok text => exact h _ ⟨bytes, text, hfound, htext, rfl⟩

/-- Where its grammar cannot be loaded, the survey of a file ends with that. -/
theorem FileSurvey.outcome_ofFile_of_unloaded {reason : String}
    (hsource : files.HasSource place source)
    (hload : parser (.ofPath place.text) = .error reason) :
    (ofFile parser files place).outcome.value
      = .error (.noParser ⟨.ofPath place.text, reason⟩) := by
  obtain ⟨bytes, text, hfile, htext, rfl⟩ := hsource
  rw [ofFile, hfile]
  dsimp only
  rw [htext]
  dsimp only
  rw [ofSource, parseSource, hload]
  rfl

end Interruptions

/-! ### What a command surveys and prints -/

/-- Why a command has no surveys. -/
inductive AnalysisFailure where
  | file (failure : SurveyFailure)
  | directory (failure : DirectoryFailure)

/-- The pattern that is asked for: the last one counts. -/
def Request.pattern? (request : Request) : Option String :=
  (request.given.valuesOf .pattern).getLast?

/-- What is left out of a survey. -/
def Request.exclusions (request : Request) : List String :=
  defaultExclusions ++ request.given.valuesOf .exclude

/-- The text that reports a failure. -/
def SurveyFailure.markedText (failure : SurveyFailure) : String :=
  "[red]Error:[/red] " ++ failure.message

/-- The texts with markup in front of the surveys of a directory. -/
def directoryTexts (directory : Location) (exclusions : List String) : List String :=
  ["[cyan]Analyzing directory:[/cyan] " ++ directory.text,
    "[dim]Excluding:[/dim] " ++ ", ".intercalate exclusions]

/-- The texts with markup that are printed for surveys; a document has none. -/
def surveyTexts (asJson : Bool) (surveys : List FileSurvey) : List String :=
  if asJson || !surveys.any FileSurvey.hasFindings then []
  else surveys.flatMap FileSurvey.markedTexts

namespace World

/-- The place that a command is asked about. -/
def target (world : World) (request : Request) : Location :=
  (Path.ofString request.path).resolve world.here

/-- Whether a command surveys a directory. -/
def scansDirectory (world : World) (request : Request) : Bool :=
  request.command == .analyze && world.files.hasDirectory (world.target request)

/-- The surveys that a command makes: those of the files of a directory, or that of a file. -/
def analysis (world : World) (request : Request) :
    Logged (Except AnalysisFailure (List FileSurvey)) :=
  if world.scansDirectory request then
    (fun result => result.mapError .directory) <$>
      surveyDirectory world.parser world.files (world.target request) request.pattern?
        request.exclusions
  else
    (fun result => (result.map fun survey => [survey]).mapError .file) <$>
      FileSurvey.ofFile world.parser world.files (world.target request)

/-- A command surveys the file at a place: the one that it is asked about, or one of those that are
selected in the directory that it is asked about. -/
inductive Visits (world : World) (request : Request) : Location → Prop
  | file (hscans : world.scansDirectory request = false) :
      Visits world request (world.target request)
  | directory {spots : List Spot} {spot : Spot} (hscans : world.scansDirectory request = true)
      (hspots : filesToSurvey world.files (world.target request) request.pattern?
        request.exclusions = .ok spots)
      (hspot : spot ∈ spots) : Visits world request spot.place

/-- A command parses the source of a file at a place. -/
def Parses (world : World) (request : Request) (place : Location) (source : String) : Prop :=
  world.Visits request place ∧ world.files.HasSource place source

/-- The texts with markup that a command prints before it has made its surveys. -/
def headingTexts (world : World) (request : Request) : List String :=
  if world.scansDirectory request && !request.given.has .json then
    directoryTexts (world.target request) request.exclusions
  else []

/-- The texts with markup that depend on what a command is given. -/
def markedTexts (world : World) (request : Request) : List String :=
  world.headingTexts request ++
    match (world.analysis request).value with
    | .error (.file failure) => [failure.markedText]
    | .error (.directory _) => []
    | .ok surveys =>
      if request.command == .analyze then surveyTexts (request.given.has .json) surveys else []

/-- Nothing escapes a command: the pattern for the files of a directory is well formed, the grammar of
every source that is parsed can be loaded, every text that is needed can be read, and every text with
markup can be printed. -/
structure Contains (world : World) (request : Request) : Prop where
  pattern : world.scansDirectory request = true → Glob.Acceptable request.pattern?
  grammars : ∀ place source, world.Parses request place source →
    ∃ parse, world.parser (.ofPath place.text) = .ok parse
  readable : ∀ place source, world.Parses request place source →
    ∀ parse parsed, world.parser (.ofPath place.text) = .ok parse → parse source = .ok parsed →
      (FileSurvey.ofTree parsed.root place.text).IsClean
  printable : ∀ text ∈ world.markedTexts request, Markup.Prints text

/-- The ways in which a command can end. -/
inductive Ends (world : World) (request : Request) : Outcome → Prop
  /-- A line in front of the surveys cannot be printed. -/
  | heading {errors : String}
      (hfault : ¬ ∀ text ∈ world.headingTexts request, Markup.Prints text) :
      Ends world request (.ofPrints 1 ((world.headingTexts request).map markedLine) errors)
  /-- A grammar that is needed cannot be loaded, or a text that is needed cannot be read. -/
  | interrupted {cause : Interruption} {errors : String}
      (hclean : ¬ (world.analysis request).IsClean) :
      Ends world request
        (.ofEscape (.ofInterruption cause) ((world.headingTexts request).map markedLine) errors)
  /-- The directory cannot be surveyed. -/
  | directory {failure : DirectoryFailure} {errors : String}
      (hscans : world.scansDirectory request = true)
      (hvalue : (world.analysis request).value = .error (.directory failure)) :
      Ends world request
        (.ofEscape (.directory failure) ((world.headingTexts request).map markedLine) errors)
  /-- The file cannot be surveyed. -/
  | file {failure : SurveyFailure} {errors : String}
      (hscans : world.scansDirectory request = false)
      (hclean : (world.analysis request).IsClean)
      (hvalue : (world.analysis request).value = .error (.file failure)) :
      Ends world request (.ofPrints 1 [failureLine failure] errors)
  /-- The surveys are reported. -/
  | surveys {surveys : List FileSurvey} {errors : String}
      (hcommand : request.command = .analyze)
      (hclean : (world.analysis request).IsClean)
      (hvalue : (world.analysis request).value = .ok surveys) :
      Ends world request (.ofSurveys (request.given.has .json)
        ((world.headingTexts request).map markedLine) surveys errors)
  /-- The mocks are printed. -/
  | mocks {surveys : List FileSurvey} {framework : Framework} {statements : List String}
      {errors : String}
      (hcommand : request.command = .mocks)
      (hclean : (world.analysis request).IsClean)
      (hvalue : (world.analysis request).value = .ok surveys) :
      Ends world request
        (.ofPrints 0 (mockPrints (.ofFramework framework) statements) errors)

end World

section Ends

variable {world : World} {request : Request}

theorem World.analysis_of_directory (hscans : world.scansDirectory request = true) :
    world.analysis request = (fun result => result.mapError .directory) <$>
      surveyDirectory world.parser world.files (world.target request) request.pattern?
        request.exclusions := if_pos hscans

theorem World.analysis_of_file (hscans : world.scansDirectory request = false) :
    world.analysis request = (fun result => (result.map fun survey => [survey]).mapError .file) <$>
      FileSurvey.ofFile world.parser world.files (world.target request) :=
  if_neg (Bool.eq_false_iff.1 hscans)

theorem World.map_headingTexts_of_file (hscans : world.scansDirectory request = false) :
    (world.headingTexts request).map markedLine = [] := by
  rw [headingTexts, hscans]
  rfl

/-- Surveys are made without an interruption exactly if each of them is. -/
theorem World.isClean_analysis_iff_forall :
    (world.analysis request).IsClean ↔ ∀ place, world.Visits request place →
      (FileSurvey.ofFile world.parser world.files place).IsClean := by
  cases hscans : world.scansDirectory request with
  | false =>
    rw [analysis_of_file hscans, Logged.isClean_map_iff]
    constructor
    · intro hclean place hplace
      cases hplace with
      | file _ => exact hclean
      | directory hdirectory _ _ => cases hscans.symm.trans hdirectory
    · exact fun hall => hall _ (.file hscans)
  | true =>
    rw [analysis_of_directory hscans, Logged.isClean_map_iff, surveyDirectory]
    cases hspots : filesToSurvey world.files (world.target request) request.pattern?
        request.exclusions with
    | error failure =>
      rw [surveyConcurrently, hspots]
      refine iff_of_true (Logged.isClean_pure _) fun place hplace => ?_
      cases hplace with
      | file hfile => cases hscans.symm.trans hfile
      | directory _ hfound _ => cases hspots.symm.trans hfound
    | ok spots =>
      have hself : ∀ spots : List Spot, (id spots).Perm spots := fun spots => .refl spots
      rw [isClean_surveyConcurrently_iff world.parser hself hspots]
      constructor
      · intro hclean place hplace
        cases hplace with
        | file hfile => cases hscans.symm.trans hfile
        | directory _ hfound hspot =>
          cases hspots.symm.trans hfound
          exact hclean _ hspot
      · exact fun hall spot hspot => hall _ (.directory hscans hspots hspot)

/-- Surveys are made without an interruption exactly if the grammars of the sources can be loaded and
the texts that are needed can be read. -/
theorem World.isClean_analysis_iff :
    (world.analysis request).IsClean ↔
      (∀ place source, world.Parses request place source →
        ∃ parse, world.parser (.ofPath place.text) = .ok parse) ∧
      ∀ place source, world.Parses request place source →
        ∀ parse parsed, world.parser (.ofPath place.text) = .ok parse → parse source = .ok parsed →
          (FileSurvey.ofTree parsed.root place.text).IsClean := by
  rw [isClean_analysis_iff_forall]
  simp only [FileSurvey.isClean_ofFile_iff, FileSurvey.isClean_ofSource_iff, Parses, and_imp]
  constructor
  · intro hall
    exact ⟨fun place source hplace hsource => (hall place hplace source hsource).1,
      fun place source hplace hsource => (hall place hplace source hsource).2⟩
  · intro hall place hplace source hsource
    exact ⟨hall.1 place source hplace hsource, hall.2 place source hplace hsource⟩

theorem World.contains_of_isClean (hclean : (world.analysis request).IsClean)
    (hpattern : world.scansDirectory request = true → Glob.Acceptable request.pattern?)
    (hprints : ∀ text ∈ world.markedTexts request, Markup.Prints text) : world.Contains request :=
  have hsources := isClean_analysis_iff.1 hclean
  ⟨hpattern, hsources.1, hsources.2, hprints⟩

/-- There are surveys of a directory exactly if the pattern is well formed. -/
theorem World.exists_analysis_iff (hscans : world.scansDirectory request = true) :
    (∃ surveys, (world.analysis request).value = .ok surveys)
      ↔ Glob.Acceptable request.pattern? := by
  have hdirectory : world.files.hasDirectory (world.target request) = true :=
    (Bool.and_eq_true_iff.1 hscans).2
  rw [← exists_filesToSurvey_iff hdirectory, ← exists_surveyDirectory_iff,
    analysis_of_directory hscans, Logged.value_map]
  cases (surveyDirectory world.parser world.files (world.target request) request.pattern?
    request.exclusions).value <;> simp [Except.mapError]

theorem succeeds_map_markedLine_iff {texts : List String} :
    (∀ print ∈ texts.map markedLine, print.Succeeds) ↔ ∀ text ∈ texts, Markup.Prints text := by
  rw [List.forall_mem_map]
  simp only [succeeds_markedLine_iff]

theorem Logged.not_isClean_of_error {α : Type} {x : Logged α} {cause : Interruption}
    (h : x.outcome.value = .error cause) : ¬ x.IsClean := by
  intro hclean
  rw [value_outcome_eq_ok_iff.2 ⟨hclean, rfl⟩] at h
  cases h

theorem World.ends_analyze_directory {path : String} {given : Arguments}
    (hdirectory : world.files.hasDirectory ((Path.ofString path).resolve world.here) = true) :
    world.Ends ⟨.analyze, path, given⟩ (runAnalyze world path given) := by
  have hscans : world.scansDirectory ⟨.analyze, path, given⟩ = true := hdirectory
  have hanalysis := analysis_of_directory hscans
  have hbefore : (if given.has .json then [] else
      directoryPrints ((Path.ofString path).resolve world.here)
        (defaultExclusions ++ given.valuesOf .exclude))
      = (world.headingTexts ⟨.analyze, path, given⟩).map markedLine := by
    rw [headingTexts, hscans]
    dsimp only
    cases given.has .json <;> rfl
  rw [runAnalyze, if_pos hdirectory]
  dsimp only
  rw [hbefore]
  cases hfault : (Printout.ofPrints
      ((world.headingTexts ⟨.analyze, path, given⟩).map markedLine)).fault? with
  | some fault =>
    refine .heading fun hprints => ?_
    rw [Printout.fault?_ofPrints_eq_none_iff.2 (succeeds_map_markedLine_iff.2 hprints)] at hfault
    cases hfault
  | none =>
    dsimp only
    cases hresult : (surveyDirectory world.parser world.files
        ((Path.ofString path).resolve world.here) (given.valuesOf .pattern).getLast?
        (defaultExclusions ++ given.valuesOf .exclude)).outcome.value with
    | error cause =>
      refine .interrupted ?_
      rw [hanalysis, Logged.isClean_map_iff]
      exact Logged.not_isClean_of_error hresult
    | ok result =>
      obtain ⟨hclean, hvalue⟩ := Logged.value_outcome_eq_ok_iff.1 hresult
      cases result with
      | error failure => exact .directory hscans (hanalysis ▸ congrArg (Except.mapError _) hvalue)
      | ok surveys =>
        exact .surveys rfl (hanalysis ▸ Logged.isClean_map_iff.2 hclean)
          (hanalysis ▸ congrArg (Except.mapError _) hvalue)

/-- The survey of a file by either command: an interruption, a failure that is reported, or what the
command makes of the survey. -/
theorem World.ends_file (hscans : world.scansDirectory request = false) {errors : String}
    {made : FileSurvey → Outcome}
    (hmade : ∀ survey, (world.analysis request).IsClean →
      (world.analysis request).value = .ok [survey] → world.Ends request (made survey)) :
    world.Ends request
      (match (FileSurvey.ofFile world.parser world.files (world.target request)).outcome.value with
      | .error cause => .ofEscape (.ofInterruption cause) [] errors
      | .ok (.error failure) => .ofPrints 1 [failureLine failure] errors
      | .ok (.ok survey) => made survey) := by
  have hanalysis := analysis_of_file hscans
  cases hresult : (FileSurvey.ofFile world.parser world.files
      (world.target request)).outcome.value with
  | error cause =>
    dsimp only
    rw [← map_headingTexts_of_file hscans]
    refine .interrupted ?_
    rw [hanalysis, Logged.isClean_map_iff]
    exact Logged.not_isClean_of_error hresult
  | ok result =>
    obtain ⟨hclean, hvalue⟩ := Logged.value_outcome_eq_ok_iff.1 hresult
    have hvalues : (world.analysis request).value
        = (result.map fun survey => [survey]).mapError .file := by
      rw [hanalysis, Logged.value_map, hvalue]
    rw [← Logged.isClean_map_iff, ← hanalysis] at hclean
    cases result with
    | error failure => exact .file hscans hclean hvalues
    | ok survey => exact hmade survey hclean hvalues

/-- A command ends in one of these ways. -/
theorem World.ends_run (world : World) (request : Request) :
    world.Ends request (world.run request) := by
  obtain ⟨command, path, given⟩ := request
  cases command with
  | mocks => exact ends_file rfl fun survey hclean hvalue => .mocks rfl hclean hvalue
  | analyze =>
    cases hdirectory : world.files.hasDirectory ((Path.ofString path).resolve world.here) with
    | true => exact ends_analyze_directory hdirectory
    | false =>
      have hscans : world.scansDirectory ⟨.analyze, path, given⟩ = false := hdirectory
      rw [run]
      dsimp only
      rw [runAnalyze, if_neg (Bool.eq_false_iff.1 hdirectory)]
      refine ends_file hscans fun survey hclean hvalue => ?_
      rw [← map_headingTexts_of_file hscans]
      exact .surveys rfl hclean hvalue

/-- A command that is asked about a file whose grammar cannot be loaded ends with that. -/
theorem World.escape?_run_of_unloaded {source reason : String}
    (hscans : world.scansDirectory request = false)
    (hsource : world.files.HasSource (world.target request) source)
    (hload : world.parser (.ofPath (world.target request).text) = .error reason) :
    (world.run request).escape?
      = some (.noParser ⟨.ofPath (world.target request).text, reason⟩) := by
  have houtcome := FileSurvey.outcome_ofFile_of_unloaded hsource hload
  obtain ⟨command, path, given⟩ := request
  rw [target] at houtcome
  cases command with
  | mocks =>
    rw [run]
    dsimp only
    rw [runMocks, houtcome]
    rfl
  | analyze =>
    have hdirectory : world.files.hasDirectory ((Path.ofString path).resolve world.here) = false :=
      hscans
    rw [run]
    dsimp only
    rw [runAnalyze, if_neg (Bool.eq_false_iff.1 hdirectory)]
    dsimp only at houtcome ⊢
    rw [houtcome]
    rfl

end Ends

/-! ### Lines that do not depend on what is surveyed -/

theorem prints_nothingFound :
    Markup.Prints "[yellow]No components or functions found[/yellow]" := by
  have htext : "[yellow]No components or functions found[/yellow]".toList
      = Markup.styled "yellow" "No components or functions found".toList [] := rfl
  exact Markup.prints_of_styled (Markup.isStyle_of_mem_lineStyles _ (by decide)) (by decide)
    (by simp) List.not_mem_nil htext

theorem prints_noMocks : Markup.Prints "[dim]No mocks needed[/dim]" := by
  have htext : "[dim]No mocks needed[/dim]".toList
      = Markup.styled "dim" "No mocks needed".toList [] := rfl
  exact Markup.prints_of_styled (Markup.isStyle_of_mem_lineStyles _ (by decide)) (by decide)
    (by simp) List.not_mem_nil htext

/-- Mocks are printed without markup, behind a line that names a library. -/
theorem succeeds_mockPrints (framework : Framework) (statements : List String) :
    ∀ print ∈ mockPrints (.ofFramework framework) statements, Print.Succeeds print := by
  have htext : ∀ package helpers : String,
      (s!"[cyan]Testing library:[/cyan] {package} ({helpers})").toList
        = Markup.styled "cyan" "Testing library:".toList
          (" " ++ package ++ " (" ++ helpers ++ ")").toList := by
    intro package helpers
    show ("[cyan]Testing library:[/cyan] " ++ package ++ " (" ++ helpers ++ ")").toList = _
    simp only [String.toList_append]
    rfl
  have htail : '[' ∉ (" " ++ (TestingLibrary.ofFramework framework).package ++ " (" ++
      ", ".intercalate (TestingLibrary.ofFramework framework).helpers ++ ")").toList := by
    have hpackages : ∀ package ∈ ["@testing-library/react", "@testing-library/react-native"],
        '[' ∉ (" " ++ package ++ " (" ++
          ", ".intercalate ["render", "fireEvent", "screen", "waitFor"] ++ ")").toList := by decide
    refine hpackages (TestingLibrary.ofFramework framework).package ?_
    cases framework <;> simp [TestingLibrary.ofFramework]
  have hstatements : ∀ print ∈ (if statements.isEmpty then
      [markedLine "[dim]No mocks needed[/dim]"]
      else statements.flatMap fun statement => [plainLine statement, .ok "\n"]),
      Print.Succeeds print := by
    split
    · rw [List.forall_mem_singleton, succeeds_markedLine_iff]
      exact prints_noMocks
    · intro print hprint
      obtain ⟨statement, -, hprint⟩ := List.mem_flatMap.1 hprint
      rcases List.mem_pair.1 hprint with rfl | rfl
      · exact ⟨_, rfl⟩
      · exact ⟨_, rfl⟩
  rw [mockPrints, List.forall_mem_cons, succeeds_markedLine_iff]
  exact ⟨Markup.prints_of_styled (Markup.isStyle_of_mem_lineStyles _ (by decide)) (by decide)
    (by simp) htail (htext _ _), hstatements⟩

/-! ### Outcomes -/

namespace Outcome

variable {status : Nat} {prints : List Print} {errors : String}

theorem escape?_ofPrints_eq_none_iff :
    (ofPrints status prints errors).escape? = none ↔ ∀ print ∈ prints, print.Succeeds := by
  rw [← Printout.fault?_ofPrints_eq_none_iff, ofPrints]
  cases (Printout.ofPrints prints).fault? <;> simp

theorem escape?_ofEscape_ne_none (escape : Escape) :
    (ofEscape escape prints errors).escape? ≠ none :=
  Option.some_ne_none _

/-- Surveys are printed exactly if their texts can be. -/
theorem succeeds_surveyPrints_iff {asJson : Bool} {surveys : List FileSurvey}
    (hfindings : surveys.any FileSurvey.hasFindings = true) :
    (∀ print ∈ surveyPrints asJson surveys, print.Succeeds)
      ↔ ∀ text ∈ surveyTexts asJson surveys, Markup.Prints text := by
  rw [surveyPrints, surveyTexts, hfindings]
  cases asJson with
  | true => simp [Print.Succeeds]
  | false =>
    have hsummary : ∀ print ∈ (if 1 < surveys.length then summaryReport surveys else []),
        Print.Succeeds print := by
      split
      · exact succeeds_summaryReport surveys
      · intro print hprint
        cases hprint
    simp only [Bool.false_eq_true, if_false, Bool.not_true, Bool.or_self]
    rw [List.forall_mem_append, and_iff_left hsummary, List.forall_mem_flatMap,
      List.forall_mem_flatMap]
    simp only [FileSurvey.succeeds_report_iff]

theorem escape?_ofSurveys_eq_none_iff {asJson : Bool} {surveys : List FileSurvey} :
    (ofSurveys asJson prints surveys errors).escape? = none
      ↔ (∀ print ∈ prints, print.Succeeds) ∧
        ∀ text ∈ surveyTexts asJson surveys, Markup.Prints text := by
  rw [ofSurveys]
  cases hfindings : surveys.any FileSurvey.hasFindings with
  | true =>
    rw [if_pos rfl, escape?_ofPrints_eq_none_iff, List.forall_mem_append,
      succeeds_surveyPrints_iff hfindings]
  | false =>
    have htexts : surveyTexts asJson surveys = [] := by simp [surveyTexts, hfindings]
    rw [if_neg Bool.false_ne_true, escape?_ofPrints_eq_none_iff, List.forall_mem_append, htexts,
      List.forall_mem_singleton, succeeds_markedLine_iff]
    simp [prints_nothingFound]

/-- How a command ends: with status 0 or 1, and with 1 if a failure escapes. -/
structure IsExit (outcome : Outcome) : Prop where
  status : outcome.status = 0 ∨ outcome.status = 1
  escape : outcome.escape? ≠ none → outcome.status = 1

theorem isExit_ofPrints (hstatus : status = 0 ∨ status = 1) :
    (ofPrints status prints errors).IsExit := by
  rw [ofPrints]
  split
  · exact ⟨hstatus, fun h => absurd rfl h⟩
  · exact ⟨.inr rfl, fun _ => rfl⟩

theorem isExit_ofEscape (escape : Escape) : (ofEscape escape prints errors).IsExit :=
  ⟨.inr rfl, fun _ => rfl⟩

theorem isExit_ofSurveys {asJson : Bool} {surveys : List FileSurvey} :
    (ofSurveys asJson prints surveys errors).IsExit := by
  rw [ofSurveys]
  split
  · exact isExit_ofPrints (.inl rfl)
  · exact isExit_ofPrints (.inr rfl)

/-- A run prints one line, which starts with `Error:` and tells why a file cannot be surveyed. -/
def Reports (outcome : Outcome) (failure : AnalysisFailure) : Prop :=
  ∃ reported shown, failure = .file reported ∧ Markup.printed reported.markedText = .ok shown ∧
    "Error:".toList <+: shown.toList ∧ outcome.output = paragraph shown

/-- A line that reports a failure starts with `Error:`. -/
theorem isPrefix_of_errorLine {message shown : String}
    (h : Markup.printed ("[red]Error:[/red] " ++ message) = .ok shown) :
    "Error:".toList <+: shown.toList := by
  have htext : ("[red]Error:[/red] " ++ message).toList
      = Markup.styled "red" "Error:".toList (" ".toList ++ message.toList) := by
    rw [String.toList_append]
    rfl
  have hshown : Markup.shown "Error:".toList = "Error:".toList := by decide
  have hstart := Markup.isPrefix_of_printed (Markup.isStyle_of_mem_lineStyles _ (by decide))
    (by decide) (by simp) htext h
  rw [hshown] at hstart
  exact hstart

theorem reports_of_failureLine {failure : SurveyFailure}
    (h : (ofPrints 1 [failureLine failure] errors).escape? = none) :
    (ofPrints 1 [failureLine failure] errors).Reports (.file failure) := by
  rw [escape?_ofPrints_eq_none_iff, List.forall_mem_singleton, failureLine,
    succeeds_markedLine_iff] at h
  obtain ⟨shown, hshown⟩ := h
  have hline : failureLine failure = .ok (paragraph shown) := by
    rw [failureLine, markedLine]
    exact congrArg (Except.map paragraph) hshown
  refine ⟨failure, shown, rfl, hshown, isPrefix_of_errorLine hshown, ?_⟩
  rw [hline]
  simp [ofPrints, Printout.ofPrints]

end Outcome

/-! ### How every run ends -/

section Ends

variable {world : World} {request : Request} {outcome : Outcome}

theorem World.Ends.isExit (h : world.Ends request outcome) : outcome.IsExit := by
  cases h with
  | heading _ => exact Outcome.isExit_ofPrints (.inr rfl)
  | interrupted _ => exact Outcome.isExit_ofEscape _
  | directory _ _ => exact Outcome.isExit_ofEscape _
  | file _ _ _ => exact Outcome.isExit_ofPrints (.inr rfl)
  | surveys _ _ _ => exact Outcome.isExit_ofSurveys
  | mocks _ _ _ => exact Outcome.isExit_ofPrints (.inl rfl)

/-- A command without surveys fails, and reports that unless something else escapes. -/
theorem World.Ends.reports (h : world.Ends request outcome) {failure : AnalysisFailure}
    (hfailure : (world.analysis request).value = .error failure) :
    outcome.status = 1 ∧ (outcome.escape? = none → outcome.Reports failure) := by
  cases h with
  | heading hfault =>
    refine ⟨Outcome.status_ofPrints_one _ _, fun hescape => absurd ?_ hfault⟩
    exact succeeds_map_markedLine_iff.1 (Outcome.escape?_ofPrints_eq_none_iff.1 hescape)
  | interrupted _ =>
    exact ⟨rfl, fun hescape => absurd hescape (Outcome.escape?_ofEscape_ne_none _)⟩
  | directory _ _ =>
    exact ⟨rfl, fun hescape => absurd hescape (Outcome.escape?_ofEscape_ne_none _)⟩
  | file _ _ hvalue =>
    cases hfailure.symm.trans hvalue
    exact ⟨Outcome.status_ofPrints_one _ _, Outcome.reports_of_failureLine⟩
  | surveys _ _ hvalue => cases hfailure.symm.trans hvalue
  | mocks _ _ hvalue => cases hfailure.symm.trans hvalue

/-- A failure escapes a command exactly if its pattern is refused, a grammar that it needs cannot be
loaded, a text that it needs cannot be read or a text that it prints cannot be printed. -/
theorem World.Ends.escape?_eq_none_iff (h : world.Ends request outcome) :
    outcome.escape? = none ↔ world.Contains request := by
  cases h with
  | heading hfault =>
    rw [Outcome.escape?_ofPrints_eq_none_iff, succeeds_map_markedLine_iff]
    refine iff_of_false hfault fun hcontains => hfault fun text htext => ?_
    exact hcontains.printable text (List.mem_append_left _ htext)
  | interrupted hclean =>
    exact iff_of_false (Outcome.escape?_ofEscape_ne_none _) fun hcontains =>
      hclean (isClean_analysis_iff.2 ⟨hcontains.grammars, hcontains.readable⟩)
  | directory hscans hvalue =>
    refine iff_of_false (Outcome.escape?_ofEscape_ne_none _) fun hcontains => ?_
    obtain ⟨surveys, hsurveys⟩ := (exists_analysis_iff hscans).2 (hcontains.pattern hscans)
    cases hsurveys.symm.trans hvalue
  | @file failure errors hscans hclean hvalue =>
    have htexts : world.markedTexts request = [failure.markedText] := by
      rw [markedTexts, hvalue, headingTexts, hscans]
      rfl
    rw [Outcome.escape?_ofPrints_eq_none_iff, List.forall_mem_singleton, failureLine,
      succeeds_markedLine_iff]
    constructor
    · intro hprints
      refine contains_of_isClean hclean
        (fun hdirectory => absurd hdirectory (Bool.eq_false_iff.1 hscans)) ?_
      rw [htexts]
      exact List.forall_mem_singleton.2 hprints
    · intro hcontains
      exact hcontains.printable _ (htexts ▸ List.mem_singleton_self failure.markedText)
  | @surveys surveys errors hcommand hclean hvalue =>
    have htexts : world.markedTexts request
        = world.headingTexts request ++ surveyTexts (request.given.has .json) surveys := by
      rw [markedTexts, hvalue, hcommand]
      rfl
    rw [Outcome.escape?_ofSurveys_eq_none_iff, succeeds_map_markedLine_iff,
      ← List.forall_mem_append, ← htexts]
    have hpattern : world.scansDirectory request = true → Glob.Acceptable request.pattern? :=
      fun hscans => (exists_analysis_iff hscans).1 ⟨surveys, hvalue⟩
    exact ⟨contains_of_isClean hclean hpattern, fun hcontains => hcontains.printable⟩
  | @mocks surveys framework statements errors hcommand hclean hvalue =>
    have hscans : world.scansDirectory request = false := by
      rw [scansDirectory, hcommand]
      rfl
    have htexts : world.markedTexts request = [] := by
      rw [markedTexts, hvalue, headingTexts, hscans, hcommand]
      rfl
    refine iff_of_true
      (Outcome.escape?_ofPrints_eq_none_iff.2 (succeeds_mockPrints framework statements)) ?_
    refine contains_of_isClean hclean
      (fun hdirectory => absurd hdirectory (Bool.eq_false_iff.1 hscans)) ?_
    rw [htexts]
    exact List.forall_mem_nil _

end Ends

/-- A current directory with one empty file. -/
def emptyFileWorld : World where
  parser := sampleParser
  files := .put (.file []) ["a.ts"] .empty
  here := []

/-- A grammar that cannot be loaded is noted, and the failure escapes. -/
example :
    runCommandLine { emptyFileWorld with parser := fun _ => .error "no language" } ["mocks", "a.ts"]
      = ⟨1, "", "ERROR: Failed to initialize Tree-sitter parser: no language\n",
          some (.noParser ⟨.typescript, "no language"⟩)⟩ := by
  rfl

end ComponentSurvey
