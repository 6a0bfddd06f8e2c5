import ComponentSurvey.CommandLine.Arguments
import ComponentSurvey.Console.Report
import ComponentSurvey.Json.Records
import ComponentSurvey.Json.Write
import ComponentSurvey.Mock.Statement
import ComponentSurvey.Project.Scan
import ComponentSurvey.Text.ControlSequence

/-!
# The command line

Two commands: `analyze` reports on a file or a directory, `mocks` prints the mocks that a test of a
file needs.

* `Outcome` — what a run leaves: its status, what it printed, and a failure that it did not report.
* `World` — what a run works on: a parser, the files, and the current directory.
* `runAnalyze`, `runMocks` — the two commands.
* `runCommandLine` — the program.
-/

namespace ComponentSurvey

/-- A failure that a command does not report itself. -/
inductive Escape where
  | directory (failure : DirectoryFailure)
  | markup (fault : Markup.Fault)
  | unreadable (fault : Utf8.Fault)
  | noParser (failure : GrammarFailure)
deriving DecidableEq, Repr

/-- No command reports what interrupts it. -/
def Escape.ofInterruption : Interruption → Escape
  | .unreadable fault => .unreadable fault
  | .noParser failure => .noParser failure

/-- The wording of a failure. -/
def Escape.message : Escape → String
  | .directory failure => failure.message
  | .markup fault => fault.message
  | .unreadable fault => fault.message
  | .noParser failure => failure.message

/-- What a run leaves. -/
structure Outcome where
  status : Nat
  output : String
  errors : String
  escape? : Option Escape
deriving DecidableEq, Repr

/-- What a run works on. -/
structure World where
  /-- The parser, with the grammars that can be loaded during the run. -/
  parser : Parser
  files : FileTree
  /-- The current directory. -/
  here : Location

/-! ### Commands and their options -/

/-- The commands. -/
inductive Command where
  | analyze
  | mocks
deriving DecidableEq, Repr

namespace Command

/-- The name of a command. -/
def name : Command → String
  | .analyze => "analyze"
  | .mocks => "mocks"

/-- All commands. -/
def all : List Command := [.analyze, .mocks]

/-- The command of a name. -/
def ofName? (name : String) : Option Command := all.find? fun command => command.name == name

/-- The options that every command knows. -/
def commonOptions : List OptionSpec :=
  [⟨"-v", .switch .verbose⟩, ⟨"--verbose", .switch .verbose⟩, ⟨"--help", .switch .help⟩]

/-- The options of a command. -/
def options : Command → List OptionSpec
  | .analyze =>
    [⟨"--json", .switch .json⟩, ⟨"--exclude", .setting .exclude⟩, ⟨"--pattern", .setting .pattern⟩]
      ++ commonOptions
  | .mocks => commonOptions

/-- How the argument of a command is called in its usage. -/
def argumentLabel : Command → String
  | .analyze => "PATH"
  | .mocks => "FILE"

/-- What the argument of a command is. -/
def argumentNoun : Command → String
  | .analyze => "Path"
  | .mocks => "File"

end Command

/-- The options of the program itself. -/
def programOptions : List OptionSpec :=
  [⟨"--version", .switch .version⟩, ⟨"--help", .switch .help⟩]

/-- The first line of the usage of a command, or of the program. -/
def usageLine : Option Command → String
  | some command => s!"Usage: cli {command.name} [OPTIONS] {command.argumentLabel}\n"
  | none => "Usage: cli [OPTIONS] COMMAND [ARGS]...\n"

/-- Where to find help on a command, or on the program. -/
def helpLine : Option Command → String
  | some command => s!"Try 'cli {command.name} --help' for help.\n"
  | none => "Try 'cli --help' for help.\n"

/-- The end of a run whose arguments are wrong. What it says holds no commands to the terminal. -/
def usageOutcome (command? : Option Command) (fault : UsageFault) : Outcome :=
  let usage := if fault.showsUsage then usageLine command? ++ helpLine command? ++ "\n" else ""
  ⟨2, "", Text.withoutSequences (usage ++ "Error: " ++ fault.message ++ "\n"), none⟩

/-! ### Running a command -/

/-- The notes that are printed: all of them, or those that are more than details. -/
def noteLines (verbose : Bool) (notes : List Note) : String :=
  let shown := notes.filter fun note => verbose || note.level != .debug
  String.join (shown.map fun note => note.level.name ++ ": " ++ note.text ++ "\n")

/-- The end of a run that printed something; a fault in the markup is a failure that escapes. -/
def Outcome.ofPrints (status : Nat) (prints : List Print) (errors : String) : Outcome :=
  let printout := Printout.ofPrints prints
  match printout.fault? with
  | none => ⟨status, printout.text, errors, none⟩
  | some fault => ⟨1, printout.text, errors, some (.markup fault)⟩

/-- The end of a run in which a failure escapes after something was printed. -/
def Outcome.ofEscape (escape : Escape) (prints : List Print) (errors : String) : Outcome :=
  let printout := Printout.ofPrints prints
  ⟨1, printout.text, errors, some (printout.fault?.elim escape .markup)⟩

/-- The line that reports a failure. -/
def failureLine (failure : SurveyFailure) : Print :=
  markedLine ("[red]Error:[/red] " ++ failure.message)

/-- The document that holds surveys. -/
def surveysDocument (surveys : List FileSurvey) : String :=
  (Json.array (surveys.map FileSurvey.toJson)).pretty

/-- What is printed for the surveys of a run. -/
def surveyPrints (asJson : Bool) (surveys : List FileSurvey) : List Print :=
  if asJson then [.ok (surveysDocument surveys ++ "\n")]
  else
    surveys.flatMap FileSurvey.report ++ if 1 < surveys.length then summaryReport surveys else []

/-- The end of a run that made surveys after something was printed. -/
def Outcome.ofSurveys (asJson : Bool) (before : List Print) (surveys : List FileSurvey)
    (errors : String) : Outcome :=
  if surveys.any FileSurvey.hasFindings then
    Outcome.ofPrints 0 (before ++ surveyPrints asJson surveys) errors
  else
    Outcome.ofPrints 1
      (before ++ [markedLine "[yellow]No components or functions found[/yellow]"]) errors

/-- What is printed before a directory is surveyed. -/
def directoryPrints (directory : Location) (exclusions : List String) : List Print :=
  [markedLine ("[cyan]Analyzing directory:[/cyan] " ++ directory.text),
    markedLine ("[dim]Excluding:[/dim] " ++ ", ".intercalate exclusions)]

/-- Reports on a file or a directory. The display of progress in front of the reports on a directory is
no part of what is printed here. -/
def runAnalyze (world : World) (path : String) (arguments : Arguments) : Outcome :=
  let asJson := arguments.has .json
  let log := noteLines (arguments.has .verbose)
  let target := (Path.ofString path).resolve world.here
  if world.files.hasDirectory target then
    let exclusions := defaultExclusions ++ arguments.valuesOf .exclude
    let pattern? := (arguments.valuesOf .pattern).getLast?
    let before := if asJson then [] else directoryPrints target exclusions
    match (Printout.ofPrints before).fault? with
    | some _ => Outcome.ofPrints 1 before ""
    | none =>
      let result := (surveyDirectory world.parser world.files target pattern? exclusions).outcome
      match result.value with
      | .error cause => Outcome.ofEscape (.ofInterruption cause) before (log result.notes)
      | .ok (.error failure) => Outcome.ofEscape (.directory failure) before (log result.notes)
      | .ok (.ok surveys) => Outcome.ofSurveys asJson before surveys (log result.notes)
  else
    let result := (FileSurvey.ofFile world.parser world.files target).outcome
    match result.value with
    | .error cause => Outcome.ofEscape (.ofInterruption cause) [] (log result.notes)
    | .ok (.error failure) => Outcome.ofPrints 1 [failureLine failure] (log result.notes)
    | .ok (.ok survey) => Outcome.ofSurveys asJson [] [survey] (log result.notes)

/-- What is printed of mocks. -/
def mockPrints (library : TestingLibrary) (statements : List String) : List Print :=
  let helpers := ", ".intercalate library.helpers
  markedLine s!"[cyan]Testing library:[/cyan] {library.package} ({helpers})" ::
    if statements.isEmpty then [markedLine "[dim]No mocks needed[/dim]"]
    else statements.flatMap fun statement => [plainLine statement, .ok "\n"]

/-- Prints the mocks that a test of a file needs. -/
def runMocks (world : World) (path : String) (arguments : Arguments) : Outcome :=
  let log := noteLines (arguments.has .verbose)
  let target := (Path.ofString path).resolve world.here
  let result := (FileSurvey.ofFile world.parser world.files target).outcome
  match result.value with
  | .error cause => Outcome.ofEscape (.ofInterruption cause) [] (log result.notes)
  | .ok (.error failure) => Outcome.ofPrints 1 [failureLine failure] (log result.notes)
  | .ok (.ok survey) =>
    let modules := mocksFor survey.imports
    let statements := modules.value ++ survey.hooks.map hookMock
    Outcome.ofPrints 0 (mockPrints (.ofFramework survey.framework) statements)
      (log (result.notes ++ modules.notes))

/-! ### The program -/

/-- The place that a path leads to, where every component on the way must be there. -/
def reach (files : FileTree) : List String → Location → Option Location
  | [], place => if (files.find? place).isSome then some place else none
  | part :: rest, place =>
    if files.hasDirectory place then
      reach files rest (if part = "" || part = "." then place else Location.step place part)
    else none

/-- What a path leads to. -/
def World.find? (world : World) (path : String) : Option FileTree :=
  if path = "" then none
  else
    let start := if (Path.ofString path).isAbsolute then [] else world.here
    (reach world.files (Path.rawParts path) start).bind fun place => world.files.find? place

/-- The path that a command is given, if there is something of the right kind there. -/
def checkPath (world : World) (command : Command) (arguments : Arguments) :
    Except UsageFault String :=
  let label := command.argumentLabel
  match arguments.others with
  | [] => .error (.missingArgument label)
  | path :: extra =>
    match world.find? path with
    | none => .error (.noSuchPath label command.argumentNoun path)
    | some found =>
      if command == .mocks && found.isDirectory then
        .error (.pathIsDirectory label command.argumentNoun path)
      else if extra.isEmpty then .ok path
      else .error (.extraArguments extra)

/-- Runs a command on its arguments. Of its help only the line of usage is printed here. -/
def runCommand (world : World) (command : Command) (arguments : List String) : Outcome :=
  match Arguments.scan command.options true arguments with
  | .error fault => usageOutcome (some command) fault
  | .ok given =>
    if given.has .help then ⟨0, usageLine (some command), "", none⟩
    else
      match checkPath world command given with
      | .error fault => usageOutcome (some command) fault
      | .ok path =>
        match command with
        | .analyze => runAnalyze world path given
        | .mocks => runMocks world path given

/-- The end of a run that the options of the program itself decide. Of the help only the line of usage
is printed here. -/
def programOutcome? (arguments : List String) : Except UsageFault Arguments → Option Outcome
  | .error fault => some (usageOutcome none fault)
  | .ok given =>
    if given.has .version then some ⟨0, "cli, version 0.1.0\n", "", none⟩
    else if given.has .help || arguments.isEmpty then some ⟨0, usageLine none, "", none⟩
    else none

/-- Runs the program on its arguments. An unknown command that looks like an option is read as
one. -/
def runCommandLine (world : World) (arguments : List String) : Outcome :=
  let given := Arguments.scan programOptions false arguments
  match programOutcome? arguments given, given with
  | some outcome, _ => outcome
  | none, .error fault => usageOutcome none fault
  | none, .ok given =>
    match given.others with
    | [] => usageOutcome none .missingCommand
    | name :: rest =>
      match Command.ofName? name with
      | some command => runCommand world command rest
      | none =>
        let unknown := .noSuchCommand name (Text.similarTo name (Command.all.map Command.name))
        let asOptions := Arguments.scan programOptions false given.others
        (programOutcome? given.others asOptions).getD (usageOutcome none unknown)

end ComponentSurvey
