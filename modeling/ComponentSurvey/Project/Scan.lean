import ComponentSurvey.Project.Selection
import ComponentSurvey.Source.Parser
import ComponentSurvey.Text.Split

/-!
# Surveys of files and directories

* `FileSurvey.ofFile` — the survey of the file at a place.
* `surveyFiles` — the surveys of several files; those that fail are noted and left out.
* `surveyDirectory` — the surveys of the source files of a directory, in the order of their paths.
* `surveyConcurrently` — the same where the surveys of the files finish in any order.
-/

namespace ComponentSurvey

/-- The survey of the file at a place. -/
def FileSurvey.ofFile (parser : Parser) (files : FileTree) (place : Location) :
    Logged (Except SurveyFailure FileSurvey) :=
  match files.find? place with
  | none => pure (.error (.notFound place.text))
  | some (.directory _) => pure (.error (.isDirectory place.text))
  | some (.file bytes) =>
    match Utf8.decode bytes with
    | .error fault => pure (.error (.notText place.text fault))
    | .ok text => FileSurvey.ofSource parser (Text.unifiedBreaks text) place.text

/-- Why a directory cannot be surveyed. -/
inductive DirectoryFailure where
  /-- There is nothing at a place. -/
  | notFound (path : String)
  /-- There is a file at a place. -/
  | notDirectory (path : String)
  /-- The pattern for files is refused. -/
  | badPattern (fault : GlobFault)
deriving DecidableEq, Repr

/-- The wording of a failure. -/
def DirectoryFailure.message : DirectoryFailure → String
  | .notFound path => s!"Directory not found: {path}"
  | .notDirectory path => s!"Path is not a directory: {path}"
  | .badPattern fault => fault.message

/-- The survey of a file that was found in a directory; a failure is noted. -/
def surveySpot (parser : Parser) (files : FileTree) (directory : Location) (spot : Spot) :
    Logged (Option FileSurvey) := do
  match ← FileSurvey.ofFile parser files spot.place with
  | .ok survey => pure (some survey)
  | .error failure => do
    Logged.note (.surveyFailed (Location.text (directory ++ spot.shown)) failure.message)
    pure none

/-- Surveys in the order of their paths. -/
def sortedByPath (surveys : List FileSurvey) : List FileSurvey :=
  surveys.mergeSort fun a b => a.path ≤ b.path

/-- The surveys of some files of a directory, made in the order given. -/
def surveyFiles (parser : Parser) (files : FileTree) (directory : Location) (spots : List Spot) :
    Logged (List FileSurvey) :=
  sortedByPath <$> Logged.collect (surveySpot parser files directory) spots

/-- The source files of a directory, if it is one. -/
def filesToSurvey (files : FileTree) (directory : Location) (pattern? : Option String)
    (exclusions : List String) : Except DirectoryFailure (List Spot) :=
  match files.find? directory with
  | none => .error (.notFound directory.text)
  | some (.file _) => .error (.notDirectory directory.text)
  | some (.directory _) =>
    (sourceFiles files directory pattern? exclusions).mapError .badPattern

/-- The surveys of the source files of a directory, where `schedule` gives the order in which they
are finished. -/
def surveyConcurrently (schedule : List Spot → List Spot) (parser : Parser) (files : FileTree)
    (directory : Location) (pattern? : Option String) (exclusions : List String) :
    Logged (Except DirectoryFailure (List FileSurvey)) :=
  match filesToSurvey files directory pattern? exclusions with
  | .error failure => pure (.error failure)
  | .ok [] => do
    Logged.note (.noSourceFiles directory.text)
    pure (.ok [])
  | .ok spots => Except.ok <$> surveyFiles parser files directory (schedule spots)

/-- The surveys of the source files of a directory, made one after the other. -/
def surveyDirectory (parser : Parser) (files : FileTree) (directory : Location)
    (pattern? : Option String) (exclusions : List String) :
    Logged (Except DirectoryFailure (List FileSurvey)) :=
  surveyConcurrently id parser files directory pattern? exclusions

end ComponentSurvey
