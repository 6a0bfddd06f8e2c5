import ComponentSurvey.Project.Glob

/-!
# The source files of a directory

* `defaultPatterns`, `defaultExclusions` — what is surveyed where nothing else is asked for.
* `isExcluded` — whether a pattern stands for a path or for one of its components.
* `sourceFiles` — the files to survey in the order of their components.
-/

namespace ComponentSurvey

/-- The patterns of source files. -/
def defaultPatterns : List String := ["**/*.ts", "**/*.tsx", "**/*.js", "**/*.jsx"]

/-- What is left out of a survey. -/
def defaultExclusions : List String :=
  ["node_modules", "dist", "build", "coverage", "__tests__", "__mocks__", "*.test.*", "*.spec.*",
    "*.d.ts"]

/-- Whether one of the patterns stands for a whole path or for one of its components. -/
def isExcluded (exclusions : List String) (text : String) (parts : List String) : Bool :=
  exclusions.any fun pattern =>
    Wildcard.covers pattern text || parts.any (Wildcard.covers pattern)

/-- Whether a spot is left out. -/
def Spot.isExcluded (exclusions : List String) (spot : Spot) : Bool :=
  ComponentSurvey.isExcluded exclusions spot.text spot.shown

/-- The patterns to search for: the one given, unless it is empty, or else those of source files. -/
def patternsOf (pattern? : Option String) : List String :=
  match pattern? with
  | some pattern => if pattern = "" then defaultPatterns else [pattern]
  | none => defaultPatterns

/-- Puts spots in the order of their components and keeps each way once. -/
def Spot.sorted (spots : List Spot) : List Spot :=
  spots.eraseDups.mergeSort fun a b => !List.lex b.shown a.shown (· < ·)

/-- The files below a directory that a pattern stands for and that are not excluded. -/
def sourceFiles (files : FileTree) (place : Location) (pattern? : Option String)
    (exclusions : List String) : Except GlobFault (List Spot) := do
  let globs ← (patternsOf pattern?).mapM Glob.ofString
  let spots := globs.flatMap fun glob => glob.select files place
  let kept := spots.filter fun spot =>
    files.hasFile spot.place && !spot.isExcluded exclusions
  pure (Spot.sorted kept)

end ComponentSurvey
