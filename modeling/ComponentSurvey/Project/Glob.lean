import ComponentSurvey.Project.FileTree
import ComponentSurvey.Project.Wildcard
import ComponentSurvey.Text.Search

/-!
# Selecting files by a pattern

A pattern is a path whose components are names, wildcards or `**`, which stands for a directory and
all directories below it.

* `Glob` and `Glob.ofString` — a pattern taken apart; `GlobFault` — why it may be refused.
* `Spot` — a place by the way it was found.
* `Glob.select` — the places below a directory that a pattern stands for.
-/

namespace ComponentSurvey

/-- A component of a pattern. -/
inductive GlobStep where
  /-- The directory and all directories below it. -/
  | anyDepth
  /-- The entry of a name. -/
  | named (name : String)
  /-- The entries that a wildcard stands for. -/
  | matching (wildcard : List Wildcard.Piece)
deriving DecidableEq, Repr

/-- Why a pattern is refused. -/
inductive GlobFault where
  /-- It starts at the root of the file system. -/
  | notRelative
  /-- Two asterisks are only a part of a component. -/
  | doubleAsterisk
  /-- It has no components. -/
  | noComponents
  /-- It has no components and ends with a slash. -/
  | onlySlash
deriving DecidableEq, Repr

/-- The wording of a fault. -/
def GlobFault.message : GlobFault → String
  | .notRelative => "Non-relative patterns are unsupported"
  | .doubleAsterisk => "Invalid pattern: '**' can only be an entire path component"
  | .noComponents => "tuple index out of range"
  | .onlySlash => "'_TerminatingSelector' object has no attribute 'select_from'"

/-- A pattern for files. -/
structure Glob where
  steps : List GlobStep
  /-- Whether the pattern ends with a slash, so that it stands for directories only. -/
  directoriesOnly : Bool
deriving DecidableEq, Repr

/-- Whether a name has a character with a meaning of its own in wildcards. -/
def isWild (name : String) : Bool := name.toList.any fun c => c == '*' || c == '?' || c == '['

namespace GlobStep

/-- The component of a pattern that a text stands for. -/
def ofString (component : String) : Except GlobFault GlobStep :=
  if component = "**" then .ok .anyDepth
  else if Text.occursIn "**" component then .error .doubleAsterisk
  else if isWild component then .ok (.matching (Wildcard.ofString component))
  else .ok (.named component)

end GlobStep

/-- A place by the way it was found from the directory where the search began. -/
structure Spot where
  /-- The components on the way. -/
  shown : List String
  /-- The place itself. -/
  place : Location
deriving DecidableEq, Repr

namespace Spot

/-- The spot one component further. -/
def step (spot : Spot) (component : String) : Spot :=
  ⟨spot.shown ++ [component], Location.step spot.place component⟩

/-- The text of the way to a spot. -/
def text (spot : Spot) : String :=
  if spot.shown.isEmpty then "." else "/".intercalate spot.shown

end Spot

namespace GlobStep

/-- The spots that a component may lead to. -/
def candidates (files : FileTree) (spot : Spot) : GlobStep → List Spot
  | .anyDepth =>
    ((files.find? spot.place).elim [] FileTree.directories).map fun way =>
      way.foldl Spot.step spot
  | .named name => [spot.step name]
  | .matching wildcard =>
    let names := (files.find? spot.place).elim [] fun found => found.entries.map Prod.fst
    (names.filter fun name => Wildcard.accepts wildcard name.toList).map spot.step

end GlobStep

namespace Glob

/-- The pattern that a text stands for. -/
def ofString (pattern : String) : Except GlobFault Glob :=
  let path := Path.ofString pattern
  let directoriesOnly := Text.endsWith "/" pattern
  if path.isAbsolute then .error .notRelative
  else if path.components.isEmpty then
    .error (if directoriesOnly then .onlySlash else .noComponents)
  else (path.components.mapM GlobStep.ofString).map fun steps => ⟨steps, directoriesOnly⟩

/-- The spots that components lead to from some spots, each once; all but the last must be
directories. -/
def selectFrom (files : FileTree) (directoriesOnly : Bool) : List GlobStep → List Spot → List Spot
  | [], spots => spots
  | step :: rest, spots =>
    let wanted : Spot → Bool := fun next =>
      if rest.isEmpty && !directoriesOnly then (files.find? next.place).isSome
      else files.hasDirectory next.place
    let found := (spots.flatMap fun spot => step.candidates files spot).filter wanted
    selectFrom files directoriesOnly rest found.eraseDups

/-- The spots below a place that a pattern stands for; there are none unless the place is a
directory. -/
def select (files : FileTree) (place : Location) (glob : Glob) : List Spot :=
  if files.hasDirectory place then
    selectFrom files glob.directoriesOnly glob.steps [⟨[], place⟩]
  else []

end Glob

end ComponentSurvey
