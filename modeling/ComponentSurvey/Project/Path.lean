import ComponentSurvey.Text.Split

/-!
# Paths

A path is a list of components, with empty ones and `.` left out; a leading slash is kept apart.

* `Path` and `Path.ofString` — a path as it is written.
* `Path.parts`, `Path.text`, `Path.extension` — its components, its text, the end of its last name.
* `Location` and `Path.resolve` — a place in the file system, reached from another one.
-/

namespace ComponentSurvey

/-- A path as it is written. -/
structure Path where
  /-- The slashes in front: none, one, or exactly two. -/
  root : String
  components : List String
deriving DecidableEq, Repr, Inhabited

namespace Path

/-- The parts of the text of a path, those that do not count among them. -/
def rawParts (text : String) : List String := (Text.split '/' text.toList).map String.ofList

/-- The slashes that count in front of a path: three and more count as one. -/
def rootOf : List Char → String
  | '/' :: '/' :: '/' :: _ => "/"
  | '/' :: '/' :: _ => "//"
  | '/' :: _ => "/"
  | _ => ""

/-- The path that a text stands for. -/
def ofString (text : String) : Path :=
  { root := rootOf text.toList
    components := (rawParts text).filter fun part => part != "" && part != "." }

/-- Whether a path starts at the root of the file system. -/
def isAbsolute (path : Path) : Bool := path.root != ""

/-- The components of a path, the slashes in front among them. -/
def parts (path : Path) : List String :=
  if path.isAbsolute then path.root :: path.components else path.components

/-- The text of a path; an empty path is the current directory. -/
def text (path : Path) : String :=
  if path.isAbsolute || !path.components.isEmpty then path.root ++ "/".intercalate path.components
  else "."

/-- The end of a name from its last dot, which is neither its first nor its last character. -/
def extensionOf (name : List Char) : List Char :=
  let afterDot := (name.reverse.takeWhile (· != '.')).reverse
  let stem := (name.reverse.dropWhile (· != '.')).reverse.dropLast
  if stem.isEmpty || afterDot.isEmpty then [] else '.' :: afterDot

/-- The extension of the last component of a path. -/
def extension (path : Path) : String :=
  match path.components.getLast? with
  | some name => String.ofList (extensionOf name.toList)
  | none => ""

end Path

/-- A place in the file system: the names that lead to it from the root. -/
abbrev Location := List String

namespace Location

/-- The place one component further: `..` leads back. -/
def step (place : Location) (component : String) : Location :=
  if component = ".." then place.dropLast else place ++ [component]

/-- The text of a place. -/
def text (place : Location) : String := "/" ++ "/".intercalate place

end Location

/-- The place that a path leads to from another place. -/
def Path.resolve (path : Path) (place : Location) : Location :=
  path.components.foldl Location.step (if path.isAbsolute then [] else place)

end ComponentSurvey
