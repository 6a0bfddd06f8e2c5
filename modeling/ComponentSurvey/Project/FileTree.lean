import ComponentSurvey.Project.Path

/-!
# Files and directories

* `FileTree` — a file with its bytes, or a directory with what it holds.
* `FileTree.find?`, `FileTree.put` — what stands at a place, and putting something there.
* `FileTree.directories` — the directories at or below a directory.
* `FileTree.lookup_putEntry_self` — an entry that was put into a directory is found there.
-/

namespace ComponentSurvey

/-- A file or a directory. -/
inductive FileTree where
  | file (bytes : List UInt8)
  | directory (entries : List (String × FileTree))
deriving Inhabited

namespace FileTree

/-- A directory with nothing in it. -/
def empty : FileTree := .directory []

/-- Whether a tree is a directory. -/
def isDirectory : FileTree → Bool
  | .directory _ => true
  | .file _ => false

/-- What a directory holds; a file holds nothing. -/
def entries : FileTree → List (String × FileTree)
  | .directory entries => entries
  | .file _ => []

/-- What stands at a place, which the names lead to. -/
def find? : Location → FileTree → Option FileTree
  | [], tree => some tree
  | name :: rest, tree => (tree.entries.lookup name).bind (find? rest)

/-- Puts an entry into a list of entries in place of the one of its name. -/
def putEntry (name : String) (tree : FileTree) : List (String × FileTree) → List (String × FileTree)
  | [] => [(name, tree)]
  | (other, held) :: rest =>
    if other = name then (name, tree) :: rest else (other, held) :: putEntry name tree rest

/-- Puts something at a place and makes the directories that lead there; a directory that is there
already stays as it is. -/
def put (thing : FileTree) : Location → FileTree → FileTree
  | [], tree => if thing.isDirectory && tree.isDirectory then tree else thing
  | name :: rest, tree =>
    let held := (tree.entries.lookup name).getD (if rest.isEmpty then thing else .empty)
    .directory (putEntry name (put thing rest held) tree.entries)

mutual

/-- The directories at or below a directory, by the names that lead to them. -/
def directories : FileTree → List Location
  | .file _ => []
  | .directory entries => [] :: directoriesIn entries

/-- The directories at or below the entries of a directory. -/
def directoriesIn : List (String × FileTree) → List Location
  | [] => []
  | (name, tree) :: rest => tree.directories.map (name :: ·) ++ directoriesIn rest

end

/-- Whether there is a directory at a place. -/
def hasDirectory (tree : FileTree) (place : Location) : Bool :=
  (tree.find? place).any isDirectory

/-- Whether there is a file at a place. -/
def hasFile (tree : FileTree) (place : Location) : Bool :=
  (tree.find? place).any fun found => !found.isDirectory

/-! ### What was put is found -/

theorem lookup_putEntry_self (name : String) (tree : FileTree) (entries : List (String × FileTree)) :
    (putEntry name tree entries).lookup name = some tree := by
  induction entries with
  | nil => simp [putEntry]
  | cons entry rest ih =>
    obtain ⟨other, held⟩ := entry
    rw [putEntry]
    split
    · simp
    · rename_i h
      simp [List.lookup_cons, beq_false_of_ne (Ne.symm h), ih]

end FileTree

end ComponentSurvey
