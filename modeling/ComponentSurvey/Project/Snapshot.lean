import ComponentSurvey.CommandLine.Run
import ComponentSurvey.Json.Trees

/-!
# Snapshots of projects

A snapshot is a JSON array of what a directory holds. Each item has a `path` below the directory; it
is a directory if `dir` is true, and otherwise a file whose bytes are given by `content` as text or
by `hex` as hexadecimal digits. The `tree` of a file is what the parser answers for it.

* `SnapshotFile.ofJson?` — an item of a snapshot.
* `World.ofSnapshot` — the files and the parser of a snapshot.
-/

namespace ComponentSurvey

/-- The bytes that pairs of hexadecimal digits stand for. -/
def bytesOfHex : List Char → Option (List UInt8)
  | high :: low :: rest => do
    let byte ← Text.ofHex? [high, low]
    let others ← bytesOfHex rest
    pure (byte.toUInt8 :: others)
  | [] => some []
  | [_] => none

/-- What a parser answers for a text. -/
structure ParserAnswer where
  grammar : Grammar
  source : String
  answer : Except String Parsed

/-- An item of a snapshot. -/
structure SnapshotFile where
  path : String
  tree : FileTree
  answer? : Option ParserAnswer

namespace SnapshotFile

/-- The item that a JSON value stands for. -/
def ofJson? (json : Json) : Option SnapshotFile := do
  let path ← (json.field? "path").bind Json.string?
  let content ← (json.field? "content").elim (some "") Json.string?
  let isDirectory ← (json.field? "dir").elim (some false) Json.bool?
  let bytes ← (json.field? "hex").elim (some content.toUTF8.toList) fun hex =>
    hex.string?.bind fun digits => bytesOfHex digits.toList
  let answer? ← (json.field? "tree").elim (some none) fun tree =>
    (Parsed.ofJson? content tree).map fun (source, answer) =>
      some ⟨Grammar.ofPath path, source, answer⟩
  pure ⟨path, if isDirectory then .empty else .file bytes, answer?⟩

end SnapshotFile

/-- The parser that loads every grammar and gives the answers of a list, of which the last one for a
text counts. -/
def Parser.ofAnswers (answers : List ParserAnswer) : Parser := fun grammar => .ok fun source =>
  match answers.reverse.find? fun known => known.grammar == grammar && known.source == source with
  | some known => known.answer
  | none => .error "no tree supplied"

/-- The world in which a directory, the current one, holds the items of a snapshot. -/
def World.ofSnapshot (here : Location) (items : List SnapshotFile) : World :=
  { parser := .ofAnswers (items.filterMap SnapshotFile.answer?)
    files := items.foldl (fun files item =>
      FileTree.put item.tree ((Path.ofString item.path).resolve here) files)
      (FileTree.put .empty here .empty)
    here := here }

end ComponentSurvey
