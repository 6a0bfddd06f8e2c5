import ComponentSurvey.Json.Value
import ComponentSurvey.Source.Parser
import ComponentSurvey.Tree.Outline

/-!
# Syntax trees as JSON

A tree is an object with its `source`, the rows of its outline as `nodes`, and `has_error`. A row is
an array of depth, kind, a number that tells whether the node is named, field, start and end, and
possibly the text of the node. In place of a tree there may be the reason, under `fail`, why the
parser gives none.

* `Entry.ofJson?` — a line of an outline.
* `Parsed.ofJson?` — what a parser answers.
-/

namespace ComponentSurvey

/-- The line of an outline that a row stands for. -/
def Entry.ofJson? (json : Json) : Option Entry :=
  match json with
  | .array (.int depth :: .string kind :: .int named :: .string field :: .int start :: .int stop
      :: override) =>
    let text :=
      match override with
      | .string text :: _ => some text
      | .null :: _ => some ""
      | _ => none
    some
      { depth := depth.toNat
        kind := .ofName kind
        named := named != 0
        field := if field = "" then none else some (.ofLabel field)
        span := ⟨start.toNat, stop.toNat⟩
        text := text }
  | _ => none

/-- The answer of a parser; a tree without a source of its own is that of the text given. -/
def Parsed.ofJson? (content : String) (json : Json) : Option (String × Except String Parsed) := do
  let source ← (json.field? "source").elim (some content) Json.string?
  match json.field? "fail" with
  | some reason => pure (source, .error (← reason.string?))
  | none =>
    let rows ← (json.field? "nodes").bind Json.array?
    let entries ← rows.mapM Entry.ofJson?
    let root ← Node.ofOutline source entries
    let hasErrors := ((json.field? "has_error").bind Json.bool?).getD false
    pure (source, .ok ⟨root, hasErrors⟩)

end ComponentSurvey
