import ComponentSurvey.Json.Value
import ComponentSurvey.Record

/-!
# Records as JSON

Every record is an object with all its fields in a fixed order, and null for what is absent. It is read
only where all its fields are there, in their order and without others.

* `Json.record?` — the values of an object with certain fields.
* `toJson` and `ofJson?` of `Import`, `Param`, `ComponentProp`, `Component`, `PlainFunction` and
  `FileSurvey` — writing and reading of records.
-/

namespace ComponentSurvey

namespace Json

/-- The values of an object that has the fields of these names, in this order, and no others. -/
def record? (names : List String) : Json → Option (List Json)
  | .object fields => if fields.map Prod.fst = names then some (fields.map Prod.snd) else none
  | _ => none

/-- The text of a string, or none for null. -/
def stringOrNull? : Json → Option (Option String)
  | .null => some none
  | .string value => some (some value)
  | _ => none

/-- The records of an array. -/
def records? {α : Type} (read : Json → Option α) (json : Json) : Option (List α) :=
  json.array?.bind fun items => items.mapM read

end Json

namespace Import

/-- An import as JSON. -/
def toJson (record : Import) : Json :=
  .object
    [("source", .string record.source),
      ("specifiers", .ofStrings record.specifiers),
      ("is_default", .bool record.isDefault)]

/-- The import that a JSON value stands for. -/
def ofJson? (json : Json) : Option Import := do
  let [source, specifiers, isDefault] ← json.record? ["source", "specifiers", "is_default"] | none
  pure ⟨← source.string?, ← specifiers.strings?, ← isDefault.bool?⟩

end Import

namespace Param

/-- A parameter as JSON. -/
def toJson (param : Param) : Json :=
  .object
    [("name", .string param.name),
      ("type", .string param.type),
      ("optional", .bool param.optional),
      ("default_value", .ofString? param.default?)]

/-- The parameter that a JSON value stands for. -/
def ofJson? (json : Json) : Option Param := do
  let [name, type, optional, default?] ←
    json.record? ["name", "type", "optional", "default_value"] | none
  pure ⟨← name.string?, ← type.string?, ← optional.bool?, ← default?.stringOrNull?⟩

end Param

namespace ComponentProp

/-- A prop as JSON. -/
def toJson (prop : ComponentProp) : Json :=
  .object
    [("name", .string prop.name),
      ("type", .string prop.type),
      ("required", .bool prop.required),
      ("default_value", .ofString? prop.default?)]

/-- The prop that a JSON value stands for. -/
def ofJson? (json : Json) : Option ComponentProp := do
  let [name, type, required, default?] ←
    json.record? ["name", "type", "required", "default_value"] | none
  pure ⟨← name.string?, ← type.string?, ← required.bool?, ← default?.stringOrNull?⟩

end ComponentProp

namespace Component

/-- A component as JSON. -/
def toJson (component : Component) : Json :=
  .object
    [("name", .string component.name),
      ("kind", .string component.form.name),
      ("props", .array (component.props.map ComponentProp.toJson)),
      ("hooks", .ofStrings component.hooks),
      ("events", .ofStrings component.events),
      ("accepts_children", .bool component.acceptsChildren),
      ("imports", .array (component.imports.map Import.toJson)),
      ("file_path", .string component.path),
      ("wrappers", .ofStrings component.wrappers)]

/-- The component that a JSON value stands for. -/
def ofJson? (json : Json) : Option Component := do
  let [name, form, props, hooks, events, acceptsChildren, imports, path, wrappers] ←
    json.record? ["name", "kind", "props", "hooks", "events", "accepts_children", "imports",
      "file_path", "wrappers"] | none
  pure
    { name := ← name.string?
      form := .ofName (← form.string?)
      props := ← props.records? ComponentProp.ofJson?
      hooks := ← hooks.strings?
      events := ← events.strings?
      acceptsChildren := ← acceptsChildren.bool?
      imports := ← imports.records? Import.ofJson?
      path := ← path.string?
      wrappers := ← wrappers.strings? }

end Component

namespace PlainFunction

/-- A function as JSON. -/
def toJson (function : PlainFunction) : Json :=
  .object
    [("name", .string function.name),
      ("params", .array (function.params.map Param.toJson)),
      ("return_type", .string function.returnType),
      ("is_async", .bool function.isAsync),
      ("is_exported", .bool function.isExported),
      ("imports", .array (function.imports.map Import.toJson)),
      ("file_path", .string function.path)]

/-- The function that a JSON value stands for. -/
def ofJson? (json : Json) : Option PlainFunction := do
  let [name, params, returnType, isAsync, isExported, imports, path] ←
    json.record? ["name", "params", "return_type", "is_async", "is_exported", "imports",
      "file_path"] | none
  pure
    { name := ← name.string?
      params := ← params.records? Param.ofJson?
      returnType := ← returnType.string?
      isAsync := ← isAsync.bool?
      isExported := ← isExported.bool?
      imports := ← imports.records? Import.ofJson?
      path := ← path.string? }

end PlainFunction

namespace FileSurvey

/-- A survey as JSON. -/
def toJson (survey : FileSurvey) : Json :=
  .object
    [("file_path", .string survey.path),
      ("file_type", .string survey.role.name),
      ("framework", .string survey.framework.name),
      ("components", .array (survey.components.map Component.toJson)),
      ("functions", .array (survey.functions.map PlainFunction.toJson)),
      ("imports", .array (survey.imports.map Import.toJson))]

/-- The survey that a JSON value stands for. -/
def ofJson? (json : Json) : Option FileSurvey := do
  let [path, role, framework, components, functions, imports] ←
    json.record? ["file_path", "file_type", "framework", "components", "functions", "imports"] | none
  pure
    { path := ← path.string?
      role := .ofName (← role.string?)
      framework := .ofName (← framework.string?)
      components := ← components.records? Component.ofJson?
      functions := ← functions.records? PlainFunction.ofJson?
      imports := ← imports.records? Import.ofJson? }

end FileSurvey

end ComponentSurvey
