import ComponentSurvey.Console.Layout
import ComponentSurvey.Record
import ComponentSurvey.Text.Search
import ComponentSurvey.Text.Thousands

/-!
# Reports on the console

* `Param.text`, `signature`, `ComponentProp.text` — records as they would be written in a source.
* `headerPanel` — the frame around the name of a file.
* `FileSurvey.report`, `summaryReport` — what is printed for a file, and for several.
* `Printout.ofPrints` — what several prints give, up to the first that fails.
-/

namespace ComponentSurvey

/-! ### Records as text -/

/-- The text of a default value behind a name and a type. -/
def defaultSuffix (default? : Option String) : String := default?.elim "" (" = " ++ ·)

/-- A parameter as it is written in a signature. -/
def Param.text (param : Param) : String :=
  let mark := if param.optional && !Text.startsWith "..." param.name then "?" else ""
  param.name ++ mark ++ ": " ++ param.type ++ defaultSuffix param.default?

/-- The signature of a function. -/
def signature (params : List Param) (returnType : String) (isAsync : Bool) : String :=
  (if isAsync then "async " else "") ++ "(" ++ ", ".intercalate (params.map Param.text) ++ ") => "
    ++ returnType

/-- A prop as it is written in a list of props. -/
def ComponentProp.text (prop : ComponentProp) : String :=
  let mark := if prop.required then "" else "?"
  prop.name ++ mark ++ ": " ++ prop.type ++ defaultSuffix prop.default?

/-- The icon of success or failure. -/
def statusIcon (success : Bool) : String := if success then "[green]✓[/green]" else "[red]✗[/red]"

/-! ### Parts of a report -/

/-- The frame around a title and possibly a line below it. -/
def headerPanel (title subtitle : String) : Except Markup.Fault String :=
  panel ("[bold cyan]" ++ title ++ "[/bold cyan]" ++ if subtitle = "" then "" else "\n" ++ subtitle)

/-- Texts in one cell, or a dash where there are none. -/
def orDash (separator : String) (texts : List String) : String :=
  let joined := separator.intercalate texts
  if joined = "" then "-" else joined

/-- The name of a component and the wrappers around it. -/
def Component.title (component : Component) : String :=
  if component.wrappers.isEmpty then component.name
  else component.name ++ " (" ++ " > ".intercalate component.wrappers ++ ")"

/-- The columns of the table of components. -/
def componentColumns (components : List Component) : List Column :=
  [⟨"Name", .left, components.map Component.title⟩,
    ⟨"Kind", .left, components.map fun component => component.form.name⟩,
    ⟨"Props", .left, components.map fun component =>
      orDash "\n" (component.props.map ComponentProp.text)⟩,
    ⟨"Hooks", .left, components.map fun component => orDash ", " component.hooks⟩,
    ⟨"Events", .left, components.map fun component => orDash ", " component.events⟩]

/-- The columns of the table of functions. -/
def functionColumns (functions : List PlainFunction) : List Column :=
  [⟨"Name", .left, functions.map PlainFunction.name⟩,
    ⟨"Signature", .left, functions.map fun function =>
      signature function.params function.returnType function.isAsync⟩,
    ⟨"Exported", .center, functions.map fun function => statusIcon function.isExported⟩]

/-- The line below the name of a file. -/
def FileSurvey.subtitle (survey : FileSurvey) : String :=
  s!"type: {survey.role.name}  framework: {survey.framework.name}  imports: {survey.imports.length}"

/-- A print: the text, or the fault in its markup. -/
abbrev Print := Except Markup.Fault String

/-- What is printed for a file. -/
def FileSurvey.report (survey : FileSurvey) : List Print :=
  [.ok "\n", headerPanel survey.path survey.subtitle] ++
    (if survey.components.isEmpty then []
      else [table "Components" (componentColumns survey.components)]) ++
    if survey.functions.isEmpty then []
    else [table "Functions" (functionColumns survey.functions)]

/-- What is printed for several files. -/
def summaryReport (surveys : List FileSurvey) : List Print :=
  let withRole (role : FileRole) : Nat :=
    (surveys.filter fun survey => survey.role == role).length
  let counts : List (String × Nat) :=
    [("Files analyzed", surveys.length),
      ("Component files", withRole .component),
      ("Function files", withRole .function),
      ("Total components", Text.total (surveys.map fun survey => survey.components.length)),
      ("Total functions", Text.total (surveys.map fun survey => survey.functions.length))]
  [.ok "\n",
    table "Analysis Results"
      [⟨"Metric", .left, counts.map Prod.fst⟩,
        ⟨"Count", .right, counts.map fun count => Text.thousands count.2⟩]]

/-- A line of text with markup. -/
def markedLine (text : String) : Print := (Markup.printed text).map paragraph

/-- A line of text without markup. -/
def plainLine (text : String) : Print := .ok (verbatim (Markup.plain text))

/-- What came out on the console, and the fault that ended it. -/
structure Printout where
  text : String
  fault? : Option Markup.Fault
deriving DecidableEq, Repr

/-- What prints give, up to the first that fails. -/
def Printout.ofPrints : List Print → Printout
  | [] => ⟨"", none⟩
  | .ok text :: rest =>
    let others := ofPrints rest
    ⟨text ++ others.text, others.fault?⟩
  | .error fault :: _ => ⟨"", some fault⟩

end ComponentSurvey
