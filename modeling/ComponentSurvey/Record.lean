/-!
# What a survey records

* `Import` — an import statement.
* `Param`, `PlainFunction` — a function that renders nothing, with its signature.
* `ComponentProp`, `Component` — a function that renders markup, with its props, hooks and events.
* `FileSurvey` — everything found in one file.

Types are written as descriptors: normal forms of their source text such as `string`, `User[]` or
`'a' | 'b'`.
-/

namespace ComponentSurvey

/-- The descriptor of a type of which nothing is known. -/
def anyType : String := "any"

/-- An import statement. -/
structure Import where
  source : String
  /-- The imported names; a whole module is imported as `* as` its alias. -/
  specifiers : List String
  isDefault : Bool
deriving DecidableEq, Repr, Inhabited

/-- A parameter of a function. -/
structure Param where
  /-- The name, or a rendering of the pattern that binds the argument. -/
  name : String
  type : String
  optional : Bool
  /-- The literal text of the default value, if there is one. -/
  default? : Option String
deriving DecidableEq, Repr, Inhabited

/-- A prop of a component. -/
structure ComponentProp where
  name : String
  type : String
  required : Bool
  /-- The literal text of the default value, if there is one. -/
  default? : Option String
deriving DecidableEq, Repr, Inhabited

/-- How a component is written. -/
inductive ComponentForm where
  | declaration
  | expression
  /-- A form that no survey finds; records that are read may name it. -/
  | other (name : String)
deriving DecidableEq, Repr, Inhabited

/-- The name of a form. -/
def ComponentForm.name : ComponentForm → String
  | .declaration => "declaration"
  | .expression => "expression"
  | .other name => name

/-- The form of a name. -/
def ComponentForm.ofName : String → ComponentForm
  | "declaration" => .declaration
  | "expression" => .expression
  | name => .other name

/-- A function that renders markup. -/
structure Component where
  name : String
  form : ComponentForm
  props : List ComponentProp
  hooks : List String
  events : List String
  acceptsChildren : Bool
  imports : List Import
  path : String
  /-- The wrappers around the function, the outermost first. -/
  wrappers : List String
deriving DecidableEq, Repr, Inhabited

/-- A function that renders nothing. -/
structure PlainFunction where
  name : String
  params : List Param
  returnType : String
  isAsync : Bool
  isExported : Bool
  imports : List Import
  path : String
deriving DecidableEq, Repr, Inhabited

/-- What a file is for. -/
inductive FileRole where
  | component
  | function
  | unknown
  /-- A role that no survey finds; records that are read may name it. -/
  | other (name : String)
deriving DecidableEq, Repr, Inhabited

/-- The name of a role. -/
def FileRole.name : FileRole → String
  | .component => "component"
  | .function => "function"
  | .unknown => "unknown"
  | .other name => name

/-- The role of a name. -/
def FileRole.ofName : String → FileRole
  | "component" => .component
  | "function" => .function
  | "unknown" => .unknown
  | name => .other name

/-- A file with components is for them, another one for its functions if it has any. -/
def FileRole.ofContents (components : List Component) (functions : List PlainFunction) : FileRole :=
  if !components.isEmpty then .component
  else if !functions.isEmpty then .function
  else .unknown

/-- The library a file renders with. -/
inductive Framework where
  | reactNative
  | react
  | vanilla
  /-- A framework that no survey finds; records that are read may name it. -/
  | other (name : String)
deriving DecidableEq, Repr, Inhabited

/-- The name of a framework. -/
def Framework.name : Framework → String
  | .reactNative => "react-native"
  | .react => "react"
  | .vanilla => "vanilla"
  | .other name => name

/-- The framework of a name. -/
def Framework.ofName : String → Framework
  | "react-native" => .reactNative
  | "react" => .react
  | "vanilla" => .vanilla
  | name => .other name

/-- Everything found in one file. -/
structure FileSurvey where
  path : String
  role : FileRole
  framework : Framework
  components : List Component
  functions : List PlainFunction
  imports : List Import
deriving DecidableEq, Repr, Inhabited

namespace FileSurvey

/-- Whether a survey found something to test. -/
def hasFindings (survey : FileSurvey) : Bool :=
  !survey.components.isEmpty || !survey.functions.isEmpty

/-- The hooks of all components of a file in the order of their first use. -/
def hooks (survey : FileSurvey) : List String :=
  (survey.components.flatMap Component.hooks).eraseDups

end FileSurvey

end ComponentSurvey
