import ComponentSurvey.Text.Quoted
import ComponentSurvey.Text.Search
import ComponentSurvey.Text.Similarity

/-!
# Arguments of the command line

* `Switch`, `Setting`, `OptionSpec` — the options that a command knows.
* `UsageFault` — what can be wrong with the arguments, with `UsageFault.message`.
* `suggestion` — the names that a misspelt one may stand for.
* `Arguments.scan` — options and other arguments told apart.
-/

namespace ComponentSurvey

/-- An option that is given or not. -/
inductive Switch where
  | json
  | verbose
  | version
  | help
deriving DecidableEq, Repr

/-- An option that has a value. -/
inductive Setting where
  | exclude
  | pattern
deriving DecidableEq, Repr

/-- What an option means. -/
inductive OptionMeaning where
  | switch (which : Switch)
  | setting (which : Setting)
deriving DecidableEq, Repr

/-- An option of a command, under one of its names. -/
structure OptionSpec where
  name : String
  meaning : OptionMeaning
deriving DecidableEq, Repr

/-- What can be wrong with the arguments. -/
inductive UsageFault where
  /-- An option that is not known, and those that it may stand for. -/
  | noSuchOption (name : String) (similar : List String)
  | needsValue (option : String)
  | takesNoValue (option : String)
  | missingArgument (label : String)
  | noSuchPath (label what path : String)
  | pathIsDirectory (label what path : String)
  | extraArguments (arguments : List String)
  /-- A command that is not known, and those that it may stand for. -/
  | noSuchCommand (name : String) (similar : List String)
  | missingCommand
deriving DecidableEq, Repr

/-- The words that name what a misspelt name may stand for. -/
def suggestion (noun : String) (similar : List String) : String :=
  let list := ", ".intercalate (similar.map Text.quoted)
  match similar with
  | [] => ""
  | [_] => s!" Did you mean {list}?"
  | _ => s!" (Possible {noun}: {list})"

namespace UsageFault

/-- The wording of a fault. -/
def message : UsageFault → String
  | .noSuchOption name similar =>
    s!"No such option {Text.quoted name}." ++ suggestion "options" similar
  | .needsValue option => s!"Option {Text.quoted option} requires an argument."
  | .takesNoValue option => s!"Option {Text.quoted option} does not take a value."
  | .missingArgument label => s!"Missing argument '{label}'."
  | .noSuchPath label what path =>
    s!"Invalid value for '{label}': {what} {Text.quoted path} does not exist."
  | .pathIsDirectory label what path =>
    s!"Invalid value for '{label}': {what} {Text.quoted path} is a directory."
  | .extraArguments arguments =>
    let noun := if arguments.length = 1 then "argument" else "arguments"
    let list := " ".intercalate arguments
    s!"Got unexpected extra {noun} ({list})"
  | .noSuchCommand name similar =>
    s!"No such command {Text.quoted name}." ++ suggestion "commands" similar
  | .missingCommand => "Missing command."

/-- Whether a fault is shown with the usage of the command. -/
def showsUsage : UsageFault → Bool
  | .needsValue _ | .takesNoValue _ => false
  | _ => true

end UsageFault

/-- The arguments of a command, told apart. -/
structure Arguments where
  switches : List Switch
  settings : List (Setting × String)
  others : List String
deriving DecidableEq, Repr

namespace Arguments

/-- No arguments. -/
def empty : Arguments := ⟨[], [], []⟩

/-- Adds switches in front. -/
def addSwitches (switches : List Switch) (arguments : Arguments) : Arguments :=
  { arguments with switches := switches ++ arguments.switches }

/-- Adds a setting in front. -/
def addSetting (setting : Setting) (value : String) (arguments : Arguments) : Arguments :=
  { arguments with settings := (setting, value) :: arguments.settings }

/-- Adds another argument in front. -/
def addOther (argument : String) (arguments : Arguments) : Arguments :=
  { arguments with others := argument :: arguments.others }

/-- Whether a switch is given. -/
def has (arguments : Arguments) (switch : Switch) : Bool := arguments.switches.contains switch

/-- The values given for a setting, in their order. -/
def valuesOf (arguments : Arguments) (setting : Setting) : List String :=
  (arguments.settings.filter fun given => given.1 == setting).map Prod.snd

/-- The name of an option and the value that an equals sign gives it. -/
def splitValue (argument : List Char) : String × Option String :=
  let name := argument.takeWhile (· != '=')
  match argument.drop name.length with
  | _ :: value => (String.ofList name, some (String.ofList value))
  | [] => (String.ofList name, none)

/-- The option of a name. -/
def find? (specs : List OptionSpec) (name : String) : Option OptionMeaning :=
  (specs.find? fun spec => spec.name == name).map OptionSpec.meaning

/-- The names with two dashes. -/
def longNames (specs : List OptionSpec) : List String :=
  (specs.map OptionSpec.name).filter (Text.startsWith "--")

/-- The switches of a cluster of one-letter options. -/
def cluster (specs : List OptionSpec) : List Char → Except UsageFault (List Switch)
  | [] => .ok []
  | c :: rest =>
    let name := String.ofList ['-', c]
    match find? specs name with
    | some (.switch which) => (cluster specs rest).map (which :: ·)
    | _ => .error (.noSuchOption name [])

/-- How an argument reads: as an option of two dashes, as a cluster of one-letter options after one,
as the mark that no options follow, or as none of these. -/
inductive Reading where
  | long (name : String) (value? : Option String)
  | short (letters : List Char)
  | noMoreOptions
  | other
deriving DecidableEq, Repr

/-- How an argument reads. -/
def reading (argument : String) : Reading :=
  match argument.toList with
  | ['-', '-'] => .noMoreOptions
  | '-' :: '-' :: rest =>
    let (name, value?) := splitValue ('-' :: '-' :: rest)
    .long name value?
  | '-' :: c :: rest => .short (c :: rest)
  | _ => .other

/-- Tells options and other arguments apart. Unless they may be `mixed`, no options follow the first
other argument. -/
def scan (specs : List OptionSpec) (mixed : Bool) : List String → Except UsageFault Arguments
  | [] => .ok empty
  | argument :: rest =>
    match reading argument with
    | .noMoreOptions => .ok { empty with others := rest }
    | .other =>
      if mixed then (scan specs mixed rest).map (addOther argument)
      else .ok { empty with others := argument :: rest }
    | .short letters =>
      match cluster specs letters with
      | .error fault => .error fault
      | .ok switches => (scan specs mixed rest).map (addSwitches switches)
    | .long name value? =>
      match find? specs name, value? with
      | none, _ => .error (.noSuchOption name (Text.similarTo name (longNames specs)))
      | some (.switch _), some _ => .error (.takesNoValue name)
      | some (.switch which), none => (scan specs mixed rest).map (addSwitches [which])
      | some (.setting which), some value => (scan specs mixed rest).map (addSetting which value)
      | some (.setting which), none =>
        match rest with
        | [] => .error (.needsValue name)
        | value :: rest => (scan specs mixed rest).map (addSetting which value)

end Arguments

end ComponentSurvey
