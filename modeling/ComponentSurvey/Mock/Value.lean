import ComponentSurvey.Record
import ComponentSurvey.Text.Search

/-!
# Values for tests

* `mockValue` — a value for a type.
* `ComponentProp.mockValue` — a value for a prop, whose name counts more than its type.
-/

namespace ComponentSurvey

/-- A function that does nothing but record its calls. -/
def mockFunction : String := "jest.fn()"

/-- An object without fields. -/
def emptyObject : String := "\x7b\x7d"

/-- The values for descriptors that are known as a whole. -/
def mockValues : List (String × String) :=
  [("string", "'test-string'"),
    ("number", "42"),
    ("boolean", "true"),
    ("any", "undefined"),
    ("unknown", "undefined"),
    ("void", "undefined"),
    ("null", "null"),
    ("undefined", "undefined"),
    ("object", emptyObject),
    ("Function", mockFunction),
    ("array", "[]")]

/-- A value for a type: arrays are told by the end of the descriptor, functions by an arrow. -/
def mockValue (type : String) : String :=
  if Text.endsWith "[]" type then "[]"
  else if Text.occursIn "=>" type || type == "Function" then mockFunction
  else (mockValues.lookup type).getD emptyObject

/-- Words in the name of a prop that tell of its value, in the order they are looked for. -/
def propHints : List (String × String) :=
  [("id", "'test-id'"),
    ("name", "'Test Name'"),
    ("title", "'Test Title'"),
    ("label", "'Test Label'"),
    ("text", "'Test Text'"),
    ("disabled", "false"),
    ("loading", "false"),
    ("visible", "true"),
    ("active", "true")]

/-- A text with its ASCII letters in lower case. No other character has a lower-case form that takes
part in one of the words of `propHints`. -/
def lowered (text : String) : String := String.ofList (text.toList.map Char.toLower)

/-- The value that the name of a prop tells of. -/
def hintedValue? (name : String) : Option String :=
  (propHints.find? fun hint => Text.occursIn hint.1 (lowered name)).map Prod.snd

/-- A value for a prop: its name counts more than its type. -/
def ComponentProp.mockValue (prop : ComponentProp) : String :=
  if Text.startsWith "on" prop.name && 2 < prop.name.length then mockFunction
  else if prop.name == "children" then "'Test Children'"
  else if prop.name == "className" || prop.name == "style" then emptyObject
  else if prop.name == "testID" || prop.name == "data-testid" then "'test-id'"
  else (hintedValue? prop.name).getD (ComponentSurvey.mockValue prop.type)

end ComponentSurvey
