/-!
# JSON values

* `Json` — a value; numbers are integers, which is all that surveys need.
* `Json.field?` and the views `Json.string?`, `Json.bool?`, `Json.int?`, `Json.array?` — the parts of
  a value.
-/

namespace ComponentSurvey

/-- A JSON value. -/
inductive Json where
  | null
  | bool (value : Bool)
  | int (value : Int)
  | string (value : String)
  | array (items : List Json)
  | object (fields : List (String × Json))
deriving Inhabited

namespace Json

/-- The value of a field of an object, unless it is absent or null. -/
def field? (name : String) : Json → Option Json
  | .object fields =>
    match fields.lookup name with
    | some .null => none
    | found => found
  | _ => none

/-- The text of a string. -/
def string? : Json → Option String
  | .string value => some value
  | _ => none

/-- The value of a Boolean. -/
def bool? : Json → Option Bool
  | .bool value => some value
  | _ => none

/-- The value of a number. -/
def int? : Json → Option Int
  | .int value => some value
  | _ => none

/-- The items of an array. -/
def array? : Json → Option (List Json)
  | .array items => some items
  | _ => none

/-- The items of an array that are all strings. -/
def strings? (json : Json) : Option (List String) :=
  json.array?.bind fun items => items.mapM string?

/-- An array of strings. -/
def ofStrings (items : List String) : Json := .array (items.map .string)

/-- A string, or null where there is none. -/
def ofString? (text? : Option String) : Json := text?.elim .null .string

end Json

end ComponentSurvey
