import ComponentSurvey.Json.Value
import ComponentSurvey.Text.Hex

/-!
# Writing JSON

Values are written in ASCII: every other character is escaped by its UTF-16 code units. Items and
fields stand on lines of their own, two blanks deeper than what holds them.

* `Json.escaped` — a character between quotes.
* `Json.quote` — a string literal.
* `Json.pretty` — the written form of a value.
-/

namespace ComponentSurvey

namespace Json

/-- An escape by a UTF-16 code unit. -/
def unitEscape (unit : Nat) : List Char := '\\' :: 'u' :: Text.hex 4 unit

/-- How a character is written in a string literal. -/
def escaped (c : Char) : List Char :=
  if c = '\x22' then ['\\', '\x22']
  else if c = '\\' then ['\\', '\\']
  else if c = '\n' then ['\\', 'n']
  else if c = '\r' then ['\\', 'r']
  else if c = '\t' then ['\\', 't']
  else if c = '\x0c' then ['\\', 'f']
  else if c = '\x08' then ['\\', 'b']
  else if 0x20 ≤ c.toNat ∧ c.toNat ≤ 0x7E then [c]
  else if c.toNat < 0x10000 then unitEscape c.toNat
  else
    let offset := c.toNat - 0x10000
    unitEscape (0xD800 + offset / 0x400) ++ unitEscape (0xDC00 + offset % 0x400)

/-- The literal of a string. -/
def quote (text : String) : List Char :=
  '\x22' :: text.toList.flatMap escaped ++ ['\x22']

/-- A line break and the blanks in front of the next line. -/
def newline (depth : Nat) : List Char := '\n' :: List.replicate (2 * depth) ' '

mutual

/-- The written form of a value that stands at a depth. -/
def prettyAt (depth : Nat) : Json → List Char
  | .null => "null".toList
  | .bool true => "true".toList
  | .bool false => "false".toList
  | .int value => (toString value).toList
  | .string value => quote value
  | .array [] => ['[', ']']
  | .array (item :: rest) =>
    '[' :: newline (depth + 1) ++ prettyAt (depth + 1) item ++ prettyItems (depth + 1) rest
      ++ newline depth ++ [']']
  | .object [] => ['\x7b', '\x7d']
  | .object ((name, value) :: rest) =>
    '\x7b' :: newline (depth + 1) ++ quote name ++ [':', ' '] ++ prettyAt (depth + 1) value
      ++ prettyFields (depth + 1) rest ++ newline depth ++ ['\x7d']

/-- The written form of the items of an array after the first. -/
def prettyItems (depth : Nat) : List Json → List Char
  | [] => []
  | item :: rest => ',' :: newline depth ++ prettyAt depth item ++ prettyItems depth rest

/-- The written form of the fields of an object after the first. -/
def prettyFields (depth : Nat) : List (String × Json) → List Char
  | [] => []
  | (name, value) :: rest =>
    ',' :: newline depth ++ quote name ++ [':', ' '] ++ prettyAt depth value
      ++ prettyFields depth rest

end

/-- The written form of a value. -/
def pretty (json : Json) : String := String.ofList (json.prettyAt 0)

end Json

end ComponentSurvey
