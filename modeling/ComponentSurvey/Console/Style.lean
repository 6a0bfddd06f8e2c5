import ComponentSurvey.Console.Color

/-!
# Styles of printed text

A style is written as words: emphases such as `bold`, which `not` denies, a colour, a colour
behind `on` for the background, and a target behind `link`.

* `Emphasis` — the ways to set text off, with their short names.
* `Style` and `Style.ofText` — a style and how it is read.
* `Style.text` — the words of a style in a fixed order.
* `Style.normalForm` — the text by which styles are compared.
-/

namespace ComponentSurvey

/-- A way to set text off. -/
inductive Emphasis where
  | bold
  | dim
  | italic
  | underline
  | blink
  | blink2
  | reverse
  | conceal
  | strike
  | underline2
  | frame
  | encircle
  | overline
deriving DecidableEq, Repr

namespace Emphasis

/-- The emphases in the order in which they are written. -/
def all : List Emphasis :=
  [.bold, .dim, .italic, .underline, .blink, .blink2, .reverse, .conceal, .strike, .underline2,
    .frame, .encircle, .overline]

/-- The name of an emphasis. -/
def name : Emphasis → String
  | .bold => "bold"
  | .dim => "dim"
  | .italic => "italic"
  | .underline => "underline"
  | .blink => "blink"
  | .blink2 => "blink2"
  | .reverse => "reverse"
  | .conceal => "conceal"
  | .strike => "strike"
  | .underline2 => "underline2"
  | .frame => "frame"
  | .encircle => "encircle"
  | .overline => "overline"

/-- The emphases with short names. -/
def shortNames : List (String × Emphasis) :=
  [("b", .bold), ("d", .dim), ("i", .italic), ("u", .underline), ("r", .reverse), ("c", .conceal),
    ("s", .strike), ("uu", .underline2), ("o", .overline)]

/-- The emphasis of a name or a short name. -/
def ofName? (word : String) : Option Emphasis :=
  (all.find? fun emphasis => emphasis.name == word).or (shortNames.lookup word)

end Emphasis

/-- A style. -/
structure Style where
  /-- The emphases that are set or denied, the last one first. -/
  emphases : List (Emphasis × Bool)
  color? : Option String
  background? : Option String
  link? : Option String
deriving DecidableEq, Repr

namespace Style

/-- The style that says nothing. -/
def plain : Style := ⟨[], none, none, none⟩

/-- The style that words add to another one. -/
def addWords (style : Style) : List String → Except StyleFault Style
  | [] => .ok style
  | word :: rest =>
    match Text.lowercase word, rest with
    | "on", color :: rest => do
      let color ← colorOf color
      addWords { style with background? := some color } rest
    | "not", name :: rest =>
      match Emphasis.ofName? name with
      | some emphasis =>
        addWords { style with emphases := (emphasis, false) :: style.emphases } rest
      | none => .error .unknownWord
    | "link", target :: rest => addWords { style with link? := some target } rest
    | "on", [] | "not", [] | "link", [] => .error .unknownWord
    | name, rest =>
      match Emphasis.ofName? name with
      | some emphasis =>
        addWords { style with emphases := (emphasis, true) :: style.emphases } rest
      | none => do
        let color ← colorOf name
        addWords { style with color? := some color } rest

/-- The style that a text stands for. -/
def ofText (text : String) : Except StyleFault Style :=
  if Text.trimmed text == "none" then .ok plain else plain.addWords (Text.words text)

/-- The words of a style in a fixed order. -/
def text (style : Style) : String :=
  let emphases := Emphasis.all.filterMap fun emphasis =>
    (style.emphases.lookup emphasis).map fun isSet =>
      if isSet then emphasis.name else "not " ++ emphasis.name
  let parts := emphases ++ style.color?.toList ++ (style.background?.map ("on " ++ ·)).toList ++
    (style.link?.map ("link " ++ ·)).toList
  if parts.isEmpty then "none" else " ".intercalate parts

/-- The text by which styles are compared: the words of the style that a text stands for, or else
the text itself in lower case. -/
def normalForm (text : String) : Except StyleFault String :=
  match ofText text with
  | .ok style => .ok style.text
  | .error .unknownWord => .ok (Text.lowercase (Text.trimmed text))
  | .error .missingNumber => .error .missingNumber

end Style

end ComponentSurvey
