/-!
# String literals in source text

* `Text.isQuote` — the marks that may enclose a string literal.
* `Text.unquoted` — the text of a literal without the marks around it.
-/

namespace ComponentSurvey

namespace Text

/-- Whether a character may enclose a string literal. -/
def isQuote (c : Char) : Bool := c == '\x27' || c == '\x22' || c == '\x60'

/-- The characters between two equal quotes, if the characters are of that form. -/
def between? : List Char → Option (List Char)
  | mark :: rest =>
    match rest.getLast? with
    | some last => if mark = last && isQuote mark then some rest.dropLast else none
    | none => none
  | [] => none

/-- The text of a literal without the quotes around it, or the text itself if it is not enclosed by
two equal quotes. -/
def unquoted (text : String) : String :=
  ((between? text.toList).map String.ofList).getD text

/-- A text in apostrophes. -/
def inApostrophes (text : String) : String := "'" ++ text ++ "'"

end Text

end ComponentSurvey
