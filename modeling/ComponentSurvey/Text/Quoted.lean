import ComponentSurvey.Text.Hex
import ComponentSurvey.Text.Printable

/-!
# Quoted text in messages

Messages quote names so that no character of them is invisible.

* `Text.quoteMark` — an apostrophe, or a double quote where only apostrophes occur.
* `Text.quoted` — the text between two such marks, with escapes for the mark, for backslashes and
  for what cannot be printed.
-/

namespace ComponentSurvey

namespace Text

/-- The mark a text is quoted with. -/
def quoteMark (text : List Char) : Char :=
  if text.contains '\x27' && !text.contains '\x22' then '\x22' else '\x27'

/-- How a character is written between two marks. -/
def quotedChar (mark c : Char) : List Char :=
  if c = '\\' || c = mark then ['\\', c]
  else if c = '\t' then ['\\', 't']
  else if c = '\n' then ['\\', 'n']
  else if c = '\r' then ['\\', 'r']
  else if isPrintable c then [c]
  else if c.toNat < 0x100 then '\\' :: 'x' :: hex 2 c.toNat
  else if c.toNat < 0x10000 then '\\' :: 'u' :: hex 4 c.toNat
  else '\\' :: 'U' :: hex 8 c.toNat

/-- A text between two marks. -/
def quoted (text : String) : String :=
  let chars := text.toList
  let mark := quoteMark chars
  String.ofList (mark :: chars.flatMap (quotedChar mark) ++ [mark])

end Text

end ComponentSurvey
