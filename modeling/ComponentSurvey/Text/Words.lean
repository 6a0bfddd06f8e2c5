import ComponentSurvey.Text.Blank

/-!
# Words

* `Text.wordsOf`, `Text.words` — the longest runs of characters that are not white space.
-/

namespace ComponentSurvey

namespace Text

/-- Puts a character in front of words: as a word of its own, or at the start of the first one. -/
def putBefore (c : Char) (alone : Bool) : List (List Char) → List (List Char)
  | [] => [[c]]
  | word :: words => if alone then [c] :: word :: words else (c :: word) :: words

/-- The longest runs of characters that are not white space. -/
def wordsOf : List Char → List (List Char)
  | [] => []
  | c :: rest =>
    if isBlank c then wordsOf rest else putBefore c (rest.head?.all isBlank) (wordsOf rest)

/-- The words of a text. -/
def words (text : String) : List String := (wordsOf text.toList).map String.ofList

end Text

end ComponentSurvey
