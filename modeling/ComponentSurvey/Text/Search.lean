/-!
# Searching in text

Whether a text starts with, ends with or contains another, as questions about lists of characters.

* `Text.startsWith`, `Text.endsWith`, `Text.occursIn` — the three questions.
* `Text.startsWith_iff`, `Text.endsWith_iff`, `Text.occursIn_iff` — what they ask.
-/

namespace ComponentSurvey

namespace Text

/-- Whether a text starts with `head`. -/
def startsWith (head text : String) : Bool := head.toList.isPrefixOf text.toList

/-- Whether a text ends with `tail`. -/
def endsWith (tail text : String) : Bool := tail.toList.isSuffixOf text.toList

/-- Whether some characters occur one after the other in others. -/
def occursInList (word : List Char) : List Char → Bool
  | [] => word.isEmpty
  | c :: rest => word.isPrefixOf (c :: rest) || occursInList word rest

/-- Whether `word` occurs anywhere in a text. -/
def occursIn (word text : String) : Bool := occursInList word.toList text.toList

theorem startsWith_iff {head text : String} :
    startsWith head text = true ↔ head.toList <+: text.toList := by
  simp [startsWith]

theorem endsWith_iff {tail text : String} :
    endsWith tail text = true ↔ tail.toList <:+ text.toList := by
  simp [endsWith]

theorem occursInList_iff {word text : List Char} :
    occursInList word text = true ↔ word <:+: text := by
  induction text with
  | nil => simp [occursInList]
  | cons c rest ih =>
    rw [occursInList, Bool.or_eq_true, List.isPrefixOf_iff_prefix, ih, List.infix_cons_iff]

theorem occursIn_iff {word text : String} :
    occursIn word text = true ↔ word.toList <:+: text.toList :=
  occursInList_iff

end Text

end ComponentSurvey
