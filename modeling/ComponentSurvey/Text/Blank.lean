/-!
# White space

* `Text.isBlank` — the characters that count as white space: those that Unicode gives the property,
  and the four information separators below the space.
* `Text.unspaced` — a text without its white space.
* `Text.trimmed` — a text without the white space at its ends.
-/

namespace ComponentSurvey

namespace Text

/-- Whether a character is white space. -/
def isBlank (c : Char) : Bool :=
  let code := c.toNat
  (0x09 ≤ code && code ≤ 0x0D) || (0x1C ≤ code && code ≤ 0x20) || code == 0x85 || code == 0xA0 ||
    code == 0x1680 || (0x2000 ≤ code && code ≤ 0x200A) || code == 0x2028 || code == 0x2029 ||
    code == 0x202F || code == 0x205F || code == 0x3000

/-- A text without its white space. -/
def unspaced (text : String) : String :=
  String.ofList (text.toList.filter fun c => !isBlank c)

/-- A text without the white space at its ends. -/
def trimmed (text : String) : String :=
  String.ofList (((text.toList.dropWhile isBlank).reverse.dropWhile isBlank).reverse)

end Text

end ComponentSurvey
