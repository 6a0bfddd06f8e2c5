import ComponentSurvey.Text.Blank
import ComponentSurvey.Text.CellWidth
import ComponentSurvey.Text.Split

/-!
# Lines of a given width

Text is laid out in lines of at most some cells. A line ends where the next word would not fit; a
word that fits into no line is folded or cut.

* `Wrap.measure` — the cells that a text takes where nothing limits it.
* `Wrap.expandTabs` — tabs filled up with blanks.
* `Wrap.chunks` — words with the white space around them.
* `Wrap.fill` — words put into lines.
* `Wrap.shorten` — a line cut to a width.
* `Wrap.lines` — the lines of a text.
-/

namespace ComponentSurvey

namespace Wrap

/-! ### Measuring -/

/-- Whether a character ends a line where a text is measured. -/
def endsLine (c : Char) : Bool :=
  c == '\n' || c == '\x1c' || c == '\x1d' || c == '\x1e' || c == '\u0085' ||
    c == '\u2028' || c == '\u2029'

/-- The cells of the widest line, when some of the first line are counted already. -/
def measureFrom (counted : Nat) : List Char → Nat
  | [] => counted
  | c :: rest =>
    if endsLine c then max counted (measureFrom 0 rest)
    else measureFrom (counted + Text.cellWidth c) rest

/-- The cells of the widest line of a text. -/
def measure (text : List Char) : Nat := measureFrom 0 text

/-! ### Tabs -/

/-- The distance of tab stops. -/
def tabStop : Nat := 8

/-- Fills tabs up with blanks, from a cell on. -/
def expandFrom (cell : Nat) : List Char → List Char
  | [] => []
  | c :: rest =>
    if c = '\t' then
      let gap := tabStop - cell % tabStop
      List.replicate gap ' ' ++ expandFrom (cell + gap) rest
    else c :: expandFrom (cell + Text.cellWidth c) rest

/-- Fills the tabs of a line up with blanks. -/
def expandTabs (line : List Char) : List Char := expandFrom 0 line

/-! ### Words -/

/-- How long the first word of a text is, with the white space before it and behind it. -/
def chunkLength (text : List Char) : Nat :=
  let front := (text.takeWhile Text.isBlank).length
  let word := ((text.drop front).takeWhile fun c => !Text.isBlank c).length
  let back := ((text.drop (front + word)).takeWhile Text.isBlank).length
  front + word + back

/-- The words of a text, each with the white space behind it, and the first one also with that before
it. Where there are no words, the white space is the only chunk. -/
def chunks (text : List Char) : List (List Char) :=
  if chunkLength text = 0 then []
  else text.take (chunkLength text) :: chunks (text.drop (chunkLength text))
termination_by text.length
decreasing_by
  have : text ≠ [] := by rintro rfl; simp_all [chunkLength]
  have := List.length_pos_iff.2 this
  simp only [List.length_drop]
  omega

/-- A text without the white space at its end. -/
def trimEnd (text : List Char) : List Char := (text.reverse.dropWhile Text.isBlank).reverse

/-! ### Filling lines -/

/-- Cuts a word into parts of at most some cells. The first part is empty if not even one character
fits. -/
def foldFrom (width used : Nat) (part : List Char) : List Char → List (List Char)
  | [] => [part]
  | c :: rest =>
    if width < used + Text.cellWidth c then part :: foldFrom width (Text.cellWidth c) [c] rest
    else foldFrom width (used + Text.cellWidth c) (part ++ [c]) rest

/-- Cuts a word into parts of at most some cells. -/
def fold (width : Nat) (word : List Char) : List (List Char) := foldFrom width 0 [] word

/-- How a word that fits into no line is laid out. -/
inductive Overflow where
  /-- It goes on in further lines. -/
  | fold
  /-- It is cut, and an ellipsis tells so. -/
  | ellipsis
deriving DecidableEq, Repr

/-- A line, unless it is empty, in front of others. -/
def putLine (line : List Char) (lines : List (List Char)) : List (List Char) :=
  if line.isEmpty then lines else line :: lines

/-- Puts chunks into lines, the first of which holds something already. -/
def fillFrom (width : Nat) (overflow : Overflow) (line : List Char) :
    List (List Char) → List (List Char)
  | [] => [line]
  | chunk :: rest =>
    let word := trimEnd chunk
    if Text.cells line + Text.cells word ≤ width then fillFrom width overflow (line ++ chunk) rest
    else if overflow = .fold ∧ width < Text.cells word then
      let parts := fold width chunk
      let lines := if line.isEmpty then parts.dropWhile List.isEmpty else line :: parts
      lines.dropLast ++ fillFrom width overflow (lines.getLastD []) rest
    else putLine line (fillFrom width overflow chunk rest)

/-- Puts the words of a text into lines. -/
def fill (width : Nat) (overflow : Overflow) (text : List Char) : List (List Char) :=
  fillFrom width overflow [] (chunks text)

/-! ### Cutting lines -/

/-- Leaves out white space at the end of a line that has more characters than cells. -/
def trimExcess (width : Nat) (line : List Char) : List Char :=
  let blanks := line.length - (trimEnd line).length
  line.take (line.length - min blanks (line.length - width))

/-- The start of a line that takes exactly some cells. A character of two cells of which only the
first is left becomes a blank, and a line that is too short gets blanks. -/
def takeCells : Nat → List Char → List Char
  | 0, _ => []
  | width + 1, [] => List.replicate (width + 1) ' '
  | width + 1, c :: rest =>
    if Text.cellWidth c ≤ width + 1 then c :: takeCells (width + 1 - Text.cellWidth c) rest
    else [' ']

/-- A line cut to a width. -/
def shorten (overflow : Overflow) (width : Nat) (line : List Char) : List Char :=
  if Text.cells line ≤ width then line
  else
    match overflow with
    | .fold => takeCells width line
    | .ellipsis => takeCells (width - 1) line ++ ['…']

/-- The lines of a text, before they are cut to their width. -/
def rawLines (width : Nat) (overflow : Overflow) (text : List Char) : List (List Char) :=
  (Text.split '\n' text).flatMap fun line =>
    (fill width overflow (expandTabs line)).map (trimExcess width)

/-- The lines of a text in a width. -/
def lines (width : Nat) (overflow : Overflow) (text : List Char) : List (List Char) :=
  (rawLines width overflow text).map (shorten overflow width)

end Wrap

end ComponentSurvey
