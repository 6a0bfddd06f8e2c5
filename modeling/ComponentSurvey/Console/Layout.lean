import ComponentSurvey.Console.Markup
import ComponentSurvey.Console.Wrap

/-!
# Panels and tables

* `consoleWidth` — the cells of a line of the console.
* `Alignment` and `aligned` — a line at the left, in the middle or at the right of a width.
* `paragraph`, `verbatim` — text in lines of the console, and text whose lines stay as they are.
* `panel` — lines of text in a frame.
* `reduce`, `fitWidths` — the widths of columns that together are not wider than the console.
* `Column` and `table` — columns of cells in a grid under a title.
-/

namespace ComponentSurvey

/-- The cells of a line of the console. -/
def consoleWidth : Nat := 400

/-- Where a line stands in a width. -/
inductive Alignment where
  | left
  | center
  | right
deriving DecidableEq, Repr

/-- A number of blanks. -/
def blanks (count : Nat) : List Char := List.replicate count ' '

/-- A horizontal line. -/
def rule (count : Nat) : List Char := List.replicate count '─'

/-- A line filled up with blanks to a width; in the middle, an odd blank goes to the right. -/
def aligned (alignment : Alignment) (width : Nat) (line : List Char) : List Char :=
  let missing := width - Text.cells line
  match alignment with
  | .left => line ++ blanks missing
  | .center => blanks (missing / 2) ++ line ++ blanks (missing - missing / 2)
  | .right => blanks missing ++ line

/-- Lines, each with a line feed at its end. -/
def unlines (lines : List (List Char)) : String :=
  String.ofList (lines.flatMap fun line => line ++ ['\n'])

/-! ### Paragraphs and panels -/

/-- Text in lines of the console. -/
def paragraph (text : String) : String := unlines (Wrap.lines consoleWidth .fold text.toList)

/-- Text whose lines stay as they are, but for tabs and for white space beyond the console. -/
def verbatim (text : String) : String :=
  unlines ((Text.split '\n' text.toList).map fun line =>
    Wrap.trimExcess consoleWidth (Wrap.expandTabs line))

/-- Lines of text in a frame, which is as wide as the text. -/
def framed (text : List Char) : String :=
  let width := min (Wrap.measure text) (consoleWidth - 4)
  let lines := if width = 0 then [] else Wrap.lines width .fold text
  let body := lines.map fun line => ['│', ' '] ++ aligned .left width line ++ [' ', '│']
  unlines ([['╭'] ++ rule (width + 2) ++ ['╮']] ++ body ++ [['╰'] ++ rule (width + 2) ++ ['╯']])

/-- Text with markup in a frame. -/
def panel (content : String) : Except Markup.Fault String :=
  (Markup.printed content).map fun text => framed text.toList

/-! ### Widths of columns -/

/-- A quotient rounded to the nearest number, and a half to the even one. -/
def roundedQuotient (total parts : Nat) : Nat :=
  let quotient := total / parts
  let double := 2 * (total % parts)
  if double < parts then quotient
  else if parts < double then quotient + 1
  else quotient + quotient % 2

/-- Takes a total away from the chosen among some widths, evenly and from none of them more than its
limit. The number of those that are still to come is given. -/
def reduce : Nat → Nat → List (Bool × Nat × Nat) → List Nat
  | _, _, [] => []
  | total, shares, (chosen, limit, width) :: rest =>
    if chosen && shares != 0 then
      let taken := min limit (roundedQuotient total shares)
      (width - taken) :: reduce (total - taken) (shares - 1) rest
    else width :: reduce total shares rest

/-- Takes a total away from the widths that are chosen and have a limit above zero. -/
def reduceChosen (total : Nat) (chosen : Nat → Bool) (limit : Nat → Nat) (widths : List Nat) :
    List Nat :=
  let marked := widths.map fun width => (chosen width && limit width != 0, limit width, width)
  reduce total (marked.filter fun mark => mark.1).length marked

/-- Makes the widest columns as narrow as the next ones, again and again, until the widths are at
most a limit together or all the same. Every round leaves fewer different widths. -/
def levelWidths (limit : Nat) : Nat → List Nat → List Nat
  | 0, widths => widths
  | rounds + 1, widths =>
    let excess := Text.total widths - limit
    let widest := widths.foldl max 0
    let second := (widths.filter (· != widest)).foldl max 0
    let difference := widest - second
    if excess = 0 || difference = 0 then widths
    else
      levelWidths limit rounds
        (reduceChosen excess (· == widest) (fun _ => min excess difference) widths)

/-- Widths that are at most a limit together. -/
def fitWidths (limit : Nat) (widths : List Nat) : List Nat :=
  let leveled := levelWidths limit (widths.length + Text.total widths) widths
  let excess := Text.total leveled - limit
  if excess = 0 then leveled else reduceChosen excess (fun _ => true) id leveled

/-! ### Tables -/

/-- A column of a table. -/
structure Column where
  header : String
  alignment : Alignment
  cells : List String

/-- A column whose cells are texts without markup. -/
structure RenderedColumn where
  header : List Char
  alignment : Alignment
  cells : List (List Char)

/-- The cells of a column without their markup. -/
def Column.render (column : Column) : Except Markup.Fault RenderedColumn :=
  (column.cells.mapM Markup.render).map fun cells =>
    ⟨column.header.toList, column.alignment, cells.map String.toList⟩

namespace RenderedColumn

/-- The width of a column with a blank on both sides: that of its widest text. -/
def width (column : RenderedColumn) : Nat :=
  ((column.header :: column.cells).map Wrap.measure).foldl max 0 + 2

/-- The lines of a cell in a width that has a blank on both sides. -/
def cellLines (column : RenderedColumn) (width : Nat) (text : List Char) : List (List Char) :=
  let inner := width - 2
  let trim := if column.alignment = .left then id else Wrap.trimEnd
  if inner = 0 then []
  else
    (Wrap.rawLines inner .ellipsis text).map fun line =>
      [' '] ++ aligned column.alignment inner (Wrap.shorten .ellipsis inner (trim line)) ++ [' ']

end RenderedColumn

/-- The widths of columns, which fit together with the lines between them into the console. -/
def columnWidths (columns : List RenderedColumn) : List Nat :=
  let limit := consoleWidth - (columns.length + 1)
  let widths := columns.map RenderedColumn.width
  if Text.total widths ≤ limit then widths
  else (fitWidths limit widths).zipWith min widths

/-- A horizontal line of a grid. -/
def gridRule (left middle right : Char) (widths : List Nat) : List Char :=
  [left] ++ [middle].intercalate (widths.map rule) ++ [right]

/-- One line of a row of a grid. -/
def gridLine (cells : List (List Char)) : List Char :=
  ['│'] ++ ['│'].intercalate cells ++ ['│']

/-- The lines of a row, which is as high as its tallest cell; the lines of the others stand at its
top or at its bottom. -/
def gridRow (atBottom : Bool) (widths : List Nat) (cells : List (List (List Char))) :
    List (List Char) :=
  let height := cells.foldl (fun height lines => max height lines.length) 1
  let filled := (widths.zip cells).map fun (width, lines) =>
    let missing := List.replicate (height - lines.length) (blanks width)
    if atBottom then missing ++ lines else lines ++ missing
  (List.range height).map fun index => gridLine (filled.map fun lines => lines.getD index [])

/-- The lines of a table under a title. -/
def tableLines (title : String) (columns : List RenderedColumn) : List (List Char) :=
  let widths := columnWidths columns
  let total := Text.total widths + columns.length + 1
  let row (atBottom : Bool) (text : RenderedColumn → List Char) : List (List Char) :=
    gridRow atBottom widths ((columns.zip widths).map fun (column, width) =>
      column.cellLines width (text column))
  let height := columns.foldl (fun height column => max height column.cells.length) 0
  [aligned .center total title.toList, gridRule '╭' '┬' '╮' widths] ++
    row true RenderedColumn.header ++ [gridRule '├' '┼' '┤' widths] ++
    (List.range height).flatMap (fun index => row false fun column => column.cells.getD index []) ++
    [gridRule '╰' '┴' '╯' widths]

/-- A table under a title. Its cells are read column by column, and then their styles. -/
def table (title : String) (columns : List Column) : Except Markup.Fault String := do
  let rendered ← columns.mapM Column.render
  columns.forM fun column => column.cells.forM Markup.checkStyles
  pure (unlines (tableLines title rendered))

end ComponentSurvey
