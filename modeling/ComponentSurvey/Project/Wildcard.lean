/-!
# Wildcards

A wildcard is a text in which `*` stands for any run of characters, `?` for any single one and
brackets for one of a set; all else stands for itself.

* `Wildcard.Piece` and `Wildcard.ofString` — a wildcard taken apart.
* `Wildcard.setOf` — the set that stands between brackets.
* `Wildcard.fits` — whether pieces stand for a whole text.
* `Wildcard.answers` — the same for every end of the pieces.
* `Wildcard.column`, `column_eq` — these answers found with one pass over the text.
* `Wildcard.accepts`, `accepts_eq_fits` — the answer in time that grows with the two lengths only.
-/

namespace ComponentSurvey

namespace Wildcard

/-- A part of a set of characters. -/
inductive SetItem where
  | one (c : Char)
  | range (low high : Char)
deriving DecidableEq, Repr

/-- A part of a wildcard. -/
inductive Piece where
  /-- Any run of characters. -/
  | run
  /-- Any single character. -/
  | any
  /-- A character that is, or is not, in a set. -/
  | set (negated : Bool) (items : List SetItem)
  /-- The character itself. -/
  | char (c : Char)
deriving DecidableEq, Repr

/-! ### Sets -/

/-- A character between brackets, or a hyphen that makes a range of its neighbours. -/
inductive Mark where
  | char (c : Char)
  | hyphen
deriving DecidableEq, Repr

/-- The runs of characters between the hyphens that make ranges. The characters next to such a
hyphen, and `kept` ones at the start, are never such hyphens themselves. -/
def chunks : Nat → List Char → List (List Char)
  | _, [] => [[]]
  | 0, '-' :: rest => [] :: chunks 2 rest
  | kept, c :: rest =>
    match chunks (kept - 1) rest with
    | first :: others => (c :: first) :: others
    | [] => [[c]]

/-- A hyphen at the end is a character. -/
def closeChunks : List (List Char) → List (List Char)
  | [chunk, []] => [chunk ++ ['-']]
  | chunk :: rest => chunk :: closeChunks rest
  | [] => []

/-- Drops the ranges whose ends are in the wrong order, from the right. -/
def dropReversed : List (List Char) → List (List Char)
  | [] => []
  | chunk :: rest =>
    match dropReversed rest with
    | [] => [chunk]
    | next :: others =>
      match chunk.getLast?, next.head? with
      | some low, some high =>
        if high < low then (chunk.dropLast ++ next.tail) :: others else chunk :: next :: others
      | _, _ => chunk :: next :: others

/-- The marks between brackets. -/
def marks (body : List Char) : List Mark :=
  let kept := if body.head? = some '!' then 2 else 1
  let parts :=
    if body.contains '-' then dropReversed (closeChunks (chunks kept body)) else [body]
  [Mark.hyphen].intercalate (parts.map (List.map Mark.char))

/-- The items that marks stand for. -/
def itemsOf : List Mark → List SetItem
  | .char low :: .hyphen :: .char high :: rest => .range low high :: itemsOf rest
  | .char c :: rest => .one c :: itemsOf rest
  | .hyphen :: rest => .one '-' :: itemsOf rest
  | [] => []

/-- The set that stands between brackets; an exclamation mark in front negates it. -/
def setOf (body : List Char) : Piece :=
  match marks body with
  | .char '!' :: rest => .set true (itemsOf rest)
  | all => .set false (itemsOf all)

/-- What stands between an opening bracket and the next closing one, which is neither the first
character nor the one after an exclamation mark in front. -/
def bracketBody? (rest : List Char) : Option (List Char) :=
  let negation := rest.takeWhile (· == '!') |>.take 1
  let bracket := (rest.drop negation.length).takeWhile (· == ']') |>.take 1
  let front := negation ++ bracket
  let body := (rest.drop front.length).takeWhile (· != ']')
  if (front ++ body).length < rest.length then some (front ++ body) else none

/-! ### Whole wildcards -/

/-- The pieces of a wildcard, from which `skip` characters that a set has used up are left out. -/
def piecesFrom : Nat → List Char → List Piece
  | _, [] => []
  | skip + 1, _ :: rest => piecesFrom skip rest
  | 0, '*' :: rest => .run :: piecesFrom 0 rest
  | 0, '?' :: rest => .any :: piecesFrom 0 rest
  | 0, '[' :: rest =>
    match bracketBody? rest with
    | some body => setOf body :: piecesFrom (body.length + 1) rest
    | none => .char '[' :: piecesFrom 0 rest
  | 0, c :: rest => .char c :: piecesFrom 0 rest

/-- The pieces of a wildcard. -/
def ofString (text : String) : List Piece := piecesFrom 0 text.toList

/-- Whether an item of a set has a character. -/
def SetItem.has (c : Char) : SetItem → Bool
  | .one item => c == item
  | .range low high => low ≤ c && c ≤ high

/-- Whether a piece stands for a character. -/
def Piece.accepts (c : Char) : Piece → Bool
  | .run => true
  | .any => true
  | .set negated items => items.any (SetItem.has c) != negated
  | .char item => c == item

/-- Whether pieces stand for a whole text. -/
def fits : List Piece → List Char → Bool
  | [], text => text.isEmpty
  | .run :: pieces, [] => fits pieces []
  | .run :: pieces, c :: rest => fits pieces (c :: rest) || fits (.run :: pieces) rest
  | _ :: _, [] => false
  | piece :: pieces, c :: rest => piece.accepts c && fits pieces rest
termination_by pieces text => pieces.length + text.length

/-! ### All ends of a wildcard at once -/

/-- For every end of the pieces, the whole of them first, whether it stands for the text. -/
def answers (text : List Char) : List Piece → List Bool
  | [] => [fits [] text]
  | piece :: pieces => fits (piece :: pieces) text :: answers text pieces

/-- The answer for the whole of the pieces. -/
def whole : List Bool → Bool
  | [] => false
  | answer :: _ => answer

@[simp] theorem whole_cons (answer : Bool) (below : List Bool) : whole (answer :: below) = answer :=
  rfl

@[simp] theorem whole_answers (text : List Char) (pieces : List Piece) :
    whole (answers text pieces) = fits pieces text := by
  cases pieces <;> rfl

/-- The answers for the empty text. -/
def emptyColumn : List Piece → List Bool
  | [] => [true]
  | .run :: pieces =>
    let below := emptyColumn pieces
    whole below :: below
  | _ :: pieces => false :: emptyColumn pieces

/-- The answers for a text that begins with `c`, from the answers for the text after it. -/
def nextColumn (c : Char) : List Piece → List Bool → List Bool
  | [], _ => [false]
  | .run :: pieces, after =>
    let below := nextColumn c pieces after.tail
    (whole below || whole after) :: below
  | piece :: pieces, after =>
    (piece.accepts c && whole after.tail) :: nextColumn c pieces after.tail

/-- The answers for a text, found from its end to its start. -/
def column (pieces : List Piece) (text : List Char) : List Bool :=
  text.foldr (fun c after => nextColumn c pieces after) (emptyColumn pieces)

theorem emptyColumn_eq (pieces : List Piece) : emptyColumn pieces = answers [] pieces := by
  induction pieces with
  | nil => simp [emptyColumn, answers, fits]
  | cons piece pieces ih => cases piece <;> simp [emptyColumn, answers, fits, ih]

theorem nextColumn_eq (c : Char) (text : List Char) (pieces : List Piece) :
    nextColumn c pieces (answers text pieces) = answers (c :: text) pieces := by
  induction pieces with
  | nil => simp [nextColumn, answers, fits]
  | cons piece pieces ih =>
    cases piece <;> simp [nextColumn, ih, answers, fits]

/-- One pass over the text finds the answer for every end of the pieces. -/
theorem column_eq (pieces : List Piece) (text : List Char) :
    column pieces text = answers text pieces := by
  induction text with
  | nil => exact emptyColumn_eq pieces
  | cons c text ih =>
    rw [← nextColumn_eq, ← ih]
    rfl

/-- Whether pieces stand for a whole text. -/
def accepts (pieces : List Piece) (text : List Char) : Bool := whole (column pieces text)

theorem accepts_eq_fits (pieces : List Piece) (text : List Char) :
    accepts pieces text = fits pieces text := by
  rw [accepts, column_eq, whole_answers]

/-- Whether a wildcard stands for a whole text. -/
def covers (pattern text : String) : Bool := accepts (ofString pattern) text.toList

end Wildcard

end ComponentSurvey
