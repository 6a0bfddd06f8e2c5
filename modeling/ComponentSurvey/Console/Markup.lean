import ComponentSurvey.Console.Emoji
import ComponentSurvey.Console.Handler
import ComponentSurvey.Console.Style

/-!
# Markup of printed text

Printed text may hold tags in brackets that set its style. The console has no colours, so that tags
only vanish; but a closing tag needs an open one of the same style.

* `Markup.tagAt?` — the tag at the start of a text.
* `Markup.Piece` and `Markup.pieces` — the plain text and the tags of a text.
* `Markup.Fault` — what can be wrong with tags.
* `Markup.Opened`, `Markup.close` — the open tags, and the one that a closing tag ends.
* `Markup.render` — the text without its tags and with its pictures.
* `Markup.checkStyles`, `Markup.printed` — the styles are read once the tags are known to match.
-/

namespace ComponentSurvey

namespace Markup

/-- What can be wrong with tags. -/
inductive Fault where
  /-- No tag of the style of a closing tag is open. -/
  | unmatched (tag : String) (position : Nat)
  /-- No tag at all is open. -/
  | nothingToClose (position : Nat)
  /-- A tag calls a handler with arguments that cannot be read. -/
  | badHandler (fault : Handler.Fault)
  /-- A tag names a style with a number that cannot be read. -/
  | badStyle (fault : StyleFault)
deriving DecidableEq, Repr

/-- The wording of a fault. -/
def Fault.message : Fault → String
  | .unmatched tag position =>
    s!"closing tag '[{tag}]' at position {position} doesn't match any open tag"
  | .nothingToClose position => s!"closing tag '[/]' at position {position} has nothing to close"
  | .badHandler fault => fault.message
  | .badStyle fault => fault.message

/-! ### Tags and plain text -/

/-- Whether a character may be the first one of a tag. -/
def startsTag (c : Char) : Bool :=
  ('a' ≤ c && c ≤ 'z') || c == '#' || c == '/' || c == '@'

/-- What stands in the brackets of a tag, after the opening one: all up to the next closing one,
with no opening one in between. -/
def tagBody? : List Char → Option (List Char)
  | c :: rest =>
    if startsTag c then
      let body := rest.takeWhile fun d => d != '[' && d != ']'
      match rest.drop body.length with
      | ']' :: _ => some (c :: body)
      | _ => none
    else none
  | [] => none

/-- The tag at the start of a text, and the number of backslashes in front of it. -/
def tagAt? (text : List Char) : Option (Nat × List Char) :=
  let slashes := text.takeWhile (· == '\\')
  match text.drop slashes.length with
  | '[' :: rest => (tagBody? rest).map fun body => (slashes.length, body)
  | _ => none

/-- A piece of a text. -/
inductive Piece where
  /-- Plain text between tags. -/
  | text (chars : List Char)
  /-- Backslashes in front of a tag, or a tag that a backslash makes plain text of. -/
  | escaped (chars : List Char)
  /-- A tag and its position. -/
  | tag (body : List Char) (position : Nat)
deriving DecidableEq, Repr

/-- The pieces of a tag behind backslashes: every two of them stand for one, and one that is left
makes plain text of the tag. -/
def tagPieces (position slashes : Nat) (body : List Char) : List Piece :=
  (if slashes / 2 = 0 then [] else [.escaped (List.replicate (slashes / 2) '\\')]) ++
    if slashes % 2 = 1 then [.escaped ('[' :: body ++ [']'])]
    else [.tag body (position + 2 * (slashes / 2))]

/-- Puts a character of plain text in front of pieces. -/
def putChar (c : Char) : List Piece → List Piece
  | .text chars :: rest => .text (c :: chars) :: rest
  | pieces => .text [c] :: pieces

/-- The pieces of a text from a position on, of which `skip` characters are used up already. Outside
of tags, a backslash in front of a bracket is left out. -/
def piecesFrom : Nat → Nat → List Char → List Piece
  | _, _, [] => []
  | skip + 1, position, _ :: rest => piecesFrom skip (position + 1) rest
  | 0, position, c :: rest =>
    match tagAt? (c :: rest) with
    | some (slashes, body) =>
      tagPieces position slashes body ++
        piecesFrom (slashes + body.length + 1) (position + 1) rest
    | none =>
      let others := piecesFrom 0 (position + 1) rest
      if c = '\\' ∧ rest.head? = some '[' then others else putChar c others

/-- The pieces of a text. -/
def pieces (text : String) : List Piece := piecesFrom 0 0 text.toList

/-! ### Opening and closing -/

/-- An open tag. -/
structure Opened where
  /-- The normal form of the style it names. -/
  style : String
  /-- What follows an equals sign. -/
  parameters? : Option String
deriving DecidableEq, Repr

namespace Opened

/-- Whether a tag calls a handler. -/
def isHandler (opened : Opened) : Bool := Text.startsWith "@" opened.style

/-- The style of a tag with its parameters. -/
def styleText (opened : Opened) : String :=
  opened.parameters?.elim opened.style fun parameters => opened.style ++ " " ++ parameters

/-- Checks the handler that a tag calls when it is closed. -/
def checkHandler (opened : Opened) : Except Fault Unit :=
  if opened.isHandler then (Handler.check (opened.parameters?.getD "")).mapError .badHandler
  else .ok ()

/-- Checks the numbers in the style of a tag with its parameters. -/
def checkStyle (opened : Opened) : Except Fault Unit :=
  if opened.isHandler then .ok ()
  else ((Style.normalForm opened.styleText).mapError Fault.badStyle).map fun _ => ()

end Opened

/-- The name in a tag: what stands in front of an equals sign. -/
def nameOf (body : List Char) : List Char := body.takeWhile (· != '=')

/-- What stands behind the equals sign of a tag. -/
def parametersOf? (body : List Char) : Option String :=
  match body.drop (nameOf body).length with
  | _ :: parameters => some (String.ofList parameters)
  | [] => none

/-- The normal form of a style that a tag names. -/
def styleOf (name : List Char) : Except Fault String :=
  (Style.normalForm (String.ofList name)).mapError .badStyle

/-- Takes out the last open tag of a style. -/
def takeStyle (style : String) : List Opened → Option (Opened × List Opened)
  | [] => none
  | opened :: others =>
    if opened.style = style then some (opened, others)
    else (takeStyle style others).map fun (found, rest) => (found, opened :: rest)

/-- The tag that a closing tag ends, and those that stay open. -/
def close (opened : List Opened) (body name : List Char) (position : Nat) :
    Except Fault (Opened × List Opened) :=
  if (Text.trimmed (String.ofList name)).isEmpty then
    match opened with
    | last :: others => .ok (last, others)
    | [] => .error (.nothingToClose position)
  else do
    let style ← styleOf name
    match takeStyle style opened with
    | some found => pure found
    | none => throw (.unmatched (String.ofList body) position)

/-- What an opening tag opens. -/
def opening (body : List Char) : Except Fault Opened :=
  (styleOf (nameOf body)).map fun style => ⟨style, parametersOf? body⟩

/-- The open tags, the last one first, after a tag. -/
def step (opened : List Opened) (body : List Char) (position : Nat) :
    Except Fault (List Opened) :=
  match nameOf body with
  | '/' :: name => do
    let (last, others) ← close opened body name position
    last.checkHandler
    pure others
  | _ => (opening body).map (· :: opened)

/-- Whether a character would move the cursor of the console; such characters are not printed. -/
def movesCursor (c : Char) : Bool :=
  c == '\x07' || c == '\x08' || c == '\x0b' || c == '\x0c' || c == '\r'

/-- Plain text as it is printed: with its pictures, and without what would move the cursor. -/
def shown (chars : List Char) : List Char := (Emoji.replaced chars).filter fun c => !movesCursor c

/-- The plain text among pieces, if every closing tag has an open one. -/
def renderPieces (opened : List Opened) : List Piece → Except Fault (List Char)
  | [] => .ok []
  | .text chars :: rest | .escaped chars :: rest =>
    (renderPieces opened rest).map (shown chars ++ ·)
  | .tag body position :: rest => do
    let opened ← step opened body position
    renderPieces opened rest

/-- Checks the styles of all tags that open something. -/
def checkPieces : List Piece → Except Fault Unit
  | [] => .ok ()
  | .text _ :: rest | .escaped _ :: rest => checkPieces rest
  | .tag body _ :: rest => do
    unless body.head? = some '/' do
      (← opening body).checkStyle
    checkPieces rest

/-- A text as it is printed without markup. -/
def plain (text : String) : String := String.ofList (shown text.toList)

/-- A text without its tags, if they match. -/
def render (text : String) : Except Fault String :=
  (renderPieces [] (pieces text)).map String.ofList

/-- Checks the styles in a text whose tags match. -/
def checkStyles (text : String) : Except Fault Unit := checkPieces (pieces text)

/-- A text as it is printed: without its tags, which match and have styles that can be read. -/
def printed (text : String) : Except Fault String := do
  let chars ← render text
  checkStyles text
  pure chars

end Markup

end ComponentSurvey
