import ComponentSurvey.Text.Digit
import ComponentSurvey.Text.Hex
import ComponentSurvey.Text.Printable
import ComponentSurvey.Text.Search
import ComponentSurvey.Text.WordCharacter

/-!
# Lexemes of values

A tag may give values to a handler. Their text is read as numerals, quoted texts, names and marks.

* `Lexeme` — a numeral, a text, a name or a mark.
* `LexemeFault` — why a text cannot be divided into lexemes.
* `Bracket` — a bracket that is open.
* `Lexemes` and `Lexemes.ofChars` — the lexemes of a text; `Shortfall` — why there are no more.
-/

namespace ComponentSurvey

/-- A part of the text of a value. -/
inductive Lexeme where
  | numeral (imaginary : Bool)
  /-- A quoted text, which may stand for bytes or hold values of its own, and whether all its
  characters are plain ones. -/
  | text (bytes hasValues plain : Bool)
  | name (name : String)
  | mark (mark : String)
  /-- The end of a line outside of brackets. -/
  | lineEnd
deriving DecidableEq, Repr

/-- Why a text cannot be divided into lexemes. -/
inductive LexemeFault where
  | openText (line : Nat)
  | openLongText (line : Nat)
  | strayBracket (closing : Char)
  | wrongBracket (closing opening : Char) (line? : Option Nat)
  | badCharacter (c : Char)
  | badNumeral (kind : String)
  | badDigit (digit : Char) (kind : String)
  | leadingZeros
  | nullCharacter
deriving DecidableEq, Repr

namespace LexemeFault

/-- The code point of a character as it is written in messages. -/
def codeText (c : Char) : String :=
  "U+" ++ String.ofList ((Text.hex 4 c.toNat).map Char.toUpper)

/-- The wording of a fault. -/
def message : LexemeFault → String
  | .openText line => s!"unterminated string literal (detected at line {line})"
  | .openLongText line => s!"unterminated triple-quoted string literal (detected at line {line})"
  | .strayBracket closing => s!"unmatched '{closing}'"
  | .wrongBracket closing opening line? =>
    let place := line?.elim "" fun line => s!" on line {line}"
    s!"closing parenthesis '{closing}' does not match opening parenthesis '{opening}'{place}"
  | .badCharacter c =>
    if Text.isPrintable c then s!"invalid character '{c}' ({codeText c})"
    else s!"invalid non-printable character {codeText c}"
  | .badNumeral kind => s!"invalid {kind} literal"
  | .badDigit digit kind => s!"invalid digit '{digit}' in {kind} literal"
  | .leadingZeros =>
    "leading zeros in decimal integer literals are not permitted; use an 0o prefix for octal integers"
  | .nullCharacter => "source code string cannot contain null bytes"

end LexemeFault

/-- A bracket that is open, and its line. -/
structure Bracket where
  opening : Char
  line : Nat
deriving DecidableEq, Repr

/-- What stands where lexemes end before their text is complete. -/
inductive Shortfall where
  /-- A bracket is never closed. -/
  | openBracket (opening : Char)
  /-- Something other than the end of a line stands behind a backslash. -/
  | textBehindBackslash
deriving DecidableEq, Repr

/-- The wording of a shortfall. -/
def Shortfall.message : Shortfall → String
  | .openBracket opening => s!"'{opening}' was never closed"
  | .textBehindBackslash => "unexpected character after line continuation character"

/-- The lexemes of a text, each with the number of brackets around it. -/
structure Lexemes where
  items : List (Lexeme × Nat)
  shortfall? : Option Shortfall
deriving DecidableEq, Repr

namespace Lexemes

/-! ### Numerals -/

/-- Whether a character may stand in a name. -/
def isNameChar (c : Char) : Bool := c.isAlphanum || c == '_' || 0x80 ≤ c.toNat

/-- The words that may follow a numeral without a blank. -/
def wordsBehindNumerals : List String := ["and", "else", "for", "if", "in", "is", "or", "not"]

/-- Checks that a numeral ends where it must. -/
def checkEnd (kind : String) (rest : List Char) : Except LexemeFault (List Char) :=
  if wordsBehindNumerals.any fun word => word.toList.isPrefixOf rest then .ok rest
  else if rest.head?.any fun c => c.isAlphanum || c == '_' then .error (.badNumeral kind)
  else .ok rest

/-- What follows digits, between which single underscores may stand. -/
def behindDigits (isDigit : Char → Bool) (kind : String) :
    Nat → List Char → Except LexemeFault (List Char)
  | 0, rest => .ok rest
  | fuel + 1, text =>
    match text.dropWhile isDigit with
    | '_' :: d :: rest =>
      if isDigit d then behindDigits isDigit kind fuel (d :: rest) else .error (.badNumeral kind)
    | ['_'] => .error (.badNumeral kind)
    | rest => .ok rest

/-- What follows the digits of a numeral with another base; there must be at least one. -/
def behindBased (isDigit : Char → Bool) (kind : String) (text : List Char) :
    Except LexemeFault (List Char) := do
  let digits := if text.head? = some '_' then text.tail else text
  match digits with
  | d :: _ =>
    if isDigit d then
      let rest ← behindDigits isDigit kind text.length digits
      match rest with
      | e :: _ => if e.isDigit then throw (.badDigit e kind) else checkEnd kind rest
      | [] => pure rest
    else if d.isDigit then throw (.badDigit d kind)
    else throw (.badNumeral kind)
  | [] => throw (.badNumeral kind)

/-- What follows the digits of a decimal numeral. -/
def behindDecimal (text : List Char) : Except LexemeFault (List Char) :=
  behindDigits Char.isDigit "decimal" (text.length + 1) text

/-- What follows an exponent, if there is one. -/
def behindExponent (text : List Char) : Except LexemeFault (List Char) :=
  match text with
  | e :: rest =>
    if e = 'e' || e = 'E' then
      match rest with
      | sign :: digits =>
        if sign = '+' || sign = '-' then
          if digits.head?.any Char.isDigit then behindDecimal digits
          else .error (.badNumeral "decimal")
        else if sign.isDigit then behindDecimal rest
        else checkEnd "decimal" text
      | [] => checkEnd "decimal" text
    else .ok text
  | [] => .ok text

/-- The end of a numeral: whether it is imaginary, and what follows. -/
def numeralEnd (text : List Char) : Except LexemeFault (Bool × List Char) :=
  match text with
  | c :: rest =>
    if c = 'j' || c = 'J' then (checkEnd "imaginary" rest).map fun rest => (true, rest)
    else (checkEnd "decimal" text).map fun rest => (false, rest)
  | [] => .ok (false, text)

/-- What follows the point of a numeral. -/
def behindPoint (text : List Char) : Except LexemeFault (Bool × List Char) := do
  let rest ← if text.head?.any Char.isDigit then behindDecimal text else pure text
  numeralEnd (← behindExponent rest)

/-- A numeral that starts with a digit: whether it is imaginary, and what follows. -/
def numeral (text : List Char) : Except LexemeFault (Bool × List Char) := do
  let based (isDigit : Char → Bool) (kind : String) (rest : List Char) :=
    (behindBased isDigit kind rest).map fun rest => (false, rest)
  match text with
  | '0' :: 'x' :: rest | '0' :: 'X' :: rest =>
    based (fun c => (Text.hexDigit? c).isSome) "hexadecimal" rest
  | '0' :: 'o' :: rest | '0' :: 'O' :: rest => based (fun c => '0' ≤ c && c ≤ '7') "octal" rest
  | '0' :: 'b' :: rest | '0' :: 'B' :: rest => based (fun c => c == '0' || c == '1') "binary" rest
  | _ =>
    let rest ← behindDecimal text
    match rest with
    | '.' :: rest => behindPoint rest
    | _ =>
      let behind ← behindExponent rest
      let digits := (text.take (text.length - rest.length)).filter (· != '_')
      let isWhole := behind.length = rest.length && !behind.head?.any fun c => c = 'j' || c = 'J'
      if isWhole && digits.head? = some '0' && digits.any (· != '0') then throw .leadingZeros
      else numeralEnd behind

/-! ### Texts and names -/

/-- What follows a text that ends with a quotation mark in the same line. -/
def behindText (quote : Char) (line : Nat) : List Char → Except LexemeFault (List Char)
  | [] => .error (.openText line)
  | '\n' :: _ => .error (.openText line)
  | '\\' :: _ :: rest => behindText quote line rest
  | c :: rest => if c = quote then .ok rest else behindText quote line rest

/-- What follows a text that ends with three quotation marks. -/
def behindLongText (quote : Char) (line : Nat) : List Char → Except LexemeFault (List Char)
  | [] => .error (.openLongText line)
  | '\\' :: _ :: rest => behindLongText quote line rest
  | c :: rest =>
    if [quote, quote, quote].isPrefixOf (c :: rest) then .ok (rest.drop 2)
    else behindLongText quote line rest

/-- How many line ends characters hold. -/
def lineEnds (chars : List Char) : Nat := chars.count '\n'

/-- What follows a text whose quotation mark is the first character. -/
def behindQuote (line : Nat) (text : List Char) : Except LexemeFault (List Char) :=
  match text with
  | a :: b :: c :: rest =>
    if a = b ∧ b = c then behindLongText a (line + lineEnds rest) rest
    else behindText a line (b :: c :: rest)
  | a :: rest => behindText a line rest
  | [] => .ok []

/-- The letters in front of a quotation mark, in lower case, that belong to the text. -/
def textLetters : List String := ["b", "r", "u", "f", "br", "rb", "fr", "rf"]

/-- Checks the characters of a name. -/
def checkName : List Char → Except LexemeFault Unit
  | [] => .ok ()
  | first :: rest =>
    if first.toNat ≥ 0x80 && (!Text.isWordCharacter first || (Text.digit? first).isSome) then
      .error (.badCharacter first)
    else
      match rest.find? fun c => c.toNat ≥ 0x80 && !Text.isWordCharacter c with
      | some c => .error (.badCharacter c)
      | none => .ok ()

/-- The marks of more than one character, the longest first. -/
def longMarks : List String :=
  ["**=", "//=", "...", "<<=", ">>=", "!=", "%=", "&=", "**", "*=", "+=", "-=", "->", "//", "/=",
    ":=", "<<", "<=", "<>", "==", ">=", ">>", "@=", "^=", "|="]

/-- The mark at the start of a text. -/
def markAt (c : Char) (rest : List Char) : String :=
  (longMarks.find? fun mark => mark.toList.isPrefixOf (c :: rest)).getD (String.ofList [c])

/-- The bracket that a closing one belongs to. -/
def openingOf (closing : Char) : Char := if closing = ')' then '(' else '\x7b'

/-! ### Whole texts -/

/-- Adds a lexeme in front. -/
def put (lexeme : Lexeme) (depth : Nat) (lexemes : Lexemes) : Lexemes :=
  { lexemes with items := (lexeme, depth) :: lexemes.items }

/-- The lexemes of a text, with the brackets that are open, the innermost first, and the line. A step
uses up at least one character, so that the length of the text is enough fuel. -/
def scan : Nat → List Bracket → Nat → List Char → Except LexemeFault Lexemes
  | 0, brackets, _, _ | _, brackets, _, [] =>
    .ok ⟨[], brackets.head?.map fun bracket => .openBracket bracket.opening⟩
  | fuel + 1, brackets, line, c :: rest =>
    let depth := brackets.length
    if c = ' ' || c = '\t' || c = '\x0c' then scan fuel brackets line rest
    else if c = '#' then scan fuel brackets line (rest.dropWhile (· != '\n'))
    else if c = '\n' then
      if brackets.isEmpty then (scan fuel brackets (line + 1) rest).map (put .lineEnd depth)
      else scan fuel brackets (line + 1) rest
    else if c = '\\' then
      match rest with
      | '\n' :: rest => scan fuel brackets (line + 1) rest
      | _ => .ok ⟨[], some .textBehindBackslash⟩
    else if c.isDigit || (c = '.' && rest.head?.any Char.isDigit) then do
      let (imaginary, behind) ← if c = '.' then behindPoint rest else numeral (c :: rest)
      (scan fuel brackets line behind).map (put (.numeral imaginary) depth)
    else if c = '\x22' || c = '\x27' then do
      let behind ← behindQuote line (c :: rest)
      let body := rest.take (rest.length - behind.length)
      let plain := body.all fun d => d.toNat < 0x80
      (scan fuel brackets (line + lineEnds body) behind).map (put (.text false false plain) depth)
    else if isNameChar c then do
      let name := (c :: rest).takeWhile isNameChar
      let behind := rest.drop (name.length - 1)
      let letters := String.ofList (name.map Char.toLower)
      if textLetters.contains letters && behind.head?.any fun d => d = '\x22' || d = '\x27' then
        let behindText ← behindQuote line behind
        let body := behind.take (behind.length - behindText.length)
        let plain := body.all fun d => d.toNat < 0x80
        let isBytes := letters.toList.contains 'b'
        (scan fuel brackets (line + lineEnds body) behindText).map
          (put (.text isBytes (letters.toList.contains 'f') plain) depth)
      else
        checkName name
        (scan fuel brackets line behind).map (put (.name (String.ofList name)) depth)
    else if c = '(' || c = '\x7b' then
      (scan fuel (⟨c, line⟩ :: brackets) line rest).map
        (put (.mark (String.ofList [c])) (depth + 1))
    else if c = ')' || c = '\x7d' then
      match brackets with
      | [] => .error (.strayBracket c)
      | bracket :: outer =>
        if bracket.opening = openingOf c then
          (scan fuel outer line rest).map (put (.mark (String.ofList [c])) (depth - 1))
        else
          .error (.wrongBracket c bracket.opening
            (if bracket.line = line then none else some bracket.line))
    else if !Text.isPrintable c then .error (.badCharacter c)
    else
      let mark := markAt c rest
      (scan fuel brackets line (rest.drop (mark.length - 1))).map (put (.mark mark) depth)

/-- The lexemes of a text. -/
def ofChars (text : List Char) : Except LexemeFault Lexemes :=
  if text.contains '\x00' then .error .nullCharacter else scan (text.length + 1) [] 1 text

end Lexemes

end ComponentSurvey
