import ComponentSurvey.Json.Value
import ComponentSurvey.Text.Hex

/-!
# Reading JSON

The reader accepts JSON with integers for numbers. It takes characters from the front of a list and
gives back those it leaves; a bound on the depth of the recursion, which the length of the text
provides, makes it total.

* `Json.stringBody` — the characters of a string literal after its opening quote.
* `Json.value` — a value at the front of a text.
* `Json.parse` — the value that a whole text stands for.
-/

namespace ComponentSurvey

namespace Json

/-- Whether a character may stand between the parts of a value. -/
def isSpace (c : Char) : Bool := c == ' ' || c == '\t' || c == '\n' || c == '\r'

/-- A text from its first character that is no white space. -/
def skipSpace (text : List Char) : List Char := text.dropWhile isSpace

/-- The character that a short escape stands for. -/
def shortEscape? : Char → Option Char
  | '\x22' => some '\x22'
  | '\\' => some '\\'
  | '/' => some '/'
  | 'b' => some '\x08'
  | 'f' => some '\x0c'
  | 'n' => some '\n'
  | 'r' => some '\r'
  | 't' => some '\t'
  | _ => none

/-- The character of a code unit outside the surrogates. -/
def ofUnit? (unit : Nat) : Option Char :=
  if 0xD800 ≤ unit ∧ unit < 0xE000 then none else some (Char.ofNat unit)

/-- The character of a pair of surrogates. -/
def ofPair? (high low : Nat) : Option Char :=
  if 0xD800 ≤ high ∧ high < 0xDC00 ∧ 0xDC00 ≤ low ∧ low < 0xE000 then
    some (Char.ofNat (0x10000 + (high - 0xD800) * 0x400 + (low - 0xDC00)))
  else none

/-- Puts a character in front of the string that the rest of a literal stands for. -/
def consChar (c? : Option Char) (rest : Option (List Char × List Char)) :
    Option (List Char × List Char) :=
  match c?, rest with
  | some c, some (chars, left) => some (c :: chars, left)
  | _, _ => none

/-- The characters of a string literal after its opening quote, and what follows the literal. -/
def stringBody : List Char → Option (List Char × List Char)
  | [] => none
  | '\x22' :: rest => some ([], rest)
  | '\\' :: 'u' :: a :: b :: c :: d :: rest =>
    match Text.ofHex? [a, b, c, d] with
    | none => none
    | some unit =>
      if 0xD800 ≤ unit ∧ unit < 0xDC00 then
        match rest with
        | '\\' :: 'u' :: e :: f :: g :: h :: rest =>
          consChar ((Text.ofHex? [e, f, g, h]).bind (ofPair? unit)) (stringBody rest)
        | _ => none
      else consChar (ofUnit? unit) (stringBody rest)
  | '\\' :: e :: rest => consChar (shortEscape? e) (stringBody rest)
  | c :: rest => if c.toNat < 0x20 then none else consChar (some c) (stringBody rest)

/-- The number that decimal digits stand for. -/
def ofDigits (digits : List Char) : Nat :=
  digits.foldl (fun value c => 10 * value + (c.toNat - 48)) 0

/-- A natural number at the front of a text. -/
def natural? (text : List Char) : Option (Nat × List Char) :=
  match text.takeWhile Char.isDigit with
  | [] => none
  | digits => some (ofDigits digits, text.dropWhile Char.isDigit)

/-- An integer at the front of a text. -/
def integer? : List Char → Option (Json × List Char)
  | '-' :: rest => (natural? rest).map fun (n, left) => (.int (-n), left)
  | text => (natural? text).map fun (n, left) => (.int n, left)

mutual

/-- A value at the front of a text, and what follows it. -/
def value : Nat → List Char → Option (Json × List Char)
  | 0, _ => none
  | depth + 1, text =>
    match skipSpace text with
    | 'n' :: 'u' :: 'l' :: 'l' :: rest => some (.null, rest)
    | 't' :: 'r' :: 'u' :: 'e' :: rest => some (.bool true, rest)
    | 'f' :: 'a' :: 'l' :: 's' :: 'e' :: rest => some (.bool false, rest)
    | '\x22' :: rest =>
      (stringBody rest).map fun (chars, left) => (.string (String.ofList chars), left)
    | '[' :: rest =>
      match skipSpace rest with
      | ']' :: rest => some (.array [], rest)
      | rest => (items depth rest).map fun (items, left) => (.array items, left)
    | '\x7b' :: rest =>
      match skipSpace rest with
      | '\x7d' :: rest => some (.object [], rest)
      | rest => (fields depth rest).map fun (fields, left) => (.object fields, left)
    | rest => integer? rest

/-- The items of an array after its opening bracket, and what follows the array. -/
def items : Nat → List Char → Option (List Json × List Char)
  | 0, _ => none
  | depth + 1, text =>
    match value depth text with
    | none => none
    | some (item, left) =>
      match skipSpace left with
      | ']' :: rest => some ([item], rest)
      | ',' :: rest => (items depth rest).map fun (others, left) => (item :: others, left)
      | _ => none

/-- The fields of an object after its opening brace, and what follows the object. -/
def fields : Nat → List Char → Option (List (String × Json) × List Char)
  | 0, _ => none
  | depth + 1, text =>
    match skipSpace text with
    | '\x22' :: rest =>
      match stringBody rest with
      | none => none
      | some (name, left) =>
        match skipSpace left with
        | ':' :: rest =>
          match value depth rest with
          | none => none
          | some (field, left) =>
            let entry := (String.ofList name, field)
            match skipSpace left with
            | '\x7d' :: rest => some ([entry], rest)
            | ',' :: rest => (fields depth rest).map fun (others, left) => (entry :: others, left)
            | _ => none
        | _ => none
    | _ => none

end

/-- The value that a whole text stands for. -/
def parse (text : String) : Option Json :=
  let chars := text.toList
  match value (chars.length + 1) chars with
  | some (json, left) => if (skipSpace left).isEmpty then some json else none
  | none => none

end Json

end ComponentSurvey
