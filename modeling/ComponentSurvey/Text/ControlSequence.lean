/-!
# Control sequences of terminals

A terminal takes an escape character, a bracket, some parameters and a letter as one command.

* `Text.sequenceLength?` — how long the control sequence at the start of a text is.
* `Text.withoutSequences` — a text without its control sequences.
-/

namespace ComponentSurvey

namespace Text

/-- Whether a character may be a parameter of a control sequence. -/
def isParameter (c : Char) : Bool := c == ';' || c == '?' || c.isDigit

/-- How long the control sequence at the start of a text is, if there is one. -/
def sequenceLength? : List Char → Option Nat
  | '\x1b' :: '[' :: rest =>
    let parameters := rest.takeWhile isParameter
    match rest.drop parameters.length with
    | final :: _ => if final.isAlpha then some (parameters.length + 3) else none
    | [] => none
  | _ => none

/-- The characters outside of control sequences, of which the first `skip` belong to one. -/
def outsideSequences : Nat → List Char → List Char
  | _, [] => []
  | skip + 1, _ :: rest => outsideSequences skip rest
  | 0, c :: rest =>
    match sequenceLength? (c :: rest) with
    | some length => outsideSequences (length - 1) rest
    | none => c :: outsideSequences 0 rest

/-- A text without its control sequences. -/
def withoutSequences (text : String) : String := String.ofList (outsideSequences 0 text.toList)

end Text

end ComponentSurvey
