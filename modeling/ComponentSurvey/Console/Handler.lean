import ComponentSurvey.Console.Literal
import ComponentSurvey.Text.Blank
import ComponentSurvey.Text.Quoted

/-!
# Handlers in tags

A tag whose name starts with `@` calls a handler: `[@press=open(1)]`. What follows the equals sign is
the name of the handler and its arguments in parentheses, or a value alone.

* `Handler.argumentsOf` — the text of the arguments.
* `Handler.Fault` — why the arguments cannot be read.
* `Handler.check` — checks the arguments.
-/

namespace ComponentSurvey

namespace Handler

/-- Why the arguments of a handler cannot be read. -/
structure Fault where
  parameters : String
  /-- The text of the arguments. -/
  arguments : String
  problem : Literal.Problem
deriving DecidableEq, Repr

/-- The wording of a fault. -/
def Fault.message (fault : Fault) : String :=
  let place := if fault.problem.isSyntactic then s!" in {Text.quoted fault.parameters}" else ""
  let text := if fault.problem.isSyntactic then fault.arguments else fault.parameters
  s!"error parsing {Text.quoted text}{place}; {fault.problem.message}"

/-- The text of the arguments: what stands in parentheses behind a name, none where there is only a
name, and else the whole text. -/
def argumentsOf (text : List Char) : List Char :=
  let name := text.takeWhile fun c => Text.isWordCharacter c || c == '.'
  let rest := text.drop name.length
  if rest.isEmpty then ['(', ')']
  else if rest.head? = some '(' && rest.getLast? = some ')' && !rest.contains '\n' then rest
  else text

/-- Checks what follows the equals sign of a tag, if there is something. -/
def check (parameters : String) : Except Fault Unit :=
  if parameters.isEmpty then .ok ()
  else
    let arguments := argumentsOf (Text.trimmed parameters).toList
    (Literal.check arguments).mapError fun problem =>
      ⟨parameters, String.ofList arguments, problem⟩

end Handler

end ComponentSurvey
