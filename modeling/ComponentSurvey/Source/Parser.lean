import ComponentSurvey.Survey
import ComponentSurvey.Text.Quoted
import ComponentSurvey.Text.Utf8

/-!
# Surveys of sources

Parsing itself is the work of a `Parser`, which has a function from texts to syntax trees for each
grammar that can be loaded.

* `Parser`, `Parsed` — a parser and what it gives.
* `SurveyFailure` — why a source cannot be surveyed, with `SurveyFailure.message`.
* `parseSource` — the syntax tree of a source; a grammar that cannot be loaded interrupts it.
* `FileSurvey.ofSource` — the survey of a source text.
-/

namespace ComponentSurvey

/-- A syntax tree as a parser gives it. -/
structure Parsed where
  root : Node
  /-- Whether the source is not well formed. -/
  hasErrors : Bool

/-- A parser: for a grammar, the reason why it cannot be loaded, or else a function from a text to its
syntax tree or to the reason why there is none. -/
abbrev Parser := Grammar → Except String (String → Except String Parsed)

/-- Why a source cannot be surveyed. -/
inductive SurveyFailure where
  /-- There is nothing at a place. -/
  | notFound (path : String)
  /-- There is a directory at a place. -/
  | isDirectory (path : String)
  /-- The bytes of a file are no text. -/
  | notText (path : String) (fault : Utf8.Fault)
  /-- The parser gave up. -/
  | notParsed (path reason : String)
deriving DecidableEq, Repr

/-- The wording of a failure. -/
def SurveyFailure.message : SurveyFailure → String
  | .notFound path => s!"File not found: {path}"
  | .isDirectory path =>
    s!"Error reading {path}: [Errno 21] Is a directory: {Text.quoted path}"
  | .notText path fault => s!"Encoding error reading {path}: {fault.message}"
  | .notParsed path reason => s!"Failed to parse {path}: {reason}"

/-- The syntax tree of a source. That the parser of its grammar cannot be made is no failure of the
source: there is no going on then. Nothing is said of a parser that can be made, because one that was
made before is used again. -/
def parseSource (parser : Parser) (source path : String) : Logged (Except SurveyFailure Node) :=
  let grammar := Grammar.ofPath path
  match parser grammar with
  | .error reason => do
    Logged.note (.grammarFailed reason)
    Logged.note (.interrupted (.noParser ⟨grammar, reason⟩))
    pure (.error (.notParsed path reason))
  | .ok parse =>
    match parse source with
    | .error reason => do
      Logged.note (.parsingFailed reason)
      pure (.error (.notParsed path reason))
    | .ok parsed => do
      if parsed.hasErrors then
        Logged.note (.syntaxErrors path)
      pure (.ok parsed.root)

/-- The survey of a source; its path decides the grammar and is a label besides. -/
def FileSurvey.ofSource (parser : Parser) (source path : String) :
    Logged (Except SurveyFailure FileSurvey) := do
  match ← parseSource parser source path with
  | .error failure => pure (.error failure)
  | .ok root => Except.ok <$> FileSurvey.ofTree root path

end ComponentSurvey
