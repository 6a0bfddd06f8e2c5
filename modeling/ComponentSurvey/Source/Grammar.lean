import ComponentSurvey.Project.Path

/-!
# Grammars

* `Grammar` and `Grammar.ofPath` — the grammar of a file, which its extension decides.
* `GrammarFailure` — why a grammar has no parser, with `GrammarFailure.message`.
-/

namespace ComponentSurvey

/-- The grammars that sources are parsed with. -/
inductive Grammar where
  | typescript
  | tsx
deriving DecidableEq, Repr, Inhabited

namespace Grammar

/-- The name of a grammar. -/
def name : Grammar → String
  | .typescript => "typescript"
  | .tsx => "tsx"

/-- The grammar of a file. The extension `.ts` counts in either case of its letters, which are the
only characters with these lower-case forms. -/
def ofPath (path : String) : Grammar :=
  if (Path.ofString path).extension.toList.map Char.toLower = ['.', 't', 's'] then .typescript
  else .tsx

end Grammar

/-- The parser of a grammar cannot be made. -/
structure GrammarFailure where
  grammar : Grammar
  reason : String
deriving DecidableEq, Repr

/-- The wording of a failure. -/
def GrammarFailure.message (failure : GrammarFailure) : String :=
  s!"Cannot initialize {failure.grammar.name} parser: {failure.reason}"

end ComponentSurvey
