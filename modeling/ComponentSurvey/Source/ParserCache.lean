import ComponentSurvey.Log
import ComponentSurvey.Source.Grammar

/-!
# The parsers made so far

* `ParserCache` — the parsers that were made, one for each grammar.
* `ParserCache.obtain` — the parser for a file, which is made if there is none yet.
-/

namespace ComponentSurvey

/-- A parser that was made, by its number in the order of making. -/
structure MadeParser where
  grammar : Grammar
  number : Nat
deriving DecidableEq, Repr

/-- The parsers made so far, the latest first. -/
structure ParserCache where
  made : List MadeParser
deriving DecidableEq, Repr

namespace ParserCache

/-- No parser was made yet. -/
def empty : ParserCache := ⟨[]⟩

/-- The parser of a grammar, if it was made. -/
def find? (cache : ParserCache) (grammar : Grammar) : Option MadeParser :=
  cache.made.find? fun parser => parser.grammar == grammar

/-- The parser for a file: the one made before for its grammar, or else a new one, whose making may
fail for a reason. A failure leaves the cache as it was. -/
def obtain (cache : ParserCache) (path : String) (fault? : Option String) :
    Logged (Except GrammarFailure MadeParser × ParserCache) :=
  let grammar := Grammar.ofPath path
  match cache.find? grammar with
  | some parser => pure (.ok parser, cache)
  | none =>
    match fault? with
    | some reason => do
      Logged.note (.grammarFailed reason)
      pure (.error ⟨grammar, reason⟩, cache)
    | none => do
      Logged.note (.grammarReady grammar.name)
      let parser : MadeParser := ⟨grammar, cache.made.length⟩
      pure (.ok parser, ⟨parser :: cache.made⟩)

/-- The names of the grammars that have a parser, in increasing order. -/
def names (cache : ParserCache) : List String :=
  (cache.made.map fun parser => parser.grammar.name).mergeSort fun a b => a ≤ b

end ParserCache

end ComponentSurvey
