import ComponentSurvey.Ledger
import ComponentSurvey.Import

/-!
# The survey of a syntax tree

* `FileSurvey.ofTree` — what is found in the syntax tree of a file; the path is only a label.
-/

namespace ComponentSurvey

/-- What is found in the syntax tree of a file. -/
def FileSurvey.ofTree (root : Node) (path : String) : Logged FileSurvey := do
  let imports ← Import.ofProgram root
  let found ← Findings.ofTree ⟨path, imports⟩ root
  Logged.note
    (.summary path found.components.length found.functions.length imports.length)
  pure
    { path := path
      role := .ofContents found.components found.functions
      framework := .ofImports imports
      components := found.components
      functions := found.functions
      imports := imports }

end ComponentSurvey
