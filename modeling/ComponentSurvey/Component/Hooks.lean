import ComponentSurvey.Text.Search
import ComponentSurvey.Tree.Walk

/-!
# Hooks called by a component

* `Node.calledName?` — the plain name that a node calls.
* `Node.hookCall?` — the hook that a node calls.
* `Node.hooks` — the hooks called anywhere in the body of a function, each once.
-/

namespace ComponentSurvey

namespace Node

/-- The plain name that a node calls. -/
def calledName? (node : Node) : Option Node :=
  if node.isCall then
    match node.child? .function with
    | some callee => if callee.kind = .identifier then some callee else none
    | none => none
  else none

/-- The hook that a node calls: a plain name that starts with `use`. -/
def hookCall? (node : Node) : Option String :=
  (node.calledName?.map text).filter (Text.startsWith "use")

/-- Adds the hook that a node calls to those found before, and goes on below the node. -/
def collectHook (found : List String) (node : Node) : List String × Bool :=
  match node.hookCall? with
  | some hook => (if hook ∈ found then found else found ++ [hook], true)
  | none => (found, true)

/-- Hooks are collected from every node. -/
theorem snd_collectHook (found : List String) (node : Node) : (collectHook found node).2 = true := by
  rw [collectHook]
  split <;> rfl

/-- The hooks called anywhere in the body of a function, in the order of their first call. -/
def hooks (function : Node) : List String :=
  match function.child? .body with
  | some body => body.visit collectHook []
  | none => []

/-- The nodes whose texts are needed for the hooks of a function: every name it calls. -/
def hookReads (function : Node) : List Node :=
  match function.child? .body with
  | some body => body.walk.filterMap calledName?
  | none => []

end Node

end ComponentSurvey
