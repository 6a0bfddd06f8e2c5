import ComponentSurvey.Component.Describe

/-!
# Components inside wrapper calls

A component may be wrapped by calls that memoise it, forward a reference to it or load it lazily.

* `Node.wrapperName?` — the wrapper that a call applies.
* `Node.unwrap` — the function at the end of a chain of wrapper calls, and the chain.
* `Node.unwrapFrom_eq` — a chain is one call and the chain that begins at its first argument.
* `Component.ofWrapper` — the component at the end of a chain.
-/

namespace ComponentSurvey

/-- The functions that wrap a component. -/
def wrapperNames : List String :=
  ["memo", "React.memo", "forwardRef", "React.forwardRef", "lazy", "React.lazy"]

/-- The end of a chain of wrapper calls. -/
structure Unwrapped where
  /-- The function that is wrapped, if the chain ends at one. -/
  target? : Option Node
  /-- The wrappers, the outermost first. -/
  chain : List String

namespace Node

/-- The name, plain or of a member, that a call applies. -/
def appliedName? (node : Node) : Option Node :=
  if node.isCall then
    match node.child? .function with
    | some callee =>
      match callee.kind with
      | .identifier | .memberExpression => some callee
      | _ => none
    | none => none
  else none

/-- The wrapper that a call applies. -/
def wrapperName? (node : Node) : Option String :=
  (node.appliedName?.map fun callee => Text.unspaced callee.text).filter (· ∈ wrapperNames)

/-- The first argument of a call, inside any parentheses. -/
def firstArgument? (call : Node) : Option Node :=
  ((call.child? .arguments).bind firstMember?).bind stripParens

theorem size_lt_of_firstArgument? {call argument : Node} (h : call.firstArgument? = some argument) :
    argument.size < call.size := by
  obtain ⟨first, hfirst, hargument⟩ := Option.bind_eq_some_iff.1 h
  obtain ⟨list, hlist, hfirst⟩ := Option.bind_eq_some_iff.1 hfirst
  have := size_lt_of_child? hlist
  have := size_lt_of_firstMember? hfirst
  have := size_le_of_stripParens hargument
  omega

/-- Follows a chain of wrapper calls that began on a line. -/
def unwrapFrom (line : Nat) (call : Node) : Logged Unwrapped := do
  Logged.read call.appliedName?.toList
  match call.wrapperName? with
  | none => pure ⟨none, []⟩
  | some name =>
    match _h : call.firstArgument? with
    | none => pure ⟨none, [name]⟩
    | some argument =>
      if argument.isFunctionExpression then pure ⟨some argument, [name]⟩
      else if argument.isCall then do
        let inner ← unwrapFrom line argument
        pure ⟨inner.target?, name :: inner.chain⟩
      else if argument.kind = .identifier then do
        Logged.read [argument]
        Logged.note (.wrapsReference name line argument.text)
        pure ⟨none, [name]⟩
      else pure ⟨none, [name]⟩
termination_by call.size
decreasing_by exact size_lt_of_firstArgument? _h

/-- Following a chain of wrapper calls: one call, and the chain that begins at its first argument. -/
theorem unwrapFrom_eq (line : Nat) (call : Node) :
    call.unwrapFrom line = (do
      Logged.read call.appliedName?.toList
      match call.wrapperName? with
      | none => pure ⟨none, []⟩
      | some name =>
        match call.firstArgument? with
        | none => pure ⟨none, [name]⟩
        | some argument =>
          if argument.isFunctionExpression then pure ⟨some argument, [name]⟩
          else if argument.isCall then do
            let inner ← unwrapFrom line argument
            pure ⟨inner.target?, name :: inner.chain⟩
          else if argument.kind = .identifier then do
            Logged.read [argument]
            Logged.note (.wrapsReference name line argument.text)
            pure ⟨none, [name]⟩
          else pure ⟨none, [name]⟩) := by
  rw [unwrapFrom]
  apply bind_congr
  intro _
  cases call.wrapperName? with
  | none => rfl
  | some name => cases call.firstArgument? <;> rfl

/-- Follows a chain of wrapper calls down to the function that is wrapped. -/
def unwrap (call : Node) : Logged Unwrapped := unwrapFrom call.line call

end Node

/-- The component that a chain of wrapper calls ends at, under the name of the outermost call. -/
def Component.ofWrapper (call : Node) (name path : String) (imports : List Import) :
    Logged (Option Component) := do
  let unwrapped ← call.unwrap
  Logged.read (unwrapped.target?.elim [] Node.componentReads)
  pure (unwrapped.target?.map fun target => describe target name path imports unwrapped.chain)

end ComponentSurvey
