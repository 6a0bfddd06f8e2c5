import ComponentSurvey.Proofs.Readable

/-!
# Chains of wrapper calls

A wrapper may be applied to a function, or to the call of another wrapper, to any depth. Unwrapping
follows first arguments from call to call. It ends at a function; or at a call that applies no
wrapper; or at a wrapper that is applied to something else or to nothing.

* `Node.WrapsTo` — wrapper calls lead from a node to another, by their names.
* `Node.value_unwrapFrom_of_call` and its siblings — what unwrapping makes of one call.
* `Node.WrapsTo.value_unwrapFrom` — unwrapping goes on where wrapper calls lead.
* `Node.unwrapFrom_cases` — the ways in which unwrapping ends.
* `Component.ofWrapper_follows_chain` — what a wrapper call is resolved to.
-/

namespace ComponentSurvey

namespace Node

variable {call argument inner : Node} {name : String} {names : List String}

/-! ### Wrapper calls around a node -/

/-- Wrapper calls of some names lead from a node to another: each is applied to the next by its first
argument, and the last one to the node at the end. -/
inductive WrapsTo : Node → List String → Node → Prop
  | here (node : Node) : node.WrapsTo [] node
  | inside {call argument inner : Node} {name : String} {names : List String} :
      call.wrapperName? = some name → call.firstArgument? = some argument →
      argument.WrapsTo names inner → call.WrapsTo (name :: names) inner

/-- A wrapper is applied to something that is neither a function nor a call, or to nothing. -/
def AppliedToNeither (call : Node) : Prop :=
  ∀ argument, call.firstArgument? = some argument →
    argument.isFunctionExpression = false ∧ argument.isCall = false

/-- Every wrapper call around a node makes the tree larger. -/
theorem WrapsTo.size_le (h : call.WrapsTo names inner) : inner.size + names.length ≤ call.size := by
  induction h with
  | here node => exact Nat.le_refl _
  | inside _ hargument _ ih =>
    have hlt := size_lt_of_firstArgument? hargument
    rw [List.length_cons]
    omega

/-- The innermost of the wrapper calls that lead to a node. -/
theorem WrapsTo.exists_innermost (h : call.WrapsTo names inner) (hne : names ≠ []) :
    ∃ outer last name, names = outer ++ [name] ∧ call.WrapsTo outer last ∧
      last.wrapperName? = some name ∧ last.firstArgument? = some inner := by
  induction h with
  | here node => exact absurd rfl hne
  | @inside call argument inner name names hname hargument hinner ih =>
    cases hinner with
    | here => exact ⟨[], call, name, rfl, .here call, hname, hargument⟩
    | inside hnext hfirst hrest =>
      obtain ⟨outer, last, wrapper, hnames, houter, hwrapper, hlast⟩ := ih (List.cons_ne_nil _ _)
      exact ⟨name :: outer, last, wrapper, by rw [hnames, List.cons_append],
        .inside hname hargument houter, hwrapper, hlast⟩

/-- Wrapper calls that lead to a call begin at one. -/
theorem WrapsTo.isCall (h : argument.WrapsTo names inner) (hinner : inner.isCall = true) :
    argument.isCall = true := by
  cases h with
  | here => exact hinner
  | inside hname _ _ => exact isCall_of_wrapperName? (by rw [hname]; rfl)

/-! ### One call -/

/-- A wrapper is applied to a function, to a call, or to neither. -/
theorem appliedToNeither_or (call : Node) :
    call.AppliedToNeither ∨ ∃ argument, call.firstArgument? = some argument ∧
      (argument.isFunctionExpression = true ∨ argument.isCall = true) := by
  cases hargument : call.firstArgument? with
  | none =>
    refine .inl fun argument hsome => ?_
    rw [hargument] at hsome
    cases hsome
  | some argument =>
    cases hfunction : argument.isFunctionExpression with
    | true => exact .inr ⟨argument, rfl, .inl hfunction⟩
    | false =>
      cases hcall : argument.isCall with
      | true => exact .inr ⟨argument, rfl, .inr hcall⟩
      | false =>
        refine .inl fun other hsome => ?_
        rw [hargument] at hsome
        cases hsome
        exact ⟨hfunction, hcall⟩

/-- A call is no function. -/
theorem not_isFunctionExpression_of_isCall (h : argument.isCall = true) :
    argument.isFunctionExpression = false := by
  rw [isFunctionExpression, beq_iff_eq.1 h]
  exact Bool.and_false _

theorem value_unwrapFrom_of_none (line : Nat) (h : call.wrapperName? = none) :
    (call.unwrapFrom line).value = ⟨none, []⟩ := by
  rw [unwrapFrom_eq, h]
  rfl

theorem value_unwrapFrom_of_function (line : Nat) (hname : call.wrapperName? = some name)
    (hargument : call.firstArgument? = some argument)
    (hfunction : argument.isFunctionExpression = true) :
    (call.unwrapFrom line).value = ⟨some argument, [name]⟩ := by
  rw [unwrapFrom_eq, hname, hargument, Logged.value_bind]
  dsimp only
  rw [if_pos hfunction]
  rfl

theorem value_unwrapFrom_of_call (line : Nat) (hname : call.wrapperName? = some name)
    (hargument : call.firstArgument? = some argument) (hcall : argument.isCall = true) :
    (call.unwrapFrom line).value
      = ⟨(argument.unwrapFrom line).value.target?,
          name :: (argument.unwrapFrom line).value.chain⟩ := by
  rw [unwrapFrom_eq, hname, hargument, Logged.value_bind]
  dsimp only
  rw [if_neg (by rw [not_isFunctionExpression_of_isCall hcall]; exact Bool.false_ne_true),
    if_pos hcall]
  rfl

theorem value_unwrapFrom_of_neither (line : Nat) (hname : call.wrapperName? = some name)
    (hneither : call.AppliedToNeither) : (call.unwrapFrom line).value = ⟨none, [name]⟩ := by
  rw [unwrapFrom_eq, hname, Logged.value_bind]
  cases hargument : call.firstArgument? with
  | none => rfl
  | some argument =>
    obtain ⟨hfunction, hcall⟩ := hneither argument hargument
    dsimp only
    rw [if_neg (by rw [hfunction]; exact Bool.false_ne_true),
      if_neg (by rw [hcall]; exact Bool.false_ne_true)]
    split <;> rfl

/-! ### The whole chain -/

/-- Unwrapping goes on where wrapper calls lead, and puts their names in front. -/
theorem WrapsTo.value_unwrapFrom (line : Nat) (h : call.WrapsTo names inner)
    (hinner : names = [] ∨ inner.isCall = true) :
    (call.unwrapFrom line).value
      = ⟨(inner.unwrapFrom line).value.target?,
          names ++ (inner.unwrapFrom line).value.chain⟩ := by
  induction h with
  | here node => rfl
  | inside hname hargument hrest ih =>
    have hcall := hinner.resolve_left (List.cons_ne_nil _ _)
    rw [value_unwrapFrom_of_call line hname hargument (hrest.isCall hcall), ih (.inr hcall)]
    rfl

/-- Unwrapping ends at a function that wrapper calls lead to; or at a node that applies no wrapper,
which is a call unless it is the node that unwrapping began at; or at a wrapper that is applied to
neither a function nor a call. -/
theorem unwrapFrom_cases (line : Nat) (call : Node) :
    (∃ target names, (call.unwrapFrom line).value = ⟨some target, names⟩ ∧ names ≠ [] ∧
      call.WrapsTo names target ∧ target.isFunctionExpression = true) ∨
    (∃ last names, (call.unwrapFrom line).value = ⟨none, names⟩ ∧ call.WrapsTo names last ∧
      (names = [] ∨ last.isCall = true) ∧ last.wrapperName? = none) ∨
    (∃ last outer name, (call.unwrapFrom line).value = ⟨none, outer ++ [name]⟩ ∧
      call.WrapsTo outer last ∧ last.wrapperName? = some name ∧ last.AppliedToNeither) := by
  cases hname : call.wrapperName? with
  | none =>
    exact .inr (.inl ⟨call, [], value_unwrapFrom_of_none line hname, .here call, .inl rfl, hname⟩)
  | some name =>
    rcases appliedToNeither_or call with hneither | ⟨argument, hargument, hfunction | hcall⟩
    · exact .inr (.inr ⟨call, [], name, value_unwrapFrom_of_neither line hname hneither, .here call,
        hname, hneither⟩)
    · exact .inl ⟨argument, [name], value_unwrapFrom_of_function line hname hargument hfunction,
        List.cons_ne_nil _ _, .inside hname hargument (.here argument), hfunction⟩
    · -- the chain goes on at the argument, which is smaller
      have hlt := size_lt_of_firstArgument? hargument
      have hvalue := value_unwrapFrom_of_call line hname hargument hcall
      rcases unwrapFrom_cases line argument with ⟨target, names, hrest, _, hwraps, htarget⟩ |
        ⟨last, names, hrest, hwraps, hlast, hnone⟩ | ⟨last, outer, wrapper, hrest, hwraps, hend⟩
      · rw [hrest] at hvalue
        exact .inl ⟨target, name :: names, hvalue, List.cons_ne_nil _ _,
          .inside hname hargument hwraps, htarget⟩
      · rw [hrest] at hvalue
        have hlastCall : last.isCall = true := by
          rcases hlast with rfl | hlast
          · cases hwraps
            exact hcall
          · exact hlast
        exact .inr (.inl ⟨last, name :: names, hvalue, .inside hname hargument hwraps,
          .inr hlastCall, hnone⟩)
      · rw [hrest] at hvalue
        exact .inr (.inr ⟨last, name :: outer, wrapper, hvalue, .inside hname hargument hwraps,
          hend⟩)
termination_by call.size

theorem value_unwrapFrom_eq_some_iff (line : Nat) {call target : Node} {names : List String} :
    (call.unwrapFrom line).value = ⟨some target, names⟩ ↔
      names ≠ [] ∧ call.WrapsTo names target ∧ target.isFunctionExpression = true := by
  constructor
  · intro hvalue
    rcases unwrapFrom_cases line call with ⟨_, _, hend, hwraps⟩ | ⟨_, _, hend, _⟩ | ⟨_, _, _, hend, _⟩
    · rw [hvalue] at hend
      cases hend
      exact hwraps
    · rw [hvalue] at hend
      cases hend
    · rw [hvalue] at hend
      cases hend
  · rintro ⟨hne, hwraps, htarget⟩
    obtain ⟨outer, last, name, rfl, houter, hname, hargument⟩ := hwraps.exists_innermost hne
    have hcall : last.isCall = true := isCall_of_wrapperName? (by rw [hname]; rfl)
    rw [houter.value_unwrapFrom line (.inr hcall),
      value_unwrapFrom_of_function line hname hargument htarget]

theorem value_unwrapFrom_eq_none_iff (line : Nat) {call : Node} {names : List String} :
    (call.unwrapFrom line).value = ⟨none, names⟩ ↔
      (∃ last, call.WrapsTo names last ∧ (names = [] ∨ last.isCall = true) ∧
        last.wrapperName? = none) ∨
      (∃ outer last name, names = outer ++ [name] ∧ call.WrapsTo outer last ∧
        last.wrapperName? = some name ∧ last.AppliedToNeither) := by
  constructor
  · intro hvalue
    rcases unwrapFrom_cases line call with ⟨_, _, hend, _⟩ | ⟨last, _, hend, hwraps⟩ |
      ⟨last, outer, name, hend, hwraps⟩
    · rw [hvalue] at hend
      cases hend
    · rw [hvalue] at hend
      cases hend
      exact .inl ⟨last, hwraps⟩
    · rw [hvalue] at hend
      cases hend
      exact .inr ⟨outer, last, name, rfl, hwraps⟩
  · rintro (⟨last, hwraps, hlast, hnone⟩ | ⟨outer, last, name, rfl, hwraps, hname, hneither⟩)
    · rw [hwraps.value_unwrapFrom line hlast, value_unwrapFrom_of_none line hnone, List.append_nil]
    · have hcall : last.isCall = true := isCall_of_wrapperName? (by rw [hname]; rfl)
      rw [hwraps.value_unwrapFrom line (.inr hcall), value_unwrapFrom_of_neither line hname hneither]

/-- The chain is no longer than the tree is large. -/
theorem length_chain_le (line : Nat) (call : Node) :
    (call.unwrapFrom line).value.chain.length ≤ call.size := by
  rcases unwrapFrom_cases line call with ⟨target, names, hend, _, hwraps, _⟩ |
    ⟨last, names, hend, hwraps, _⟩ | ⟨last, outer, name, hend, hwraps, _⟩
  · have hsize := hwraps.size_le
    rw [hend]
    dsimp only
    omega
  · have hsize := hwraps.size_le
    rw [hend]
    dsimp only
    omega
  · have hsize := hwraps.size_le
    have hpos := size_eq last
    rw [hend]
    dsimp only
    rw [List.length_append, List.length_singleton]
    omega

end Node

namespace Component

/-- A function that is written as a value makes a component that is an expression. -/
theorem form_describe {target : Node} (h : target.isFunctionExpression = true) (name path : String)
    (imports : List Import) (wrappers : List String) :
    (describe target name path imports wrappers).form = .expression := by
  have hkind : target.kind.isFunctionExpression = true := (Bool.and_eq_true_iff.1 h).2
  have hdeclaration : target.kind.isFunctionDeclaration = false := by
    revert hkind
    cases target.kind <;> simp [Kind.isFunctionExpression, Kind.isFunctionDeclaration]
  rw [describe, hdeclaration]
  rfl

/-- **Chains of wrapper calls of any depth.** Unwrapping gives a function exactly if wrapper calls
lead to it. Otherwise the chain has the names of the wrappers up to the first call that applies none,
or up to and with the first wrapper that is applied to neither a function nor a call. A component is
found exactly if a function is. It has the name that is given, the wrappers of the chain, and the props
that the first parameter of the function declares, whatever parameters follow it. -/
theorem ofWrapper_follows_chain (call : Node) (name path : String) (imports : List Import) :
    let unwrapped := call.unwrap.value
    let record? := (ofWrapper call name path imports).value
    (call.Readable → call.unwrap.outcome.value = .ok unwrapped ∧
      (ofWrapper call name path imports).outcome.value = .ok record?) ∧
    unwrapped.chain.length ≤ call.size ∧
    (∀ target names, unwrapped = ⟨some target, names⟩ ↔
      names ≠ [] ∧ call.WrapsTo names target ∧ target.isFunctionExpression = true) ∧
    (∀ names, unwrapped = ⟨none, names⟩ ↔
      (∃ last, call.WrapsTo names last ∧ (names = [] ∨ last.isCall = true) ∧
        last.wrapperName? = none) ∨
      (∃ outer last wrapper, names = outer ++ [wrapper] ∧ call.WrapsTo outer last ∧
        last.wrapperName? = some wrapper ∧ last.AppliedToNeither)) ∧
    (record? = none ↔ unwrapped.target? = none) ∧
    (∀ target, unwrapped.target? = some target → ∃ component, record? = some component ∧
      component.name = name ∧ component.wrappers = unwrapped.chain ∧
      component.form = .expression ∧ component.props = target.props ∧
      ∀ other : Node, other.parameters.head? = target.parameters.head? →
        other.props = component.props) := by
  intro unwrapped record?
  have hrecord : record? = unwrapped.target?.map fun target =>
      describe target name path imports unwrapped.chain := rfl
  refine ⟨?_, call.length_chain_le call.line, ?_, ?_, ?_, ?_⟩
  · intro hreadable
    exact ⟨Logged.value_outcome_eq_ok_iff.2 ⟨Node.isClean_unwrapFrom call.line hreadable, rfl⟩,
      Logged.value_outcome_eq_ok_iff.2 ⟨isClean_ofWrapper hreadable name path imports, rfl⟩⟩
  · intro target names
    exact Node.value_unwrapFrom_eq_some_iff call.line
  · intro names
    exact Node.value_unwrapFrom_eq_none_iff call.line
  · rw [hrecord, Option.map_eq_none_iff]
  · intro target htarget
    have hend : unwrapped = ⟨some target, unwrapped.chain⟩ := by rw [← htarget]
    have hfunction := ((Node.value_unwrapFrom_eq_some_iff call.line).1 hend).2.2
    refine ⟨describe target name path imports unwrapped.chain, ?_, rfl, rfl, ?_, rfl, ?_⟩
    · rw [hrecord, htarget, Option.map_some]
    · exact form_describe hfunction name path imports unwrapped.chain
    · intro other hhead
      show other.props = target.props
      rw [Node.props_eq, hhead, ← Node.props_eq]

end Component

end ComponentSurvey
