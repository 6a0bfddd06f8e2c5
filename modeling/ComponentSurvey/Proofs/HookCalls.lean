import ComponentSurvey.Proofs.FirstOccurrences
import ComponentSurvey.Proofs.Readable

/-!
# The hooks of a function and of a file

Hooks are gathered while the body of a function is visited: a name that is called is added to those
found before, unless it is one of them. The list that comes out has every name once, in the order of
the first calls, and so has the list of the hooks of a file.

* `Node.hookCall?_eq_some_iff` — what it is to call a hook.
* `Node.hooks_eq_eraseDups` — the visit of a body ends with the first occurrences of its calls.
* `FileSurvey.hooks_exact` — the hooks of a function and of a file.
-/

namespace ComponentSurvey

namespace Node

/-! ### Calls of hooks -/

/-- A node calls a hook if it is a call whose callee is a plain name that starts with `use`. -/
theorem hookCall?_eq_some_iff {node : Node} {name : String} :
    node.hookCall? = some name ↔
      node.kind = .callExpression ∧ "use".toList <+: name.toList ∧
      ∃ callee, node.child? .function = some callee ∧ callee.kind = .identifier ∧
        callee.text = name := by
  have hcalled : ∀ callee, node.calledName? = some callee ↔
      node.kind = .callExpression ∧ node.child? .function = some callee ∧
        callee.kind = .identifier := by
    intro callee
    rw [calledName?, isCall]
    by_cases hkind : node.kind = .callExpression
    · cases node.child? .function with
      | none => simp [hkind]
      | some other =>
        by_cases hother : other.kind = .identifier
        · simp only [hkind, hother, beq_self_eq_true, if_true, true_and, Option.some.injEq]
          constructor
          · rintro rfl
            exact ⟨rfl, hother⟩
          · exact And.left
        · simp only [hkind, hother, beq_self_eq_true, if_true, if_false, true_and, Option.some.injEq,
            reduceCtorEq, false_iff]
          rintro ⟨rfl, hcallee⟩
          exact hother hcallee
    · simp [hkind]
  rw [hookCall?, Option.filter_eq_some_iff, Text.startsWith_iff, Option.map_eq_some_iff]
  constructor
  · rintro ⟨⟨callee, hcallee, htext⟩, huse⟩
    obtain ⟨hkind, hchild, hidentifier⟩ := (hcalled callee).1 hcallee
    exact ⟨hkind, huse, callee, hchild, hidentifier, htext⟩
  · rintro ⟨hkind, huse, callee, hchild, hidentifier, htext⟩
    exact ⟨⟨callee, (hcalled callee).2 ⟨hkind, hchild, hidentifier⟩, htext⟩, huse⟩

/-! ### The visit of a body -/

/-- The hooks called in the body of a function, call by call, in pre-order. -/
def hookCalls (function : Node) : List String :=
  (function.child? .body).elim [] fun body => body.preorder.filterMap hookCall?

theorem fst_collectHook (found : List String) (node : Node) :
    (collectHook found node).1 = node.hookCall?.elim found (keepFirst found) := by
  rw [collectHook]
  cases node.hookCall? <;> rfl

/-- The visit of a body adds the hooks of its calls one after the other. -/
theorem hooks_eq_eraseDups (function : Node) : function.hooks = function.hookCalls.eraseDups := by
  rw [hooks, hookCalls]
  cases function.child? .body with
  | none => rfl
  | some body =>
    show body.visit collectHook [] = (body.preorder.filterMap hookCall?).eraseDups
    rw [visit_eq_foldl snd_collectHook, walk_eq_preorder, eraseDups_eq_foldl, List.foldl_filterMap]
    congr 1
    funext found node
    rw [fst_collectHook]
    cases node.hookCall? <;> rfl

end Node

namespace FileSurvey

/-- **Hooks are found exactly.** The hooks of a function are the names that start with `use` among the
plain names called by the nodes of its body, nested functions and all; each stands once, in the order
of the first calls in pre-order. A function without a body has none. The hooks of a file are those of
its components, one component after the other, without those that occurred before. -/
theorem hooks_exact (function : Node) (survey : FileSurvey) :
    (function.Readable →
      (Logged.reading function.hookReads function.hooks).outcome.value = .ok function.hooks) ∧
    (∀ call name, Node.hookCall? call = some name ↔
      call.kind = .callExpression ∧ "use".toList <+: name.toList ∧
      ∃ callee, call.child? .function = some callee ∧ callee.kind = .identifier ∧
        callee.text = name) ∧
    (function.child? .body = none → function.hooks = []) ∧
    (∀ body names, function.child? .body = some body →
      (function.hooks = names ↔ FirstOccurrences (body.preorder.filterMap Node.hookCall?) names)) ∧
    (∀ names, survey.hooks = names ↔
      FirstOccurrences (survey.components.flatMap Component.hooks) names) := by
  refine ⟨?_, fun call name => Node.hookCall?_eq_some_iff, ?_, ?_, fun names => eraseDups_eq_iff⟩
  · intro hreadable
    exact Logged.value_outcome_reading hreadable function.hookReads_subset _
  · intro hbody
    rw [Node.hooks, hbody]
  · intro body names hbody
    rw [Node.hooks_eq_eraseDups, Node.hookCalls, hbody]
    exact eraseDups_eq_iff

end FileSurvey

end ComponentSurvey
