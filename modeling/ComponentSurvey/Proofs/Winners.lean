import ComponentSurvey.Proofs.StableOrder
import ComponentSurvey.Survey
import Mathlib.Data.List.Dedup
import Mathlib.Data.List.Nodup

/-!
# Which binding a name belongs to

A file may bind a name many times. This module says which of its bindings takes the name and what
that binding adds to the survey, and follows the ledger of a file through its whole run.

* `Binding.isClaiming` — whether a binding takes its name, if the name is free.
* `Binding.winner?`, `Binding.winners` — the binding that a name belongs to, and all such bindings.
* `Binding.topLevelFirst_eq_mergeSort` — bindings are considered in a stable order.
* `Binding.finding?` — the record that the winner of a name contributes.
* `Ledger.Reflects` — a ledger holds what the winners so far contribute, and nothing else.
* `Ledger.Reflects.consider`, `Ledger.reflects_fold` — one step keeps this, so every run does.
-/

namespace ComponentSurvey

/-- A record of a survey, of either sort. -/
inductive Finding where
  | component (record : Component)
  | function (record : PlainFunction)
deriving DecidableEq, Repr

namespace Finding

/-- The name a record stands under. -/
def name : Finding → String
  | .component record => record.name
  | .function record => record.name

/-- The component that a record is, if it is one. -/
def component? : Finding → Option Component
  | .component record => some record
  | .function _ => none

/-- The function that a record is, if it is one. -/
def function? : Finding → Option PlainFunction
  | .component _ => none
  | .function record => some record

end Finding

/-- The records of a survey: its components, then its functions. -/
def FileSurvey.findings (survey : FileSurvey) : List Finding :=
  survey.components.map .component ++ survey.functions.map .function

namespace Binding

/-- Whether a binding takes its name, if the name is free: a wrapper call and a component always
do, another function does if it is exported. -/
def isClaiming (binding : Binding) : Bool :=
  binding.isWrapperCall || binding.node.isComponent || binding.cursor.isExported

/-- The binding that a name belongs to: the first of the name that takes it, those at module scope
coming first. -/
def winner? (bindings : List Binding) (name : String) : Option Binding :=
  (topLevelFirst bindings).find? fun binding => binding.isClaiming && binding.name == name

/-- The record that a binding contributes once it has taken its name. A wrapper call contributes a
component if there is a function at the end of its chain. -/
def finding? (file : FileContext) (binding : Binding) : Option Finding :=
  if binding.isWrapperCall then
    (Component.ofWrapper binding.node binding.name file.path file.imports).value.map .component
  else if binding.node.isComponent then
    (Component.ofCursor binding.cursor (some binding.name) file.path file.imports []).value.map
      .component
  else
    (PlainFunction.ofCursor binding.cursor (some binding.name) file.path file.imports).value.map
      .function

/-- The winners among bindings that are considered in their order: a binding that takes its name
leaves it to no later one. -/
def winners : List Binding → List Binding
  | [] => []
  | binding :: rest =>
    if binding.isClaiming then
      binding :: (winners rest).filter fun other => other.name != binding.name
    else winners rest

/-! ### Winners -/

/-- Bindings are considered in the stable order by whether they are at module scope. -/
theorem topLevelFirst_eq_mergeSort (bindings : List Binding) :
    topLevelFirst bindings = bindings.mergeSort fun a b => a.topLevel || !b.topLevel :=
  filter_append_filter_eq_mergeSort topLevel bindings

theorem winners_sublist (order : List Binding) : (winners order).Sublist order := by
  induction order with
  | nil => exact List.Sublist.slnil
  | cons binding rest ih =>
    rw [winners]
    split
    · exact (List.filter_sublist.trans ih).cons_cons binding
    · exact ih.cons binding

theorem isClaiming_of_mem_winners {binding : Binding} {order : List Binding}
    (h : binding ∈ winners order) : binding.isClaiming = true := by
  induction order with
  | nil => cases h
  | cons first rest ih =>
    rw [winners] at h
    split at h
    · rename_i hfirst
      rcases List.mem_cons.1 h with rfl | h
      · exact hfirst
      · exact ih (List.mem_of_mem_filter h)
    · exact ih h

/-- No two winners have the same name. -/
theorem nodup_map_name_winners (order : List Binding) : ((winners order).map name).Nodup := by
  induction order with
  | nil => exact List.nodup_nil
  | cons binding rest ih =>
    rw [winners]
    split
    · rw [List.map_cons, List.nodup_cons]
      refine ⟨?_, ih.sublist (List.filter_sublist.map name)⟩
      intro h
      obtain ⟨other, hother, hname⟩ := List.mem_map.1 h
      simp [hname] at hother
    · exact ih

theorem nodup_winners (order : List Binding) : (winners order).Nodup :=
  (nodup_map_name_winners order).of_map

/-- The winner of a name is the first binding of the name that takes it. -/
theorem find?_winners (order : List Binding) (wanted : String) :
    (winners order).find? (fun binding => binding.name == wanted)
      = order.find? fun binding => binding.isClaiming && binding.name == wanted := by
  induction order with
  | nil => rfl
  | cons binding rest ih =>
    rw [winners]
    by_cases hclaim : binding.isClaiming = true
    · by_cases hname : binding.name = wanted
      · simp [hclaim, hname]
      · rw [if_pos hclaim, List.find?_cons_of_neg (by simpa using hname),
          List.find?_cons_of_neg (by simpa [hclaim] using hname), ← ih, List.find?_filter]
        congr 1
        funext other
        by_cases hother : other.name = wanted
        · simp [hother, Ne.symm hname]
        · simp [hother]
    · simp [hclaim, ih]

theorem mem_winners_iff {binding : Binding} {order : List Binding} :
    binding ∈ winners order ↔
      order.find? (fun other => other.isClaiming && other.name == binding.name)
        = some binding := by
  rw [← find?_winners]
  constructor
  · intro h
    -- with distinct names, looking for the name of a winner finds that winner
    obtain ⟨found, hfound⟩ : ∃ found,
        (winners order).find? (fun other => other.name == binding.name) = some found :=
      Option.isSome_iff_exists.1 (List.find?_isSome.2 ⟨binding, h, by simp⟩)
    have hname : found.name = binding.name := by simpa using List.find?_some hfound
    have := List.inj_on_of_nodup_map (nodup_map_name_winners order)
      (List.mem_of_find?_eq_some hfound) h hname
    rw [hfound, this]
  · intro h
    exact List.mem_of_find?_eq_some h

theorem mem_winners_append {binding : Binding} {first : List Binding} (second : List Binding)
    (h : binding ∈ winners first) : binding ∈ winners (first ++ second) := by
  rw [mem_winners_iff] at h ⊢
  rw [List.find?_append, h, Option.some_or]

/-- A binding that is considered last wins its name if it takes it and no winner has it yet. -/
theorem winners_concat (done : List Binding) (binding : Binding) :
    winners (done ++ [binding]) = winners done ++
      if binding.isClaiming = true ∧ binding.name ∉ (winners done).map name then [binding]
      else [] := by
  induction done with
  | nil => by_cases h : binding.isClaiming = true <;> simp [winners, h]
  | cons first rest ih =>
    rw [List.cons_append, winners, winners]
    split
    · rw [ih, List.filter_append, List.cons_append]
      congr 2
      by_cases hname : binding.name = first.name
      · by_cases h : binding.isClaiming = true ∧ binding.name ∉ (winners rest).map name
        · simp [h, hname]
        · rw [if_neg h, if_neg (by simp [hname])]
          rfl
      · have hiff : binding.name ∉ (first :: (winners rest).filter fun other =>
              other.name != first.name).map name ↔ binding.name ∉ (winners rest).map name := by
          simp only [List.map_cons, List.mem_cons, hname, false_or, List.mem_map, List.mem_filter]
          grind
        simp only [hiff]
        split
        · rw [List.filter_cons_of_pos (by simpa using hname), List.filter_nil]
        · rfl
    · exact ih

end Binding

/-! ### One step of a ledger -/

namespace Ledger

/-- Takes the name of a binding and records what the binding contributes. -/
def record (ledger : Ledger) (name : String) (finding? : Option Finding) : Ledger :=
  { ledger.take name with
    components := ledger.components ++ (finding?.bind Finding.component?).toList
    functions := ledger.functions ++ (finding?.bind Finding.function?).toList }

theorem names_take {ledger : Ledger} {name : String} (h : ledger.taken.has name = false) :
    (ledger.take name).taken.names = ledger.taken.names ++ [name] := by
  simp [take, Reservations.reserve, h]

theorem has_iff (ledger : Ledger) (name : String) :
    ledger.taken.has name = true ↔ name ∈ ledger.taken.names := by
  simp [Reservations.has]

theorem site?_locate (ledger : Ledger) (binding : Binding) (name : String) :
    (ledger.locate binding).site? name
      = if name = binding.name then some binding.site else ledger.site? name := by
  by_cases h : name = binding.name
  · rw [if_pos h, h, site?_locate_self]
  · have hne : (name == binding.name) = false := by simpa using h
    rw [if_neg h]
    simp [site?, locate, List.lookup_cons, hne]

/-- A binding that takes its name is recorded with what it contributes. -/
theorem value_dispatch_of_isClaiming {file : FileContext} {ledger : Ledger} {binding : Binding}
    (h : binding.isClaiming = true) :
    (dispatch file ledger binding).value
      = ledger.record binding.name (binding.finding? file) := by
  rw [dispatch, Logged.value_bind, Binding.finding?]
  by_cases hwrap : binding.isWrapperCall = true
  · cases hcomp : (Component.ofWrapper binding.node binding.name file.path file.imports).value <;>
      simp [hwrap, record, addComponent, take, Finding.component?, Finding.function?, hcomp]
  · by_cases hcomp : binding.node.isComponent = true
    · simp [hwrap, hcomp, record, addComponent, take, Finding.function?,
        Component.ofCursor]
      rfl
    · have hexp : binding.cursor.isExported = true := by
        simpa [Binding.isClaiming, hwrap, hcomp] using h
      simp [hwrap, hcomp, hexp, record, addFunction, take, Finding.component?, Finding.function?,
        PlainFunction.ofCursor, PlainFunction.describe]

/-- A binding that does not take its name leaves the ledger as it is. -/
theorem value_dispatch_of_not_isClaiming {file : FileContext} {ledger : Ledger}
    {binding : Binding} (h : binding.isClaiming = false) :
    (dispatch file ledger binding).value = ledger := by
  simp only [Binding.isClaiming, Bool.or_eq_false_iff] at h
  obtain ⟨⟨hwrap, hcomp⟩, hexp⟩ := h
  simp [dispatch, hwrap, hcomp, hexp, PlainFunction.describe]

/-- A binding that is skipped leaves a note of where its name was bound. -/
theorem notes_consider_of_taken {file : FileContext} {ledger : Ledger} {binding : Binding}
    (h : ledger.taken.has binding.name = true) :
    (consider file ledger binding).notes
      = [.alreadyRecorded binding.name binding.node.line
          ((ledger.site? binding.name).map Site.line)] := by
  rw [consider, if_pos h]
  rfl

/-- All that considering a binding can do: it is skipped if its name is taken; else it is located,
and recorded if it takes the name. -/
theorem consider_cases (file : FileContext) (ledger : Ledger) (binding : Binding) :
    (binding.name ∈ ledger.taken.names ∧ (consider file ledger binding).value = ledger) ∨
    (binding.name ∉ ledger.taken.names ∧ binding.isClaiming = true ∧
      (consider file ledger binding).value
        = (ledger.locate binding).record binding.name (binding.finding? file)) ∨
    (binding.name ∉ ledger.taken.names ∧ binding.isClaiming = false ∧
      (consider file ledger binding).value = ledger.locate binding) := by
  by_cases htaken : ledger.taken.has binding.name = true
  · exact .inl ⟨(has_iff _ _).1 htaken, by simp [consider, htaken]⟩
  · have hfree : binding.name ∉ ledger.taken.names := fun h => htaken ((has_iff _ _).2 h)
    have hvalue : (consider file ledger binding).value
        = (dispatch file (ledger.locate binding) binding).value := by simp [consider, htaken]
    rw [hvalue]
    cases hclaim : binding.isClaiming with
    | true => exact .inr (.inl ⟨hfree, rfl, value_dispatch_of_isClaiming hclaim⟩)
    | false => exact .inr (.inr ⟨hfree, rfl, value_dispatch_of_not_isClaiming hclaim⟩)

/-! ### The whole run -/

/-- A ledger holds what the bindings that won a name contribute: it has taken their names, knows
where they stand, and has recorded what they add, in their order. -/
structure Reflects (file : FileContext) (won : List Binding) (ledger : Ledger) : Prop where
  names : ledger.taken.names = won.map Binding.name
  sites : ∀ winner ∈ won, ledger.site? winner.name = some winner.site
  components : ledger.components
    = won.filterMap fun winner => (winner.finding? file).bind Finding.component?
  functions : ledger.functions
    = won.filterMap fun winner => (winner.finding? file).bind Finding.function?

theorem reflects_empty (file : FileContext) : Reflects file [] empty where
  names := rfl
  sites := by simp
  components := rfl
  functions := rfl

namespace Reflects

variable {file : FileContext} {won : List Binding} {ledger : Ledger} {binding : Binding}

/-- Locating a binding whose name is free keeps what is known of the winners: their names are
taken. -/
theorem locate (h : Reflects file won ledger) (hfree : binding.name ∉ ledger.taken.names) :
    Reflects file won (ledger.locate binding) where
  names := h.names
  sites := by
    intro winner hwinner
    have hne : winner.name ≠ binding.name := by
      intro heq
      rw [h.names, ← heq] at hfree
      exact hfree (List.mem_map_of_mem hwinner)
    rw [site?_locate, if_neg hne]
    exact h.sites winner hwinner
  components := h.components
  functions := h.functions

/-- Recording a binding that was just located adds it to the winners. -/
theorem record (h : Reflects file won ledger) (hfree : binding.name ∉ ledger.taken.names) :
    Reflects file (won ++ [binding])
      ((ledger.locate binding).record binding.name (binding.finding? file)) where
  names := by
    have hhas : (ledger.locate binding).taken.has binding.name = false := by
      rw [← Bool.not_eq_true, has_iff]
      exact hfree
    rw [List.map_append, ← h.names]
    exact names_take hhas
  sites := by
    intro winner hwinner
    show (ledger.locate binding).site? winner.name = some winner.site
    rcases List.mem_append.1 hwinner with hwinner | hwinner
    · exact (h.locate hfree).sites winner hwinner
    · rw [List.mem_singleton.1 hwinner, site?_locate_self]
  components := by
    rw [List.filterMap_append, ← h.components, List.filterMap_cons, List.filterMap_nil]
    cases hfind : (binding.finding? file).bind Finding.component? <;>
      simp [Ledger.record, hfind] <;> rfl
  functions := by
    rw [List.filterMap_append, ← h.functions, List.filterMap_cons, List.filterMap_nil]
    cases hfind : (binding.finding? file).bind Finding.function? <;>
      simp [Ledger.record, hfind] <;> rfl

/-- Of a name that is taken the ledger knows where its winner stands. -/
theorem exists_winner {name : String} (h : Reflects file won ledger)
    (htaken : ledger.taken.has name = true) :
    ∃ winner ∈ won, winner.name = name ∧ ledger.site? name = some winner.site := by
  rw [has_iff, h.names] at htaken
  obtain ⟨winner, hwinner, rfl⟩ := List.mem_map.1 htaken
  exact ⟨winner, hwinner, rfl, h.sites winner hwinner⟩

/-- Considering one more binding keeps a ledger in step with the winners. -/
theorem consider {done : List Binding} (h : Reflects file (Binding.winners done) ledger)
    (binding : Binding) :
    Reflects file (Binding.winners (done ++ [binding])) (consider file ledger binding).value := by
  rw [Binding.winners_concat, ← h.names]
  obtain ⟨htaken, hvalue⟩ | ⟨hfree, hclaim, hvalue⟩ | ⟨hfree, hclaim, hvalue⟩ :=
    consider_cases file ledger binding
  · rw [hvalue, if_neg (by simp [htaken]), List.append_nil]
    exact h
  · rw [hvalue, if_pos ⟨hclaim, hfree⟩]
    exact h.record hfree
  · rw [hvalue, if_neg (by simp [hclaim]), List.append_nil]
    exact h.locate hfree

/-- Along a run the ledger stays in step with the winners. -/
theorem fold {done : List Binding} (h : Reflects file (Binding.winners done) ledger)
    (rest : List Binding) :
    Reflects file (Binding.winners (done ++ rest))
      (Logged.fold (Ledger.consider file) ledger rest).value := by
  induction rest generalizing done ledger with
  | nil =>
    rw [List.append_nil]
    exact h
  | cons binding rest ih =>
    have hnext := ih (h.consider binding)
    rw [List.append_assoc, List.singleton_append] at hnext
    exact hnext

end Reflects

/-- After every part of a run the ledger reflects the winners among the bindings considered. -/
theorem reflects_fold (file : FileContext) (order : List Binding) :
    Reflects file (Binding.winners order)
      (Logged.fold (Ledger.consider file) .empty order).value := by
  have hstart : Reflects file (Binding.winners []) empty := reflects_empty file
  exact hstart.fold order

end Ledger

end ComponentSurvey
