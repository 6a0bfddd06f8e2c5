import ComponentSurvey.Binding
import ComponentSurvey.Reservations

/-!
# Components and functions of a file

The bindings of a file are considered one after the other, those at module scope first. A name
belongs to the first binding that takes it; the records come out in source order all the same.

* `Ledger` — the names taken, where they were bound, and the records made so far.
* `Ledger.consider` — what a binding adds to a ledger.
* `Findings.ofTree` — the components and functions of a tree.
-/

namespace ComponentSurvey

/-- Where a name was bound. -/
structure Site where
  start : Nat
  line : Nat
deriving DecidableEq, Repr, Inhabited

/-- Where the node of a binding stands. -/
def Binding.site (binding : Binding) : Site := ⟨binding.node.start, binding.node.line⟩

/-- What every record of a file says of the file. -/
structure FileContext where
  path : String
  imports : List Import

/-- The names taken, where names were bound, and the records made so far. -/
structure Ledger where
  taken : Reservations
  /-- Where names were bound; the latest site of a name comes first. -/
  sites : List (String × Site)
  components : List Component
  functions : List PlainFunction

namespace Ledger

/-- Nothing was considered yet. -/
def empty : Ledger := ⟨.empty, [], [], []⟩

/-- Where a name was bound last. -/
def site? (ledger : Ledger) (name : String) : Option Site := ledger.sites.lookup name

/-- The offset at which a name was bound last. -/
def position (ledger : Ledger) (name : String) : Nat := (ledger.site? name).elim 0 Site.start

/-- Notes where a name is bound. -/
def locate (ledger : Ledger) (binding : Binding) : Ledger :=
  { ledger with sites := (binding.name, binding.site) :: ledger.sites }

@[simp] theorem site?_locate_self (ledger : Ledger) (binding : Binding) :
    (ledger.locate binding).site? binding.name = some binding.site := by simp [site?, locate]

/-- Takes a name. -/
def take (ledger : Ledger) (name : String) : Ledger :=
  { ledger with taken := (ledger.taken.reserve name).2 }

/-- Records a component, if there is one. -/
def addComponent (ledger : Ledger) (component? : Option Component) : Ledger :=
  { ledger with components := ledger.components ++ component?.toList }

/-- Records a function. -/
def addFunction (ledger : Ledger) (function : PlainFunction) : Ledger :=
  { ledger with functions := ledger.functions ++ [function] }

/-- Analyses a binding whose name is free. A wrapper call takes the name even where it wraps no
function; a component takes it and is recorded; another function only if it is exported. -/
def dispatch (file : FileContext) (ledger : Ledger) (binding : Binding) : Logged Ledger := do
  Logged.note (.analyzing binding.shape.name binding.name)
  if binding.isWrapperCall then
    let component? ← Component.ofWrapper binding.node binding.name file.path file.imports
    pure ((ledger.take binding.name).addComponent component?)
  else if binding.node.isComponent then
    Logged.read binding.node.componentReads
    let component := Component.describe binding.node binding.name file.path file.imports []
    pure ((ledger.take binding.name).addComponent (some component))
  else
    let function ← PlainFunction.describe binding.cursor binding.name file.path file.imports
    if function.isExported then
      pure ((ledger.take binding.name).addFunction function)
    else
      Logged.note (.notExported binding.name)
      pure ledger

/-- Considers a binding: it is skipped if its name is taken. -/
def consider (file : FileContext) (ledger : Ledger) (binding : Binding) : Logged Ledger :=
  if ledger.taken.has binding.name then do
    Logged.note
      (.alreadyRecorded binding.name binding.node.line ((ledger.site? binding.name).map Site.line))
    pure ledger
  else
    dispatch file (ledger.locate binding) binding

/-- Considers the bindings of a file, those at module scope first. -/
def ofBindings (file : FileContext) (bindings : List Binding) : Logged Ledger :=
  Logged.fold (consider file) .empty (Binding.topLevelFirst bindings)

/-- The components in the order in which their names are bound in the source. -/
def sortedComponents (ledger : Ledger) : List Component :=
  ledger.components.mergeSort fun a b => ledger.position a.name ≤ ledger.position b.name

/-- The functions in the order in which their names are bound in the source. -/
def sortedFunctions (ledger : Ledger) : List PlainFunction :=
  ledger.functions.mergeSort fun a b => ledger.position a.name ≤ ledger.position b.name

end Ledger

/-- The components and functions of a file. -/
structure Findings where
  components : List Component
  functions : List PlainFunction

/-- The components and functions of a tree in source order. -/
def Findings.ofTree (file : FileContext) (root : Node) : Logged Findings := do
  Logged.read (Binding.treeReads root)
  let ledger ← Ledger.ofBindings file (Binding.ofTree root)
  pure ⟨ledger.sortedComponents, ledger.sortedFunctions⟩

end ComponentSurvey
