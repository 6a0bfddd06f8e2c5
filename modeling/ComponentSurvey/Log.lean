import ComponentSurvey.Source.Grammar
import ComponentSurvey.Tree.Node

/-!
# Notes taken along the way

The survey reports what it skips and why. A computation that takes notes is a value together with
the notes in the order they were taken, so that what it computes can be read off without them.

A node whose bytes are no text has an empty one, and a source whose grammar has no parser is one that
is not parsed, so that every computation has a value. That such a text or such a parser was needed is
noted all the same, and the outcome of a computation is an interruption at the first of these notes.

* `Interruption` — what ends a computation without a result.
* `Note` — everything the survey has to say, with `Note.level` and `Note.text`.
* `Logged` — a value and the notes taken on the way to it.
* `Logged.read` — notes that the texts of some nodes are needed.
* `Logged.outcome` — the value, unless the computation was interrupted.
* `Logged.collect`, `Logged.fold` — lists of computations that take notes.
* `Logged.value_bind`, `Logged.value_collect` — notes do not change values.
* `Logged.collect_map`, `Logged.fold_map` — runs over items that correspond.
-/

namespace ComponentSurvey

/-- How much a note matters. -/
inductive Level where
  | debug
  | warning
  | error
deriving DecidableEq, Repr

/-- The name of a level. -/
def Level.name : Level → String
  | .debug => "DEBUG"
  | .warning => "WARNING"
  | .error => "ERROR"

/-- What ends a computation without a result. -/
inductive Interruption where
  /-- The text of a node is needed and its bytes are none. -/
  | unreadable (fault : Utf8.Fault)
  /-- The parser of a grammar is needed and cannot be made. -/
  | noParser (failure : GrammarFailure)
deriving DecidableEq, Repr

/-- The wording of an interruption. -/
def Interruption.message : Interruption → String
  | .unreadable fault => fault.message
  | .noParser failure => failure.message

/-- Something the survey has to say. -/
inductive Note where
  /-- A binding is about to be analysed. -/
  | analyzing (shape name : String)
  /-- A binding is skipped because its name is taken by the binding of another line. -/
  | alreadyRecorded (name : String) (line : Nat) (owner : Option Nat)
  /-- A function that is not exported is no part of what can be tested. -/
  | notExported (name : String)
  /-- A function has no name to be recorded under. -/
  | unnamedFunction (line : Nat)
  /-- A component has no name to be recorded under. -/
  | unnamedComponent (line : Nat)
  /-- A parameter binds its argument by a pattern of an unknown kind. -/
  | parameterKind (kind : Kind)
  /-- A wrapper is applied to a name instead of a function. -/
  | wrapsReference (wrapper : String) (line : Nat) (target : String)
  /-- An import statement says nothing of where it imports from. -/
  | importWithoutSource (line : Nat)
  /-- What was found in a file. -/
  | summary (path : String) (components functions imports : Nat)
  /-- The source of a file is not well formed. -/
  | syntaxErrors (path : String)
  /-- The parser gave up. -/
  | parsingFailed (reason : String)
  /-- A directory holds nothing to survey. -/
  | noSourceFiles (directory : String)
  /-- A file of a directory is left out. -/
  | surveyFailed (path reason : String)
  /-- An import is not mocked. -/
  | noMockNeeded (source : String)
  /-- The parser of a grammar is ready. -/
  | grammarReady (grammar : String)
  /-- The parser of a grammar could not be made. -/
  | grammarFailed (reason : String)
  /-- There is no going on. -/
  | interrupted (cause : Interruption)
deriving DecidableEq, Repr

namespace Note

/-- How much a note matters. -/
def level : Note → Level
  | .syntaxErrors _ | .noSourceFiles _ => .warning
  | .parsingFailed _ | .surveyFailed _ _ | .grammarFailed _ | .interrupted _ => .error
  | _ => .debug

/-- The wording of a note. -/
def text : Note → String
  | .analyzing shape name => s!"Analyzing {shape} binding {name}"
  | .alreadyRecorded name line owner =>
    let ownerLine := owner.elim "?" toString
    s!"Skipping {name} at line {line}: already recorded at line {ownerLine}"
  | .notExported name => s!"Skipping non-exported function {name}"
  | .unnamedFunction line => s!"Skipping unnamed function at line {line}"
  | .unnamedComponent line => s!"Skipping unnamed component at line {line}"
  | .parameterKind kind => s!"Skipping parameter of kind {kind.name}"
  | .wrapsReference wrapper line target =>
    s!"{wrapper} at line {line} wraps {target} by reference; its declaration is analyzed on its own"
  | .importWithoutSource line => s!"Skipping import without a source at line {line}"
  | .summary path components functions imports =>
    s!"{path}: {components} components, {functions} functions, {imports} imports"
  | .syntaxErrors path => s!"Syntax errors in {path}; analysis may be incomplete"
  | .parsingFailed reason => s!"Tree-sitter parsing failed: {reason}"
  | .noSourceFiles directory => s!"No source files found in {directory}"
  | .surveyFailed path reason => s!"Failed to analyze {path}: {reason}"
  | .noMockNeeded source => s!"No mock needed for {source}"
  | .grammarReady grammar => s!"Tree-sitter {grammar} parser initialized successfully"
  | .grammarFailed reason => s!"Failed to initialize Tree-sitter parser: {reason}"
  | .interrupted cause => cause.message

/-- The interruption that a note tells of. -/
def interruption? : Note → Option Interruption
  | .interrupted cause => some cause
  | _ => none

end Note

/-- A value and the notes taken on the way to it. -/
structure Logged (α : Type) where
  value : α
  notes : List Note

namespace Logged

variable {α β γ σ τ : Type}

instance : Monad Logged where
  pure a := ⟨a, []⟩
  bind x f := ⟨(f x.value).value, x.notes ++ (f x.value).notes⟩

instance : LawfulMonad Logged :=
  LawfulMonad.mk' Logged
    (fun x => congrArg (mk x.value) (List.append_nil x.notes))
    (fun _ _ => rfl)
    (fun x f g => congrArg (mk (g (f x.value).value).value)
      (List.append_assoc x.notes (f x.value).notes (g (f x.value).value).notes))

/-- Takes a note. -/
def note (note : Note) : Logged Unit := ⟨(), [note]⟩

@[simp] theorem value_pure (a : α) : (pure a : Logged α).value = a := rfl

@[simp] theorem notes_pure (a : α) : (pure a : Logged α).notes = [] := rfl

@[simp] theorem value_bind (x : Logged α) (f : α → Logged β) :
    (x >>= f).value = (f x.value).value := rfl

@[simp] theorem notes_bind (x : Logged α) (f : α → Logged β) :
    (x >>= f).notes = x.notes ++ (f x.value).notes := rfl

@[simp] theorem value_map (f : α → β) (x : Logged α) : (f <$> x).value = f x.value := rfl

@[simp] theorem notes_map (f : α → β) (x : Logged α) : (f <$> x).notes = x.notes :=
  List.append_nil x.notes

/-- Only the value of a computation matters for what follows it. -/
theorem bind_congr_value {x : Logged α} {f g : α → Logged β} (h : f x.value = g x.value) :
    x >>= f = x >>= g := by
  show mk _ _ = mk _ _
  rw [h]

/-- Notes that the texts of some nodes are needed: the first that is none, if there is one. -/
def read (nodes : List Node) : Logged Unit :=
  ⟨(), (nodes.findSome? Node.fault?).toList.map fun fault => .interrupted (.unreadable fault)⟩

/-- A value for which the texts of some nodes are needed. -/
def reading (nodes : List Node) (value : α) : Logged α := do
  read nodes
  pure value

/-- The value of a computation, unless it was interrupted; then nothing counts that was noted
later. -/
def outcome (x : Logged α) : Logged (Except Interruption α) where
  value :=
    match x.notes.findSome? Note.interruption? with
    | some cause => .error cause
    | none => .ok x.value
  notes := x.notes.takeWhile fun note => note.interruption?.isNone

/-- Texts that can be read leave no note. -/
theorem notes_read {nodes : List Node} (h : ∀ node ∈ nodes, node.fault? = none) :
    (read nodes).notes = [] := by
  simp [read, List.findSome?_eq_none_iff.2 h]

/-- The values that the items of a list give, with the notes of all items. -/
def collect (f : α → Logged (Option β)) : List α → Logged (List β)
  | [] => pure []
  | item :: rest => do
    let first ← f item
    let others ← collect f rest
    pure (first.toList ++ others)

/-- The state after the items of a list, with the notes of all items. -/
def fold (f : σ → α → Logged σ) (state : σ) : List α → Logged σ
  | [] => pure state
  | item :: rest => do
    let next ← f state item
    fold f next rest

/-- The values collected from a list are those that its items give without their notes. -/
@[simp] theorem value_collect (f : α → Logged (Option β)) (items : List α) :
    (collect f items).value = items.filterMap fun item => (f item).value := by
  induction items with
  | nil => rfl
  | cons item rest ih =>
    rw [List.filterMap_cons, collect]
    cases h : (f item).value <;> simp [h, ih]

/-- Items that correspond give the same values and the same notes. -/
theorem collect_map {f : α → Logged (Option β)} {g : γ → Logged (Option β)} {image : α → γ}
    {items : List α} (h : ∀ item ∈ items, g (image item) = f item) :
    collect g (items.map image) = collect f items := by
  induction items with
  | nil => rfl
  | cons item rest ih =>
    rw [List.map_cons, collect, collect, h item List.mem_cons_self,
      ih fun other hother => h other (List.mem_cons_of_mem _ hother)]

/-- Two runs over items that correspond end in states that correspond, and take the same notes, if
each step from states that correspond does. -/
theorem fold_map {f : σ → α → Logged σ} {g : τ → γ → Logged τ} {view : σ → τ} {image : α → γ}
    {items : List α}
    (h : ∀ item ∈ items, ∀ state, g (view state) (image item) = view <$> f state item) (state : σ) :
    fold g (view state) (items.map image) = view <$> fold f state items := by
  induction items generalizing state with
  | nil => rfl
  | cons item rest ih =>
    rw [List.map_cons, fold, fold, h item List.mem_cons_self, bind_map_left, map_bind]
    apply bind_congr
    intro next
    exact ih (fun other hother => h other (List.mem_cons_of_mem _ hother)) next

end Logged

end ComponentSurvey
