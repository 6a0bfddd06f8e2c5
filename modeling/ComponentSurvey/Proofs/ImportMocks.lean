import ComponentSurvey.Mock.Statement
import ComponentSurvey.Proofs.Readable
import Mathlib.Data.List.Basic

/-!
# From import statements to mocks

The record of an import shows all that a statement takes from a module as one list of texts, in which
only the mark `* as` tells a module that is taken whole from a name. The mocks of a file are made from
the records. Here both are compared with what the statements take, told apart by kind.

* `Import.sourceNode?` — where a statement imports from.
* `Import.Taken`, `Import.taken` — the things that a statement takes, in source order.
* `Import.value_ofNode` — the record of a statement.
* `Import.Mocks`, `Import.mocks_mock?` — the mock that a module gets, and that of a record.
* `not_isPrefix_of_isLocalSource` — files of the project are none of the packages that are known by
  name.
* `FileSurvey.imports_to_mocks` — the imports of a file and their mocks.
-/

namespace ComponentSurvey

namespace Import

/-! ### What a statement takes -/

/-- The node that says where a statement imports from: its own source or, where it has none, that of
its first require clause. -/
def sourceNode? (statement : Node) : Option Node :=
  (statement.child? .source).or
    ((requireClause? statement).bind fun clause => clause.child? .source)

/-- Something that a statement takes from a module. -/
inductive Taken where
  /-- The default export, or a module that is required, under a name. -/
  | byDefault (name : String)
  /-- The module as a whole under a name. -/
  | whole (name : String)
  /-- What the module exports under a name. -/
  | named (name : String)
deriving DecidableEq, Repr

namespace Taken

/-- How a record shows what is taken. -/
def specifier : Taken → String
  | byDefault name => name
  | whole name => "* as " ++ name
  | named name => name

/-- The name that a mock has an entry for; a module as a whole has none. -/
def entry? : Taken → Option String
  | byDefault name => some name
  | whole _ => none
  | named name => some name

/-- Whether the default export is taken. -/
def isDefault : Taken → Bool
  | byDefault _ => true
  | whole _ => false
  | named _ => false

end Taken

/-- What a part of an import clause takes: an identifier the default export, an alias the module as a
whole, and a list in braces what its specifiers name as it is exported. -/
def takenBy (part : Node) : List Taken :=
  if part.kind = .identifier then [.byDefault part.text]
  else if part.kind = .namespaceImport then
    (part.namedChildren.find? fun child => child.kind == .identifier).toList.map fun name =>
      .whole name.text
  else if part.kind = .namedImports then
    part.namedChildren.filterMap fun item =>
      if item.kind = .importSpecifier then (item.child? .name).map fun name => .named name.text
      else none
  else []

/-- What a statement takes, clause by clause and child by child; a statement without a source of its
own takes the module that it requires. -/
def taken (statement : Node) : List Taken :=
  if (statement.child? .source).isSome then
    (statement.namedChildren.filter fun child => child.kind == .importClause).flatMap fun clause =>
      clause.namedChildren.flatMap takenBy
  else ((requireClause? statement).bind localName?).toList.map fun name => .byDefault name.text

/-- The record that shows what is taken from a source. -/
def ofTaken (source : Node) (things : List Taken) : Import :=
  { source := source.stringValue
    specifiers := things.map Taken.specifier
    isDefault := things.any Taken.isDefault }

theorem partSpecifiers_eq (part : Node) :
    partSpecifiers part = (takenBy part).map Taken.specifier := by
  have hnamed : namedSpecifiers part = (part.namedChildren.filterMap fun item =>
      if item.kind = .importSpecifier then (item.child? .name).map fun name => Taken.named name.text
      else none).map Taken.specifier := by
    rw [namedSpecifiers, specifierNodes, List.filterMap_filter, List.map_filterMap,
      List.map_filterMap]
    refine List.filterMap_congr fun item _ => ?_
    by_cases hkind : item.kind = .importSpecifier
    · cases item.child? .name <;> simp [hkind, Taken.specifier]
    · simp [hkind]
  rw [partSpecifiers, takenBy]
  split
  · rename_i hkind
    rw [if_pos hkind]
    rfl
  · rename_i hkind
    rw [if_neg (by simp [hkind]), if_pos hkind]
    show (localName? part).toList.map _ = _
    rw [List.map_map]
    rfl
  · rename_i hkind
    rw [if_neg (by simp [hkind]), if_neg (by simp [hkind]), if_pos hkind, hnamed]
  · rename_i hidentifier hnamespace hlist
    rw [if_neg hidentifier, if_neg hnamespace, if_neg hlist]
    rfl

/-- The default export is taken by an identifier and by nothing else. -/
theorem any_isDefault_takenBy (part : Node) :
    (takenBy part).any Taken.isDefault = (part.kind == .identifier) := by
  rw [takenBy]
  split
  · rename_i hkind
    simp [hkind, Taken.isDefault]
  · rename_i hkind
    rw [beq_false_of_ne hkind, List.any_eq_false]
    intro thing hthing
    split at hthing
    · obtain ⟨name, _, rfl⟩ := List.mem_map.1 hthing
      exact Bool.false_ne_true
    · split at hthing
      · obtain ⟨item, _, hitem⟩ := List.mem_filterMap.1 hthing
        split at hitem
        · obtain ⟨name, _, rfl⟩ := Option.map_eq_some_iff.1 hitem
          exact Bool.false_ne_true
        · cases hitem
      · cases hthing

/-- The record of a statement shows what the statement takes. -/
theorem value_ofNode (statement : Node) :
    (ofNode statement).value
      = (sourceNode? statement).map fun source => ofTaken source (taken statement) := by
  rw [ofNode, Logged.value_bind, sourceNode?, taken]
  cases hsource : statement.child? .source with
  | some source =>
    have hclauses : clauses statement
        = statement.namedChildren.filter fun child => child.kind == .importClause := rfl
    have hparts : partSpecifiers = fun part => (takenBy part).map Taken.specifier :=
      funext partSpecifiers_eq
    simp only [Logged.value_pure, ofClauses, ofTaken, hclauses, hparts, Option.some_or, Option.map_some,
      Option.isSome_some, if_true, List.flatMap_assoc, List.map_flatMap, List.any_flatMap,
      any_isDefault_takenBy]
  | none =>
    rw [ofRequire?]
    cases hclause : requireClause? statement with
    | none => rfl
    | some clause =>
      cases hinner : clause.child? .source with
      | none => simp [hinner]
      | some source =>
        cases hname : localName? clause <;>
          simp [ofTaken, hinner, hname, Taken.specifier, Taken.isDefault]

theorem any_isDefault_taken_iff {statement : Node} (h : (statement.child? .source).isSome = true) :
    (taken statement).any Taken.isDefault = true ↔
      ∃ clause ∈ statement.namedChildren, clause.kind = .importClause ∧
        ∃ child ∈ clause.namedChildren, child.kind = .identifier := by
  rw [taken, if_pos h]
  simp only [List.any_flatMap, any_isDefault_takenBy, List.any_eq_true, List.mem_filter, beq_iff_eq,
    and_assoc]

/-! ### The mock of a module -/

/-- The mock that a module gets for the names with an entry: one made in advance, or one entry for each
name where the module is a file of the project and there are names; otherwise none. -/
structure Mocks (source : String) (entries : List String) (statement? : Option String) : Prop where
  canned : ∀ lines, (source, lines) ∈ cannedModules → statement? = some (moduleMock source lines)
  fromProject : isLocalSource source = true → entries ≠ [] →
    statement? = some (moduleMock source (entries.map specifierLine))
  withoutEntries : isLocalSource source = true → entries = [] → statement? = none
  skipped : isUnmocked source = true → statement? = none
  other : source ∉ cannedModules.map Prod.fst → isLocalSource source = false → statement? = none

end Import

/-- What stands in front of the path of a file of the project. -/
def localHeads : List String := [".", "@/", "~/"]

theorem isLocalSource_iff {source : String} :
    isLocalSource source = true ↔ ∃ head ∈ localHeads, head.toList <+: source.toList := by
  simp [isLocalSource, localHeads, Text.startsWith_iff, or_assoc]

/-- No package that is known by name stands in front of the path of a file of the project. -/
theorem not_isPrefix_of_isLocalSource {package source : String}
    (hpackage : package ∈ unmockedPackages ++ cannedModules.map Prod.fst)
    (hsource : isLocalSource source = true) : ¬ package.toList <+: source.toList := by
  have hapart : ∀ package ∈ unmockedPackages ++ cannedModules.map Prod.fst, ∀ head ∈ localHeads,
      ¬ head.toList <+: package.toList ∧ ¬ package.toList <+: head.toList := by decide
  obtain ⟨head, hhead, hstart⟩ := isLocalSource_iff.1 hsource
  intro hsame
  rcases List.prefix_or_prefix_of_prefix hstart hsame with hshort | hlong
  · exact (hapart package hpackage head hhead).1 hshort
  · exact (hapart package hpackage head hhead).2 hlong

theorem isUnmocked_iff {source : String} :
    isUnmocked source = true ↔ ∃ package ∈ unmockedPackages,
      source = package ∨ (package ++ "/").toList <+: source.toList := by
  simp [isUnmocked, Text.startsWith_iff]

/-- A file of the project is always mocked. -/
theorem isUnmocked_of_isLocalSource {source : String} (h : isLocalSource source = true) :
    isUnmocked source = false := by
  rw [← Bool.not_eq_true, isUnmocked_iff]
  rintro ⟨package, hpackage, hsame⟩
  refine not_isPrefix_of_isLocalSource (List.mem_append_left _ hpackage) h ?_
  rcases hsame with rfl | hbelow
  · exact List.prefix_rfl
  · rw [String.toList_append] at hbelow
    exact (List.prefix_append _ _).trans hbelow

/-- No mock of a file of the project is made in advance. -/
theorem not_mem_canned_of_isLocalSource {source : String} (h : isLocalSource source = true) :
    source ∉ cannedModules.map Prod.fst := fun hmem =>
  not_isPrefix_of_isLocalSource (List.mem_append_right _ hmem) h List.prefix_rfl

namespace Import

theorem lookup_canned_of_not_mem {source : String} (h : source ∉ cannedModules.map Prod.fst) :
    cannedModules.lookup source = none := by
  rw [List.lookup_eq_none_iff]
  rintro ⟨package, lines⟩ hentry
  rw [bne_iff_ne]
  rintro rfl
  exact h (List.mem_map_of_mem hentry)

/-- The mock of a record is the one that its module gets for the names that it takes. -/
theorem mocks_mock? (record : Import) : Mocks record.source record.mockedSpecifiers record.mock? := by
  have hcanned : ∀ entry ∈ cannedModules,
      isUnmocked entry.1 = false ∧ cannedModules.lookup entry.1 = some entry.2 := by decide
  have hlocal : isLocalSource record.source = true → record.mock? =
      if record.mockedSpecifiers.isEmpty then none
      else some (moduleMock record.source (record.mockedSpecifiers.map specifierLine)) := by
    intro h
    rw [mock?, isUnmocked_of_isLocalSource h,
      lookup_canned_of_not_mem (not_mem_canned_of_isLocalSource h), h]
    cases record.mockedSpecifiers <;> rfl
  refine ⟨?_, ?_, ?_, ?_, ?_⟩
  · intro lines hentry
    obtain ⟨hskipped, hlookup⟩ := hcanned _ hentry
    rw [mock?, hskipped, hlookup]
    rfl
  · intro h hentries
    rw [hlocal h, if_neg (by simpa using hentries)]
  · intro h hentries
    rw [hlocal h, hentries]
    rfl
  · intro hskipped
    rw [mock?, if_pos hskipped]
  · intro hmem h
    rw [mock?, lookup_canned_of_not_mem hmem, h]
    split <;> rfl

/-- The mock of the record of a statement. -/
def statementMock? (statement : Node) : Option String := (ofNode statement).value.bind mock?

/-- If no name looks like a module that is taken whole, the names with an entry are those that the
record shows without the mark. -/
theorem filter_specifiers {things : List Taken}
    (h : ∀ thing ∈ things, ∀ name ∈ thing.entry?, ¬ "* as".toList <+: name.toList) :
    (things.map Taken.specifier).filter (fun specifier => !Text.startsWith "* as" specifier)
      = things.filterMap Taken.entry? := by
  induction things with
  | nil => rfl
  | cons thing rest ih =>
    rw [List.forall_mem_cons] at h
    have hstart : ∀ name, thing.entry? = some name → Text.startsWith "* as" name = false := by
      intro name hname
      rw [← Bool.not_eq_true, Text.startsWith_iff]
      exact h.1 name hname
    rw [List.map_cons, List.filter_cons, List.filterMap_cons, ih h.2]
    cases thing with
    | byDefault name => simp [Taken.specifier, Taken.entry?, hstart name rfl]
    | named name => simp [Taken.specifier, Taken.entry?, hstart name rfl]
    | whole name =>
      have hmark : Text.startsWith "* as" ("* as " ++ name) = true := by
        rw [Text.startsWith_iff, String.toList_append]
        exact List.IsPrefix.trans (by decide) (List.prefix_append _ _)
      simp [Taken.specifier, Taken.entry?, hmark]

end Import

theorem value_mocksFor (imports : List Import) :
    (mocksFor imports).value = imports.filterMap Import.mock? := by
  rw [mocksFor, Logged.value_collect]
  refine List.filterMap_congr fun record _ => ?_
  cases record.mock? <;> rfl

namespace FileSurvey

/-- The import statements of a program: those among the named children of its root. -/
def importStatements (root : Node) : List Node :=
  root.namedChildren.filter fun child => child.kind == .importStatement

theorem imports_ofTree (root : Node) (path : String) :
    (ofTree root path).value.imports
      = (importStatements root).filterMap fun statement => (Import.ofNode statement).value := by
  show (Import.ofProgram root).value = _
  rw [Import.ofProgram, Logged.value_collect]
  rfl

open Import in
/-- **From import statements to mocks.** The imports of a file are, in source order, one record for
each import statement of the program that has a source; it shows what the statement takes, and whether
the default export is among it. If no name that is taken starts with `* as`, the mocks of the imports
are, in the same order, those that the modules get for the names taken from them. No file of the project
is left out of the mocks or has one made in advance. -/
theorem imports_to_mocks (root : Node) (path : String) :
    let survey := (ofTree root path).value
    (root.Readable → (ofTree root path).outcome.value = .ok survey) ∧
    survey.imports = (importStatements root).filterMap (fun statement =>
      (sourceNode? statement).map fun source =>
        ⟨source.stringValue, (taken statement).map Taken.specifier,
          (taken statement).any Taken.isDefault⟩) ∧
    (∀ statement ∈ importStatements root, (statement.child? .source).isSome = true →
      ((taken statement).any Taken.isDefault = true ↔
        ∃ clause ∈ statement.namedChildren, clause.kind = .importClause ∧
          ∃ child ∈ clause.namedChildren, child.kind = .identifier)) ∧
    ((∀ statement ∈ importStatements root, ∀ thing ∈ taken statement, ∀ name ∈ thing.entry?,
        ¬ "* as".toList <+: name.toList) →
      ∃ mock? : Node → Option String,
        (mocksFor survey.imports).value = (importStatements root).filterMap mock? ∧
        ∀ statement ∈ importStatements root,
          (sourceNode? statement = none → mock? statement = none) ∧
          ∀ source, sourceNode? statement = some source →
            Mocks source.stringValue ((taken statement).filterMap Taken.entry?) (mock? statement)) ∧
    (∀ source, isLocalSource source = true ↔ ∃ head ∈ localHeads, head.toList <+: source.toList) ∧
    (∀ source, isLocalSource source = true →
      isUnmocked source = false ∧ source ∉ cannedModules.map Prod.fst) := by
  intro survey
  have himports : survey.imports = (importStatements root).filterMap (fun statement =>
      (sourceNode? statement).map fun source =>
        ⟨source.stringValue, (taken statement).map Taken.specifier,
          (taken statement).any Taken.isDefault⟩) := by
    rw [show survey.imports = _ from imports_ofTree root path]
    exact List.filterMap_congr fun statement _ => value_ofNode statement
  refine ⟨fun h => outcome_ofTree h path, himports, fun statement _ => any_isDefault_taken_iff, ?_,
    fun source => isLocalSource_iff,
    fun source h => ⟨isUnmocked_of_isLocalSource h, not_mem_canned_of_isLocalSource h⟩⟩
  intro hnames
  refine ⟨statementMock?, ?_, ?_⟩
  · rw [value_mocksFor, show survey.imports = _ from imports_ofTree root path,
      List.filterMap_filterMap]
    rfl
  · intro statement hstatement
    refine ⟨fun hnone => ?_, fun source hsource => ?_⟩
    · rw [statementMock?, value_ofNode, hnone]
      rfl
    · rw [statementMock?, value_ofNode, hsource, ← filter_specifiers (hnames statement hstatement)]
      exact mocks_mock? (ofTaken source (taken statement))

/-- A statement that imports from a source what the parts of its clause take. -/
def sampleImport (start : Nat) (source : String) (parts : List Node) : Node :=
  .mk (.sample .importStatement none start "")
    [.mk (.sample .importClause none (start + 1) "") parts,
      .mk (.sample .string (some .source) (start + 2) source) []]

/-- A list in braces that imports what is exported under a name. -/
def sampleSpecifiers (start : Nat) (name : String) : Node :=
  .mk (.sample .namedImports none start "")
    [.mk (.sample .importSpecifier none (start + 1) "")
      [.mk (.sample .identifier (some .name) (start + 2) name) [],
        .mk (.sample .identifier none (start + 3) "local") []]]

/-- A program that takes the default export and a renamed name from a file of the project, another such
file as a whole, the default export of a package that is never mocked, and a name of a package whose mock
is made in advance. -/
def sampleImports : Node :=
  .mk (.sample .program none 0 "")
    [sampleImport 1 "'./x'" [.mk (.sample .identifier none 10 "D") [], sampleSpecifiers 11 "a"],
      sampleImport 20 "'~/y'"
        [.mk (.sample .namespaceImport none 30 "") [.mk (.sample .identifier none 31 "all") []]],
      sampleImport 40 "'react'" [.mk (.sample .identifier none 50 "R") []],
      sampleImport 60 "'react-redux'" [sampleSpecifiers 70 "P"]]

theorem imports_to_mocks_sample :
    (∀ statement ∈ importStatements sampleImports, ∀ thing ∈ Import.taken statement,
      ∀ name ∈ thing.entry?, ¬ "* as".toList <+: name.toList) ∧
    (mocksFor (ofTree sampleImports "a.ts").value.imports).value
      = ["jest.mock('./x', () => (\x7b\n  D: jest.fn(),\n  a: jest.fn(),\n\x7d));",
          moduleMock "react-redux"
            ["  useSelector: jest.fn(),", "  useDispatch: () => jest.fn(),",
              "  Provider: (\x7b children \x7d: any) => children,"]] := by
  have hnames : ∀ statement ∈ importStatements sampleImports, ∀ thing ∈ Import.taken statement,
      ∀ name ∈ thing.entry?, ¬ "* as".toList <+: name.toList := by decide
  obtain ⟨_, _, _, hmocks, _, _⟩ := imports_to_mocks sampleImports "a.ts"
  obtain ⟨mock?, hvalue, hrule⟩ := hmocks hnames
  have hstatements : importStatements sampleImports = sampleImports.children := rfl
  rw [hstatements] at hrule
  simp only [sampleImports, Node.children_mk, List.forall_mem_cons] at hrule
  obtain ⟨⟨_, hfile⟩, ⟨_, hwhole⟩, ⟨_, hskipped⟩, ⟨_, hcanned⟩, _⟩ := hrule
  refine ⟨hnames, ?_⟩
  rw [hvalue, hstatements]
  simp only [sampleImports, Node.children_mk, List.filterMap_cons,
    (hfile _ rfl).fromProject rfl (List.cons_ne_nil _ _),
    (hwhole _ rfl).withoutEntries rfl rfl, (hskipped _ rfl).skipped rfl,
    (hcanned _ rfl).canned _ (.tail _ (.tail _ (.head _)))]
  rfl

end FileSurvey

end ComponentSurvey
