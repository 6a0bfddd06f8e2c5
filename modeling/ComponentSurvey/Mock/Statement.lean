import ComponentSurvey.Log
import ComponentSurvey.Mock.Value

/-!
# Statements that mock what a file uses

* `Import.mock?`, `mocksFor` — the statement for an import, and those for all imports of a file.
* `hookMock` — the statement for a hook.
* `TestingLibrary.ofFramework` — the library that renders the components of a framework.
-/

namespace ComponentSurvey

/-! ### Imports -/

/-- The packages that are never mocked, nor what is below them. -/
def unmockedPackages : List String :=
  ["react", "react-native", "@testing-library/react", "@testing-library/react-native",
    "@testing-library/jest-native", "jest", "@jest"]

/-- Whether a source is never mocked. -/
def isUnmocked (source : String) : Bool :=
  unmockedPackages.any fun package => source == package || Text.startsWith (package ++ "/") source

/-- Whether a source is a file of the project itself. -/
def isLocalSource (source : String) : Bool :=
  Text.startsWith "." source || Text.startsWith "@/" source || Text.startsWith "~/" source

/-- The statement that puts an object in place of a module; the lines are those of the object. -/
def moduleMock (source : String) (lines : List String) : String :=
  "jest.mock('" ++ source ++ "', () => (\x7b\n" ++ "\n".intercalate lines ++ "\n\x7d));"

/-- The objects in place of modules that many projects use. -/
def cannedModules : List (String × List String) :=
  [("@react-navigation/native",
      ["  useNavigation: () => (\x7b",
        "    navigate: jest.fn(),",
        "    goBack: jest.fn(),",
        "    reset: jest.fn(),",
        "  \x7d),",
        "  useRoute: () => (\x7b",
        "    params: \x7b\x7d,",
        "  \x7d),",
        "  useFocusEffect: jest.fn(),"]),
    ("@react-navigation/stack",
      ["  createStackNavigator: jest.fn(() => (\x7b",
        "    Navigator: (\x7b children \x7d: any) => children,",
        "    Screen: (\x7b children \x7d: any) => children,",
        "  \x7d)),"]),
    ("react-redux",
      ["  useSelector: jest.fn(),",
        "  useDispatch: () => jest.fn(),",
        "  Provider: (\x7b children \x7d: any) => children,"]),
    ("@react-native-async-storage/async-storage",
      ["  setItem: jest.fn(() => Promise.resolve()),",
        "  getItem: jest.fn(() => Promise.resolve(null)),",
        "  removeItem: jest.fn(() => Promise.resolve()),",
        "  clear: jest.fn(() => Promise.resolve()),"])]

/-- The line that mocks an imported name. -/
def specifierLine (specifier : String) : String := "  " ++ specifier ++ ": jest.fn(),"

/-- The names that an import takes from a module, without the module as a whole. -/
def Import.mockedSpecifiers (record : Import) : List String :=
  record.specifiers.filter fun specifier => !Text.startsWith "* as" specifier

/-- The statement that mocks an import, if it needs one. -/
def Import.mock? (record : Import) : Option String :=
  if isUnmocked record.source then none
  else
    match cannedModules.lookup record.source with
    | some lines => some (moduleMock record.source lines)
    | none =>
      if isLocalSource record.source && !record.mockedSpecifiers.isEmpty then
        some (moduleMock record.source (record.mockedSpecifiers.map specifierLine))
      else none

/-- The statements that mock the imports of a file, in their order. -/
def mocksFor (imports : List Import) : Logged (List String) :=
  Logged.collect (fun record =>
    match record.mock? with
    | some statement => pure (some statement)
    | none => do
      Logged.note (.noMockNeeded record.source)
      pure none) imports

/-! ### Hooks -/

/-- The statement that puts `replacement` in place of a hook. -/
def hookSpy (hook replacement : String) : String :=
  "jest.spyOn(React, '" ++ hook ++ "')." ++ replacement ++ ";"

/-- What is put in place of hooks that many components use. -/
def hookReplacements : List (String × String) :=
  [("useState", "mockImplementation((init) => [init, jest.fn()])"),
    ("useEffect", "mockImplementation((f) => f())"),
    ("useContext", "mockReturnValue(\x7b\x7d)"),
    ("useRef", "mockReturnValue(\x7b current: null \x7d)"),
    ("useMemo", "mockImplementation((f) => f())"),
    ("useCallback", "mockImplementation((f) => f)")]

/-- The statement that mocks a hook, or a reminder where it is not known how. -/
def hookMock (hook : String) : String :=
  match hookReplacements.lookup hook with
  | some replacement => hookSpy hook replacement
  | none => "// TODO: Mock " ++ hook

/-! ### Libraries -/

/-- A library that tests render components with. -/
structure TestingLibrary where
  package : String
  /-- The names that tests import from it. -/
  helpers : List String
deriving DecidableEq, Repr

/-- The library for a framework. -/
def TestingLibrary.ofFramework (framework : Framework) : TestingLibrary :=
  { package :=
      match framework with
      | .reactNative => "@testing-library/react-native"
      | .react | .vanilla | .other _ => "@testing-library/react"
    helpers := ["render", "fireEvent", "screen", "waitFor"] }

end ComponentSurvey
