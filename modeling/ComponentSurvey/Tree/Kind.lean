/-!
# Kinds and fields of syntax tree nodes

A node of a JavaScript or TypeScript syntax tree has a *kind* (what construct or token it is) and
may be held by its parent under a *field* (which part of the construct it is).

* `Kind` — the kinds the survey looks at, and `Kind.other` for every other one.
* `Field` — the fields the survey looks at, and `Field.other` for every other one.
-/

namespace ComponentSurvey

/-- What construct or token a node stands for. -/
inductive Kind where
  | array
  | arrayPattern
  | arrayType
  | arrowFunction
  | assignmentPattern
  | asyncToken
  | callExpression
  | comment
  | defaultToken
  | exportStatement
  | falseLiteral
  | function
  | functionDeclaration
  | functionExpression
  | functionType
  | generatorFunction
  | generatorFunctionDeclaration
  | genericType
  | identifier
  | importClause
  | importRequireClause
  | importSpecifier
  | importStatement
  | intersectionType
  | jsxElement
  | jsxFragment
  | jsxSelfClosingElement
  | lexicalDeclaration
  | literalType
  | memberExpression
  | methodDefinition
  | namedImports
  | namedTupleMember
  | namespaceImport
  | nestedTypeIdentifier
  | nullLiteral
  | number
  | object
  | objectAssignmentPattern
  | objectPattern
  | objectType
  | optingAnnotatedType
  | optionalParameter
  | pairPattern
  | parenthesizedExpression
  | parenthesizedType
  | predefinedType
  | program
  | propertyIdentifier
  | propertySignature
  | questionToken
  | requiredParameter
  | restPattern
  | shorthandPropertyIdentifierPattern
  | string
  | trueLiteral
  | tupleType
  | annotatedType
  | typeIdentifier
  | undefinedLiteral
  | unionType
  | variableDeclaration
  | variableDeclarator
  /-- Any kind the survey does not tell apart from others. -/
  | other (name : String)
deriving DecidableEq, Repr, Inhabited

namespace Kind

/-- The name the grammar gives a kind. -/
def name : Kind → String
  | .array => "array"
  | .arrayPattern => "array_pattern"
  | .arrayType => "array_type"
  | .arrowFunction => "arrow_function"
  | .assignmentPattern => "assignment_pattern"
  | .asyncToken => "async"
  | .callExpression => "call_expression"
  | .comment => "comment"
  | .defaultToken => "default"
  | .exportStatement => "export_statement"
  | .falseLiteral => "false"
  | .function => "function"
  | .functionDeclaration => "function_declaration"
  | .functionExpression => "function_expression"
  | .functionType => "function_type"
  | .generatorFunction => "generator_function"
  | .generatorFunctionDeclaration => "generator_function_declaration"
  | .genericType => "generic_type"
  | .identifier => "identifier"
  | .importClause => "import_clause"
  | .importRequireClause => "import_require_clause"
  | .importSpecifier => "import_specifier"
  | .importStatement => "import_statement"
  | .intersectionType => "intersection_type"
  | .jsxElement => "jsx_element"
  | .jsxFragment => "jsx_fragment"
  | .jsxSelfClosingElement => "jsx_self_closing_element"
  | .lexicalDeclaration => "lexical_declaration"
  | .literalType => "literal_type"
  | .memberExpression => "member_expression"
  | .methodDefinition => "method_definition"
  | .namedImports => "named_imports"
  | .namedTupleMember => "named_tuple_member"
  | .namespaceImport => "namespace_import"
  | .nestedTypeIdentifier => "nested_type_identifier"
  | .nullLiteral => "null"
  | .number => "number"
  | .object => "object"
  | .objectAssignmentPattern => "object_assignment_pattern"
  | .objectPattern => "object_pattern"
  | .objectType => "object_type"
  | .optingAnnotatedType => "opting_type_annotation"
  | .optionalParameter => "optional_parameter"
  | .pairPattern => "pair_pattern"
  | .parenthesizedExpression => "parenthesized_expression"
  | .parenthesizedType => "parenthesized_type"
  | .predefinedType => "predefined_type"
  | .program => "program"
  | .propertyIdentifier => "property_identifier"
  | .propertySignature => "property_signature"
  | .questionToken => "?"
  | .requiredParameter => "required_parameter"
  | .restPattern => "rest_pattern"
  | .shorthandPropertyIdentifierPattern => "shorthand_property_identifier_pattern"
  | .string => "string"
  | .trueLiteral => "true"
  | .tupleType => "tuple_type"
  | .annotatedType => "type_annotation"
  | .typeIdentifier => "type_identifier"
  | .undefinedLiteral => "undefined"
  | .unionType => "union_type"
  | .variableDeclaration => "variable_declaration"
  | .variableDeclarator => "variable_declarator"
  | .other name => name

/-- Every kind that has a constructor of its own. -/
def known : List Kind :=
  [.array, .arrayPattern, .arrayType, .arrowFunction, .assignmentPattern, .asyncToken,
    .callExpression, .comment, .defaultToken, .exportStatement, .falseLiteral, .function,
    .functionDeclaration, .functionExpression, .functionType, .generatorFunction,
    .generatorFunctionDeclaration, .genericType, .identifier, .importClause, .importRequireClause,
    .importSpecifier, .importStatement, .intersectionType, .jsxElement, .jsxFragment,
    .jsxSelfClosingElement, .lexicalDeclaration, .literalType, .memberExpression,
    .methodDefinition, .namedImports, .namedTupleMember, .namespaceImport, .nestedTypeIdentifier,
    .nullLiteral, .number, .object, .objectAssignmentPattern, .objectPattern, .objectType,
    .optingAnnotatedType, .optionalParameter, .pairPattern, .parenthesizedExpression,
    .parenthesizedType, .predefinedType, .program, .propertyIdentifier, .propertySignature,
    .questionToken, .requiredParameter, .restPattern, .shorthandPropertyIdentifierPattern, .string,
    .trueLiteral, .tupleType, .annotatedType, .typeIdentifier, .undefinedLiteral, .unionType,
    .variableDeclaration, .variableDeclarator]

/-- The kind of a name: the known kind that has it, or `Kind.other`. -/
def ofName (name : String) : Kind :=
  (known.find? fun kind => kind.name == name).getD (.other name)

/-! ### Families of kinds -/

/-- Declarations of a named function. -/
def isFunctionDeclaration : Kind → Bool
  | .functionDeclaration | .generatorFunctionDeclaration => true
  | _ => false

/-- Functions written as a value. -/
def isFunctionExpression : Kind → Bool
  | .arrowFunction | .functionExpression | .function | .generatorFunction => true
  | _ => false

/-- Everything that has parameters and a body: declarations, function values and methods. -/
def isFunctionLike (kind : Kind) : Bool :=
  kind.isFunctionDeclaration || kind.isFunctionExpression || kind == .methodDefinition

/-- Elements and fragments of markup. -/
def isMarkup : Kind → Bool
  | .jsxElement | .jsxSelfClosingElement | .jsxFragment => true
  | _ => false

/-- Statements that declare variables. -/
def isVariableStatement : Kind → Bool
  | .lexicalDeclaration | .variableDeclaration => true
  | _ => false

/-- Statements that may stand between a binding at module scope and the program. -/
def isModuleScope (kind : Kind) : Bool :=
  kind == .exportStatement || kind.isVariableStatement

/-- Type nodes that stand for the one type they hold. -/
def isTransparentType : Kind → Bool
  | .annotatedType | .parenthesizedType | .optingAnnotatedType => true
  | _ => false

end Kind

/-- Which part of its parent a node is. -/
inductive Field where
  | arguments
  | body
  | function
  | key
  | left
  | name
  | parameter
  | parameters
  | pattern
  | returnType
  | right
  | source
  | type
  | value
  /-- Any field the survey does not ask for. -/
  | other (name : String)
deriving DecidableEq, Repr, Inhabited

namespace Field

/-- The name the grammar gives a field. -/
def label : Field → String
  | .arguments => "arguments"
  | .body => "body"
  | .function => "function"
  | .key => "key"
  | .left => "left"
  | .name => "name"
  | .parameter => "parameter"
  | .parameters => "parameters"
  | .pattern => "pattern"
  | .returnType => "return_type"
  | .right => "right"
  | .source => "source"
  | .type => "type"
  | .value => "value"
  | .other text => text

/-- Every field that has a constructor of its own. -/
def known : List Field :=
  [.arguments, .body, .function, .key, .left, .name, .parameter, .parameters, .pattern,
    .returnType, .right, .source, .type, .value]

/-- The field of a name: the known field that has it, or `Field.other`. -/
def ofLabel (label : String) : Field :=
  (known.find? fun field => field.label == label).getD (.other label)

end Field

end ComponentSurvey
