import ComponentSurvey.Console.Lexeme

/-!
# Values in tags

A value is a numeral, a quoted text, one of the constants `None`, `True` and `False`, or a tuple, a
set or a dictionary of values. Its text is read as an expression first, so that what is wrong with it
can be told.

* `Literal.Problem` — why a text is no value.
* `Literal.Shape` — what is known of an expression.
* `Literal.expression` — reads an expression.
* `Literal.check` — checks that a text is a value.
-/

namespace ComponentSurvey

namespace Literal

/-- Why a text is no value. -/
inductive Problem where
  | lexeme (fault : LexemeFault)
  /-- The text ends where something must follow. -/
  | atEnd
  | shortfall (cause : Shortfall)
  | invalid
  | missingComma
  | missingElse
  | missingColon
  | missingEntry
  | starredEntry
  | starAlone
  | starred
  | doublyStarred
  | assignmentToName
  | assignment (noun : String)
  | assignmentInCall
  | named (noun : String)
  | missingParentheses (name : String)
  | mixedTexts
  | nonAsciiBytes
  /-- It is an expression, but no value. -/
  | notValue
  /-- A value that can change is used as a key. -/
  | unhashable (type : String)
deriving DecidableEq, Repr

namespace Problem

/-- The wording of a problem. -/
def message : Problem → String
  | .lexeme fault => fault.message
  | .shortfall cause => cause.message
  | .atEnd | .invalid => "invalid syntax"
  | .missingComma => "invalid syntax. Perhaps you forgot a comma?"
  | .missingElse => "expected 'else' after 'if' expression"
  | .missingColon => "':' expected after dictionary key"
  | .missingEntry => "expression expected after dictionary key and ':'"
  | .starredEntry => "cannot use a starred expression in a dictionary value"
  | .starAlone => "Invalid star expression"
  | .starred => "cannot use starred expression here"
  | .doublyStarred => "cannot use double starred expression here"
  | .assignmentToName => "invalid syntax. Maybe you meant '==' or ':=' instead of '='?"
  | .assignment noun => s!"cannot assign to {noun} here. Maybe you meant '==' instead of '='?"
  | .assignmentInCall => "expression cannot contain assignment, perhaps you meant \"==\"?"
  | .named noun => s!"cannot use assignment expressions with {noun}"
  | .missingParentheses name =>
    s!"Missing parentheses in call to '{name}'. Did you mean {name}(...)?"
  | .mixedTexts => "cannot mix bytes and nonbytes literals"
  | .nonAsciiBytes => "bytes can only contain ASCII literal characters"
  | .notValue => "malformed node or string"
  | .unhashable type => s!"unhashable type: '{type}'"

/-- Whether a problem is found while the text is read. -/
def isSyntactic : Problem → Bool
  | .notValue | .unhashable _ => false
  | _ => true

end Problem

/-! ### Shapes -/

/-- What is known of an expression. -/
inductive Shape where
  | real
  | imaginary
  /-- A real numeral behind a sign. -/
  | signed
  /-- A number of both kinds. -/
  | complex
  | text
  | ellipsis
  /-- One of the constants with names. -/
  | constant
  /-- A tuple, and the type of a part that cannot be a key. -/
  | tuple (changing? : Option String)
  | set
  | dictionary
  | name (name : String)
  /-- An expression that is no value, and what it is called in messages. -/
  | other (noun? : Option String)
  /-- A set or a dictionary with a key that can change. -/
  | badKey (type : String)
deriving DecidableEq, Repr

namespace Shape

/-- The type that keeps a value from being a key. -/
def changing? : Shape → Option String
  | .set => some "set"
  | .dictionary => some "dict"
  | .tuple changing? => changing?
  | _ => none

/-- Whether a shape is a value. -/
def isValue : Shape → Bool
  | .other _ | .name _ | .badKey _ => false
  | _ => true

/-- The tuple of some shapes. -/
def tupleOf (shapes : List Shape) : Shape :=
  (shapes.find? fun shape => !shape.isValue).getD (.tuple (shapes.findSome? changing?))

/-- What is wrong first with an entry that has a key and possibly a value. -/
def entryFault? (entry : Shape × Option Shape) : Option Shape :=
  if !entry.1.isValue then some entry.1
  else
    match entry.2.filter fun value => !value.isValue with
    | some value => some value
    | none => entry.1.changing?.map .badKey

/-- A set or a dictionary with some entries. -/
def keyed (whole : Shape) (entries : List (Shape × Option Shape)) : Shape :=
  (entries.findSome? entryFault?).getD whole

/-- What a shape is called where nothing can be assigned to it. -/
def noun? : Shape → Option String
  | .real | .imaginary | .text => some "literal"
  | .ellipsis => some "ellipsis"
  | .signed | .complex => some "expression"
  | .set => some "set display"
  | .dictionary => some "dict literal"
  | .other noun? => noun?
  | _ => none

/-- A shape behind a sign. -/
def withSign : Shape → Shape
  | .real => .signed
  | .imaginary => .complex
  | _ => .other (some "expression")

/-- The operators of arithmetic. -/
def arithmetic : List String :=
  ["+", "-", "*", "/", "//", "%", "@", "**", "<<", ">>", "&", "|", "^"]

/-- Two shapes with an operator between them: only a real and an imaginary number make a value. -/
def combine (operator : String) (left right : Shape) : Shape :=
  if (left = .real ∨ left = .signed) ∧ right = .imaginary ∧ (operator = "+" ∨ operator = "-") then
    .complex
  else .other (if arithmetic.contains operator then some "expression" else none)

/-- The problem of a shape that is no value. -/
def check : Shape → Except Problem Unit
  | .other _ | .name _ => .error .notValue
  | .badKey type => .error (.unhashable type)
  | _ => .ok ()

end Shape

/-! ### Expressions -/

/-- Lexemes with the number of brackets around them. -/
abbrev Items := List (Lexeme × Nat)

/-- How expressions are read. -/
structure Mode where
  /-- Whether the lexemes end before the text is complete. -/
  isCut : Bool
  /-- Whether only the syntax counts, and not what may be meant by a wrong one. -/
  quiet : Bool
deriving DecidableEq, Repr

/-- The problem where something is missing at the end. -/
def Mode.ended (mode : Mode) : Problem := if mode.isCut then .atEnd else .invalid

/-- The words that are no names. -/
def keywords : List String :=
  ["False", "None", "True", "and", "as", "assert", "async", "await", "break", "class", "continue",
    "def", "del", "elif", "else", "except", "finally", "for", "from", "global", "if", "import", "in",
    "is", "lambda", "nonlocal", "not", "or", "pass", "raise", "return", "try", "while", "with",
    "yield"]

/-- Whether a name is no keyword. -/
def isName (name : String) : Bool := !keywords.contains name

/-- The operators between two operands. -/
def operatorMarks : List String := Shape.arithmetic ++ ["==", "!=", "<", ">", "<=", ">="]

/-- The operator at the start of lexemes, whether `not` may follow it, and what follows. -/
def operatorAt? : Items → Option (String × Bool × Items)
  | (.mark mark, _) :: rest =>
    if operatorMarks.contains mark then some (mark, false, rest) else none
  | (.name "and", _) :: rest => some ("and", true, rest)
  | (.name "or", _) :: rest => some ("or", true, rest)
  | (.name "in", _) :: rest => some ("in", false, rest)
  | (.name "is", _) :: (.name "not", _) :: rest => some ("is not", false, rest)
  | (.name "is", _) :: rest => some ("is", false, rest)
  | (.name "not", _) :: (.name "in", _) :: rest => some ("not in", false, rest)
  | _ => none

/-- Whether two expressions side by side are not taken for a missing comma: a name before a text, or
a name that is a keyword in some places. -/
def isExempt : Items → Bool
  | (.name name, _) :: (.text .., _) :: _ => isName name
  | (.name name, _) :: _ => name == "_" || name == "case" || name == "match"
  | _ => false

/-- The name of a statement that needs parentheses today. -/
def oldStatement? : Items → Option String
  | (.name name, _) :: _ => if name == "print" || name == "exec" then some name else none
  | _ => none

/-- Whether lexemes start with a star that nothing follows. -/
def isStarAlone : Items → Bool
  | (.mark "*", _) :: (.mark mark, _) :: _ => mark == "," || mark == ")" || mark == "\x7d"
  | _ => false

/-- The number of brackets around the last lexeme before a rest. -/
def depthBefore (items rest : Items) : Nat :=
  ((items.take (items.length - rest.length)).getLast?.map Prod.snd).getD 0

/-- The texts at the start of lexemes, and what follows them. -/
def textsAt : Items → List (Bool × Bool × Bool) × Items
  | (.text bytes hasValues plain, _) :: rest =>
    let (others, rest) := textsAt rest
    ((bytes, hasValues, plain) :: others, rest)
  | rest => ([], rest)

/-- The shape of texts side by side. -/
def textShape (texts : List (Bool × Bool × Bool)) : Except Problem Shape :=
  if texts.any fun text => text.1 && !text.2.2 then .error .nonAsciiBytes
  else if texts.any (fun text => text.1) && texts.any (fun text => !text.1) then .error .mixedTexts
  else .ok (if texts.any fun text => text.2.1 then .other (some "f-string expression") else .text)

mutual

/-- Reads an expression: the longest that there is. Every call uses up fuel, and a few calls use up a
lexeme. -/
def expression : Nat → Mode → Items → Except Problem (Shape × Items)
  | 0, _, _ => .error .notValue
  | _, _, (.name "lambda", _) :: _ => .error .notValue
  | fuel + 1, mode, items => do
    let (shape, rest) ← operation fuel mode true items
    unless mode.quiet do
      checkComma fuel mode items rest
      checkStatement fuel mode items
    match rest with
    | (.name "if", _) :: condition =>
      match choice fuel mode condition with
      | .ok behind => pure (.other none, behind)
      | .error .invalid => pure (shape, rest)
      | .error problem => throw problem
    | _ => pure (shape, rest)

/-- Reads the condition of a choice and the alternative. -/
def choice : Nat → Mode → Items → Except Problem Items
  | 0, _, _ => .error .notValue
  | fuel + 1, mode, items => do
    let (_, rest) ← operation fuel mode true items
    match rest with
    | (.name "else", _) :: alternative => (expression fuel mode alternative).map Prod.snd
    | (.mark ":", _) :: _ => throw .invalid
    | _ =>
      if rest.isEmpty && mode.isCut then throw .atEnd
      else throw (if mode.quiet then .invalid else .missingElse)

/-- Checks that no second expression follows one in brackets. -/
def checkComma : Nat → Mode → Items → Items → Except Problem Unit
  | 0, _, _, _ => .ok ()
  | _, _, _, [] => .ok ()
  | fuel + 1, mode, items, rest =>
    if isExempt items then .ok ()
    else
      match expression fuel { mode with quiet := true } rest with
      | .error .invalid | .error .notValue => .ok ()
      | .error problem => .error problem
      | .ok (_, after) =>
        if after.isEmpty && mode.isCut then .error .atEnd
        else if (oldStatement? items).isSome || depthBefore rest after = 0 then .ok ()
        else .error .missingComma

/-- Checks what follows a name that is not called, as if the name were a statement. -/
def checkStatement : Nat → Mode → Items → Except Problem Unit
  | 0, _, _ => .ok ()
  | fuel + 1, mode, (.name name, depth) :: rest =>
    if !isName name || (rest.head?.map Prod.fst) = some (.mark "(") then .ok ()
    else
      match expressions fuel mode rest with
      | .error .invalid | .error .notValue => .ok ()
      | .error problem => .error problem
      | .ok (_, _, after) =>
        if after.isEmpty && mode.isCut then .error .atEnd
        else
          match oldStatement? ((.name name, depth) :: rest) with
          | some name => .error (.missingParentheses name)
          | none => .ok ()
  | _, _, _ => .ok ()

/-- Reads expressions with commas between them, and tells whether there is a comma. -/
def expressions : Nat → Mode → Items → Except Problem (List Shape × Bool × Items)
  | 0, _, _ => .error .notValue
  | fuel + 1, mode, items => do
    let (shape, rest) ← expression fuel mode items
    match rest with
    | (.mark ",", _) :: behind =>
      match expressions fuel mode behind with
      | .ok (shapes, _, rest) => pure (shape :: shapes, true, rest)
      | .error .invalid => pure ([shape], true, behind)
      | .error problem => throw problem
    | _ => pure ([shape], false, rest)

/-- Reads operands with operators between them. -/
def operation : Nat → Mode → Bool → Items → Except Problem (Shape × Items)
  | 0, _, _, _ => .error .notValue
  | fuel + 1, mode, mayNegate, items => do
    let (shape, rest) ← operand fuel mode mayNegate items
    operations fuel mode shape rest

/-- Reads operators with operands behind them. -/
def operations : Nat → Mode → Shape → Items → Except Problem (Shape × Items)
  | 0, _, _, _ => .error .notValue
  | fuel + 1, mode, shape, items =>
    match operatorAt? items with
    | some (operator, mayNegate, rest) =>
      match operand fuel mode mayNegate rest with
      | .ok (right, rest) => operations fuel mode (shape.combine operator right) rest
      | .error .invalid => pure (shape, items)
      | .error problem => throw problem
    | none => pure (shape, items)

/-- Reads an operand with the signs in front of it. -/
def operand : Nat → Mode → Bool → Items → Except Problem (Shape × Items)
  | 0, _, _, _ => .error .notValue
  | _, mode, _, [] => .error mode.ended
  | fuel + 1, mode, mayNegate, (lexeme, depth) :: rest =>
    match lexeme with
    | .mark "+" | .mark "-" => do
      let (shape, behind) ← operand fuel mode false rest
      pure (shape.withSign, behind)
    | .mark "~" => do
      let (_, behind) ← operand fuel mode false rest
      pure (.other (some "expression"), behind)
    | .name "not" => do
      if mayNegate then
        let (_, behind) ← operand fuel mode true rest
        pure (.other none, behind)
      else throw .invalid
    | .name "await" => throw .notValue
    | _ => do
      let (shape, behind) ← atom fuel mode ((lexeme, depth) :: rest)
      trailers fuel mode shape behind

/-- Reads an operand without what may follow it. -/
def atom : Nat → Mode → Items → Except Problem (Shape × Items)
  | 0, _, _ => .error .notValue
  | _, mode, [] => .error mode.ended
  | fuel + 1, mode, (lexeme, depth) :: rest =>
    match lexeme with
    | .numeral imaginary => pure (if imaginary then .imaginary else .real, rest)
    | .text .. => do
      let (texts, behind) := textsAt ((lexeme, depth) :: rest)
      pure (← textShape texts, behind)
    | .name "None" | .name "True" | .name "False" => pure (.constant, rest)
    | .name name => if isName name then pure (.name name, rest) else throw .invalid
    | .mark "..." => pure (.ellipsis, rest)
    | .mark "(" => group fuel mode rest
    | .mark "\x7b" => braces fuel mode rest
    | _ => throw .invalid

/-- Reads calls and fields behind an operand. -/
def trailers : Nat → Mode → Shape → Items → Except Problem (Shape × Items)
  | 0, _, _, _ => .error .notValue
  | fuel + 1, mode, shape, items =>
    match items with
    | (.mark ".", _) :: (.name name, _) :: rest =>
      if isName name then trailers fuel mode (.other (some "attribute")) rest
      else pure (shape, items)
    | [(.mark ".", _)] => if mode.isCut then throw .atEnd else pure (shape, items)
    | (.mark "(", _) :: (.mark ")", _) :: rest =>
      trailers fuel mode (if shape = .name "set" then .set else .other (some "function call")) rest
    | (.mark "(", _) :: rest =>
      match arguments fuel mode rest with
      | .ok behind => trailers fuel mode (.other (some "function call")) behind
      | .error .invalid => pure (shape, items)
      | .error problem => throw problem
    | _ => pure (shape, items)

/-- Reads the arguments of a call. -/
def arguments : Nat → Mode → Items → Except Problem Items
  | 0, _, _ => .error .notValue
  | _, mode, [] => .error mode.ended
  | _, _, (.mark ")", _) :: rest => .ok rest
  | fuel + 1, mode, items => do
    if !mode.quiet && isStarAlone items then throw .starAlone
    let value := match items with
      | (.name name, _) :: (.mark "=", _) :: rest => if isName name then rest else items
      | (.mark "*", _) :: rest | (.mark "**", _) :: rest => rest
      | _ => items
    let (_, rest) ← expression fuel mode value
    match rest with
    | (.mark ",", _) :: rest => arguments fuel mode rest
    | (.mark ")", _) :: rest => pure rest
    | (.mark "=", _) :: _ => throw (if mode.quiet then .invalid else .assignmentInCall)
    | (.mark ":=", _) :: _ | (.name "for", _) :: _ | (.name "async", _) :: _ => throw .notValue
    | [] => throw mode.ended
    | _ => throw .invalid

/-- Reads what may follow an element: an equals sign is always wrong. -/
def elementEnd : Nat → Mode → Shape → Items → Except Problem (Shape × Items)
  | 0, _, _, _ => .error .notValue
  | fuel + 1, mode, shape, rest =>
    match rest with
    | (.mark ":=", _) :: value =>
      match shape, shape.noun? with
      | .name _, _ => throw .notValue
      | _, some noun =>
        if mode.quiet then throw .invalid
        else
          match expression fuel mode value with
          | .error problem => throw problem
          | .ok (_, rest) => throw (if rest.isEmpty && mode.isCut then .atEnd else .named noun)
      | _, none => throw .invalid
    | (.mark "=", _) :: value =>
      if mode.quiet then pure (shape, rest)
      else
        match operation fuel { mode with quiet := true } true value with
        | .error .invalid | .error .notValue => pure (shape, rest)
        | .error problem => throw problem
        | .ok (_, []) => if mode.isCut then throw .atEnd else pure (shape, rest)
        | .ok (_, (.mark "=", _) :: _) | .ok (_, (.mark ":=", _) :: _) => pure (shape, rest)
        | .ok _ =>
          match shape, shape.noun? with
          | .name _, _ => throw .assignmentToName
          | _, some noun => throw (.assignment noun)
          | _, none => pure (shape, rest)
    | (.name "for", _) :: _ | (.name "async", _) :: _ => throw .notValue
    | _ => pure (shape, rest)

/-- Reads what stands in parentheses. -/
def group : Nat → Mode → Items → Except Problem (Shape × Items)
  | 0, _, _ => .error .notValue
  | _, mode, [] => .error mode.ended
  | _, _, (.mark ")", _) :: rest => .ok (.tuple none, rest)
  | _, _, (.name "yield", _) :: _ => .error .notValue
  | fuel + 1, mode, (.mark "*", depth) :: items => do
    if !mode.quiet && isStarAlone ((.mark "*", depth) :: items) then throw .starAlone
    let (_, rest) ← operation fuel mode false items
    match rest with
    | (.mark ")", _) :: _ => throw (if mode.quiet then .invalid else .starred)
    | [] => throw mode.ended
    | _ => throw .notValue
  | fuel + 1, mode, (.mark "**", _) :: items => do
    let (_, rest) ← expression fuel mode items
    match rest with
    | (.mark ")", _) :: _ => throw (if mode.quiet then .invalid else .doublyStarred)
    | [] => throw mode.ended
    | _ => throw .invalid
  | fuel + 1, mode, items => do
    let (shape, rest) ← expression fuel mode items
    let (shape, rest) ← elementEnd fuel mode shape rest
    match rest with
    | (.mark ")", _) :: rest => pure (shape, rest)
    | _ =>
      let (shapes, rest) ← moreElements fuel mode ")" rest
      pure (.tupleOf (shape :: shapes), rest)

/-- Reads the elements behind another one, up to a closing bracket. -/
def moreElements : Nat → Mode → String → Items → Except Problem (List Shape × Items)
  | 0, _, _, _ => .error .notValue
  | _, mode, _, [] => .error mode.ended
  | _, mode, _, [(.mark ",", _)] => .error mode.ended
  | fuel + 1, mode, closing, (.mark ",", _) :: (lexeme, depth) :: rest => do
    if lexeme = .mark closing then pure ([], rest)
    else if lexeme = .mark "*" then throw .notValue
    else
      let (shape, rest) ← expression fuel mode ((lexeme, depth) :: rest)
      let (shape, rest) ← elementEnd fuel mode shape rest
      let (shapes, rest) ← moreElements fuel mode closing rest
      pure (shape :: shapes, rest)
  | _, _, closing, (lexeme, _) :: rest =>
    if lexeme = .mark closing then .ok ([], rest) else .error .invalid

/-- Reads what stands in braces: a dictionary if a colon follows the first expression, else a set. -/
def braces : Nat → Mode → Items → Except Problem (Shape × Items)
  | 0, _, _ => .error .notValue
  | _, mode, [] => .error mode.ended
  | _, _, (.mark "\x7d", _) :: rest => .ok (.dictionary, rest)
  | _, mode, (.mark "*", depth) :: rest =>
    if isStarAlone ((.mark "*", depth) :: rest) then
      .error (if mode.quiet then .invalid else .starAlone)
    else .error .notValue
  | _, _, (.mark "**", _) :: _ => .error .notValue
  | fuel + 1, mode, items => do
    let (first, rest) ← expression fuel mode items
    match rest with
    | (.mark ":", _) :: _ =>
      let (entries, rest) ← entries fuel mode first rest
      pure (.keyed .dictionary entries, rest)
    | _ =>
      let (first, rest) ← elementEnd fuel mode first rest
      let (shapes, rest) ← moreElements fuel mode "\x7d" rest
      pure (.keyed .set ((first :: shapes).map fun shape => (shape, none)), rest)

/-- Reads the entries of a dictionary, the first key of which has been read. -/
def entries : Nat → Mode → Shape → Items →
    Except Problem (List (Shape × Option Shape) × Items)
  | 0, _, _, _ => .error .notValue
  | _, mode, _, [] => .error mode.ended
  | fuel + 1, mode, key, (.mark ":", _) :: value =>
    match value with
    | (.mark "\x7d", _) :: _ | (.mark ",", _) :: _ =>
      throw .missingEntry
    | (.mark "*", _) :: value => do
      let _ ← operation fuel mode false value
      throw .starredEntry
    | _ => do
      let (value, rest) ← expression fuel mode value
      match rest with
      | (.mark "\x7d", _) :: rest => pure ([(key, some value)], rest)
      | (.mark ",", _) :: (.mark "\x7d", _) :: rest => pure ([(key, some value)], rest)
      | (.mark ",", _) :: (.mark "**", _) :: _ => throw .notValue
      | (.mark ",", _) :: rest =>
        let (next, rest) ← expression fuel mode rest
        let (others, rest) ← entries fuel mode next rest
        pure ((key, some value) :: others, rest)
      | (.name "for", _) :: _ | (.name "async", _) :: _ => throw .notValue
      | [] => throw mode.ended
      | _ => throw .invalid
  | _, _, _, _ => .error .missingColon

end

/-- The shape of a whole text. -/
def shapeOf (fuel : Nat) (mode : Mode) (items : Items) : Except Problem Shape := do
  let (shapes, isTuple, rest) ← expressions fuel mode items
  if rest.isEmpty && mode.isCut then throw .atEnd
  else if rest.all fun item => item.1 == .lineEnd then
    match shapes, isTuple with
    | [shape], false => pure shape
    | _, _ => pure (.tupleOf shapes)
  else throw .invalid

/-- The problem that is found when a text with a wrong syntax is read once more, to see what may be
meant. -/
def problemOf (fuel : Nat) (lexemes : Lexemes) : Problem :=
  match shapeOf fuel ⟨lexemes.shortfall?.isSome, false⟩ lexemes.items with
  | .ok _ | .error .notValue => .invalid
  | .error problem => problem

/-- A problem at the end of lexemes that end too early is what keeps them from going on. -/
def atShortfall (lexemes : Lexemes) : Problem → Problem
  | .atEnd => lexemes.shortfall?.elim .atEnd .shortfall
  | problem => problem

/-- Checks that a text is a value. -/
def check (text : List Char) : Except Problem Unit := do
  let lexemes ← (Lexemes.ofChars text).mapError Problem.lexeme
  let fuel := 20 * (lexemes.items.length + 1)
  match shapeOf fuel ⟨lexemes.shortfall?.isSome, true⟩ lexemes.items with
  | .ok shape => shape.check
  | .error .invalid => throw (atShortfall lexemes (problemOf fuel lexemes))
  | .error problem => throw (atShortfall lexemes problem)

end Literal

end ComponentSurvey
