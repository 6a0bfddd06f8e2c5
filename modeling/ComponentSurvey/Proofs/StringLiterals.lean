import ComponentSurvey.Function.Signature
import ComponentSurvey.Proofs.ImportMocks
import ComponentSurvey.Text.Hex

/-!
# String literals in other quotes

A default value, a literal type and the source of a mock show a string literal in apostrophes: its own
quotes are taken off, and what was between them is left as it is. Here the result is read as the
language reads it.

* `StringLiteral`, `StringLiteral.WellFormed` — a literal by its quote and what is between.
* `StringLiteral.value?` — the code units that a literal stands for.
* `StringLiteral.read?`, `read?_eq_some_iff` — the literal at the front of a text: there is one at most.
* `StringLiteral.IsSpelt` — a text begins with a literal in apostrophes that stands for the same.
* `isSpelt_inApostrophes_iff` — other quotes keep a literal exactly if no bare apostrophe is in it.
* `requoted_literals` — the three places where literals are shown.
-/

namespace ComponentSurvey

/-- A string literal: the quote around it and what is between the quotes. -/
structure StringLiteral where
  quote : Char
  body : List Char
deriving DecidableEq, Repr

namespace StringLiteral

/-! ### Literals of the language -/

/-- The characters that are not part of an escape. A backslash takes the next character with it, and
both characters of a line break; one at the end takes nothing. -/
def unescaped : List Char → List Char
  | '\\' :: '\r' :: '\n' :: rest => unescaped rest
  | '\\' :: _ :: rest => unescaped rest
  | c :: rest => c :: unescaped rest
  | [] => []

/-- Characters may stand between quotes: no bare quote, line break or backslash is among them. -/
def IsBody (quote : Char) (body : List Char) : Prop :=
  ∀ c ∈ unescaped body, c ≠ quote ∧ c ≠ '\\' ∧ c ≠ '\n' ∧ c ≠ '\r'

/-- A literal is in apostrophes or in quotation marks, and what is between them may stand there. -/
structure WellFormed (literal : StringLiteral) : Prop where
  quote : literal.quote = '\x27' ∨ literal.quote = '\x22'
  body : IsBody literal.quote literal.body

/-- The text of a literal. -/
def chars (literal : StringLiteral) : List Char :=
  literal.quote :: (literal.body ++ [literal.quote])

/-- The code units of a code point. -/
def unitsOf (code : Nat) : List Nat :=
  if code < 0x10000 then [code]
  else [0xD800 + (code - 0x10000) / 0x400, 0xDC00 + (code - 0x10000) % 0x400]

/-- The characters that stand for another one, or for none, when they are escaped. -/
def escapes : List (Char × List Nat) :=
  [('b', [8]), ('t', [9]), ('n', [10]), ('v', [11]), ('f', [12]), ('r', [13]), ('\n', []), ('\r', []),
    ('\u2028', []), ('\u2029', [])]

/-- The octal digits at the front of a text, of which no more count than a byte has. -/
def octalDigits (text : List Char) : List Char :=
  let most := if text.head?.any (· ≤ '3') then 3 else 2
  (text.take most).takeWhile fun c => '0' ≤ c && c ≤ '7'

/-- The code units that the characters after a backslash stand for, and how many characters count. -/
def escape? : List Char → Option (List Nat × Nat)
  | [] => none
  | '\r' :: '\n' :: _ => some ([], 2)
  | 'x' :: rest =>
    if rest.length < 2 then none
    else (Text.ofHex? (rest.take 2)).map fun unit => ([unit], 3)
  | 'u' :: '\x7b' :: rest =>
    let digits := rest.takeWhile (· != '\x7d')
    if digits.isEmpty || digits.length = rest.length then none
    else (Text.ofHex? digits).bind fun code =>
      if code < 0x110000 then some (unitsOf code, digits.length + 3) else none
  | 'u' :: rest =>
    if rest.length < 4 then none
    else (Text.ofHex? (rest.take 4)).map fun unit => ([unit], 5)
  | c :: rest =>
    let digits := octalDigits (c :: rest)
    if digits.isEmpty then some ((escapes.lookup c).getD (unitsOf c.toNat), 1)
    else some ([digits.foldl (fun value digit => 8 * value + (digit.toNat - 48)) 0], digits.length)

/-- The code units that characters between quotes stand for, without the first `skip` characters, which
an escape has used up. -/
def unitsFrom? : Nat → List Char → Option (List Nat)
  | _, [] => some []
  | skip + 1, _ :: rest => unitsFrom? skip rest
  | 0, '\\' :: rest =>
    (escape? rest).bind fun escape => (unitsFrom? escape.2 rest).map (escape.1 ++ ·)
  | 0, c :: rest => (unitsFrom? 0 rest).map (unitsOf c.toNat ++ ·)

/-- The code units that a literal stands for; an escape may be malformed. -/
def value? (literal : StringLiteral) : Option (List Nat) := unitsFrom? 0 literal.body

example : value? ⟨'\x22', "a\\x41\\u\x7b1f600\x7d\\0\\\"".toList⟩
    = some [97, 65, 0xD83D, 0xDE00, 0, 34] := by decide

/-! ### Reading a literal -/

/-- Reads what stands before the next bare quote, and gives what follows the quote. -/
def readBody? (quote : Char) : List Char → Option (List Char × List Char)
  | '\\' :: '\r' :: '\n' :: rest =>
    (readBody? quote rest).map fun read => ('\\' :: '\r' :: '\n' :: read.1, read.2)
  | '\\' :: c :: rest => (readBody? quote rest).map fun read => ('\\' :: c :: read.1, read.2)
  | c :: rest =>
    if c = quote then some ([], rest)
    else if c = '\\' ∨ c = '\n' ∨ c = '\r' then none
    else (readBody? quote rest).map fun read => (c :: read.1, read.2)
  | [] => none

/-- The literal at the front of a text, and what follows it. -/
def read? : List Char → Option (StringLiteral × List Char)
  | quote :: rest =>
    if quote = '\x27' ∨ quote = '\x22' then
      (readBody? quote rest).map fun read => (⟨quote, read.1⟩, read.2)
    else none
  | [] => none

variable {quote : Char} {body rest text : List Char} {literal : StringLiteral}

theorem isBody_of_readBody? (h : readBody? quote text = some (body, rest)) :
    IsBody quote body ∧ text = body ++ quote :: rest := by
  fun_induction readBody? quote text generalizing body with
  | case1 text ih =>
    obtain ⟨⟨inner, after⟩, hread, heq⟩ := Option.map_eq_some_iff.1 h
    cases heq
    obtain ⟨hbody, rfl⟩ := ih hread
    exact ⟨by rwa [IsBody, unescaped], rfl⟩
  | case2 c text hbreak ih =>
    obtain ⟨⟨inner, after⟩, hread, heq⟩ := Option.map_eq_some_iff.1 h
    cases heq
    obtain ⟨hbody, rfl⟩ := ih hread
    refine ⟨?_, rfl⟩
    rw [IsBody, unescaped]
    · exact hbody
    · rintro after hreturn rfl
      exact hbreak _ hreturn rfl
  | case3 text =>
    cases h
    refine ⟨?_, rfl⟩
    intro c hc
    cases hc
  | case4 => cases h
  | case5 c text _ _ hquote hbare ih =>
    obtain ⟨⟨inner, after⟩, hread, heq⟩ := Option.map_eq_some_iff.1 h
    cases heq
    obtain ⟨hbody, rfl⟩ := ih hread
    rw [not_or] at hbare
    refine ⟨?_, rfl⟩
    rw [IsBody, unescaped, List.forall_mem_cons]
    · exact ⟨⟨hquote, hbare.1, not_or.1 hbare.2⟩, hbody⟩
    · intro after hslash
      exact absurd hslash hbare.1
    · intro first after hslash
      exact absurd hslash hbare.1
  | case6 => cases h

/-- Before a bare quote, all that may stand between quotes is read. -/
theorem readBody?_append (hquote : quote = '\x27' ∨ quote = '\x22') (hbody : IsBody quote body) :
    readBody? quote (body ++ quote :: rest) = some (body, rest) := by
  fun_induction unescaped body with
  | case1 body ih =>
    rw [IsBody, unescaped] at hbody
    simp only [List.cons_append, readBody?, ih hbody, Option.map_some]
  | case2 c body hbreak ih =>
    have hinner : IsBody quote body := by
      rw [IsBody, unescaped] at hbody
      · exact hbody
      · exact hbreak
    simp only [List.cons_append]
    rw [readBody?, ih hinner, Option.map_some]
    -- what follows an escaped carriage return is no line feed, be it in the body or the quote
    intro after hreturn hafter
    cases body with
    | nil =>
      obtain ⟨rfl, -⟩ := List.cons.inj hafter
      simp at hquote
    | cons first body =>
      obtain ⟨rfl, -⟩ := List.cons.inj hafter
      exact hbreak body hreturn rfl
  | case3 c body hbreak hescape ih =>
    rw [IsBody, unescaped, List.forall_mem_cons] at hbody
    · obtain ⟨⟨hne, hslash, hfeed, hreturn⟩, hinner⟩ := hbody
      rw [List.cons_append, readBody?, if_neg hne, if_neg (by simp [hslash, hfeed, hreturn]),
        ih hinner, Option.map_some]
      · intro after h
        exact absurd h hslash
      · intro first after h
        exact absurd h hslash
    · exact hbreak
    · exact hescape
  | case4 =>
    rcases hquote with rfl | rfl
    · simp [readBody?]
    · simp [readBody?]

/-- A literal is read from a text exactly if it is well formed and the text begins with it. -/
theorem read?_eq_some_iff :
    read? text = some (literal, rest) ↔ literal.WellFormed ∧ text = literal.chars ++ rest := by
  constructor
  · intro h
    cases text with
    | nil => cases h
    | cons quote text =>
      rw [read?] at h
      split at h
      · rename_i hquote
        obtain ⟨⟨body, after⟩, hread, heq⟩ := Option.map_eq_some_iff.1 h
        cases heq
        obtain ⟨hbody, rfl⟩ := isBody_of_readBody? hread
        exact ⟨⟨hquote, hbody⟩, by simp [chars]⟩
      · cases h
  · rintro ⟨hliteral, rfl⟩
    have htext : literal.chars ++ rest = literal.quote :: (literal.body ++ literal.quote :: rest) := by
      simp [chars]
    rw [htext, read?, if_pos hliteral.quote, readBody?_append hliteral.quote hliteral.body]
    rfl

/-! ### Other quotes -/

/-- A text begins with a literal in apostrophes that stands for the same as the one given, and `rest`
follows it. -/
def IsSpelt (literal : StringLiteral) (text rest : List Char) : Prop :=
  ∃ spelt, read? text = some (spelt, rest) ∧ spelt.quote = '\x27' ∧ spelt.value? = literal.value?

/-- What is between the quotes of a literal is taken out whole. -/
theorem unquoted_of_chars (hquote : literal.quote = '\x27' ∨ literal.quote = '\x22') {source : String}
    (h : source.toList = literal.chars) : (Text.unquoted source).toList = literal.body := by
  have hmark : Text.isQuote literal.quote = true := by
    rcases hquote with hmark | hmark
    · rw [hmark]
      rfl
    · rw [hmark]
      rfl
  rw [Text.unquoted, h, chars, Text.between?]
  simp [hmark]

/-- In apostrophes, a well-formed literal keeps what it stands for exactly if no bare apostrophe is
between its quotes. -/
theorem isSpelt_inApostrophes_iff (hliteral : literal.WellFormed) {source : String}
    (h : source.toList = literal.chars) :
    literal.IsSpelt ((Text.inApostrophes (Text.unquoted source)).toList ++ rest) rest
      ↔ '\x27' ∉ unescaped literal.body := by
  have htext : (Text.inApostrophes (Text.unquoted source)).toList = chars ⟨'\x27', literal.body⟩ := by
    rw [Text.inApostrophes, String.toList_append, String.toList_append,
      unquoted_of_chars hliteral.quote h]
    rfl
  rw [htext]
  constructor
  · rintro ⟨⟨quote, body⟩, hread, rfl, -⟩ hmem
    obtain ⟨hspelt, hchars⟩ := read?_eq_some_iff.1 hread
    have hsame : literal.body = body := by simpa [chars] using hchars
    exact (hspelt.body _ (hsame ▸ hmem)).1 rfl
  · intro hbare
    refine ⟨⟨'\x27', literal.body⟩, read?_eq_some_iff.2 ⟨⟨.inl rfl, ?_⟩, rfl⟩, rfl, rfl⟩
    intro c hc
    refine ⟨?_, (hliteral.body c hc).2⟩
    rintro rfl
    exact hbare hc

end StringLiteral

/-! ### Where literals are shown -/

/-- What follows the source of a module in the statement that mocks it. -/
def mockTail (lines : List String) : String :=
  ", () => (\x7b\n" ++ "\n".intercalate lines ++ "\n\x7d));"

theorem moduleMock_eq (source : String) (lines : List String) :
    moduleMock source lines = "jest.mock(" ++ Text.inApostrophes source ++ mockTail lines := by
  rw [← String.toList_inj]
  simp [moduleMock, Text.inApostrophes, mockTail]

/-- A mock of an import is a mock of its module. -/
theorem Import.exists_lines_of_mock? {record : Import} {mock : String} (h : record.mock? = some mock) :
    ∃ lines, mock = moduleMock record.source lines := by
  rw [Import.mock?] at h
  split at h
  · cases h
  · split at h
    · cases h
      exact ⟨_, rfl⟩
    · split at h
      · cases h
        exact ⟨_, rfl⟩
      · cases h

theorem Import.source_of_ofNode {statement source : Node} {record : Import}
    (hsource : sourceNode? statement = some source)
    (hrecord : (ofNode statement).value = some record) : record.source = source.stringValue := by
  rw [value_ofNode, hsource] at hrecord
  cases hrecord
  rfl

open StringLiteral in
/-- **String literals in apostrophes.** Where the text of a string is a well-formed literal, it is shown
as a well-formed literal in apostrophes that stands for the same exactly if no bare apostrophe is between
its quotes. This is so for a default value, for a type that is a literal, and for the source in the mock
of an import, after which the rest of the statement follows. -/
theorem requoted_literals {node : Node} {literal : StringLiteral}
    (hread : read? node.text.toList = some (literal, [])) :
    (node.kind = .string →
      (node.Readable → (Logged.reading (Node.defaultReads (some node)) node.defaultText).outcome.value
        = .ok node.defaultText) ∧
      (literal.IsSpelt node.defaultText.toList [] ↔ '\x27' ∉ unescaped literal.body)) ∧
    (∀ type : Node, node.kind = .string → type.kind = .literalType → type.firstMember? = some node →
      (type.Readable → (Logged.reading type.typeReads type.typeDescriptor).outcome.value
        = .ok type.typeDescriptor) ∧
      (literal.IsSpelt type.typeDescriptor.toList [] ↔ '\x27' ∉ unescaped literal.body)) ∧
    (∀ statement record mock, Import.sourceNode? statement = some node →
      (Import.ofNode statement).value = some record → record.mock? = some mock →
      ∃ quoted lines, mock = "jest.mock(" ++ quoted ++ mockTail lines ∧
        quoted = Text.inApostrophes record.source ∧
        (literal.IsSpelt (quoted.toList ++ (mockTail lines).toList) (mockTail lines).toList
          ↔ '\x27' ∉ unescaped literal.body)) := by
  obtain ⟨hliteral, htext⟩ := read?_eq_some_iff.1 hread
  rw [List.append_nil] at htext
  have hshown : ∀ rest, literal.IsSpelt ((Text.inApostrophes node.stringValue).toList ++ rest) rest
      ↔ '\x27' ∉ unescaped literal.body := fun rest => isSpelt_inApostrophes_iff hliteral htext
  have halone := hshown []
  rw [List.append_nil] at halone
  refine ⟨fun hstring => ⟨?_, ?_⟩, fun type hstring htype hmember => ⟨?_, ?_⟩, ?_⟩
  · intro hreadable
    refine Logged.value_outcome_reading hreadable (Node.defaultReads_subset ?_) _
    rintro value ⟨⟩
    exact node.mem_walk_self
  · rw [Node.defaultText, hstring]
    exact halone
  · intro hreadable
    exact Logged.value_outcome_reading hreadable type.typeReads_subset _
  · rw [Node.typeDescriptor_eq, htype, hmember]
    show literal.IsSpelt (Node.literalDescriptor (some node)).toList [] ↔ _
    rw [Node.literalDescriptor, hstring]
    exact halone
  · intro statement record mock hsource hrecord hmock
    obtain ⟨lines, rfl⟩ := Import.exists_lines_of_mock? hmock
    refine ⟨_, lines, moduleMock_eq _ _, rfl, ?_⟩
    rw [Import.source_of_ofNode hsource hrecord]
    exact hshown _

/-- A string with a text. -/
def sampleString (text : String) : Node := .mk (.sample .string none 1 text) []

/-- A type that is the string with a text. -/
def sampleLiteralType (text : String) : Node :=
  .mk (.sample .literalType none 0 text) [sampleString text]

open StringLiteral in
theorem requoted_literals_escaped :
    read? (sampleString "\"\\\"it\\'s\\\"\"").text.toList
        = some (⟨'\x22', "\\\"it\\'s\\\"".toList⟩, []) ∧
      IsSpelt ⟨'\x22', "\\\"it\\'s\\\"".toList⟩
        (sampleLiteralType "\"\\\"it\\'s\\\"\"").typeDescriptor.toList [] := by
  have hread : read? (sampleString "\"\\\"it\\'s\\\"\"").text.toList
      = some (⟨'\x22', "\\\"it\\'s\\\"".toList⟩, []) := by decide
  exact ⟨hread, ((requoted_literals hread).2.1 _ rfl rfl rfl).2.2 (by decide)⟩

open StringLiteral in
/-- A bare apostrophe ends the literal that is shown: what is read from `'it's'` is `'it'`. -/
theorem requoted_bare_apostrophe :
    read? (sampleString "\"it's\"").text.toList = some (⟨'\x22', "it's".toList⟩, []) ∧
      (sampleString "\"it's\"").defaultText = "'it's'" ∧
      (sampleLiteralType "\"it's\"").typeDescriptor = "'it's'" ∧
      Import.statementMock? (FileSurvey.sampleImport 0 "\"./it's\""
          [.mk (.sample .identifier none 1 "D") []])
        = some ("jest.mock('./it's'" ++ mockTail ["  D: jest.fn(),"]) ∧
      read? "'it's'".toList = some (⟨'\x27', "it".toList⟩, "s'".toList) ∧
      ¬ IsSpelt ⟨'\x22', "it's".toList⟩ "'it's'".toList [] := by
  have hread : read? "'it's'".toList = some (⟨'\x27', "it".toList⟩, "s'".toList) := by decide
  refine ⟨by decide, by decide, by decide, by decide, hread, ?_⟩
  rintro ⟨spelt, hspelt, -⟩
  rw [hread] at hspelt
  cases hspelt

end ComponentSurvey
