import ComponentSurvey.Json.Read
import ComponentSurvey.Json.Write

/-!
# Reading what was written

A JSON value is found again in its written form, whatever its strings hold: characters with escapes
of their own, other control characters, characters beyond ASCII by their code units, and those
beyond the first plane by pairs of surrogates. Everything is stated for a text that goes on, so that
parts are read where they stand.

* `Text.hex_four`, `Text.ofHex?_four` — code units are written with four digits and read from them.
* `Json.stringBody_escaped`, `Json.stringBody_quote` — characters and string literals.
* `Json.integer?_toString` — integers.
* `Json.partInduction` — a property that passes from parts to wholes holds of every value.
* `Json.items_prettyItems`, `Json.fields_prettyFields` — the parts of arrays and objects.
* `Json.parse_pretty` — every value.
* `Json.all_isPlain_pretty` — the written form is printable ASCII and line breaks.
-/

namespace ComponentSurvey

namespace Text

/-! ### Hexadecimal numerals -/

theorem hexDigit?_digitChar {n : Nat} (h : n < 16) : hexDigit? n.digitChar = some n := by
  have hall : ∀ n < 16, hexDigit? (Nat.digitChar n) = some n := by decide
  exact hall n h

/-- A number of at most four digits is written with four. -/
theorem hex_four {n : Nat} (h : n < 0x10000) :
    hex 4 n = [(n / 4096).digitChar, (n / 256 % 16).digitChar, (n / 16 % 16).digitChar,
      (n % 16).digitChar] := by
  have hone : ∀ m < 16, Nat.toDigits 16 m = [m.digitChar] := fun m hm => Nat.toDigits_of_lt_base hm
  have hmore : ∀ m ≥ 16, Nat.toDigits 16 m = Nat.toDigits 16 (m / 16) ++ [(m % 16).digitChar] :=
    fun m hm => Nat.toDigits_of_base_le (by decide) hm
  have hzero : Nat.digitChar 0 = '0' := rfl
  rw [hex]
  rcases Nat.lt_or_ge n 16 with h16 | h16
  · rw [hone n h16, show n / 4096 = 0 by omega, show n / 256 % 16 = 0 by omega,
      show n / 16 % 16 = 0 by omega, show n % 16 = n by omega, hzero]
    rfl
  · rcases Nat.lt_or_ge n 256 with h256 | h256
    · rw [hmore n h16, hone (n / 16) (by omega), show n / 4096 = 0 by omega,
        show n / 256 % 16 = 0 by omega, show n / 16 % 16 = n / 16 by omega, hzero]
      rfl
    · rcases Nat.lt_or_ge n 4096 with h4096 | h4096
      · rw [hmore n h16, hmore (n / 16) (by omega), hone (n / 16 / 16) (by omega),
          show n / 4096 = 0 by omega, show n / 256 % 16 = n / 16 / 16 by omega, hzero]
        rfl
      · rw [hmore n h16, hmore (n / 16) (by omega), hmore (n / 16 / 16) (by omega),
          hone (n / 16 / 16 / 16) (by omega), show n / 4096 = n / 16 / 16 / 16 by omega,
          show n / 256 % 16 = n / 16 / 16 % 16 by omega]
        rfl

theorem ofHex?_four {n : Nat} (h : n < 0x10000) :
    ofHex? [(n / 4096).digitChar, (n / 256 % 16).digitChar, (n / 16 % 16).digitChar,
      (n % 16).digitChar] = some n := by
  rw [ofHex?]
  simp only [List.foldlM_cons, List.foldlM_nil, hexDigit?_digitChar (show n / 4096 < 16 by omega),
    hexDigit?_digitChar (show n / 256 % 16 < 16 by omega),
    hexDigit?_digitChar (show n / 16 % 16 < 16 by omega),
    hexDigit?_digitChar (show n % 16 < 16 by omega), Option.map_some, Option.bind_eq_bind,
    Option.bind_some, Option.pure_def, Option.some.injEq]
  omega

end Text

namespace Json

/-! ### String literals -/

theorem stringBody_unitEscape {unit : Nat} (h : unit < 0x10000)
    (hunit : ¬ (0xD800 ≤ unit ∧ unit < 0xDC00)) (rest : List Char) :
    stringBody (unitEscape unit ++ rest) = consChar (ofUnit? unit) (stringBody rest) := by
  rw [unitEscape, Text.hex_four h]
  simp only [List.cons_append, List.nil_append]
  rw [stringBody, Text.ofHex?_four h]
  dsimp only
  rw [if_neg hunit]

theorem stringBody_unitEscapes {high low : Nat} (hhigh : 0xD800 ≤ high ∧ high < 0xDC00)
    (hlow : low < 0x10000) (rest : List Char) :
    stringBody (unitEscape high ++ (unitEscape low ++ rest))
      = consChar (ofPair? high low) (stringBody rest) := by
  rw [unitEscape, unitEscape, Text.hex_four (by omega), Text.hex_four hlow]
  simp only [List.cons_append, List.nil_append]
  rw [stringBody, Text.ofHex?_four (by omega)]
  dsimp only
  rw [if_pos hhigh]
  show consChar ((Text.ofHex? [(low / 4096).digitChar, (low / 256 % 16).digitChar,
    (low / 16 % 16).digitChar, (low % 16).digitChar]).bind (ofPair? high)) (stringBody rest) = _
  rw [Text.ofHex?_four hlow, Option.bind_some]

theorem stringBody_plain {c : Char} (hquote : c ≠ '\x22') (hslash : c ≠ '\\')
    (hprintable : 0x20 ≤ c.toNat) (rest : List Char) :
    stringBody (c :: rest) = consChar (some c) (stringBody rest) := by
  rw [stringBody.eq_def]
  split
  case h_5 other others _ _ heq =>
    obtain ⟨rfl, rfl⟩ := List.cons.inj heq
    rw [if_neg (by omega)]
  all_goals simp_all

/-- A character has an escape of its own, or it is written as itself, by its code unit or by two
code units. -/
theorem escaped_cases (c : Char) :
    c ∈ ['\x22', '\\', '\n', '\r', '\t', '\x0c', '\x08'] ∨
    (escaped c = [c] ∧ c ≠ '\x22' ∧ c ≠ '\\' ∧ 0x20 ≤ c.toNat ∧ c.toNat ≤ 0x7E) ∨
    (escaped c = unitEscape c.toNat ∧ c.toNat < 0x10000) ∨
    (escaped c = unitEscape (0xD800 + (c.toNat - 0x10000) / 0x400)
      ++ unitEscape (0xDC00 + (c.toNat - 0x10000) % 0x400) ∧ 0x10000 ≤ c.toNat) := by
  by_cases hown : c ∈ ['\x22', '\\', '\n', '\r', '\t', '\x0c', '\x08']
  · exact .inl hown
  · refine .inr ?_
    simp only [List.mem_cons, List.not_mem_nil, or_false, not_or] at hown
    obtain ⟨hquote, hslash, hn, hr, ht, hf, hb⟩ := hown
    rw [escaped, if_neg hquote, if_neg hslash, if_neg hn, if_neg hr, if_neg ht, if_neg hf,
      if_neg hb]
    by_cases hprintable : 0x20 ≤ c.toNat ∧ c.toNat ≤ 0x7E
    · exact .inl ⟨if_pos hprintable, hquote, hslash, hprintable⟩
    · rw [if_neg hprintable]
      by_cases hunit : c.toNat < 0x10000
      · exact .inr (.inl ⟨if_pos hunit, hunit⟩)
      · exact .inr (.inr ⟨if_neg hunit, by omega⟩)

/-- A character is read as it was written. -/
theorem stringBody_escaped (c : Char) (rest : List Char) :
    stringBody (escaped c ++ rest) = consChar (some c) (stringBody rest) := by
  have hvalid : c.toNat < 0xD800 ∨ 0xDFFF < c.toNat ∧ c.toNat < 0x110000 := c.valid
  rcases escaped_cases c with hown | ⟨hself, hquote, hslash, hprintable, _⟩ | ⟨hunit, hlt⟩ |
    ⟨hpair, hge⟩
  · simp only [List.mem_cons, List.not_mem_nil, or_false] at hown
    rcases hown with rfl | rfl | rfl | rfl | rfl | rfl | rfl <;> rfl
  · rw [hself]
    exact stringBody_plain hquote hslash hprintable rest
  · rw [hunit, stringBody_unitEscape hlt (by omega), ofUnit?, if_neg (by omega), Char.ofNat_toNat]
  · rw [hpair, List.append_assoc, stringBody_unitEscapes (by omega) (by omega), ofPair?,
      if_pos (by omega)]
    have hsum : 0x10000 + (0xD800 + (c.toNat - 0x10000) / 0x400 - 0xD800) * 0x400
        + (0xDC00 + (c.toNat - 0x10000) % 0x400 - 0xDC00) = c.toNat := by omega
    rw [hsum, Char.ofNat_toNat]

/-- A string literal is read as it was written. -/
theorem stringBody_quote (chars rest : List Char) :
    stringBody (chars.flatMap escaped ++ '\x22' :: rest) = some (chars, rest) := by
  induction chars with
  | nil => rfl
  | cons c chars ih =>
    rw [List.flatMap_cons, List.append_assoc, stringBody_escaped, ih]
    rfl

/-! ### Numbers -/

/-- What follows a number does not go on with a digit. -/
def NumberEnds (rest : List Char) : Prop := ∀ c tail, rest = c :: tail → c.isDigit = false

theorem natural?_toDigits (n : Nat) {rest : List Char} (hrest : NumberEnds rest) :
    natural? (Nat.toDigits 10 n ++ rest) = some (n, rest) := by
  have hdigits : ∀ c ∈ Nat.toDigits 10 n, c.isDigit = true := fun c hc =>
    Nat.isDigit_of_mem_toDigits (by decide) (by decide) hc
  have hends : rest.takeWhile Char.isDigit = [] ∧ rest.dropWhile Char.isDigit = rest := by
    cases rest with
    | nil => exact ⟨rfl, rfl⟩
    | cons c tail => simp [hrest c tail rfl]
  have htake : (Nat.toDigits 10 n ++ rest).takeWhile Char.isDigit = Nat.toDigits 10 n := by
    rw [List.takeWhile_append_of_pos hdigits, hends.1, List.append_nil]
  have hdrop : (Nat.toDigits 10 n ++ rest).dropWhile Char.isDigit = rest := by
    rw [List.dropWhile_append_of_pos hdigits, hends.2]
  have hvalue : ofDigits (Nat.toDigits 10 n) = n :=
    Nat.ofDigitChars_toDigits (by decide) (by decide)
  rw [natural?, htake, hdrop]
  cases hlist : Nat.toDigits 10 n with
  | nil => exact absurd hlist Nat.toDigits_ne_nil
  | cons c tail =>
    show some (ofDigits (c :: tail), rest) = some (n, rest)
    rw [← hlist, hvalue]

theorem integer?_toString (n : Int) {rest : List Char} (hrest : NumberEnds rest) :
    integer? ((toString n).toList ++ rest) = some (.int n, rest) := by
  rw [Int.toString_eq_repr, Int.repr_eq_if]
  split
  · rename_i hn
    have hnat : ((n.toNat : Nat) : Int) = n := Int.toNat_of_nonneg hn
    rw [Nat.toList_repr]
    cases hlist : Nat.toDigits 10 n.toNat with
    | nil => exact absurd hlist Nat.toDigits_ne_nil
    | cons c tail =>
      have hc : c.isDigit = true :=
        Nat.isDigit_of_mem_toDigits (by decide) (by decide) (hlist ▸ List.mem_cons_self)
      have hminus : c ≠ '-' := by
        rintro rfl
        cases hc
      rw [List.cons_append, integer?]
      · rw [← List.cons_append, ← hlist, natural?_toDigits _ hrest]
        show some (int (n.toNat : Int), rest) = _
        rw [hnat]
      · rintro rest h
        exact hminus (List.cons.inj h).1
  · rename_i hn
    have hnat : (((-n).toNat : Nat) : Int) = -n := Int.toNat_of_nonneg (by omega)
    rw [String.toList_append, Nat.toList_repr]
    show integer? ('-' :: (Nat.toDigits 10 (-n).toNat ++ rest)) = _
    rw [integer?, natural?_toDigits _ hrest]
    show some (int (-((-n).toNat : Int)), rest) = _
    rw [hnat, Int.neg_neg]

/-- An integer is written with a sign or a digit in front. -/
theorem exists_toString_eq_cons (n : Int) :
    ∃ c tail, (toString n).toList = c :: tail ∧ (c = '-' ∨ c.isDigit = true) := by
  rw [Int.toString_eq_repr, Int.repr_eq_if]
  split
  · rw [Nat.toList_repr]
    cases hlist : Nat.toDigits 10 n.toNat with
    | nil => exact absurd hlist Nat.toDigits_ne_nil
    | cons c tail =>
      exact ⟨c, tail, rfl, .inr (Nat.isDigit_of_mem_toDigits (by decide) (by decide)
        (hlist ▸ List.mem_cons_self))⟩
  · rw [String.toList_append]
    exact ⟨'-', _, rfl, .inl rfl⟩

/-! ### White space -/

theorem skipSpace_newline (depth : Nat) (rest : List Char) :
    skipSpace (newline depth ++ rest) = skipSpace rest := by
  have hblanks : ∀ n, skipSpace (List.replicate n ' ' ++ rest) = skipSpace rest := by
    intro n
    induction n with
    | zero => rfl
    | succ n ih => exact ih
  exact hblanks (2 * depth)

theorem skipSpace_cons {c : Char} (h : isSpace c = false) (rest : List Char) :
    skipSpace (c :: rest) = c :: rest := by
  rw [skipSpace, List.dropWhile_cons_of_neg (by simp [h])]

/-- White space in front of a value does not count. -/
theorem value_newline (bound depth : Nat) (rest : List Char) :
    value bound (newline depth ++ rest) = value bound rest := by
  cases bound with
  | zero => rfl
  | succ bound => rw [value, value, skipSpace_newline]

/-! ### Values -/

/-- A property holds of every value if it holds of those without parts, and passes from the parts of
an array or an object to the whole. -/
@[elab_as_elim]
theorem partInduction {motive : Json → Prop} (null : motive .null)
    (bool : ∀ value, motive (.bool value)) (int : ∀ value, motive (.int value))
    (string : ∀ value, motive (.string value))
    (array : ∀ items, (∀ item ∈ items, motive item) → motive (.array items))
    (object : ∀ fields, (∀ field ∈ fields, motive field.2) → motive (.object fields)) :
    (json : Json) → motive json
  | .null => null
  | .bool value => bool value
  | .int value => int value
  | .string value => string value
  | .array items => array items fun item _hitem =>
    partInduction null bool int string array object item
  | .object fields => object fields fun field _hfield =>
    partInduction null bool int string array object field.2
termination_by json => sizeOf json
decreasing_by
  · have := List.sizeOf_lt_of_mem _hitem
    simp only [Json.array.sizeOf_spec]
    omega
  · have hlt := List.sizeOf_lt_of_mem _hfield
    obtain ⟨name, value⟩ := field
    simp only [Json.object.sizeOf_spec, Prod.mk.sizeOf_spec] at hlt ⊢
    omega

theorem numberEnds_cons {c : Char} (h : c.isDigit = false) (rest : List Char) :
    NumberEnds (c :: rest) := by
  intro other tail heq
  rw [← (List.cons.inj heq).1, h]

theorem not_isSpace_of_number {c : Char} (h : c = '-' ∨ c.isDigit = true) : isSpace c = false := by
  cases hspace : isSpace c with
  | false => rfl
  | true =>
    simp only [isSpace, Bool.or_eq_true, beq_iff_eq] at hspace
    rcases hspace with ((rfl | rfl) | rfl) | rfl <;> revert h <;> decide

theorem value_number {bound : Nat} {c : Char} {tail : List Char}
    (h : c = '-' ∨ c.isDigit = true) : value (bound + 1) (c :: tail) = integer? (c :: tail) := by
  rw [value, skipSpace_cons (not_isSpace_of_number h)]
  split
  case h_7 => rfl
  -- every other value begins with a character of its own
  all_goals
    rename_i heq
    exact absurd h (by rw [(List.cons.inj heq).1]; decide)

theorem value_string (bound : Nat) (text : String) (rest : List Char) :
    value (bound + 1) (quote text ++ rest) = some (.string text, rest) := by
  rw [quote, List.cons_append, List.cons_append, value, skipSpace_cons rfl]
  show (stringBody (text.toList.flatMap escaped ++ ['\x22'] ++ rest)).map _ = _
  rw [List.append_assoc, List.singleton_append, stringBody_quote]
  show some (string (String.ofList text.toList), rest) = _
  rw [String.ofList_toList]

/-- An array that does not end at once holds items. -/
theorem value_array {bound : Nat} {text : List Char} (h : ∀ tail, skipSpace text ≠ ']' :: tail) :
    value (bound + 1) ('[' :: text)
      = (items bound (skipSpace text)).map fun found => (array found.1, found.2) := by
  rw [value, skipSpace_cons rfl]
  -- `h` rules out the case of a closing bracket
  simp only

/-- An object that does not end at once holds fields. -/
theorem value_object {bound : Nat} {text : List Char}
    (h : ∀ tail, skipSpace text ≠ '\x7d' :: tail) :
    value (bound + 1) ('\x7b' :: text)
      = (fields bound (skipSpace text)).map fun found => (object found.1, found.2) := by
  rw [value, skipSpace_cons rfl]
  simp only

theorem items_newline (bound depth : Nat) (rest : List Char) :
    items bound (newline depth ++ rest) = items bound rest := by
  cases bound with
  | zero => rfl
  | succ bound => rw [items, items, value_newline]

theorem fields_newline (bound depth : Nat) (rest : List Char) :
    fields bound (newline depth ++ rest) = fields bound rest := by
  cases bound with
  | zero => rfl
  | succ bound => rw [fields, fields, skipSpace_newline]

section Items

variable {bound : Nat} {text left rest : List Char} {item : Json}
  (hvalue : value bound text = some (item, left))

include hvalue in
theorem items_last (hleft : skipSpace left = ']' :: rest) :
    items (bound + 1) text = some ([item], rest) := by
  rw [items, hvalue]
  dsimp only
  rw [hleft]
  rfl

include hvalue in
theorem items_more (hleft : skipSpace left = ',' :: rest) :
    items (bound + 1) text = (items bound rest).map fun found => (item :: found.1, found.2) := by
  rw [items, hvalue]
  dsimp only
  rw [hleft]
  rfl

end Items

theorem quote_append (text : String) (rest : List Char) :
    quote text ++ rest = '\x22' :: (text.toList.flatMap escaped ++ '\x22' :: rest) := by
  simp [quote]

theorem skipSpace_colon (text : List Char) : skipSpace (':' :: text) = ':' :: text :=
  skipSpace_cons rfl text

section Fields

variable {bound : Nat} {name : String} {text left rest : List Char} {field : Json}
  (hvalue : value bound (' ' :: text) = some (field, left))

include hvalue in
theorem fields_last (hleft : skipSpace left = '\x7d' :: rest) :
    fields (bound + 1) (quote name ++ ':' :: ' ' :: text) = some ([(name, field)], rest) := by
  rw [quote_append, fields, skipSpace_cons rfl]
  simp only [stringBody_quote, skipSpace_colon, hvalue, hleft, String.ofList_toList]

include hvalue in
theorem fields_more (hleft : skipSpace left = ',' :: rest) :
    fields (bound + 1) (quote name ++ ':' :: ' ' :: text)
      = (fields bound rest).map fun found => ((name, field) :: found.1, found.2) := by
  rw [quote_append, fields, skipSpace_cons rfl]
  simp only [stringBody_quote, skipSpace_colon, hvalue, hleft, String.ofList_toList]

end Fields

/-! ### Written values are read -/

/-- Wherever a value stands, it is read as it was written, and what follows it is left. -/
def IsRead (json : Json) : Prop :=
  ∀ depth bound rest, (json.prettyAt depth).length ≤ bound → NumberEnds rest →
    value bound (json.prettyAt depth ++ rest) = some (json, rest)

theorem prettyItems_append (depth : Nat) (item : Json) (others : List Json) (rest : List Char) :
    prettyItems depth (item :: others) ++ rest
      = ',' :: (newline depth ++ (item.prettyAt depth ++ (prettyItems depth others ++ rest))) := by
  simp [prettyItems]

theorem prettyFields_append (depth : Nat) (name : String) (field : Json)
    (others : List (String × Json)) (rest : List Char) :
    prettyFields depth ((name, field) :: others) ++ rest
      = ',' :: (newline depth ++ (quote name ++ ':' :: ' ' ::
        (field.prettyAt depth ++ (prettyFields depth others ++ rest)))) := by
  simp [prettyFields]

theorem numberEnds_prettyItems (depth : Nat) (items : List Json) (outer : Nat) (rest : List Char) :
    NumberEnds (prettyItems depth items ++ (newline outer ++ rest)) := by
  cases items with
  | nil => exact numberEnds_cons rfl _
  | cons item others => exact numberEnds_cons rfl _

theorem numberEnds_prettyFields (depth : Nat) (fields : List (String × Json)) (outer : Nat)
    (rest : List Char) : NumberEnds (prettyFields depth fields ++ (newline outer ++ rest)) := by
  cases fields with
  | nil => exact numberEnds_cons rfl _
  | cons field others => exact numberEnds_cons rfl _

/-- The items of an array are read as they were written. -/
theorem items_prettyItems {others : List Json} {item : Json}
    (hread : ∀ other ∈ item :: others, other.IsRead) {depth outer bound : Nat} {rest : List Char}
    (h : (item.prettyAt depth).length + (prettyItems depth others).length < bound) :
    items bound
        (item.prettyAt depth ++ (prettyItems depth others ++ (newline outer ++ ']' :: rest)))
      = some (item :: others, rest) := by
  induction others generalizing item bound with
  | nil =>
    obtain ⟨bound, rfl⟩ : ∃ fewer, bound = fewer + 1 := ⟨bound - 1, by omega⟩
    have hitem := hread item List.mem_cons_self depth bound _ (by omega)
      (numberEnds_prettyItems depth [] outer (']' :: rest))
    refine items_last hitem ?_
    rw [prettyItems, List.nil_append, skipSpace_newline, skipSpace_cons rfl]
  | cons next others ih =>
    obtain ⟨bound, rfl⟩ : ∃ fewer, bound = fewer + 1 := ⟨bound - 1, by omega⟩
    have hitem := hread item List.mem_cons_self depth bound _ (by omega)
      (numberEnds_prettyItems depth (next :: others) outer (']' :: rest))
    have hlength : (prettyItems depth (next :: others)).length
        = 1 + (newline depth).length + (next.prettyAt depth).length
          + (prettyItems depth others).length := by
      simp [prettyItems]
      omega
    rw [items_more hitem (by rw [prettyItems_append, skipSpace_cons rfl]), items_newline,
      ih (fun other hother => hread other (List.mem_cons_of_mem _ hother)) (by omega)]
    rfl

/-- The fields of an object are read as they were written. -/
theorem fields_prettyFields {others : List (String × Json)} {name : String} {field : Json}
    (hread : ∀ other ∈ (name, field) :: others, other.2.IsRead) {depth outer bound : Nat}
    {rest : List Char}
    (h : (quote name).length + (field.prettyAt depth).length + (prettyFields depth others).length
      < bound) :
    fields bound (quote name ++ ':' :: ' ' ::
        (field.prettyAt depth ++ (prettyFields depth others ++ (newline outer ++ '\x7d' :: rest))))
      = some ((name, field) :: others, rest) := by
  have hblank : ∀ bound text, value bound (' ' :: text) = value bound text := by
    intro bound text
    cases bound with
    | zero => rfl
    | succ bound => rfl
  induction others generalizing name field bound with
  | nil =>
    obtain ⟨bound, rfl⟩ : ∃ fewer, bound = fewer + 1 := ⟨bound - 1, by omega⟩
    have hfield := hread (name, field) List.mem_cons_self depth bound _ (by dsimp only; omega)
      (numberEnds_prettyFields depth [] outer ('\x7d' :: rest))
    refine fields_last ((hblank _ _).trans hfield) ?_
    rw [prettyFields, List.nil_append, skipSpace_newline, skipSpace_cons rfl]
  | cons next others ih =>
    obtain ⟨bound, rfl⟩ : ∃ fewer, bound = fewer + 1 := ⟨bound - 1, by omega⟩
    obtain ⟨other, value⟩ := next
    have hfield := hread (name, field) List.mem_cons_self depth bound _ (by dsimp only; omega)
      (numberEnds_prettyFields depth ((other, value) :: others) outer ('\x7d' :: rest))
    have hlength : (prettyFields depth ((other, value) :: others)).length
        = 3 + (newline depth).length + (quote other).length + (value.prettyAt depth).length
          + (prettyFields depth others).length := by
      simp [prettyFields]
      omega
    rw [fields_more ((hblank _ _).trans hfield) (by rw [prettyFields_append, skipSpace_cons rfl]),
      fields_newline,
      ih (fun field hfield => hread field (List.mem_cons_of_mem _ hfield)) (by omega)]
    rfl

/-- The written form of a value does not begin with white space, nor with the end of an array. -/
theorem exists_prettyAt_eq_cons (depth : Nat) (json : Json) :
    ∃ c rest, json.prettyAt depth = c :: rest ∧ isSpace c = false ∧ c ≠ ']' := by
  cases json with
  | null => exact ⟨_, _, rfl, rfl, by decide⟩
  | bool value => cases value <;> exact ⟨_, _, rfl, rfl, by decide⟩
  | int n =>
    obtain ⟨c, tail, hcons, hc⟩ := exists_toString_eq_cons n
    refine ⟨c, tail, hcons, not_isSpace_of_number hc, ?_⟩
    rintro rfl
    revert hc
    decide
  | string text => exact ⟨_, _, rfl, rfl, by decide⟩
  | array items => cases items <;> exact ⟨_, _, rfl, rfl, by decide⟩
  | object fields =>
    cases fields with
    | nil => exact ⟨_, _, rfl, rfl, by decide⟩
    | cons field others => exact ⟨_, _, rfl, rfl, by decide⟩

theorem prettyAt_array_append (depth : Nat) (item : Json) (others : List Json) (rest : List Char) :
    (array (item :: others)).prettyAt depth ++ rest
      = '[' :: (newline (depth + 1) ++ (item.prettyAt (depth + 1)
        ++ (prettyItems (depth + 1) others ++ (newline depth ++ ']' :: rest)))) := by
  rw [prettyAt]
  simp only [List.append_assoc, List.cons_append, List.nil_append]

theorem prettyAt_object_append (depth : Nat) (name : String) (field : Json)
    (others : List (String × Json)) (rest : List Char) :
    (object ((name, field) :: others)).prettyAt depth ++ rest
      = '\x7b' :: (newline (depth + 1) ++ (quote name ++ ':' :: ' ' ::
        (field.prettyAt (depth + 1)
          ++ (prettyFields (depth + 1) others ++ (newline depth ++ '\x7d' :: rest))))) := by
  rw [prettyAt]
  simp only [List.append_assoc, List.cons_append, List.nil_append]

/-- A value is read wherever it stands if it is with some depth left to read it. -/
theorem isRead_of_succ {json : Json}
    (h : ∀ depth bound rest, (json.prettyAt depth).length ≤ bound + 1 → NumberEnds rest →
      value (bound + 1) (json.prettyAt depth ++ rest) = some (json, rest)) : json.IsRead := by
  intro depth bound rest hlength hrest
  obtain ⟨c, tail, hcons, _⟩ := exists_prettyAt_eq_cons depth json
  have hpos : 0 < (json.prettyAt depth).length := by simp [hcons]
  obtain ⟨bound, rfl⟩ : ∃ fewer, bound = fewer + 1 := ⟨bound - 1, by omega⟩
  exact h depth bound rest hlength hrest

theorem isRead_array {items : List Json} (ih : ∀ item ∈ items, item.IsRead) :
    (array items).IsRead := by
  refine isRead_of_succ fun depth bound rest h _ => ?_
  cases items with
  | nil => rfl
  | cons item others =>
    obtain ⟨c, tail, hcons, hspace, hbracket⟩ := exists_prettyAt_eq_cons (depth + 1) item
    have hskip : ∀ text, skipSpace (newline (depth + 1) ++ (item.prettyAt (depth + 1) ++ text))
        = item.prettyAt (depth + 1) ++ text := by
      intro text
      rw [skipSpace_newline, hcons, List.cons_append, skipSpace_cons hspace]
    have hlength := congrArg List.length (prettyAt_array_append depth item others [])
    simp only [List.length_append, List.length_cons, List.length_nil] at hlength
    rw [prettyAt_array_append, value_array, hskip, items_prettyItems ih (by omega)]
    · rfl
    · intro text
      rw [hskip, hcons, List.cons_append]
      exact fun heq => hbracket (List.cons.inj heq).1

theorem isRead_object {fields : List (String × Json)} (ih : ∀ field ∈ fields, field.2.IsRead) :
    (object fields).IsRead := by
  refine isRead_of_succ fun depth bound rest h _ => ?_
  cases fields with
  | nil => rfl
  | cons first others =>
    obtain ⟨name, field⟩ := first
    have hskip : ∀ text, skipSpace (newline (depth + 1) ++ (quote name ++ text))
        = quote name ++ text := by
      intro text
      rw [skipSpace_newline]
      exact skipSpace_cons rfl _
    have hlength := congrArg List.length (prettyAt_object_append depth name field others [])
    simp only [List.length_append, List.length_cons, List.length_nil] at hlength
    rw [prettyAt_object_append, value_object, hskip, fields_prettyFields ih (by omega)]
    · rfl
    · intro text
      rw [hskip]
      exact fun heq => absurd (List.cons.inj heq).1 (by decide)

/-- Every value is read as it was written. -/
theorem isRead (json : Json) : json.IsRead := by
  induction json using partInduction with
  | null => exact isRead_of_succ fun depth bound rest _ _ => rfl
  | bool value => exact isRead_of_succ fun depth bound rest _ _ => by cases value <;> rfl
  | int n =>
    refine isRead_of_succ fun depth bound rest _ hrest => ?_
    obtain ⟨c, tail, hcons, hc⟩ := exists_toString_eq_cons n
    have hread := integer?_toString n hrest
    rw [prettyAt, hcons, List.cons_append, value_number hc, ← List.cons_append, ← hcons, hread]
  | string text => exact isRead_of_succ fun depth bound rest _ _ => value_string bound text rest
  | array items ih => exact isRead_array ih
  | object fields ih => exact isRead_object ih

/-- A written value is what its text stands for. -/
theorem parse_pretty (json : Json) : parse json.pretty = some json := by
  have hread := json.isRead 0 ((json.prettyAt 0).length + 1) [] (by omega)
    (fun _ _ h => by cases h)
  rw [List.append_nil] at hread
  rw [parse, pretty, String.toList_ofList, hread]
  rfl

/-! ### The characters of the written form -/

/-- Whether a character is a line break or one of the printable characters of ASCII. -/
def isPlain (c : Char) : Bool := c == '\n' || (0x20 ≤ c.toNat && c.toNat ≤ 0x7E)

theorem isPlain_of_printable {c : Char} (h : 0x20 ≤ c.toNat ∧ c.toNat ≤ 0x7E) :
    isPlain c = true := by
  simp [isPlain, h]

theorem all_isPlain_unitEscape {unit : Nat} (h : unit < 0x10000) :
    (unitEscape unit).all isPlain = true := by
  have hdigit : ∀ n < 16, isPlain (Nat.digitChar n) = true := by decide
  rw [unitEscape, Text.hex_four h]
  simp only [List.all_cons, List.all_nil, hdigit (unit / 4096) (by omega),
    hdigit (unit / 256 % 16) (by omega), hdigit (unit / 16 % 16) (by omega),
    hdigit (unit % 16) (by omega)]
  rfl

theorem all_isPlain_escaped (c : Char) : (escaped c).all isPlain = true := by
  have hvalid : c.toNat < 0xD800 ∨ 0xDFFF < c.toNat ∧ c.toNat < 0x110000 := c.valid
  rcases escaped_cases c with hown | ⟨hself, _, _, hprintable⟩ | ⟨hunit, hlt⟩ | ⟨hpair, hge⟩
  · simp only [List.mem_cons, List.not_mem_nil, or_false] at hown
    rcases hown with rfl | rfl | rfl | rfl | rfl | rfl | rfl <;> rfl
  · rw [hself, List.all_cons, isPlain_of_printable hprintable]
    rfl
  · rw [hunit]
    exact all_isPlain_unitEscape hlt
  · rw [hpair, List.all_append, all_isPlain_unitEscape (by omega),
      all_isPlain_unitEscape (by omega)]
    rfl

theorem all_isPlain_quote (text : String) : (quote text).all isPlain = true := by
  have hbody : (text.toList.flatMap escaped).all isPlain = true := by
    rw [List.all_flatMap]
    exact List.all_eq_true.2 fun c _ => all_isPlain_escaped c
  rw [quote, List.cons_append, List.all_cons, List.all_append, hbody]
  rfl

theorem all_isPlain_newline (depth : Nat) : (newline depth).all isPlain = true := by
  refine List.all_eq_true.2 fun c hc => ?_
  rcases List.mem_cons.1 hc with rfl | hc
  · rfl
  · rw [List.eq_of_mem_replicate hc]
    rfl

theorem all_isPlain_toString (n : Int) : (toString n).toList.all isPlain = true := by
  have hdigits : ∀ n : Nat, (Nat.toDigits 10 n).all isPlain = true := by
    refine fun n => List.all_eq_true.2 fun c hc => isPlain_of_printable ?_
    have hdigit := Nat.isDigit_of_mem_toDigits (by decide) (by decide) hc
    simp only [Char.isDigit, Bool.and_eq_true, decide_eq_true_eq, ge_iff_le,
      UInt32.le_iff_toNat_le] at hdigit
    have hrange : 48 ≤ c.toNat ∧ c.toNat ≤ 57 := hdigit
    omega
  rw [Int.toString_eq_repr, Int.repr_eq_if]
  split
  · rw [Nat.toList_repr, hdigits]
  · rw [String.toList_append, Nat.toList_repr, List.all_append, hdigits]
    rfl

/-- Wherever a value stands, it is written in plain characters. -/
def IsWrittenPlain (json : Json) : Prop := ∀ depth, (json.prettyAt depth).all isPlain = true

theorem all_isPlain_prettyItems {items : List Json} (h : ∀ item ∈ items, item.IsWrittenPlain)
    (depth : Nat) : (prettyItems depth items).all isPlain = true := by
  induction items with
  | nil => rfl
  | cons item rest ih =>
    rw [List.forall_mem_cons] at h
    simp only [prettyItems, List.all_append, List.all_cons, all_isPlain_newline, h.1 depth, ih h.2]
    rfl

theorem all_isPlain_prettyFields {fields : List (String × Json)}
    (h : ∀ field ∈ fields, field.2.IsWrittenPlain) (depth : Nat) :
    (prettyFields depth fields).all isPlain = true := by
  induction fields with
  | nil => rfl
  | cons field rest ih =>
    rw [List.forall_mem_cons] at h
    simp only [prettyFields, List.all_append, List.all_cons, all_isPlain_newline,
      all_isPlain_quote, h.1 depth, ih h.2]
    rfl

/-- Whatever its strings hold, a value is written in plain characters. -/
theorem isWrittenPlain (json : Json) : json.IsWrittenPlain := by
  induction json using partInduction with
  | null => exact fun depth => rfl
  | bool value => exact fun depth => by cases value <;> rfl
  | int n => exact fun depth => all_isPlain_toString n
  | string text => exact fun depth => all_isPlain_quote text
  | array items ih =>
    intro depth
    cases items with
    | nil => rfl
    | cons item others =>
      rw [List.forall_mem_cons] at ih
      simp only [prettyAt, List.all_append, List.all_cons, all_isPlain_newline, ih.1 (depth + 1),
        all_isPlain_prettyItems ih.2]
      rfl
  | object fields ih =>
    intro depth
    cases fields with
    | nil => rfl
    | cons field others =>
      rw [List.forall_mem_cons] at ih
      simp only [prettyAt, List.all_append, List.all_cons, all_isPlain_newline, all_isPlain_quote,
        ih.1 (depth + 1), all_isPlain_prettyFields ih.2]
      rfl

theorem all_isPlain_pretty (json : Json) : json.pretty.toList.all isPlain = true := by
  rw [pretty, String.toList_ofList]
  exact json.isWrittenPlain 0

end Json

end ComponentSurvey
