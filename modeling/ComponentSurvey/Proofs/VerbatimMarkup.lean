import ComponentSurvey.Proofs.Markup
import Mathlib.Data.List.Infix
import Mathlib.Data.List.TakeWhile

/-!
# Texts that are printed as they are

What is printed of a text with markup lacks its tags, the backslashes in front of brackets and what
would move the cursor, and has pictures in place of their names. A text that holds nothing of this is
printed as it is; a text that does is not.

* `Markup.HoldsTag`, `HoldsEscape`, `HoldsPicture`, `HoldsCursorMove` — what is changed in a text.
* `Markup.HoldsCode` — colons that could enclose the name of a picture, be it known or not.
* `Markup.Untouched`, `untouched_iff` — there is no tag and no escape at any place of a text.
* `Markup.length_chars_piecesFrom` — the pieces of any other text have fewer characters than the text.
* `Markup.printed_eq_self`, `Markup.holds_none_of_printed` — the texts that are printed as they are.
* `Markup.Settles` — texts that are printed as they are, also when they are put together.
* `Markup.IsPlain` — texts without a character that markup gives a meaning to.
-/

namespace ComponentSurvey

namespace Markup

/-- There is a tag in a text: brackets with no others between them, and behind the opening one a
character that starts a tag. -/
def HoldsTag (text : List Char) : Prop :=
  ∃ first inner, startsTag first = true ∧ (∀ c ∈ inner, c ≠ '[' ∧ c ≠ ']') ∧
    '[' :: (first :: inner ++ [']']) <:+: text

/-- There is a backslash in front of an opening bracket. -/
def HoldsEscape (text : List Char) : Prop := ['\\', '['] <:+: text

/-- There is the name of a picture between colons. -/
def HoldsPicture (text : List Char) : Prop :=
  ∃ rest code, rest <:+ text ∧ Emoji.codeAt? rest = some code ∧ code.chars?.isSome = true

/-- There is a character that would move the cursor. -/
def HoldsCursorMove (text : List Char) : Prop := ∃ c ∈ text, movesCursor c = true

/-- The colons and the white space of a text. -/
def spacing (text : List Char) : List Char := text.filter fun c => c == ':' || Text.isBlank c

/-- There are two colons without white space between them. -/
def HoldsCode (text : List Char) : Prop := [':', ':'] <:+: spacing text

instance (text : List Char) : Decidable (HoldsCode text) :=
  inferInstanceAs (Decidable ([':', ':'] <:+: spacing text))

/-! ### Tags and escapes -/

theorem tagBody?_eq_some {text body : List Char} (h : tagBody? text = some body) :
    ∃ first inner rest, body = first :: inner ∧ startsTag first = true ∧
      (∀ c ∈ inner, c ≠ '[' ∧ c ≠ ']') ∧ text = body ++ ']' :: rest := by
  cases text with
  | nil => cases h
  | cons first text =>
    have hsplit := List.prefix_iff_eq_append.1 <| text.takeWhile_prefix fun d =>
      d != '[' && d != ']'
    rw [tagBody?] at h
    split at h
    · rename_i hstart
      dsimp only at h
      split at h
      · rename_i rest hrest
        cases h
        rw [hrest] at hsplit
        refine ⟨first, _, rest, rfl, hstart, ?_, by rw [List.cons_append, hsplit]⟩
        intro c hc
        simpa using List.mem_takeWhile_imp hc
      · cases h
    · cases h

/-- A tag at the start of a text stands there behind its backslashes. -/
theorem tagAt?_eq_some {text body : List Char} {slashes : Nat}
    (h : tagAt? text = some (slashes, body)) :
    ∃ first inner rest, body = first :: inner ∧ startsTag first = true ∧
      (∀ c ∈ inner, c ≠ '[' ∧ c ≠ ']') ∧
      text = List.replicate slashes '\\' ++ '[' :: (body ++ ']' :: rest) := by
  have hsplit := List.prefix_iff_eq_append.1 <| text.takeWhile_prefix (· == '\\')
  have hslashes : text.takeWhile (· == '\\')
      = List.replicate (text.takeWhile (· == '\\')).length '\\' := by
    rw [List.eq_replicate_iff]
    refine ⟨rfl, fun c hc => ?_⟩
    simpa using List.mem_takeWhile_imp hc
  rw [tagAt?] at h
  split at h
  · rename_i bracketed hbracketed
    obtain ⟨tag, htag, heq⟩ := Option.map_eq_some_iff.1 h
    cases heq
    obtain ⟨first, inner, rest, hbody, hstart, hinner, rfl⟩ := tagBody?_eq_some htag
    refine ⟨first, inner, rest, hbody, hstart, hinner, ?_⟩
    rw [← hslashes, ← hbracketed, hsplit]
  · cases h

/-- There is no tag and no escape at any place of a text. -/
def Untouched : List Char → Prop
  | [] => True
  | c :: rest =>
    tagAt? (c :: rest) = none ∧ ¬ (c = '\\' ∧ rest.head? = some '[') ∧ Untouched rest

theorem Untouched.of_append {front rest : List Char} (h : Untouched (front ++ rest)) :
    Untouched rest := by
  induction front with
  | nil => exact h
  | cons c front ih => exact ih h.2.2

theorem untouched_iff {text : List Char} :
    Untouched text ↔ ¬ HoldsTag text ∧ ¬ HoldsEscape text := by
  constructor
  · intro h
    constructor
    · rintro ⟨first, inner, hstart, hinner, front, rest, rfl⟩
      rw [List.append_assoc] at h
      have hnone : tagAt? ('[' :: (first :: inner ++ [']']) ++ rest) = none := h.of_append.1
      rw [List.cons_append, List.append_assoc, List.singleton_append,
        tagAt?_tag hstart hinner rest] at hnone
      cases hnone
    · rintro ⟨front, rest, rfl⟩
      rw [List.append_assoc] at h
      exact h.of_append.2.1 ⟨rfl, rfl⟩
  · rintro ⟨htag, hescape⟩
    induction text with
    | nil => trivial
    | cons c rest ih =>
      refine ⟨?_, ?_, ih ?_ ?_⟩
      · cases hat : tagAt? (c :: rest) with
        | none => rfl
        | some found =>
          obtain ⟨first, inner, after, hbody, hstart, hinner, htext⟩ := tagAt?_eq_some hat
          refine absurd ⟨first, inner, hstart, hinner, List.replicate found.1 '\\', after, ?_⟩ htag
          rw [htext, hbody]
          simp
      · rintro ⟨rfl, hhead⟩
        obtain ⟨after, rfl⟩ := List.head?_eq_some_iff.1 hhead
        exact hescape ⟨[], after, rfl⟩
      · rintro ⟨first, inner, hstart, hinner, hinfix⟩
        exact htag ⟨first, inner, hstart, hinner, hinfix.trans (List.suffix_cons c rest).isInfix⟩
      · intro hinfix
        exact hescape (List.IsInfix.trans hinfix (List.suffix_cons c rest).isInfix)

/-! ### The characters of pieces -/

/-- The characters that a piece shows. -/
def Piece.chars : Piece → List Char
  | .text chars => chars
  | .escaped chars => chars
  | .tag _ _ => []

/-- A character is put in front of the plain text that pieces start with, or becomes plain text. -/
theorem putChar_eq (c : Char) (pieces : List Piece) :
    ∃ chars others, putChar c pieces = .text (c :: chars) :: others ∧
      (pieces = .text chars :: others ∨ chars = [] ∧ pieces = others) := by
  rw [putChar.eq_def]
  split
  · rename_i chars others
    exact ⟨chars, others, rfl, .inl rfl⟩
  · exact ⟨[], pieces, rfl, .inr ⟨rfl, rfl⟩⟩

theorem chars_putChar (c : Char) (pieces : List Piece) :
    (putChar c pieces).flatMap Piece.chars = c :: pieces.flatMap Piece.chars := by
  obtain ⟨chars, others, hput, rfl | ⟨rfl, rfl⟩⟩ := putChar_eq c pieces
  · rw [hput]
    rfl
  · rw [hput]
    rfl

/-- A tag shows fewer characters than it has, with the backslashes in front of it. -/
theorem length_chars_tagPieces_lt (position slashes : Nat) (body : List Char) :
    ((tagPieces position slashes body).flatMap Piece.chars).length < slashes + body.length + 2 := by
  rw [tagPieces, List.flatMap_append, List.length_append]
  have hslashes : ((if slashes / 2 = 0 then [] else
      [Piece.escaped (List.replicate (slashes / 2) '\\')]).flatMap Piece.chars).length
      = slashes / 2 := by
    split
    · rename_i hzero
      rw [hzero]
      rfl
    · simp [Piece.chars]
  have htag : ((if slashes % 2 = 1 then [Piece.escaped ('[' :: body ++ [']'])]
      else [Piece.tag body (position + 2 * (slashes / 2))]).flatMap Piece.chars).length
      = if slashes % 2 = 1 then body.length + 2 else 0 := by
    split <;> simp [Piece.chars]
  rw [hslashes, htag]
  split <;> omega

/-- Pieces have as many characters as the text they are made of only if the text is untouched. -/
theorem length_chars_piecesFrom (skip position : Nat) (text : List Char) (hskip : skip ≤ text.length) :
    let shown := ((piecesFrom skip position text).flatMap Piece.chars).length
    shown + skip ≤ text.length ∧ (skip = 0 → shown = text.length → Untouched text) := by
  fun_induction piecesFrom skip position text with
  | case1 skip position =>
    refine ⟨?_, fun _ _ => trivial⟩
    simpa using hskip
  | case2 position skip c rest ih =>
    have hrest := (ih (by simpa using hskip)).1
    simp only [List.length_cons]
    refine ⟨by omega, fun h => by omega⟩
  | case3 position c rest slashes body htag ih =>
    obtain ⟨first, inner, after, -, -, -, htext⟩ := tagAt?_eq_some htag
    have hlength := congrArg List.length htext
    simp only [List.length_cons, List.length_append, List.length_replicate] at hlength
    have hrest := (ih (by omega)).1
    have hless := length_chars_tagPieces_lt position slashes body
    simp only [List.flatMap_append, List.length_append, List.length_cons]
    refine ⟨by omega, fun _ h => by omega⟩
  | case4 position c rest htag others hescape ih =>
    have hrest := (ih (Nat.zero_le _)).1
    simp only [others, List.length_cons]
    refine ⟨by omega, fun _ h => by omega⟩
  | case5 position c rest htag others hescape ih =>
    obtain ⟨hle, huntouched⟩ := ih (Nat.zero_le _)
    simp only [others, chars_putChar, List.length_cons]
    refine ⟨by omega, fun _ h => ⟨htag, hescape, huntouched rfl (by omega)⟩⟩

/-! ### Pictures -/

theorem codeAt?_eq_some {text : List Char} {code : Emoji.Code} (h : Emoji.codeAt? text = some code) :
    ∃ name rest, (∀ c ∈ name, c ≠ ':' ∧ Text.isBlank c = false) ∧
      text = ':' :: (name ++ ':' :: rest) ∧ code.length = name.length + 2 := by
  rw [Emoji.codeAt?.eq_def] at h
  split at h
  · rename_i after
    have hsplit := List.prefix_iff_eq_append.1 <| after.takeWhile_prefix fun c =>
      c != ':' && !Text.isBlank c
    dsimp only at h
    split at h
    · rename_i hcolon
      obtain ⟨rest, hrest⟩ := List.head?_eq_some_iff.1 hcolon
      cases h
      rw [hrest] at hsplit
      refine ⟨_, rest, ?_, by rw [hsplit], rfl⟩
      intro c hc
      simpa using List.mem_takeWhile_imp hc
    · cases h
  · cases h

/-- If no name of a picture stands between colons, nothing is put in place of anything. -/
theorem replacedFrom_eq_drop (skip : Nat) (text : List Char)
    (h : ¬ HoldsPicture (text.drop skip)) : Emoji.replacedFrom skip text = text.drop skip := by
  fun_induction Emoji.replacedFrom skip text with
  | case1 => rw [List.drop_nil]
  | case2 skip c rest ih => exact ih h
  | case3 c rest code hcode ih =>
    rw [List.drop_zero] at h ⊢
    obtain ⟨name, after, -, -, hlength⟩ := codeAt?_eq_some hcode
    have hunknown : code.chars? = none := by
      cases hchars : code.chars? with
      | none => rfl
      | some chars => exact absurd ⟨c :: rest, code, List.suffix_rfl, hcode, by rw [hchars]; rfl⟩ h
    have hrest : ¬ HoldsPicture (rest.drop (code.length - 1)) := by
      rintro ⟨inner, other, hinner, hother⟩
      exact h ⟨inner, other,
        hinner.trans ((List.drop_suffix _ _).trans (List.suffix_cons c rest)), hother⟩
    rw [hunknown, Option.getD_none, ih hrest, hlength, List.take_succ_cons, List.cons_append]
    exact congrArg _ (List.take_append_drop (name.length + 1) rest)
  | case4 c rest hcode ih =>
    rw [List.drop_zero] at h ⊢
    have hrest : ¬ HoldsPicture (rest.drop 0) := by
      rintro ⟨inner, other, hinner, hother⟩
      exact h ⟨inner, other, hinner.trans (List.suffix_cons c rest), hother⟩
    rw [ih hrest, List.drop_zero]

theorem replaced_of_not_holdsPicture {text : List Char} (h : ¬ HoldsPicture text) :
    Emoji.replaced text = text :=
  replacedFrom_eq_drop 0 text h

@[simp] theorem spacing_append (front rest : List Char) :
    spacing (front ++ rest) = spacing front ++ spacing rest :=
  List.filter_append ..

theorem spacing_cons_of_not {c : Char} (h : (c == ':' || Text.isBlank c) = false) (rest : List Char) :
    spacing (c :: rest) = spacing rest := by
  rw [spacing, List.filter_cons_of_neg (by simp [h])]
  rfl

/-- The name of a picture stands between two colons, with no white space between them. -/
theorem HoldsPicture.holdsCode {text : List Char} (h : HoldsPicture text) : HoldsCode text := by
  obtain ⟨_, code, ⟨front, rfl⟩, hcode, -⟩ := h
  obtain ⟨name, rest, hname, rfl, -⟩ := codeAt?_eq_some hcode
  have hspacing : spacing name = [] := by
    rw [spacing, List.filter_eq_nil_iff]
    intro c hc
    simp [hname c hc]
  refine ⟨spacing front, spacing rest, ?_⟩
  have hcolon : ∀ after, spacing (':' :: after) = ':' :: spacing after := fun after => rfl
  rw [spacing_append, hcolon, spacing_append, hspacing, hcolon]
  simp

theorem HoldsCode.of_infix {text part : List Char} (h : HoldsCode part)
    (hpart : spacing part <:+: spacing text) : HoldsCode text :=
  List.IsInfix.trans h hpart

theorem infix_spacing {text part : List Char} (h : part <:+: text) : spacing part <:+: spacing text :=
  h.filter _

theorem prefix_spacing_cons {front text : List Char} (h : spacing front <+: spacing text) (c : Char) :
    spacing (c :: front) <+: spacing (c :: text) := by
  rw [← List.singleton_append, ← List.singleton_append (l := text), spacing_append, spacing_append]
  exact (List.prefix_append_right_inj _).2 h

/-- A tag is no plain text, and what its pieces show is in its brackets or before them. -/
theorem spacing_tagPieces (position slashes : Nat) (body : List Char) :
    ∃ piece others, tagPieces position slashes body = piece :: others ∧ ¬ piece.IsText ∧
      ∀ other ∈ piece :: others, spacing other.chars <:+: spacing body := by
  have hslashes : spacing (List.replicate (slashes / 2) '\\') <:+: spacing body := by
    rw [spacing, List.filter_replicate_of_neg (by decide)]
    exact List.nil_infix
  have hbrackets : spacing ('[' :: body ++ [']']) <:+: spacing body := by
    rw [List.cons_append, spacing_cons_of_not (by decide), spacing_append]
    show spacing body ++ [] <:+: _
    rw [List.append_nil]
  have htag : spacing [] <:+: spacing body := List.nil_infix
  rw [tagPieces]
  split <;> split
  · exact ⟨_, _, rfl, id, List.forall_mem_singleton.2 hbrackets⟩
  · exact ⟨_, _, rfl, id, List.forall_mem_singleton.2 htag⟩
  · exact ⟨_, _, rfl, id, List.forall_mem_cons.2 ⟨hslashes, List.forall_mem_singleton.2 hbrackets⟩⟩
  · exact ⟨_, _, rfl, id, List.forall_mem_cons.2 ⟨hslashes, List.forall_mem_singleton.2 htag⟩⟩

/-- The colons and the white space of a piece stand next to each other in the text, too: what is left
out between them is neither. -/
theorem spacing_piecesFrom (skip position : Nat) (text : List Char) :
    (∀ piece ∈ piecesFrom skip position text, spacing piece.chars <:+: spacing (text.drop skip)) ∧
      ∀ chars others, piecesFrom skip position text = .text chars :: others →
        spacing chars <+: spacing (text.drop skip) := by
  fun_induction piecesFrom skip position text with
  | case1 =>
    constructor
    · intro piece hpiece
      cases hpiece
    · intro chars others h
      cases h
  | case2 position skip c rest ih => exact ih
  | case3 position c rest slashes body htag ih =>
    obtain ⟨_, _, after, -, -, -, htext⟩ := tagAt?_eq_some htag
    obtain ⟨first, others, htagPieces, hfirst, hspacing⟩ := spacing_tagPieces position slashes body
    have hbody : body <:+: c :: rest :=
      ⟨List.replicate slashes '\\' ++ ['['], ']' :: after, by rw [htext]; simp⟩
    have hdrop : rest.drop (slashes + body.length + 1) <:+: c :: rest :=
      ((List.drop_suffix _ _).trans (List.suffix_cons c rest)).isInfix
    rw [List.drop_zero, htagPieces]
    constructor
    · intro piece hpiece
      rcases List.mem_append.1 hpiece with hpiece | hpiece
      · exact (hspacing piece hpiece).trans (infix_spacing hbody)
      · exact (ih.1 piece hpiece).trans (infix_spacing hdrop)
    · intro chars more h
      cases (List.cons.inj h).1
      exact absurd trivial hfirst
  | case4 position c rest htag others hescape ih =>
    rw [List.drop_zero, spacing_cons_of_not (by rw [hescape.1]; decide)]
    exact ih
  | case5 position c rest htag others hescape ih =>
    have hrest : spacing rest <:+: spacing (c :: rest) :=
      infix_spacing (List.suffix_cons c rest).isInfix
    obtain ⟨hothers, hhead⟩ := ih
    rw [List.drop_zero] at hothers hhead ⊢
    obtain ⟨chars, more, hput, hcases⟩ := putChar_eq c others
    have hchars : spacing chars <+: spacing rest := by
      rcases hcases with hpieces | ⟨rfl, -⟩
      · exact hhead chars more hpieces
      · exact List.nil_prefix
    have hmore : ∀ piece ∈ more, piece ∈ others := by
      rcases hcases with hpieces | ⟨-, hpieces⟩
      · rw [hpieces]
        exact fun piece => List.mem_cons_of_mem _
      · rw [hpieces]
        exact fun piece => id
    rw [hput]
    constructor
    · refine List.forall_mem_cons.2 ⟨(prefix_spacing_cons hchars c).isInfix, fun piece hpiece => ?_⟩
      exact (hothers piece (hmore piece hpiece)).trans hrest
    · rintro _ _ ⟨⟩
      exact prefix_spacing_cons hchars c

/-! ### What is printed -/

/-- If pieces hold no pictures, their characters are printed but for those that would move the
cursor. -/
theorem renderPieces_eq {pieces : List Piece} {opened : List Opened} {result : List Char}
    (hpictures : ∀ piece ∈ pieces, Emoji.replaced piece.chars = piece.chars)
    (h : renderPieces opened pieces = .ok result) :
    result = (pieces.flatMap Piece.chars).filter fun c => !movesCursor c := by
  induction pieces generalizing opened result with
  | nil =>
    cases h
    rfl
  | cons piece rest ih =>
    obtain ⟨hpiece, hrest⟩ := List.forall_mem_cons.1 hpictures
    have hchars : ∀ chars, piece.chars = chars →
        (renderPieces opened rest).map (shown chars ++ ·) = .ok result →
        result = ((piece :: rest).flatMap Piece.chars).filter fun c => !movesCursor c := by
      intro chars hchars h
      cases hinner : renderPieces opened rest with
      | error fault =>
        rw [hinner] at h
        cases h
      | ok others =>
        rw [hinner] at h
        cases h
        rw [List.flatMap_cons, List.filter_append, ← ih hrest hinner, shown, ← hchars, hpiece]
    cases piece with
    | text chars => exact hchars chars rfl h
    | escaped chars => exact hchars chars rfl h
    | tag body position =>
      rw [renderPieces] at h
      cases hstep : step opened body position with
      | error fault =>
        rw [hstep] at h
        cases h
      | ok next =>
        rw [hstep, ok_bind] at h
        exact ih hrest h

/-- A text without codes that is printed as it is has nothing in it that is left out. -/
theorem holds_none_of_printed {text : String} (hcode : ¬ HoldsCode text.toList)
    (h : printed text = .ok text) :
    ¬ HoldsTag text.toList ∧ ¬ HoldsEscape text.toList ∧ ¬ HoldsCursorMove text.toList := by
  have hrender : renderPieces [] (pieces text) = .ok text.toList := by
    have hrender := render_of_printed h
    rw [render] at hrender
    cases hpieces : renderPieces [] (pieces text) with
    | error fault =>
      rw [hpieces] at hrender
      cases hrender
    | ok chars =>
      rw [hpieces] at hrender
      rw [← Except.ok.inj hrender, String.toList_ofList]
  have hpictures : ∀ piece ∈ pieces text, Emoji.replaced piece.chars = piece.chars := by
    intro piece hpiece
    refine replaced_of_not_holdsPicture fun hpicture => hcode ?_
    exact hpicture.holdsCode.of_infix ((spacing_piecesFrom 0 0 text.toList).1 piece hpiece)
  have hshown := renderPieces_eq hpictures hrender
  obtain ⟨hle, huntouched⟩ := length_chars_piecesFrom 0 0 text.toList (Nat.zero_le _)
  have hfilter : text.toList.length ≤ ((pieces text).flatMap Piece.chars).length := by
    rw [hshown]
    exact List.length_filter_le _ _
  obtain ⟨htag, hescape⟩ := untouched_iff.1 (huntouched rfl (Nat.le_antisymm hle hfilter))
  refine ⟨htag, hescape, ?_⟩
  rintro ⟨c, hc, hmoves⟩
  rw [hshown] at hc
  simpa [hmoves] using (List.mem_filter.1 hc).2

theorem piecesFrom_of_untouched {text : List Char} (h : Untouched text) (position : Nat) :
    piecesFrom 0 position text = if text = [] then [] else [.text text] := by
  induction text generalizing position with
  | nil => rfl
  | cons c rest ih =>
    obtain ⟨htag, hescape, hrest⟩ := h
    rw [piecesFrom, htag]
    dsimp only
    rw [if_neg hescape, ih hrest]
    cases rest <;> rfl

/-- A text with nothing in it that would be changed is printed as it is. -/
theorem printed_eq_self {text : String} (htag : ¬ HoldsTag text.toList)
    (hescape : ¬ HoldsEscape text.toList) (hpicture : ¬ HoldsPicture text.toList)
    (hcursor : ¬ HoldsCursorMove text.toList) : printed text = .ok text := by
  have hshown : shown text.toList = text.toList := by
    rw [shown, replaced_of_not_holdsPicture hpicture, List.filter_eq_self]
    intro c hc
    cases hmoves : movesCursor c with
    | false => rfl
    | true => exact absurd ⟨c, hc, hmoves⟩ hcursor
  have hpieces := piecesFrom_of_untouched (untouched_iff.2 ⟨htag, hescape⟩) 0
  have hrender : renderPieces [] (pieces text) = .ok text.toList := by
    rw [pieces, hpieces]
    split
    · rename_i hempty
      rw [hempty]
      rfl
    · rw [renderPieces, hshown, renderPieces, Except.map, List.append_nil]
  have hcheck : checkPieces (pieces text) = .ok () := by
    rw [pieces, hpieces]
    split <;> rfl
  rw [printed, render, hrender, checkStyles, hcheck, Except.map, String.ofList_toList]
  rfl

/-! ### Texts that can be put together -/

/-- Whether a character can stand before another one, or at the end, and be printed as it is: a colon
needs white space behind it, and an opening bracket a character that starts no tag. -/
def stands (c : Char) (next? : Option Char) : Bool :=
  c != '\\' && !movesCursor c && (c != '[' || next?.any fun next => !startsTag next) &&
    (c != ':' || next?.any Text.isBlank)

/-- Whether each character of a text can stand where it does, whatever follows the text. -/
def isSettled : List Char → Bool
  | [] => true
  | c :: rest => stands c rest.head? && isSettled rest

theorem stands_of_none {c : Char} (h : stands c none = true) (next? : Option Char) :
    stands c next? = true := by
  simp only [stands, Option.any_none, Bool.or_false, Bool.and_eq_true] at h ⊢
  obtain ⟨⟨⟨hslash, hcursor⟩, hbracket⟩, hcolon⟩ := h
  exact ⟨⟨⟨hslash, hcursor⟩, by rw [hbracket]; rfl⟩, by rw [hcolon]; rfl⟩

theorem isSettled_append {front rest : List Char} (hfront : isSettled front = true)
    (hrest : isSettled rest = true) : isSettled (front ++ rest) = true := by
  induction front with
  | nil => exact hrest
  | cons c front ih =>
    rw [isSettled, Bool.and_eq_true] at hfront
    rw [List.cons_append, isSettled, Bool.and_eq_true]
    refine ⟨?_, ih hfront.2⟩
    cases front with
    | nil => exact stands_of_none hfront.1 _
    | cons d front => exact hfront.1

theorem isSettled_of_suffix {text rest : List Char} (h : rest <:+ text)
    (htext : isSettled text = true) : isSettled rest = true := by
  obtain ⟨front, rfl⟩ := h
  induction front with
  | nil => exact htext
  | cons c front ih =>
    rw [List.cons_append, isSettled, Bool.and_eq_true] at htext
    exact ih htext.2

theorem untouched_of_isSettled {text : List Char} (h : isSettled text = true) : Untouched text := by
  induction text with
  | nil => trivial
  | cons c rest ih =>
    rw [isSettled, Bool.and_eq_true] at h
    obtain ⟨hstands, hrest⟩ := h
    simp only [stands, Bool.and_eq_true, bne_iff_ne, ne_eq] at hstands
    obtain ⟨⟨⟨hslash, -⟩, hbracket⟩, -⟩ := hstands
    refine ⟨?_, fun hescape => hslash hescape.1, ih hrest⟩
    cases htag : tagAt? (c :: rest) with
    | none => rfl
    | some found =>
      obtain ⟨first, inner, after, hbody, hstart, -, htext⟩ := tagAt?_eq_some htag
      -- no backslash is in front, so that the tag starts with the first character
      have hnone : found.1 = 0 := by
        cases hslashes : found.1 with
        | zero => rfl
        | succ n =>
          rw [hslashes, List.replicate_succ, List.cons_append] at htext
          exact absurd (List.cons.inj htext).1 hslash
      rw [hnone, hbody] at htext
      obtain ⟨rfl, rfl⟩ := List.cons.inj htext
      simp [hstart] at hbracket

theorem not_holdsPicture_of_isSettled {text : List Char} (h : isSettled text = true) :
    ¬ HoldsPicture text := by
  rintro ⟨rest, code, hrest, hcode, -⟩
  obtain ⟨name, after, hname, rfl, -⟩ := codeAt?_eq_some hcode
  have hstands := isSettled_of_suffix hrest h
  rw [isSettled, Bool.and_eq_true] at hstands
  cases name with
  | nil =>
    have hcolon : stands ':' (some ':') = true := hstands.1
    exact absurd hcolon (by decide)
  | cons c name => simp [stands, (hname c List.mem_cons_self).2] at hstands

theorem not_holdsCursorMove_of_isSettled {text : List Char} (h : isSettled text = true) :
    ¬ HoldsCursorMove text := by
  rintro ⟨c, hc, hmoves⟩
  obtain ⟨front, rest, rfl⟩ := List.append_of_mem hc
  have hstands := isSettled_of_suffix (List.suffix_append front (c :: rest)) h
  rw [isSettled, Bool.and_eq_true] at hstands
  simp [stands, hmoves] at hstands

/-- A text is settled. -/
def Settles (text : String) : Prop := isSettled text.toList = true

instance (text : String) : Decidable (Settles text) :=
  inferInstanceAs (Decidable (isSettled text.toList = true))

namespace Settles

/-- A settled text is printed as it is. -/
theorem printed {text : String} (h : Settles text) : Markup.printed text = .ok text := by
  obtain ⟨htag, hescape⟩ := untouched_iff.1 (untouched_of_isSettled h)
  exact printed_eq_self htag hescape (not_holdsPicture_of_isSettled h)
    (not_holdsCursorMove_of_isSettled h)

theorem append {front rest : String} (hfront : Settles front) (hrest : Settles rest) :
    Settles (front ++ rest) := by
  rw [Settles, String.toList_append]
  exact isSettled_append hfront hrest

theorem intercalate {separator : String} (hseparator : Settles separator) {texts : List String}
    (h : ∀ text ∈ texts, Settles text) : Settles (separator.intercalate texts) := by
  induction texts with
  | nil => rfl
  | cons text rest ih =>
    obtain ⟨htext, hrest⟩ := List.forall_mem_cons.1 h
    cases rest with
    | nil => rwa [String.intercalate_singleton]
    | cons next others =>
      rw [String.intercalate_cons_cons]
      exact (htext.append hseparator).append (ih hrest)

/-- In brackets, a settled text that starts no tag is settled. -/
theorem inBrackets {text : String} (h : Settles text)
    (hstart : text.toList.head?.any startsTag = false) : Settles ("[" ++ text ++ "]") := by
  have hinner : isSettled (text.toList ++ [']']) = true := isSettled_append h (by decide)
  have hnext : (text.toList ++ [']']).head?.any (fun next => !startsTag next) = true := by
    cases htext : text.toList with
    | nil => rfl
    | cons c rest =>
      rw [htext] at hstart
      simpa using hstart
  rw [Settles, String.toList_append, String.toList_append, List.append_assoc]
  show (stands '[' (text.toList ++ [']']).head? && isSettled (text.toList ++ [']'])) = true
  rw [hinner, stands, hnext]
  rfl

end Settles

/-- A text has no character in it that markup gives a meaning to. -/
def IsPlain (text : String) : Prop :=
  ∀ c ∈ text.toList, c ≠ '[' ∧ c ≠ '\\' ∧ c ≠ ':' ∧ movesCursor c = false

instance (text : String) : Decidable (IsPlain text) := List.decidableBAll _ text.toList

theorem IsPlain.of_subset {text other : String} (h : IsPlain text)
    (hother : other.toList ⊆ text.toList) : IsPlain other := fun c hc => h c (hother hc)

theorem IsPlain.settles {text : String} (h : IsPlain text) : Settles text := by
  rw [IsPlain] at h
  rw [Settles]
  generalize text.toList = chars at h ⊢
  induction chars with
  | nil => rfl
  | cons c rest ih =>
    obtain ⟨⟨hbracket, hslash, hcolon, hcursor⟩, hrest⟩ := List.forall_mem_cons.1 h
    rw [isSettled, ih hrest]
    simp [stands, hbracket, hslash, hcolon, hcursor]

end Markup

end ComponentSurvey
