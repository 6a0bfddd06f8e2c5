import ComponentSurvey.Console.Markup
import Mathlib.Data.List.Basic
import Mathlib.Data.List.TakeWhile

/-!
# Markup that can be printed

A text with markup can be printed unless its tags do not match or a style or handler in them cannot
be read. A text without brackets has no tags. Text in a style, between its opening and its closing
tag, is printed as it is, with what can be printed behind it.

* `Markup.Prints` — the texts that can be printed.
* `Markup.prints_of_not_mem` — a text without brackets can be printed.
* `Markup.IsStyle`, `Markup.styled` — words that name a style, and text in a style.
* `Markup.prints_of_styled`, `Markup.isPrefix_of_printed` — text in a style can be printed, and
  stands in front of what follows it.
* `Markup.isStyle_of_mem_lineStyles` — the styles of the lines around a report.
-/

namespace ComponentSurvey

namespace Markup

/-- Whether a text can be printed: its tags match, and their styles and handlers can be read. -/
def Prints (text : String) : Prop := ∃ shown, printed text = .ok shown

/-- Whether a piece is plain text. -/
def Piece.IsText : Piece → Prop
  | .text _ => True
  | .escaped _ => False
  | .tag _ _ => False

theorem prints_iff {text : String} :
    Prints text ↔ (∃ shown, render text = .ok shown) ∧ checkStyles text = .ok () := by
  rw [Prints, printed]
  cases render text with
  | error fault => simp [bind, Except.bind]
  | ok shown => cases h : checkStyles text <;> simp [bind, Except.bind, pure, Except.pure]

/-- What is printed of a text is the text without its tags. -/
theorem render_of_printed {text result : String} (h : printed text = .ok result) :
    render text = .ok result := by
  rw [printed] at h
  cases hrender : render text with
  | error fault =>
    rw [hrender] at h
    cases h
  | ok shown =>
    cases hcheck : checkStyles text with
    | error fault =>
      rw [hrender, hcheck] at h
      cases h
    | ok done =>
      rw [hrender, hcheck] at h
      exact h

/-- No tag starts in a text without an opening bracket. -/
theorem tagAt?_of_not_mem {text : List Char} (h : '[' ∉ text) : tagAt? text = none := by
  rw [tagAt?]
  split
  · rename_i rest hrest
    have hmem : '[' ∈ text.drop (text.takeWhile (· == '\\')).length := by
      rw [hrest]
      exact List.mem_cons_self
    exact absurd (List.mem_of_mem_drop hmem) h
  · rfl

theorem isText_putChar {c : Char} {pieces : List Piece} (h : ∀ piece ∈ pieces, piece.IsText) :
    ∀ piece ∈ putChar c pieces, piece.IsText := by
  intro piece hpiece
  rw [putChar.eq_def] at hpiece
  split at hpiece
  · rcases List.mem_cons.1 hpiece with rfl | hpiece
    · trivial
    · exact h piece (List.mem_cons_of_mem _ hpiece)
  · rcases List.mem_cons.1 hpiece with rfl | hpiece
    · trivial
    · exact h piece hpiece

/-- A text without an opening bracket is plain text. -/
theorem isText_piecesFrom {text : List Char} (h : '[' ∉ text) (position : Nat) :
    ∀ piece ∈ piecesFrom 0 position text, piece.IsText := by
  induction text generalizing position with
  | nil =>
    intro piece hpiece
    cases hpiece
  | cons c rest ih =>
    have hrest : '[' ∉ rest := fun hmem => h (List.mem_cons_of_mem _ hmem)
    rw [piecesFrom, tagAt?_of_not_mem h]
    dsimp only
    split
    · exact ih hrest _
    · exact isText_putChar (ih hrest _)

theorem renderPieces_of_isText {pieces : List Piece} (h : ∀ piece ∈ pieces, piece.IsText)
    (opened : List Opened) : ∃ chars, renderPieces opened pieces = .ok chars := by
  induction pieces with
  | nil => exact ⟨[], rfl⟩
  | cons piece rest ih =>
    obtain ⟨chars, hchars⟩ := ih fun other hother => h other (List.mem_cons_of_mem _ hother)
    cases piece with
    | text plain => exact ⟨shown plain ++ chars, by rw [renderPieces, hchars]; rfl⟩
    | escaped plain => exact (h _ List.mem_cons_self).elim
    | tag body position => exact (h _ List.mem_cons_self).elim

theorem checkPieces_of_isText {pieces : List Piece} (h : ∀ piece ∈ pieces, piece.IsText) :
    checkPieces pieces = .ok () := by
  induction pieces with
  | nil => rfl
  | cons piece rest ih =>
    cases piece with
    | text plain =>
      rw [checkPieces]
      exact ih fun other hother => h other (List.mem_cons_of_mem _ hother)
    | escaped plain => exact (h _ List.mem_cons_self).elim
    | tag body position => exact (h _ List.mem_cons_self).elim

/-- A text without an opening bracket can be printed. -/
theorem prints_of_not_mem {text : String} (h : '[' ∉ text.toList) : Prints text := by
  have htext : ∀ piece ∈ pieces text, piece.IsText := isText_piecesFrom h 0
  obtain ⟨chars, hchars⟩ := renderPieces_of_isText htext []
  refine prints_iff.2 ⟨⟨String.ofList chars, ?_⟩, checkPieces_of_isText htext⟩
  rw [render, hchars]
  rfl

/-! ### Text in a style -/

/-- A word of small letters that names a style by itself. -/
structure IsStyle (style : String) : Prop where
  nonempty : style.toList ≠ []
  letters : ∀ c ∈ style.toList, 0x61 ≤ c.toNat ∧ c.toNat ≤ 0x7A
  normal : Style.normalForm style = .ok style

/-- Text in a style, and text behind it. -/
def styled (style : String) (body tail : List Char) : List Char :=
  '[' :: (style.toList ++ ']' :: (body ++ '[' :: ('/' :: style.toList ++ ']' :: tail)))

theorem piecesFrom_length (used rest : List Char) (position : Nat) :
    piecesFrom used.length position (used ++ rest)
      = piecesFrom 0 (position + used.length) rest := by
  induction used generalizing position with
  | nil => rfl
  | cons c others ih =>
    rw [List.length_cons, List.cons_append, piecesFrom, ih]
    congr 1
    omega

theorem tagAt?_tag {c : Char} {body : List Char} (hstart : startsTag c = true)
    (hbody : ∀ d ∈ body, d ≠ '[' ∧ d ≠ ']') (rest : List Char) :
    tagAt? ('[' :: (c :: body ++ ']' :: rest)) = some (0, c :: body) := by
  have hinside : (body ++ ']' :: rest).takeWhile (fun d => d != '[' && d != ']') = body := by
    rw [List.takeWhile_append_of_pos (by simpa using hbody)]
    simp
  rw [tagAt?, List.takeWhile_cons_of_neg (by decide)]
  show (tagBody? (c :: (body ++ ']' :: rest))).map _ = _
  rw [tagBody?, if_pos hstart]
  dsimp only
  rw [hinside, List.drop_left]
  rfl

/-- A tag is a piece by itself. -/
theorem piecesFrom_tag {c : Char} {body : List Char} (hstart : startsTag c = true)
    (hbody : ∀ d ∈ body, d ≠ '[' ∧ d ≠ ']') (rest : List Char) (position : Nat) :
    ∃ next, piecesFrom 0 position ('[' :: (c :: body ++ ']' :: rest))
      = .tag (c :: body) position :: piecesFrom 0 next rest := by
  have hused := piecesFrom_length (c :: body ++ [']']) rest (position + 1)
  rw [List.append_assoc, List.singleton_append, List.length_append,
    List.length_singleton] at hused
  rw [piecesFrom, tagAt?_tag hstart hbody]
  dsimp only
  rw [Nat.zero_add, hused]
  exact ⟨_, rfl⟩

/-- Characters that start no tag are put in front of the pieces that follow. -/
theorem piecesFrom_plain {body : List Char} (hbody : ∀ c ∈ body, c ≠ '[' ∧ c ≠ '\\')
    (rest : List Char) (position : Nat) :
    piecesFrom 0 position (body ++ rest)
      = body.foldr putChar (piecesFrom 0 (position + body.length) rest) := by
  induction body generalizing position with
  | nil => rfl
  | cons c others ih =>
    rw [List.forall_mem_cons] at hbody
    have htag : tagAt? (c :: (others ++ rest)) = none := by
      rw [tagAt?, List.takeWhile_cons_of_neg (by simpa using hbody.1.2)]
      dsimp only [List.length_nil, List.drop_zero]
      split
      · rename_i heq
        exact absurd (List.cons.inj heq).1 hbody.1.1
      · rfl
    rw [List.cons_append, piecesFrom, htag]
    dsimp only
    rw [if_neg (fun h => hbody.1.2 h.1), ih hbody.2, List.foldr_cons, List.length_cons,
      Nat.add_assoc, Nat.add_comm 1]

theorem foldr_putChar_tag {body : List Char} (hbody : body ≠ []) (name : List Char) (position : Nat)
    (rest : List Piece) :
    body.foldr putChar (.tag name position :: rest) = .text body :: .tag name position :: rest := by
  induction body with
  | nil => exact absurd rfl hbody
  | cons c others ih =>
    cases others with
    | nil => rfl
    | cons d more =>
      rw [List.foldr_cons, ih (List.cons_ne_nil d more)]
      rfl

section Styled

variable {style : String}

theorem IsStyle.ne_of_mem (h : IsStyle style) {c : Char} (hc : c ∈ style.toList) :
    c ≠ '[' ∧ c ≠ ']' ∧ c ≠ '=' := by
  have hletter := (h.letters c hc).1
  refine ⟨?_, ?_, ?_⟩ <;> · rintro rfl; exact absurd hletter (by decide)

/-- The pieces of text in a style. -/
theorem pieces_styled (h : IsStyle style) {body : List Char} (hne : body ≠ [])
    (hbody : ∀ c ∈ body, c ≠ '[' ∧ c ≠ '\\') (tail : List Char) :
    ∃ closing next, piecesFrom 0 0 (styled style body tail)
      = .tag style.toList 0 :: .text body :: .tag ('/' :: style.toList) closing ::
        piecesFrom 0 next tail := by
  have hbrackets : ∀ c ∈ style.toList, c ≠ '[' ∧ c ≠ ']' := fun c hc =>
    ⟨(h.ne_of_mem hc).1, (h.ne_of_mem hc).2.1⟩
  obtain ⟨c, others, hstyle⟩ := List.exists_cons_of_ne_nil h.nonempty
  have hstart : startsTag c = true := by
    obtain ⟨hlow, hhigh⟩ := h.letters c (hstyle ▸ List.mem_cons_self)
    have hletter : 'a' ≤ c ∧ c ≤ 'z' := by
      rw [Char.le_def, Char.le_def, UInt32.le_iff_toNat_le, UInt32.le_iff_toNat_le]
      exact ⟨hlow, hhigh⟩
    simp [startsTag, hletter]
  have hothers : ∀ d ∈ others, d ≠ '[' ∧ d ≠ ']' := fun d hd =>
    hbrackets d (hstyle ▸ List.mem_cons_of_mem c hd)
  obtain ⟨inside, hopen⟩ := piecesFrom_tag hstart hothers
    (body ++ '[' :: ('/' :: style.toList ++ ']' :: tail)) 0
  obtain ⟨next, hclose⟩ := piecesFrom_tag (c := '/') rfl hbrackets tail (inside + body.length)
  refine ⟨inside + body.length, next, ?_⟩
  have htext : styled style body tail = '[' :: (c :: others ++ ']' ::
      (body ++ '[' :: ('/' :: style.toList ++ ']' :: tail))) := by
    rw [← hstyle]
    rfl
  rw [htext, hopen, piecesFrom_plain hbody, hclose, foldr_putChar_tag hne, ← hstyle]

theorem ok_bind {ε α β : Type} (a : α) (f : α → Except ε β) : (Except.ok a >>= f) = f a := rfl

theorem nameOf_of_forall {body : List Char} (h : ∀ c ∈ body, c ≠ '=') : nameOf body = body := by
  rw [nameOf, List.takeWhile_eq_self_iff]
  simpa using h

theorem parametersOf?_of_forall {body : List Char} (h : ∀ c ∈ body, c ≠ '=') :
    parametersOf? body = none := by
  rw [parametersOf?, nameOf_of_forall h, List.drop_length]

theorem IsStyle.opening (h : IsStyle style) : opening style.toList = .ok ⟨style, none⟩ := by
  have hname : ∀ c ∈ style.toList, c ≠ '=' := fun c hc => (h.ne_of_mem hc).2.2
  rw [Markup.opening, nameOf_of_forall hname, parametersOf?_of_forall hname, styleOf,
    String.ofList_toList, h.normal]
  rfl

theorem IsStyle.not_isHandler (h : IsStyle style) (parameters? : Option String) :
    (Opened.mk style parameters?).isHandler = false := by
  rw [Opened.isHandler, ← Bool.not_eq_true, Text.startsWith_iff]
  rintro ⟨rest, hrest⟩
  have hletter := h.letters '@' (hrest ▸ List.mem_cons_self)
  exact absurd hletter.1 (by decide)

theorem IsStyle.checkStyle (h : IsStyle style) : (Opened.mk style none).checkStyle = .ok () := by
  rw [Opened.checkStyle, h.not_isHandler]
  show ((Style.normalForm style).mapError _).map _ = _
  rw [h.normal]
  rfl

theorem IsStyle.not_isBlank (h : IsStyle style) {c : Char} (hc : c ∈ style.toList) :
    Text.isBlank c = false := by
  obtain ⟨hlow, hhigh⟩ := h.letters c hc
  simp [Text.isBlank]
  omega

theorem dropWhile_of_forall {chars : List Char} {p : Char → Bool} (h : ∀ c ∈ chars, p c = false) :
    chars.dropWhile p = chars := by
  cases chars with
  | nil => rfl
  | cons c rest => rw [List.dropWhile_cons_of_neg (by simp [h c List.mem_cons_self])]

theorem IsStyle.trimmed (h : IsStyle style) : Text.trimmed style = style := by
  rw [Text.trimmed, dropWhile_of_forall fun c hc => h.not_isBlank hc,
    dropWhile_of_forall fun c hc => h.not_isBlank (List.mem_reverse.1 hc), List.reverse_reverse,
    String.ofList_toList]

/-- A style that is opened and closed leaves the open tags as they were. -/
theorem IsStyle.step_open (h : IsStyle style) (opened : List Opened) (position : Nat) :
    step opened style.toList position = .ok (⟨style, none⟩ :: opened) := by
  have hname : nameOf style.toList = style.toList :=
    nameOf_of_forall fun c hc => (h.ne_of_mem hc).2.2
  rw [step, hname]
  split
  · rename_i name heq
    have hletter := h.letters '/' (heq ▸ List.mem_cons_self)
    exact absurd hletter.1 (by decide)
  · rw [h.opening]
    rfl

theorem IsStyle.step_close (h : IsStyle style) (opened : List Opened) (position : Nat) :
    step (⟨style, none⟩ :: opened) ('/' :: style.toList) position = .ok opened := by
  have hname : nameOf ('/' :: style.toList) = '/' :: style.toList := by
    refine nameOf_of_forall (List.forall_mem_cons.2 ⟨by decide, fun c hc => (h.ne_of_mem hc).2.2⟩)
  have hclose : close (⟨style, none⟩ :: opened) ('/' :: style.toList) style.toList position
      = .ok (⟨style, none⟩, opened) := by
    have hempty : style.isEmpty = false := by
      rw [← Bool.not_eq_true, String.isEmpty_iff]
      rintro rfl
      exact h.nonempty rfl
    have htake : takeStyle style (⟨style, none⟩ :: opened) = some (⟨style, none⟩, opened) :=
      if_pos rfl
    rw [close, String.ofList_toList, h.trimmed, hempty, if_neg Bool.false_ne_true, styleOf,
      String.ofList_toList, h.normal, Except.mapError, ok_bind, htake]
    rfl
  rw [step, hname]
  show (close (⟨style, none⟩ :: opened) ('/' :: style.toList) style.toList position >>= fun found =>
    found.1.checkHandler >>= fun _ => pure found.2) = _
  rw [hclose, ok_bind, Opened.checkHandler, h.not_isHandler]
  rfl

/-- Text in a style is printed with what follows it. -/
theorem renderPieces_styled (h : IsStyle style) (body : List Char) (closing : Nat)
    (rest : List Piece) :
    renderPieces [] (.tag style.toList 0 :: .text body :: .tag ('/' :: style.toList) closing :: rest)
      = (renderPieces [] rest).map (shown body ++ ·) := by
  rw [renderPieces, h.step_open, ok_bind, renderPieces, renderPieces, h.step_close, ok_bind]

theorem checkPieces_styled (h : IsStyle style) (body : List Char) (closing : Nat)
    (rest : List Piece) :
    checkPieces (.tag style.toList 0 :: .text body :: .tag ('/' :: style.toList) closing :: rest)
      = checkPieces rest := by
  have hstart : ¬ style.toList.head? = some '/' := by
    intro hhead
    have hletter := h.letters '/' (List.mem_of_mem_head? hhead)
    exact absurd hletter.1 (by decide)
  rw [checkPieces, if_neg hstart, h.opening, ok_bind, h.checkStyle, ok_bind, checkPieces,
    checkPieces]
  exact if_pos rfl

variable {body tail : List Char} {text : String}

/-- What is printed of a text that starts with text in a style starts with that text. -/
theorem isPrefix_of_printed (h : IsStyle style) (hne : body ≠ [])
    (hbody : ∀ c ∈ body, c ≠ '[' ∧ c ≠ '\\') (htext : text.toList = styled style body tail)
    {result : String} (hprinted : printed text = .ok result) : shown body <+: result.toList := by
  obtain ⟨closing, next, hpieces⟩ := pieces_styled h hne hbody tail
  have hrender := render_of_printed hprinted
  rw [render, pieces, htext, hpieces, renderPieces_styled h] at hrender
  cases hrest : renderPieces [] (piecesFrom 0 next tail) with
  | error fault =>
    rw [hrest] at hrender
    cases hrender
  | ok chars =>
    rw [hrest] at hrender
    cases hrender
    exact ⟨chars, String.toList_ofList.symm⟩

/-- Text in a style can be printed if no other tags follow it. -/
theorem prints_of_styled (h : IsStyle style) (hne : body ≠ [])
    (hbody : ∀ c ∈ body, c ≠ '[' ∧ c ≠ '\\') (htail : '[' ∉ tail)
    (htext : text.toList = styled style body tail) : Prints text := by
  obtain ⟨closing, next, hpieces⟩ := pieces_styled h hne hbody tail
  have hrest := isText_piecesFrom htail next
  obtain ⟨chars, hchars⟩ := renderPieces_of_isText hrest []
  refine prints_iff.2 ⟨⟨String.ofList (shown body ++ chars), ?_⟩, ?_⟩
  · rw [render, pieces, htext, hpieces, renderPieces_styled h, hchars]
    rfl
  · rw [checkStyles, pieces, htext, hpieces, checkPieces_styled h]
    exact checkPieces_of_isText hrest

end Styled

/-- A word that is no emphasis and gives no shares of colours is its own normal form, whether it
names a colour or not. -/
theorem normalForm_of_color {word : String} (hreserved : word ∉ ["none", "on", "not", "link"])
    (hwords : Text.words word = [word]) (hlower : Text.lowercase word = word)
    (htrimmed : Text.trimmed word = word) (hemphasis : Emphasis.ofName? word = none)
    (hshare : isShareColor word = .ok false) : Style.normalForm word = .ok word := by
  simp only [List.mem_cons, List.not_mem_nil, or_false, not_or] at hreserved
  obtain ⟨hnone, hon, hnot, hlink⟩ := hreserved
  have hcolor : colorOf word = .ok word ∨ colorOf word = .error .unknownWord := by
    rw [colorOf, hlower, hshare]
    split
    · exact .inl rfl
    · exact .inr rfl
  have htext : Style.ofText word
      = (colorOf word).bind fun color => .ok ⟨[], some color, none, none⟩ := by
    rw [Style.ofText, htrimmed, if_neg (by simpa using hnone), hwords, Style.addWords.eq_def]
    dsimp only
    rw [hlower]
    split
    · exact absurd rfl hon
    · exact absurd rfl hnot
    · exact absurd rfl hlink
    · exact absurd rfl hon
    · exact absurd rfl hnot
    · exact absurd rfl hlink
    · rw [hemphasis]
      rfl
  rw [Style.normalForm, htext]
  rcases hcolor with hcolor | hcolor
  · rw [hcolor]
    show Except.ok (Style.text ⟨[], some word, none, none⟩) = _
    simp [Style.text]
  · rw [hcolor]
    show Except.ok (Text.lowercase (Text.trimmed word)) = _
    rw [htrimmed, hlower]

/-- The styles of the lines around a report. -/
def lineStyles : List String := ["red", "yellow", "cyan", "dim"]

theorem isStyle_of_mem_lineStyles : ∀ style ∈ lineStyles, IsStyle style := by
  have hlower : ∀ style ∈ ["red", "yellow", "cyan"], Text.lowercase style = style := by
    decide +kernel
  have hcolors : ∀ style ∈ ["red", "yellow", "cyan"], Style.normalForm style = .ok style := by
    intro style hstyle
    refine normalForm_of_color ?_ ?_ (hlower style hstyle) ?_ ?_ ?_ <;> revert style <;> decide
  have hnormal : ∀ style ∈ lineStyles, Style.normalForm style = .ok style := by
    rw [show lineStyles = ["red", "yellow", "cyan"] ++ ["dim"] from rfl, List.forall_mem_append]
    exact ⟨hcolors, List.forall_mem_singleton.2 rfl⟩
  exact fun style hstyle => ⟨by revert style; decide, by revert style; simp [lineStyles],
    hnormal style hstyle⟩

end Markup

end ComponentSurvey
