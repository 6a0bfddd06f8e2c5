/-!
# Lines and other parts of a text

* `Text.split` — the parts that a character divides others into.
* `Text.unifiedBreaks` — a text in which every line break is a line feed.
* `Text.not_mem_of_mem_split` — no part holds the mark.
* `Text.split_intercalate` — parts without the mark are found again.
-/

namespace ComponentSurvey

namespace Text

/-- The parts that a character divides others into; there is always at least one. -/
def split (mark : Char) : List Char → List (List Char)
  | [] => [[]]
  | c :: rest =>
    if c = mark then [] :: split mark rest
    else
      match split mark rest with
      | first :: others => (c :: first) :: others
      | [] => [[c]]

theorem split_ne_nil (mark : Char) (text : List Char) : split mark text ≠ [] := by
  cases text with
  | nil => simp [split]
  | cons c rest =>
    rw [split]
    split
    · simp
    · split <;> simp

/-- No part holds the mark. -/
theorem not_mem_of_mem_split {mark : Char} {text part : List Char} (h : part ∈ split mark text) :
    mark ∉ part := by
  induction text generalizing part with
  | nil => simp_all [split]
  | cons c rest ih =>
    rw [split] at h
    split at h
    · rcases List.mem_cons.1 h with rfl | h
      · simp
      · exact ih h
    · rename_i hc
      split at h
      · rename_i first others hs
        rcases List.mem_cons.1 h with rfl | h
        · have := ih (hs ▸ List.mem_cons_self)
          simp [Ne.symm hc, this]
        · exact ih (hs ▸ List.mem_cons_of_mem _ h)
      · rename_i hs
        exact absurd hs (split_ne_nil mark rest)

/-- Parts that do not hold the mark are what their text is divided into. -/
theorem split_intercalate {mark : Char} {parts : List (List Char)} (hne : parts ≠ [])
    (h : ∀ part ∈ parts, mark ∉ part) : split mark ([mark].intercalate parts) = parts := by
  have hpart : ∀ part : List Char, mark ∉ part → ∀ rest : List Char,
      split mark (part ++ mark :: rest) = part :: split mark rest := by
    intro part
    induction part with
    | nil => intro _ rest; simp [split]
    | cons c part ih =>
      intro hmem rest
      rw [List.mem_cons, not_or] at hmem
      rw [List.cons_append, split, if_neg (Ne.symm hmem.1), ih hmem.2]
  have hlast : ∀ part : List Char, mark ∉ part → split mark part = [part] := by
    intro part
    induction part with
    | nil => intro _; rfl
    | cons c part ih =>
      intro hmem
      rw [List.mem_cons, not_or] at hmem
      rw [split, if_neg (Ne.symm hmem.1), ih hmem.2]
  induction parts with
  | nil => exact absurd rfl hne
  | cons first rest ih =>
    have hfirst := h first List.mem_cons_self
    cases rest with
    | nil => simpa using hlast first hfirst
    | cons second others =>
      rw [List.intercalate_cons_cons, List.append_assoc, List.singleton_append, hpart first hfirst,
        ih (by simp) fun part hmem => h part (List.mem_cons_of_mem _ hmem)]

/-- Every carriage return, with the line feed after it if there is one, becomes a line feed. -/
def unifyBreaks : List Char → List Char
  | [] => []
  | '\r' :: '\n' :: rest => '\n' :: unifyBreaks rest
  | '\r' :: rest => '\n' :: unifyBreaks rest
  | c :: rest => c :: unifyBreaks rest

/-- A text in which every line break is a line feed. -/
def unifiedBreaks (text : String) : String := String.ofList (unifyBreaks text.toList)

end Text

end ComponentSurvey
