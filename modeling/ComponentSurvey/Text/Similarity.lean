/-!
# Similar texts

Two texts are similar if most of their characters are in common: the longest block that both hold is
set aside, and what stands before it and behind it is compared in the same way.

* `Text.sharedStart` — how far two texts agree from their starts on.
* `Text.longestBlock` — the longest block that two texts share.
* `Text.shared` — how many characters two texts have in common.
* `Text.Likeness`, `Text.similarTo` — the texts that are meant, perhaps, by a misspelt one.
-/

namespace ComponentSurvey

namespace Text

/-- How many characters two texts agree in from their starts on. -/
def sharedStart : List Char → List Char → Nat
  | c :: left, d :: right => if c = d then sharedStart left right + 1 else 0
  | _, _ => 0

theorem sharedStart_le_left (left right : List Char) : sharedStart left right ≤ left.length := by
  fun_induction sharedStart left right <;> simp_all

theorem sharedStart_le_right (left right : List Char) : sharedStart left right ≤ right.length := by
  fun_induction sharedStart left right <;> simp_all

/-- A block that two texts share: where it starts in each of them, and its length. -/
structure Block where
  left : Nat
  right : Nat
  size : Nat
deriving DecidableEq, Repr

/-- The longer of two blocks, or the first one. -/
def Block.longer (first second : Block) : Block := if first.size < second.size then second else first

/-- The longest block that starts at the start of the left text; of several, the first one in the
right text, which begins at position `j`. -/
def blockAtStart (i j : Nat) (left : List Char) : List Char → Block
  | [] => ⟨i, j, 0⟩
  | d :: right =>
    Block.longer ⟨i, j, sharedStart left (d :: right)⟩ (blockAtStart i (j + 1) left right)

/-- The longest block that two texts share, where the left one begins at position `i`; of several,
the first one in the left text. -/
def longestBlockFrom (i : Nat) (right : List Char) : List Char → Block
  | [] => ⟨i, 0, 0⟩
  | c :: left =>
    Block.longer (blockAtStart i 0 (c :: left) right) (longestBlockFrom (i + 1) right left)

/-- The longest block that two texts share: the first one in the left text, then in the right one. -/
def longestBlock (left right : List Char) : Block := longestBlockFrom 0 right left

theorem blockAtStart_bounds (i j : Nat) (left right : List Char) :
    (blockAtStart i j left right).left = i ∧
      (blockAtStart i j left right).size ≤ left.length ∧
      (blockAtStart i j left right).right + (blockAtStart i j left right).size
        ≤ j + right.length := by
  induction right generalizing j with
  | nil => simp [blockAtStart]
  | cons d right ih =>
    have hl := sharedStart_le_left left (d :: right)
    have hr := sharedStart_le_right left (d :: right)
    obtain ⟨hi, hs, hb⟩ := ih (j + 1)
    simp only [List.length_cons] at *
    rw [blockAtStart, Block.longer]
    split
    · exact ⟨hi, hs, by omega⟩
    · exact ⟨rfl, hl, by simp only; omega⟩

theorem longestBlockFrom_bounds (i : Nat) (right left : List Char) :
    (longestBlockFrom i right left).left + (longestBlockFrom i right left).size
        ≤ i + left.length ∧
      (longestBlockFrom i right left).right + (longestBlockFrom i right left).size
        ≤ right.length := by
  induction left generalizing i with
  | nil => simp [longestBlockFrom]
  | cons c left ih =>
    have hb := blockAtStart_bounds i 0 (c :: left) right
    have := ih (i + 1)
    simp only [List.length_cons] at *
    rw [longestBlockFrom, Block.longer]
    split <;> omega

/-- A shared block lies within both texts. -/
theorem longestBlock_bounds (left right : List Char) :
    (longestBlock left right).left + (longestBlock left right).size ≤ left.length ∧
      (longestBlock left right).right + (longestBlock left right).size ≤ right.length := by
  simpa [longestBlock] using longestBlockFrom_bounds 0 right left

/-- How many characters two texts have in common, in the same order. -/
def shared (left right : List Char) : Nat :=
  let block := longestBlock left right
  if block.size = 0 then 0
  else
    shared (left.take block.left) (right.take block.right) + block.size +
      shared (left.drop (block.left + block.size)) (right.drop (block.right + block.size))
termination_by left.length
decreasing_by
  all_goals
    have bounds := longestBlock_bounds left right
    have nonempty : (longestBlock left right).size ≠ 0 := by assumption
    simp only [List.length_take, List.length_drop]
    omega

/-- How similar a text is to another one: the characters in common, and those of both texts. -/
structure Likeness where
  text : String
  common : Nat
  total : Nat
deriving DecidableEq, Repr

namespace Likeness

/-- The likeness of a text to a word. -/
def of (word text : String) : Likeness :=
  ⟨text, shared text.toList word.toList, text.length + word.length⟩

/-- Whether at least three tenths of all characters are in common, so that six tenths take part. -/
def isClose (likeness : Likeness) : Bool := 3 * likeness.total ≤ 10 * likeness.common

/-- Whether a likeness comes before another one: a closer one first, and of two that are equally
close the text that is later in the order of texts. -/
def before (a b : Likeness) : Bool :=
  let left := a.common * b.total
  let right := b.common * a.total
  right < left || (left == right && b.text ≤ a.text)

end Likeness

/-- The three texts, at most, that are closest to a word, in the order of texts. -/
def similarTo (word : String) (texts : List String) : List String :=
  let close := (texts.map (Likeness.of word)).filter Likeness.isClose
  let closest := (close.mergeSort Likeness.before).take 3
  (closest.map Likeness.text).mergeSort fun a b => a ≤ b

end Text

end ComponentSurvey
