/-!
# Hexadecimal numerals

* `Text.hex` — the lower-case hexadecimal digits of a number, with zeros in front up to a width.
* `Text.hexDigit?`, `Text.ofHex?` — the number of a digit and of some digits.
-/

namespace ComponentSurvey

namespace Text

/-- The hexadecimal digits of `n`, the last `width` of them at least. -/
def hex (width n : Nat) : List Char :=
  let digits := Nat.toDigits 16 n
  List.replicate (width - digits.length) '0' ++ digits

/-- The number of a hexadecimal digit of either case. -/
def hexDigit? (c : Char) : Option Nat :=
  if '0' ≤ c ∧ c ≤ '9' then some (c.toNat - 48)
  else if 'a' ≤ c ∧ c ≤ 'f' then some (c.toNat - 87)
  else if 'A' ≤ c ∧ c ≤ 'F' then some (c.toNat - 55)
  else none

/-- The number that hexadecimal digits stand for, the most significant first. -/
def ofHex? (digits : List Char) : Option Nat :=
  digits.foldlM (fun value c => (hexDigit? c).map (16 * value + ·)) 0

end Text

end ComponentSurvey
