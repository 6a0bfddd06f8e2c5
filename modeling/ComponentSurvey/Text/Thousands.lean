/-!
# Numbers with thousands separators

* `Text.grouped` — digits, the least significant first, with a comma after every third one that
  another follows.
* `Text.thousands` — the decimal numeral of an integer with commas between its groups of three.
-/

namespace ComponentSurvey

namespace Text

/-- Digits, the least significant first, with a comma between every three and the next. -/
def grouped : List Char → List Char
  | a :: b :: c :: d :: rest => a :: b :: c :: ',' :: grouped (d :: rest)
  | digits => digits

/-- Without the commas, the digits are those that were grouped. -/
theorem filter_grouped {digits : List Char} (h : ',' ∉ digits) :
    (grouped digits).filter (· ≠ ',') = digits := by
  fun_induction grouped digits with
  | case1 a b c d rest ih => grind
  | case2 digits => grind [List.filter_eq_self]

/-- The numeral of a natural number with commas between its groups of three digits. -/
def thousandsNat (n : Nat) : List Char := (grouped (Nat.toDigits 10 n).reverse).reverse

/-- The numeral of an integer with commas between its groups of three digits. -/
def thousands : Int → String
  | .ofNat n => String.ofList (thousandsNat n)
  | .negSucc n => String.ofList ('-' :: thousandsNat (n + 1))

/-- No other character stands among the digits of a number. -/
theorem not_mem_toDigits {c : Char} (hc : c.isDigit = false) (n : Nat) : c ∉ Nat.toDigits 10 n := by
  intro hmem
  have hdigit := Nat.isDigit_of_mem_toDigits (by decide) (by decide) hmem
  rw [hc] at hdigit
  cases hdigit

/-- A numeral has a sign if its number is negative, and the digits of the absolute value. -/
theorem toList_thousands (n : Int) : (thousands n).toList
    = (if n < 0 then ['-'] else []) ++ thousandsNat n.natAbs := by
  cases n with
  | ofNat n =>
    have hsign : ¬ Int.ofNat n < 0 := Int.not_ofNat_neg n
    rw [thousands, String.toList_ofList, if_neg hsign]
    rfl
  | negSucc n =>
    rw [thousands, String.toList_ofList, if_pos (Int.negSucc_lt_zero n)]
    rfl

end Text

end ComponentSurvey
