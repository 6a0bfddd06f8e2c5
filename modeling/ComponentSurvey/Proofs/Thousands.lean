import ComponentSurvey.Text.Digit
import ComponentSurvey.Text.Thousands
import Mathlib.Logic.Function.Defs

/-!
# What a numeral with commas says

Groups are counted from the last digit, so that the first group of a numeral has what the groups of
three after it leave over. The commas carry no meaning of their own: without them the numeral is the
decimal one, which tells the number.

* `Text.InGroups` — one to three digits in the first group, three in every other.
* `Text.exists_grouped` — how digits are grouped, the least significant first.
* `Text.exists_thousandsNat` — the groups of a natural number, the most significant first.
* `Text.digits?_toDigits` — the digits of a number stand for it.
* `Text.eq_of_toList_toString` — a decimal numeral tells its number.
* `Text.thousands_faithful` — the numeral of an integer with commas.
-/

namespace ComponentSurvey

namespace Text

/-! ### Groups of three -/

/-- Groups of digits: the first has one to three of them, and every other has three. -/
structure InGroups (first : List Char) (rest : List (List Char)) : Prop where
  one_le : 1 ≤ first.length
  le_three : first.length ≤ 3
  three : ∀ group ∈ rest, group.length = 3
  isDigit : ∀ c ∈ first ++ rest.flatten, c.isDigit = true

/-- Grouping puts a comma behind every group of three but not behind the last group, which is not
empty. -/
theorem exists_grouped {digits : List Char} (h : digits ≠ []) :
    ∃ (full : List (List Char)) (last : List Char), (∀ group ∈ full, group.length = 3) ∧
      1 ≤ last.length ∧ last.length ≤ 3 ∧ full.flatten ++ last = digits ∧
      grouped digits = full.flatMap (· ++ [',']) ++ last := by
  fun_induction grouped digits with
  | case1 a b c d rest ih =>
    obtain ⟨full, last, hfull, hone, hthree, hdigits, hgrouped⟩ := ih (List.cons_ne_nil d rest)
    refine ⟨[a, b, c] :: full, last, ?_, hone, hthree, ?_, ?_⟩
    · exact List.forall_mem_cons.2 ⟨rfl, hfull⟩
    · rw [← hdigits]
      rfl
    · rw [hgrouped]
      rfl
  | case2 digits hshort =>
    refine ⟨[], digits, List.forall_mem_nil _, List.length_pos_iff.2 h, ?_, rfl, rfl⟩
    rcases digits with _ | ⟨a, _ | ⟨b, _ | ⟨c, _ | ⟨d, rest⟩⟩⟩⟩
    · exact Nat.zero_le 3
    · exact Nat.le_add_left 1 2
    · exact Nat.le_add_left 2 1
    · exact Nat.le_refl 3
    · exact absurd rfl (hshort a b c d rest)

theorem intercalate_comma (first : List Char) (rest : List (List Char)) :
    [','].intercalate (first :: rest) = first ++ rest.flatMap (',' :: ·) := by
  induction rest generalizing first with
  | nil => simp
  | cons group rest ih => rw [List.intercalate_cons_cons, ih]; simp

/-- Read from its most significant digit, a numeral has the short group first. -/
theorem exists_thousandsNat (n : Nat) : ∃ first rest, InGroups first rest ∧
    first ++ rest.flatten = Nat.toDigits 10 n ∧
    thousandsNat n = [','].intercalate (first :: rest) := by
  obtain ⟨full, last, hfull, hone, hthree, hdigits, hgrouped⟩ :=
    exists_grouped (List.reverse_ne_nil_iff.2 (Nat.toDigits_ne_nil : Nat.toDigits 10 n ≠ []))
  have hread : last.reverse ++ (full.map List.reverse).reverse.flatten = Nat.toDigits 10 n := by
    rw [← List.reverse_flatten, ← List.reverse_append, hdigits, List.reverse_reverse]
  refine ⟨last.reverse, (full.map List.reverse).reverse, ⟨?_, ?_, ?_, ?_⟩, hread, ?_⟩
  · rwa [List.length_reverse]
  · rwa [List.length_reverse]
  · intro group hgroup
    obtain ⟨reversed, hreversed, rfl⟩ := List.mem_map.1 (List.mem_reverse.1 hgroup)
    rw [List.length_reverse, hfull reversed hreversed]
  · intro c hc
    exact Nat.isDigit_of_mem_toDigits (by decide) (by decide) (hread ▸ hc)
  · -- a comma behind a group is one in front of the group once all is reversed
    rw [thousandsNat, hgrouped, intercalate_comma, List.reverse_append, List.reverse_flatMap,
      ← List.map_reverse, List.flatMap_map]
    congr 2
    funext group
    simp

/-! ### Digits -/

theorem head?_toDigits_ne_zero {n : Nat} (h : n ≠ 0) : (Nat.toDigits 10 n).head? ≠ some '0' := by
  rw [Nat.toDigits_eq_if (by decide)]
  by_cases hsmall : n < 10
  · rw [if_pos hsmall]
    simpa [Nat.digitChar_eq_zero] using h
  · have hne : n / 10 ≠ 0 := by omega
    rw [if_neg hsmall, List.head?_append]
    cases hhead : (Nat.toDigits 10 (n / 10)).head? with
    | none => exact absurd (List.head?_eq_none_iff.1 hhead) Nat.toDigits_ne_nil
    | some c =>
      rw [Option.some_or, ← hhead]
      exact head?_toDigits_ne_zero hne

/-- Only the numeral of zero begins with a zero, and nothing follows it there. -/
theorem InGroups.eq_zero {first : List Char} {rest : List (List Char)} (h : InGroups first rest)
    {n : Nat} (hdigits : first ++ rest.flatten = Nat.toDigits 10 n)
    (hzero : first.head? = some '0') : first = ['0'] ∧ rest = [] := by
  have hhead : (Nat.toDigits 10 n).head? = some '0' := by
    rw [← hdigits, List.head?_append, hzero]
    rfl
  have hn : n = 0 := Decidable.by_contra fun hn => head?_toDigits_ne_zero hn hhead
  rw [hn, Nat.toDigits_zero] at hdigits
  obtain ⟨tail, rfl⟩ := List.head?_eq_some_iff.1 hzero
  obtain ⟨htail, hrest⟩ := List.append_eq_nil_iff.1 (List.cons.inj hdigits).2
  refine ⟨by rw [htail], List.eq_nil_iff_forall_not_mem.2 fun group hgroup => ?_⟩
  have hthree := h.three group hgroup
  rw [List.flatten_eq_nil_iff.1 hrest group hgroup] at hthree
  cases hthree

theorem digit?_of_isDigit {c : Char} (h : c.isDigit = true) : digit? c = some (c.toNat - 48) := by
  have hrange : 48 ≤ c.toNat ∧ c.toNat ≤ 57 := by
    simpa [Char.isDigit, UInt32.le_iff_toNat_le] using h
  have hfound : (decide (48 ≤ c.toNat) && decide (c.toNat < 48 + 10)) = true := by
    simp only [Bool.and_eq_true, decide_eq_true_eq]
    omega
  have hfirst : digitZeros.find? (fun start => start ≤ c.toNat && c.toNat < start + 10) = some 48 :=
    List.find?_cons_of_pos hfound
  rw [digit?, hfirst, Option.map_some]

theorem mapM_digit? {digits : List Char} (h : ∀ c ∈ digits, c.isDigit = true) :
    digits.mapM digit? = some (digits.map fun c => c.toNat - 48) := by
  induction digits with
  | nil => rfl
  | cons c rest ih =>
    obtain ⟨hc, hrest⟩ := List.forall_mem_cons.1 h
    rw [List.mapM_cons, digit?_of_isDigit hc, ih hrest]
    rfl

/-- The digits of a number stand for the number. -/
theorem digits?_toDigits (n : Nat) : digits? (Nat.toDigits 10 n) = some n := by
  have hdigits : ∀ c ∈ Nat.toDigits 10 n, c.isDigit = true := fun c hc =>
    Nat.isDigit_of_mem_toDigits (by decide) (by decide) hc
  rw [digits?, if_neg (by simp [Nat.toDigits_ne_nil]), mapM_digit? hdigits, Option.map_some,
    List.foldl_map]
  exact congrArg some (Nat.ofDigitChars_eq_foldl.symm.trans Nat.ofDigitChars_ten_toDigits)

theorem eq_of_toDigits {n m : Nat} (h : Nat.toDigits 10 n = Nat.toDigits 10 m) : n = m := by
  have hread := digits?_toDigits n
  rw [h, digits?_toDigits] at hread
  exact (Option.some.inj hread).symm

/-! ### Signs -/

/-- Without its commas, the numeral of a natural number has its digits. -/
theorem filter_thousandsNat (n : Nat) :
    (thousandsNat n).filter (· ≠ ',') = Nat.toDigits 10 n := by
  have hcomma : ',' ∉ (Nat.toDigits 10 n).reverse := fun hmem =>
    not_mem_toDigits (by decide) n (List.mem_reverse.1 hmem)
  rw [thousandsNat, List.filter_reverse, filter_grouped hcomma, List.reverse_reverse]

theorem toList_toString (n : Int) : (toString n).toList
    = (if n < 0 then ['-'] else []) ++ Nat.toDigits 10 n.natAbs := by
  cases n with
  | ofNat n =>
    have hsign : ¬ Int.ofNat n < 0 := Int.not_ofNat_neg n
    rw [if_neg hsign]
    exact Nat.toList_repr
  | negSucc n =>
    rw [if_pos (Int.negSucc_lt_zero n)]
    show ("-" ++ Nat.repr (n + 1)).toList = _
    rw [String.toList_append, Nat.toList_repr]
    rfl

/-- A decimal numeral tells its number: the sign by its first character, the absolute value by its
digits. -/
theorem eq_of_toList_toString {n m : Int} (h : (toString n).toList = (toString m).toList) :
    n = m := by
  have hsign : ∀ (k : Nat) (rest : List Char), Nat.toDigits 10 k ≠ '-' :: rest := by
    intro k rest hdigits
    exact not_mem_toDigits (by decide) k (hdigits ▸ List.mem_cons_self)
  rw [toList_toString, toList_toString] at h
  by_cases hn : n < 0
  · by_cases hm : m < 0
    · rw [if_pos hn, if_pos hm] at h
      have habs := eq_of_toDigits (List.cons.inj h).2
      omega
    · rw [if_pos hn, if_neg hm] at h
      exact absurd h.symm (hsign _ _)
  · by_cases hm : m < 0
    · rw [if_neg hn, if_pos hm] at h
      exact absurd h (hsign _ _)
    · rw [if_neg hn, if_neg hm] at h
      have habs := eq_of_toDigits h
      omega

/-- Without its commas, the numeral of an integer is its decimal one. -/
theorem filter_thousands (n : Int) :
    (thousands n).toList.filter (· ≠ ',') = (toString n).toList := by
  rw [toList_thousands, toList_toString, List.filter_append, filter_thousandsNat]
  split <;> rfl

/-- **Thousands separators keep every number as it is.** Without its commas, the numeral of an integer
is the decimal one. Behind a minus sign, which negative numbers and only they have, stand groups of
digits with commas between them: one to three digits in the first group and three in every other. No
zero stands in front of another digit, and the digits stand for the absolute value of the number. So
different integers have different numerals. -/
theorem thousands_faithful :
    (∀ n : Int, (thousands n).toList.filter (· ≠ ',') = (toString n).toList ∧
      ∃ first rest, InGroups first rest ∧
        (thousands n).toList
          = (if n < 0 then ['-'] else []) ++ [','].intercalate (first :: rest) ∧
        (first.head? = some '0' → first = ['0'] ∧ rest = []) ∧
        digits? (first ++ rest.flatten) = some n.natAbs) ∧
    Function.Injective thousands := by
  refine ⟨fun n => ⟨filter_thousands n, ?_⟩, fun n m h => ?_⟩
  · obtain ⟨first, rest, hgroups, hdigits, hnumeral⟩ := exists_thousandsNat n.natAbs
    refine ⟨first, rest, hgroups, ?_, hgroups.eq_zero hdigits, ?_⟩
    · rw [toList_thousands, hnumeral]
    · rw [hdigits, digits?_toDigits]
  · apply eq_of_toList_toString
    rw [← filter_thousands, h, filter_thousands]

-- a full group next to the sign, and groups that begin with zeros
example : thousands (-100) = "-100" ∧ thousands (-1002003) = "-1,002,003" := by decide

end Text

end ComponentSurvey
