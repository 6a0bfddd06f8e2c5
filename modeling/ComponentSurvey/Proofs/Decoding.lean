import ComponentSurvey.Project.Scan
import ComponentSurvey.Proofs.Places
import Mathlib.Tactic.SplitIfs

/-!
# Files and their texts

A file is surveyed as the text that its bytes encode, with line breaks made uniform. The decoder is a
machine that takes one byte at a time; what it makes of the bytes is compared with the encoding of
texts, character by character.

* `Utf8.Unfinished.Completes` — the bytes that complete a character that has begun.
* `Utf8.start_of_encodeChar`, `Utf8.encodeChar_of_completes` — a character is encoded by a byte that
  it starts with and by bytes that complete it.
* `Utf8.decode_eq_ok_iff` — the decoder accepts exactly the encodings of texts.
* `Text.unifiedBreaks_eq` — line breaks are made uniform by two replacements.
* `FileSurvey.ofFile_agrees_with_ofSource` — the survey of a file is that of its text.
-/

namespace ComponentSurvey

namespace Utf8

/-! ### The first byte of a character -/

section Start

variable {byte : UInt8}

/-- The least second byte of a character of three or four bytes; below it, fewer bytes would do. -/
def lowSecond (byte : UInt8) : UInt8 :=
  if byte.toNat = 0xE0 then 0xA0 else if byte.toNat = 0xF0 then 0x90 else 0x80

/-- The greatest second byte of a character of three or four bytes; above it are the surrogates and
what follows the last code point. -/
def highSecond (byte : UInt8) : UInt8 :=
  if byte.toNat = 0xED then 0x9F else if byte.toNat = 0xF4 then 0x8F else 0xBF

theorem lowSecond_cases (byte : UInt8) :
    (byte.toNat = 0xE0 ∧ (lowSecond byte).toNat = 0xA0) ∨
    (byte.toNat = 0xF0 ∧ (lowSecond byte).toNat = 0x90) ∨
    (byte.toNat ≠ 0xE0 ∧ byte.toNat ≠ 0xF0 ∧ (lowSecond byte).toNat = 0x80) := by
  rw [lowSecond]
  split_ifs with hthree hfour
  · exact .inl ⟨hthree, rfl⟩
  · exact .inr (.inl ⟨hfour, rfl⟩)
  · exact .inr (.inr ⟨hthree, hfour, rfl⟩)

theorem highSecond_cases (byte : UInt8) :
    (byte.toNat = 0xED ∧ (highSecond byte).toNat = 0x9F) ∨
    (byte.toNat = 0xF4 ∧ (highSecond byte).toNat = 0x8F) ∨
    (byte.toNat ≠ 0xED ∧ byte.toNat ≠ 0xF4 ∧ (highSecond byte).toNat = 0xBF) := by
  rw [highSecond]
  split_ifs with hthree hfour
  · exact .inl ⟨hthree, rfl⟩
  · exact .inr (.inl ⟨hfour, rfl⟩)
  · exact .inr (.inr ⟨hthree, hfour, rfl⟩)

theorem start_one (h : byte.toNat < 0x80) : start byte = .whole (Char.ofNat byte.toNat) := by
  rw [start, if_pos h]

theorem start_two (hlow : 0xC2 ≤ byte.toNat) (hhigh : byte.toNat < 0xE0) :
    start byte = .begun ⟨byte, 1, 0, 0x80, 0xBF, byte.toNat - 0xC0⟩ := by
  dsimp only [start]
  rw [if_neg (by omega), if_neg (by omega), if_pos hhigh]

theorem start_three (hlow : 0xE0 ≤ byte.toNat) (hhigh : byte.toNat < 0xF0) :
    start byte = .begun ⟨byte, 1, 1, lowSecond byte, highSecond byte, byte.toNat - 0xE0⟩ := by
  dsimp only [start, lowSecond, highSecond]
  rw [if_neg (by omega), if_neg (by omega), if_neg (by omega)]
  simp only [beq_iff_eq]
  grind

theorem start_four (hlow : 0xF0 ≤ byte.toNat) (hhigh : byte.toNat ≤ 0xF4) :
    start byte = .begun ⟨byte, 1, 2, lowSecond byte, highSecond byte, byte.toNat - 0xF0⟩ := by
  dsimp only [start, lowSecond, highSecond]
  rw [if_neg (by omega), if_neg (by omega), if_neg (by omega)]
  simp only [beq_iff_eq]
  grind

theorem start_refused
    (h : 0x80 ≤ byte.toNat ∧ byte.toNat < 0xC2 ∨ 0xF4 < byte.toNat) : start byte = .refused := by
  dsimp only [start]
  simp only [beq_iff_eq]
  grind

/-- What a byte at the start of a character tells, by the number of bytes of the character. -/
theorem start_cases (byte : UInt8) :
    (byte.toNat < 0x80 ∧ start byte = .whole (Char.ofNat byte.toNat)) ∨
    (0xC2 ≤ byte.toNat ∧ byte.toNat < 0xE0 ∧
      start byte = .begun ⟨byte, 1, 0, 0x80, 0xBF, byte.toNat - 0xC0⟩) ∨
    (0xE0 ≤ byte.toNat ∧ byte.toNat < 0xF0 ∧
      start byte = .begun ⟨byte, 1, 1, lowSecond byte, highSecond byte, byte.toNat - 0xE0⟩) ∨
    (0xF0 ≤ byte.toNat ∧ byte.toNat ≤ 0xF4 ∧
      start byte = .begun ⟨byte, 1, 2, lowSecond byte, highSecond byte, byte.toNat - 0xF0⟩) ∨
    start byte = .refused := by
  by_cases hone : byte.toNat < 0x80
  · exact .inl ⟨hone, start_one hone⟩
  by_cases htwo : 0xC2 ≤ byte.toNat ∧ byte.toNat < 0xE0
  · exact .inr (.inl ⟨htwo.1, htwo.2, start_two htwo.1 htwo.2⟩)
  by_cases hthree : 0xE0 ≤ byte.toNat ∧ byte.toNat < 0xF0
  · exact .inr (.inr (.inl ⟨hthree.1, hthree.2, start_three hthree.1 hthree.2⟩))
  by_cases hfour : 0xF0 ≤ byte.toNat ∧ byte.toNat ≤ 0xF4
  · exact .inr (.inr (.inr (.inl ⟨hfour.1, hfour.2, start_four hfour.1 hfour.2⟩)))
  · exact .inr (.inr (.inr (.inr (start_refused (by omega)))))

end Start

/-! ### The bytes of a character -/

section Encode

variable {c : Char} {a x y z : UInt8}

theorem toNat_ofNat_of_isValidChar {n : Nat} (h : n.isValidChar) : (Char.ofNat n).toNat = n := by
  rw [Char.ofNat, dif_pos h]
  rfl

theorem ofNat_eq_iff {n : Nat} (h : n < 256) : UInt8.ofNat n = a ↔ n = a.toNat := by
  rw [← UInt8.toNat_inj, UInt8.toNat_ofNat', Nat.mod_eq_of_lt h]

theorem encodeChar_eq_one_iff :
    String.utf8EncodeChar c = [a] ↔ a.toNat < 0x80 ∧ c.toNat = a.toNat := by
  have hvalid : c.toNat.isValidChar := c.valid
  simp only [String.utf8EncodeChar, Char.toNat_val]
  split_ifs <;>
    simp (disch := omega) only [List.cons.injEq, reduceCtorEq, and_true, and_false, false_iff,
      ofNat_eq_iff] <;>
    omega

theorem encodeChar_eq_two_iff :
    String.utf8EncodeChar c = [a, x] ↔
      (0xC2 ≤ a.toNat ∧ a.toNat < 0xE0) ∧ (0x80 ≤ x.toNat ∧ x.toNat ≤ 0xBF) ∧
        c.toNat = 64 * (a.toNat - 0xC0) + (x.toNat - 0x80) := by
  have hvalid : c.toNat.isValidChar := c.valid
  simp only [String.utf8EncodeChar, Char.toNat_val]
  split_ifs <;>
    simp (disch := omega) only [List.cons.injEq, reduceCtorEq, and_true, and_false, false_iff,
      ofNat_eq_iff] <;>
    omega

theorem encodeChar_eq_three_iff :
    String.utf8EncodeChar c = [a, x, y] ↔
      (0xE0 ≤ a.toNat ∧ a.toNat < 0xF0) ∧
        ((lowSecond a).toNat ≤ x.toNat ∧ x.toNat ≤ (highSecond a).toNat) ∧
        (0x80 ≤ y.toNat ∧ y.toNat ≤ 0xBF) ∧
        c.toNat = 64 * (64 * (a.toNat - 0xE0) + (x.toNat - 0x80)) + (y.toNat - 0x80) := by
  have hvalid : c.toNat.isValidChar := c.valid
  have hlow := lowSecond_cases a
  have hhigh := highSecond_cases a
  simp only [String.utf8EncodeChar, Char.toNat_val]
  split_ifs <;>
    simp (disch := omega) only [List.cons.injEq, reduceCtorEq, and_true, and_false, false_iff,
      ofNat_eq_iff] <;>
    omega

theorem encodeChar_eq_four_iff :
    String.utf8EncodeChar c = [a, x, y, z] ↔
      (0xF0 ≤ a.toNat ∧ a.toNat ≤ 0xF4) ∧
        ((lowSecond a).toNat ≤ x.toNat ∧ x.toNat ≤ (highSecond a).toNat) ∧
        (0x80 ≤ y.toNat ∧ y.toNat ≤ 0xBF) ∧ (0x80 ≤ z.toNat ∧ z.toNat ≤ 0xBF) ∧
        c.toNat = 64 * (64 * (64 * (a.toNat - 0xF0) + (x.toNat - 0x80)) + (y.toNat - 0x80))
          + (z.toNat - 0x80) := by
  have hvalid : c.toNat.isValidChar := c.valid
  have hlow := lowSecond_cases a
  have hhigh := highSecond_cases a
  simp only [String.utf8EncodeChar, Char.toNat_val]
  split_ifs <;>
    simp (disch := omega) only [List.cons.injEq, reduceCtorEq, and_true, and_false, false_iff,
      ofNat_eq_iff] <;>
    omega

end Encode

/-! ### Characters that have begun -/

namespace Unfinished

variable {c : Char} {byte low high : UInt8} {count code missing : Nat} {tail : List UInt8}

/-- The bits of a character after one more byte. -/
def codeWith (unfinished : Unfinished) (next : UInt8) : Nat :=
  64 * unfinished.code + (next.toNat - 0x80)

/-- Whether bytes complete a character that has begun. -/
def Completes : Unfinished → List UInt8 → Char → Prop
  | _, [], _ => False
  | unfinished, next :: rest, c =>
    (unfinished.low ≤ next ∧ next ≤ unfinished.high) ∧
      match unfinished.missing with
      | 0 => rest = [] ∧ c = Char.ofNat (unfinished.codeWith next)
      | missing + 1 =>
        Completes ⟨unfinished.byte, unfinished.count + 1, missing, 0x80, 0xBF,
          unfinished.codeWith next⟩ rest c

/-- One byte is missing. -/
theorem completes_last_iff :
    Completes ⟨byte, count, 0, low, high, code⟩ tail c ↔
      ∃ next, tail = [next] ∧ (low.toNat ≤ next.toNat ∧ next.toNat ≤ high.toNat) ∧
        c = Char.ofNat (64 * code + (next.toNat - 0x80)) := by
  cases tail with
  | nil => simp [Completes]
  | cons next rest =>
    rw [Completes, UInt8.le_iff_toNat_le, UInt8.le_iff_toNat_le]
    dsimp only [codeWith]
    grind

/-- More than one byte is missing. -/
theorem completes_more_iff :
    Completes ⟨byte, count, missing + 1, low, high, code⟩ tail c ↔
      ∃ next rest, tail = next :: rest ∧ (low.toNat ≤ next.toNat ∧ next.toNat ≤ high.toNat) ∧
        Completes ⟨byte, count + 1, missing, 0x80, 0xBF, 64 * code + (next.toNat - 0x80)⟩ rest
          c := by
  cases tail with
  | nil => simp [Completes]
  | cons next rest =>
    rw [Completes, UInt8.le_iff_toNat_le, UInt8.le_iff_toNat_le]
    dsimp only [codeWith]
    grind

end Unfinished

section Encode

variable {c : Char} {byte : UInt8} {tail : List UInt8}

/-- The bytes of a character are read as this character. -/
theorem start_of_encodeChar (h : String.utf8EncodeChar c = byte :: tail) :
    (start byte = .whole c ∧ tail = []) ∨
      ∃ unfinished, start byte = .begun unfinished ∧ unfinished.Completes tail c := by
  match tail, h with
  | [], h =>
    obtain ⟨hbyte, hc⟩ := encodeChar_eq_one_iff.1 h
    rw [start_one hbyte, ← hc, Char.ofNat_toNat]
    exact .inl ⟨rfl, rfl⟩
  | [x], h =>
    obtain ⟨hbyte, hx, hc⟩ := encodeChar_eq_two_iff.1 h
    refine .inr ⟨_, start_two hbyte.1 hbyte.2, ?_⟩
    rw [Unfinished.completes_last_iff, ← Char.ofNat_toNat c, hc]
    exact ⟨x, rfl, hx, rfl⟩
  | [x, y], h =>
    obtain ⟨hbyte, hx, hy, hc⟩ := encodeChar_eq_three_iff.1 h
    refine .inr ⟨_, start_three hbyte.1 hbyte.2, ?_⟩
    rw [Unfinished.completes_more_iff]
    refine ⟨x, [y], rfl, hx, ?_⟩
    rw [Unfinished.completes_last_iff, ← Char.ofNat_toNat c, hc]
    exact ⟨y, rfl, hy, rfl⟩
  | [x, y, z], h =>
    obtain ⟨hbyte, hx, hy, hz, hc⟩ := encodeChar_eq_four_iff.1 h
    refine .inr ⟨_, start_four hbyte.1 hbyte.2, ?_⟩
    rw [Unfinished.completes_more_iff]
    refine ⟨x, [y, z], rfl, hx, ?_⟩
    rw [Unfinished.completes_more_iff]
    refine ⟨y, [z], rfl, hy, ?_⟩
    rw [Unfinished.completes_last_iff, ← Char.ofNat_toNat c, hc]
    exact ⟨z, rfl, hz, rfl⟩
  | _ :: _ :: _ :: _ :: _, h =>
    have hlength := congrArg List.length h
    have hsize := c.utf8Size_le_four
    rw [String.length_utf8EncodeChar] at hlength
    simp only [List.length_cons] at hlength
    omega

/-- A byte that is read as a character encodes it. -/
theorem encodeChar_of_whole (h : start byte = .whole c) : String.utf8EncodeChar c = [byte] := by
  rcases start_cases byte with
    ⟨hone, hstart⟩ | ⟨_, _, hstart⟩ | ⟨_, _, hstart⟩ | ⟨_, _, hstart⟩ | hstart <;>
    rw [hstart] at h <;> cases h
  rw [encodeChar_eq_one_iff]
  exact ⟨hone, toNat_ofNat_of_isValidChar (.inl (by omega))⟩

/-- A byte that a character starts with and bytes that complete it encode the character. -/
theorem encodeChar_of_completes {unfinished : Unfinished} (h : start byte = .begun unfinished)
    (hcompletes : unfinished.Completes tail c) : String.utf8EncodeChar c = byte :: tail := by
  rcases start_cases byte with
    ⟨_, hstart⟩ | ⟨hlow, hhigh, hstart⟩ | ⟨hlow, hhigh, hstart⟩ | ⟨hlow, hhigh, hstart⟩ | hstart <;>
    rw [hstart] at h <;> cases h
  · obtain ⟨x, rfl, hx, hc⟩ := Unfinished.completes_last_iff.1 hcompletes
    have hx : 0x80 ≤ x.toNat ∧ x.toNat ≤ 0xBF := hx
    rw [encodeChar_eq_two_iff, hc, toNat_ofNat_of_isValidChar (.inl (by omega))]
    exact ⟨⟨hlow, hhigh⟩, hx, rfl⟩
  · obtain ⟨x, rest, rfl, hx, hcompletes⟩ := Unfinished.completes_more_iff.1 hcompletes
    obtain ⟨y, rfl, hy, hc⟩ := Unfinished.completes_last_iff.1 hcompletes
    have hy : 0x80 ≤ y.toNat ∧ y.toNat ≤ 0xBF := hy
    rw [encodeChar_eq_three_iff, hc, toNat_ofNat_of_isValidChar]
    · exact ⟨⟨hlow, hhigh⟩, hx, hy, rfl⟩
    · have hleast := lowSecond_cases byte
      have hgreatest := highSecond_cases byte
      rw [Nat.isValidChar]
      omega
  · obtain ⟨x, rest, rfl, hx, hcompletes⟩ := Unfinished.completes_more_iff.1 hcompletes
    obtain ⟨y, rest, rfl, hy, hcompletes⟩ := Unfinished.completes_more_iff.1 hcompletes
    obtain ⟨z, rfl, hz, hc⟩ := Unfinished.completes_last_iff.1 hcompletes
    have hy : 0x80 ≤ y.toNat ∧ y.toNat ≤ 0xBF := hy
    have hz : 0x80 ≤ z.toNat ∧ z.toNat ≤ 0xBF := hz
    rw [encodeChar_eq_four_iff, hc, toNat_ofNat_of_isValidChar]
    · exact ⟨⟨hlow, hhigh⟩, hx, hy, hz, rfl⟩
    · have hleast := lowSecond_cases byte
      have hgreatest := highSecond_cases byte
      rw [Nat.isValidChar]
      omega

end Encode

/-! ### The decoder -/

section Decode

variable {position : Nat} {bytes : List UInt8} {chars : List Char}

theorem map_cons_eq_ok_iff {c : Char} {result : Except Fault (List Char)} :
    result.map (c :: ·) = .ok chars ↔ ∃ others, chars = c :: others ∧ result = .ok others := by
  cases result with
  | error fault => simp [Except.map]
  | ok others =>
    simp only [Except.map, Except.ok.injEq]
    grind

/-- Inside a character, the decoder goes on with the bytes that complete it. -/
theorem decodeFrom_some_eq_ok_iff {unfinished : Unfinished} :
    decodeFrom position (some unfinished) bytes = .ok chars ↔
      ∃ tail c rest others, bytes = tail ++ rest ∧ unfinished.Completes tail c ∧
        chars = c :: others ∧ decodeFrom (position + tail.length) none rest = .ok others := by
  induction bytes generalizing position unfinished with
  | nil =>
    rw [decodeFrom]
    constructor
    · intro h
      cases h
    · rintro ⟨tail, c, rest, others, hbytes, hcompletes, _⟩
      rw [(List.append_eq_nil_iff.1 hbytes.symm).1] at hcompletes
      exact hcompletes.elim
  | cons next later ih =>
    obtain ⟨byte, count, missing, low, high, code⟩ := unfinished
    rw [decodeFrom]
    dsimp only
    split
    · rename_i hrange
      cases missing with
      | zero =>
        dsimp only
        rw [map_cons_eq_ok_iff]
        constructor
        · rintro ⟨others, hchars, hlater⟩
          exact ⟨[next], _, later, others, rfl, ⟨hrange, rfl, rfl⟩, hchars, hlater⟩
        · rintro ⟨tail, c, rest, others, hbytes, hcompletes, hchars, hrest⟩
          cases tail with
          | nil => exact hcompletes.elim
          | cons first tail =>
            obtain ⟨_, htail, hc⟩ := hcompletes
            obtain ⟨hfirst, hlater⟩ := List.cons.inj hbytes
            subst hfirst htail hlater
            exact ⟨others, hchars.trans (congrArg (· :: others) hc), hrest⟩
      | succ missing =>
        dsimp only
        rw [ih]
        constructor
        · rintro ⟨tail, c, rest, others, hlater, hcompletes, hchars, hrest⟩
          refine ⟨next :: tail, c, rest, others, by rw [hlater]; rfl, ⟨hrange, hcompletes⟩, hchars,
            ?_⟩
          rwa [List.length_cons, Nat.add_comm tail.length, ← Nat.add_assoc]
        · rintro ⟨tail, c, rest, others, hbytes, hcompletes, hchars, hrest⟩
          cases tail with
          | nil => exact hcompletes.elim
          | cons first tail =>
            obtain ⟨hfirst, hlater⟩ := List.cons.inj hbytes
            subst hfirst
            refine ⟨tail, c, rest, others, hlater, hcompletes.2, hchars, ?_⟩
            rwa [List.length_cons, Nat.add_comm tail.length, ← Nat.add_assoc] at hrest
    · rename_i hrange
      constructor
      · intro h
        cases h
      · rintro ⟨tail, c, rest, others, hbytes, hcompletes, _⟩
        cases tail with
        | nil => exact hcompletes.elim
        | cons first tail =>
          rw [(List.cons.inj hbytes).1] at hrange
          exact absurd hcompletes.1 hrange

/-- Between characters, the decoder gives a character first exactly if its bytes stand in front. -/
theorem decodeFrom_none_eq_ok_cons_iff {c : Char} {others : List Char} :
    decodeFrom position none bytes = .ok (c :: others) ↔
      ∃ rest, bytes = String.utf8EncodeChar c ++ rest ∧
        decodeFrom (position + (String.utf8EncodeChar c).length) none rest = .ok others := by
  have hsize : 0 < (String.utf8EncodeChar c).length := by
    rw [String.length_utf8EncodeChar]
    exact c.utf8Size_pos
  cases bytes with
  | nil =>
    rw [decodeFrom]
    constructor
    · intro h
      cases h
    · rintro ⟨rest, hbytes, _⟩
      rw [(List.append_eq_nil_iff.1 hbytes.symm).1] at hsize
      cases hsize
  | cons byte later =>
    constructor
    · intro h
      rw [decodeFrom] at h
      cases hstart : start byte with
      | whole first =>
        rw [hstart] at h
        obtain ⟨rest, hchars, hlater⟩ := map_cons_eq_ok_iff.1 h
        cases hchars
        rw [encodeChar_of_whole hstart]
        exact ⟨later, rfl, hlater⟩
      | begun unfinished =>
        rw [hstart] at h
        obtain ⟨tail, first, rest, others, rfl, hcompletes, hchars, hrest⟩ :=
          decodeFrom_some_eq_ok_iff.1 h
        cases hchars
        rw [encodeChar_of_completes hstart hcompletes]
        refine ⟨rest, rfl, ?_⟩
        rwa [List.length_cons, Nat.add_comm tail.length, ← Nat.add_assoc]
      | refused =>
        rw [hstart] at h
        cases h
    · rintro ⟨rest, hbytes, hrest⟩
      cases hencode : String.utf8EncodeChar c with
      | nil =>
        rw [hencode] at hsize
        cases hsize
      | cons first tail =>
        rw [hencode] at hbytes hrest
        obtain ⟨rfl, rfl⟩ := List.cons.inj hbytes
        rw [decodeFrom]
        rcases start_of_encodeChar hencode with ⟨hstart, rfl⟩ | ⟨unfinished, hstart, hcompletes⟩
        · rw [hstart]
          exact map_cons_eq_ok_iff.2 ⟨others, rfl, hrest⟩
        · rw [hstart]
          refine decodeFrom_some_eq_ok_iff.2 ⟨tail, c, rest, others, rfl, hcompletes, rfl, ?_⟩
          rwa [List.length_cons, Nat.add_comm tail.length, ← Nat.add_assoc] at hrest

/-- From the start of a character on, the decoder accepts exactly the encodings of characters. -/
theorem decodeFrom_none_eq_ok_iff :
    decodeFrom position none bytes = .ok chars ↔ bytes = chars.flatMap String.utf8EncodeChar := by
  induction chars generalizing position bytes with
  | nil =>
    cases bytes with
    | nil => simp [decodeFrom]
    | cons byte later =>
      refine ⟨fun h => ?_, fun h => by cases h⟩
      rw [decodeFrom] at h
      split at h
      · obtain ⟨others, hchars, _⟩ := map_cons_eq_ok_iff.1 h
        cases hchars
      · obtain ⟨tail, c, rest, others, _, _, hchars, _⟩ := decodeFrom_some_eq_ok_iff.1 h
        cases hchars
      · cases h
  | cons c others ih =>
    rw [decodeFrom_none_eq_ok_cons_iff, List.flatMap_cons]
    simp only [ih]
    exact exists_eq_right

/-- The decoder accepts exactly the encodings of texts, and gives the text. -/
theorem decode_eq_ok_iff {text : String} :
    decode bytes = .ok text ↔ text.toUTF8.data.toList = bytes := by
  have hencode : text.toUTF8.data.toList = text.toList.flatMap String.utf8EncodeChar := by
    rw [String.toUTF8_eq_toByteArray, ← String.utf8Encode_toList, List.utf8Encode,
      List.toList_data_toByteArray]
  rw [hencode, @eq_comm _ _ bytes, ← @decodeFrom_none_eq_ok_iff 0, decode]
  cases decodeFrom 0 none bytes with
  | error fault => simp [Except.map]
  | ok chars =>
    simp only [Except.map, Except.ok.injEq]
    constructor
    · rintro rfl
      exact String.toList_ofList.symm
    · rintro rfl
      exact String.ofList_toList

end Decode

end Utf8

/-! ### Line breaks -/

namespace Text

/-- A text in which every occurrence of another one is replaced, from left to right; the first
characters are skipped, which belong to an occurrence already replaced. -/
def replaceFrom (old new : List Char) : Nat → List Char → List Char
  | _, [] => []
  | skip + 1, _ :: rest => replaceFrom old new skip rest
  | 0, c :: rest =>
    if old.isPrefixOf (c :: rest) then new ++ replaceFrom old new (old.length - 1) rest
    else c :: replaceFrom old new 0 rest

/-- A text in which every occurrence of another one is replaced, from left to right. -/
def replaceAll (old new text : String) : String :=
  String.ofList (replaceFrom old.toList new.toList 0 text.toList)

theorem replaceFrom_of_leading {old new rest : List Char} {c : Char} (h : (c :: old) <+: c :: rest) :
    replaceFrom (c :: old) new 0 (c :: rest) = new ++ replaceFrom (c :: old) new old.length rest := by
  rw [replaceFrom, if_pos (List.isPrefixOf_iff_prefix.2 h)]
  rfl

theorem replaceFrom_of_not_leading {old new rest : List Char} {c : Char} (h : ¬ old <+: c :: rest) :
    replaceFrom old new 0 (c :: rest) = c :: replaceFrom old new 0 rest := by
  rw [replaceFrom, if_neg (fun hold => h (List.isPrefixOf_iff_prefix.1 hold))]

theorem unifyBreaks_eq (text : List Char) :
    unifyBreaks text = replaceFrom ['\r'] ['\n'] 0 (replaceFrom ['\r', '\n'] ['\n'] 0 text) := by
  fun_induction unifyBreaks text with
  | case1 => rfl
  | case2 rest ih =>
    have hpair : ['\r', '\n'] <+: '\r' :: '\n' :: rest := ⟨rest, rfl⟩
    have hreturn : ¬ ['\r'] <+: '\n' :: replaceFrom ['\r', '\n'] ['\n'] 0 rest := by simp
    rw [replaceFrom_of_leading hpair, List.length_singleton, replaceFrom, List.singleton_append,
      replaceFrom_of_not_leading hreturn, ih]
  | case3 rest hrest ih =>
    have hpair : ¬ ['\r', '\n'] <+: '\r' :: rest := by
      rintro ⟨later, hlater⟩
      exact hrest later (List.cons.inj hlater).2.symm
    have hreturn : ['\r'] <+: '\r' :: replaceFrom ['\r', '\n'] ['\n'] 0 rest := ⟨_, rfl⟩
    rw [replaceFrom_of_not_leading hpair, replaceFrom_of_leading hreturn, ih]
    rfl
  | case4 c rest hpair hreturn ih =>
    have hc : c ≠ '\r' := hreturn
    rw [replaceFrom_of_not_leading (by simp [hc.symm]),
      replaceFrom_of_not_leading (by simp [hc.symm]), ih]

/-- Every line break becomes a line feed: first the pairs of a carriage return and a line feed, then
the carriage returns that are left. -/
theorem unifiedBreaks_eq (text : String) :
    unifiedBreaks text = replaceAll "\r" "\n" (replaceAll "\r\n" "\n" text) := by
  rw [unifiedBreaks, unifyBreaks_eq, replaceAll, replaceAll, String.toList_ofList]
  simp only [String.toList_ofList]
  rfl

end Text

/-! ### Files -/

/-- A file whose bytes encode a text is surveyed as the text with uniform line breaks. -/
theorem FileSurvey.ofFile_of_encoded {parser : Parser} {files : FileTree} {place : Location}
    {text : String} (hfile : files.find? place = some (.file text.toUTF8.data.toList)) :
    ofFile parser files place = ofSource parser (Text.unifiedBreaks text) place.text := by
  rw [ofFile, hfile]
  dsimp only
  rw [Utf8.decode_eq_ok_iff.2 rfl]

/-- The survey of a file whose bytes encode a text is that of the text with line feeds for all line
breaks; a file whose bytes encode no text is not surveyed, which the failure says. -/
theorem FileSurvey.ofFile_agrees_with_ofSource (parser : Parser) {files : FileTree}
    {place : Location} {bytes : List UInt8} (hfile : files.find? place = some (.file bytes)) :
    (∀ text : String, text.toUTF8.data.toList = bytes →
      ofFile parser files place
        = ofSource parser (Text.replaceAll "\r" "\n" (Text.replaceAll "\r\n" "\n" text))
            place.text) ∧
    ((∀ text : String, text.toUTF8.data.toList ≠ bytes) →
      ∃ failure detail, ofFile parser files place = pure (.error failure) ∧
        failure.message = "Encoding error reading " ++ place.text ++ ": " ++ detail) := by
  constructor
  · intro text htext
    subst htext
    rw [ofFile_of_encoded hfile, Text.unifiedBreaks_eq]
  · intro hnone
    rw [ofFile, hfile]
    dsimp only
    cases hdecode : Utf8.decode bytes with
    | ok text => exact absurd (Utf8.decode_eq_ok_iff.1 hdecode) (hnone text)
    | error fault => exact ⟨.notText place.text fault, fault.message, rfl, rfl⟩

/-- A parser that takes the first line of every text for a comment. -/
def commentParser : Parser := fun _ => .ok fun text =>
  let comment := String.ofList (text.toList.takeWhile fun c => c != '\n')
  .ok ⟨.mk (.sample .program none 0 text) [.mk (.sample .comment none 0 comment) []], false⟩

/-- A file with a comment in letters beyond ASCII and with line breaks of three kinds, and a file with
an overlong form. -/
def breaksSample : FileTree :=
  .directory
    [("a.ts", .file [0x2F, 0x2F, 0xC3, 0xA9, 0xF0, 0x9F, 0x98, 0x80, 0x0D, 0x0D, 0x0A, 0x0A]),
      ("b.ts", .file [0x2F, 0x2F, 0xC0, 0x80])]

theorem FileSurvey.ofFile_agrees_with_ofSource_sample :
    ofFile commentParser breaksSample ["a.ts"] = ofSource commentParser "//é😀\n\n\n" "/a.ts" ∧
      ∃ failure detail, ofFile commentParser breaksSample ["b.ts"] = pure (.error failure) ∧
        failure.message = "Encoding error reading /b.ts: " ++ detail := by
  constructor
  · exact (ofFile_agrees_with_ofSource commentParser rfl).1 "//é😀\r\r\n\n" rfl
  · refine (ofFile_agrees_with_ofSource commentParser rfl).2 ?_
    intro text htext
    have hdecode := Utf8.decode_eq_ok_iff.2 htext
    cases hdecode

end ComponentSurvey
