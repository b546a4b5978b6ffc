/-
Module: CodeGauge.Proofs.Text.CharacterClass
Purpose: Which characters of ASCII are letters, digits or white space, and that no letter or digit is
  white space.
Main exports:
  isLetter_ascii, isBlank_ascii, not_isBlank_of_isLetter, not_isBlank_of_isDecimalDigit
-/
import CodeGauge.Text.Blank
import CodeGauge.Text.DecimalDigit
import CodeGauge.Text.Letter

namespace CodeGauge.Text

theorem inRanges_cons_iff {first last n : Nat} {rest : List (Nat × Nat)} :
    inRanges ((first, last) :: rest) n = true ↔
      first ≤ n ∧ (n ≤ last ∨ inRanges rest n = true) := by
  rw [inRanges]
  by_cases below : n < first
  · simp [below, Nat.not_le_of_lt below]
  · by_cases inside : n ≤ last
    · simp [below, inside, Nat.le_of_not_lt below]
    · simp [below, inside, Nat.le_of_not_lt below]

/-- Two tables none of whose ranges meet have no code point in common. -/
theorem not_inRanges_of_apart {first second : List (Nat × Nat)} {n : Nat}
    (apart : ∀ r ∈ first, ∀ s ∈ second, r.2 < s.1 ∨ s.2 < r.1) (inFirst : inRanges first n = true) :
    inRanges second n = false := by
  rw [Bool.eq_false_iff]
  intro inSecond
  obtain ⟨r, rMember, rLow, rHigh⟩ := exists_range_of_inRanges inFirst
  obtain ⟨s, sMember, sLow, sHigh⟩ := exists_range_of_inRanges inSecond
  rcases apart r rMember s sMember with below | above
  · omega
  · omega

/-! ### ASCII -/

theorem isAsciiLetter_iff {c : Char} :
    isAsciiLetter c = true ↔ (97 ≤ c.toNat ∧ c.toNat ≤ 122) ∨ (65 ≤ c.toNat ∧ c.toNat ≤ 90) := by
  simp [isAsciiLetter, Char.le_def, UInt32.le_iff_toNat_le]

theorem isAsciiDigit_iff {c : Char} :
    isAsciiDigit c = true ↔ 48 ≤ c.toNat ∧ c.toNat ≤ 57 := by
  simp [isAsciiDigit, Char.le_def, UInt32.le_iff_toNat_le]

/-- The table of letters begins above ASCII. -/
theorem isLetter_ascii {c : Char} (small : c.toNat < 0x80) : isLetter c = isAsciiLetter c := by
  have outside : inRanges letterRanges c.toNat = false := inRanges_of_lt (by omega)
  rw [isLetter, outside, Bool.or_false]

theorem isBlank_ascii {c : Char} (small : c.toNat < 0x80) :
    isBlank c = true ↔ (9 ≤ c.toNat ∧ c.toNat ≤ 13) ∨ c.toNat = 32 := by
  rw [isBlank, blankRanges, inRanges_cons_iff, inRanges_cons_iff, inRanges_of_lt (by omega)]
  simp only [Bool.false_eq_true, or_false]
  omega

/-! ### Letters and digits are not white space -/

private theorem blankRanges_apart_letterRanges :
    ∀ r ∈ blankRanges, ∀ s ∈ letterRanges, r.2 < s.1 ∨ s.2 < r.1 := by
  decide +kernel

theorem not_isBlank_of_isLetter {c : Char} (letter : isLetter c = true) : isBlank c = false := by
  rw [isLetter, Bool.or_eq_true] at letter
  rw [Bool.eq_false_iff]
  intro blank
  rcases letter with asciiLetter | inTable
  · have range := isAsciiLetter_iff.1 asciiLetter
    have := (isBlank_ascii (by omega)).1 blank
    omega
  · have outside := not_inRanges_of_apart blankRanges_apart_letterRanges blank
    rw [outside] at inTable
    exact Bool.false_ne_true inTable

private theorem blankRanges_apart_decimalDigitRanges :
    ∀ r ∈ blankRanges, ∀ s ∈ decimalDigitRanges, r.2 < s.1 ∨ s.2 < r.1 := by
  decide +kernel

theorem not_isBlank_of_isDecimalDigit {c : Char} (digit : isDecimalDigit c = true) :
    isBlank c = false := by
  rw [Bool.eq_false_iff]
  intro blank
  rw [isDecimalDigit, not_inRanges_of_apart blankRanges_apart_decimalDigitRanges blank] at digit
  exact Bool.false_ne_true digit

end CodeGauge.Text
