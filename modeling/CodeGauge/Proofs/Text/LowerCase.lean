/-
Module: CodeGauge.Proofs.Text.LowerCase
Purpose: Lower-casing a second time changes nothing, and a character is white space exactly if its lower
  case is.
Main exports:
  lowerCode_cases, lowerCode_lowerCode, toNat_lowerChar, lowerChar_lowerChar, isBlank_lowerChar,
  lower_lower, map_lowerChar_decode
-/
import CodeGauge.Proofs.Text.CharacterClass
import CodeGauge.Proofs.Text.Utf8
import CodeGauge.Text.LowerCase
import Mathlib.Algebra.Group.Nat.Defs

namespace CodeGauge.Text

/-!
What is told here of single characters comes from a few facts on the table of runs: the lower cases are
characters, none of them has a lower case of its own, and neither they nor the characters of the runs are
white space.  To compare sets of code points, each of them is taken as one number, with a binary digit for
each code point.
-/

/-! ### Sets of code points -/

/-- The number that has its ones at the given places. -/
def bitSet (places : List Nat) : Nat := places.foldr (fun n bits => bits ||| 2 ^ n) 0

theorem testBit_bitSet {places : List Nat} {n : Nat} : (bitSet places).testBit n = true ↔ n ∈ places := by
  induction places with
  | nil => simp [bitSet]
  | cons m places ih =>
      have unfolded : bitSet (m :: places) = bitSet places ||| 2 ^ m := rfl
      rw [unfolded, Nat.testBit_or, Bool.or_eq_true, ih, Nat.testBit_two_pow, decide_eq_true_iff,
        List.mem_cons, or_comm, eq_comm]

theorem not_mem_of_bitSet_apart {first second : List Nat} (apart : bitSet first &&& bitSet second = 0) {n : Nat}
    (member : n ∈ first) : n ∉ second := by
  intro memberToo
  have both : (bitSet first &&& bitSet second).testBit n = true := by
    rw [Nat.testBit_and, testBit_bitSet.mpr member, testBit_bitSet.mpr memberToo]
    rfl
  rw [apart, Nat.zero_testBit] at both
  exact Bool.false_ne_true both

/-! ### Runs -/

namespace CaseRun

/-- The characters of a run. -/
def members (r : CaseRun) : List Nat := List.range' r.first ((r.last - r.first) / r.step + 1) r.step

/-- The lower cases of the characters of a run. -/
def lowers (r : CaseRun) : List Nat := r.members.map fun n : Nat => (n + r.shift).toNat

theorem holds_iff {r : CaseRun} {n : Nat} :
    r.holds n = true ↔ r.first ≤ n ∧ n ≤ r.last ∧ (n - r.first) % r.step = 0 := by
  simp [holds, and_assoc]

theorem mem_members_of_holds {r : CaseRun} {n : Nat} (held : r.holds n = true) : n ∈ r.members := by
  obtain ⟨low, high, steps⟩ := holds_iff.mp held
  refine List.mem_range'.mpr ⟨(n - r.first) / r.step, ?_, ?_⟩
  · exact Nat.lt_succ_of_le (Nat.div_le_div_right (Nat.sub_le_sub_right high _))
  · rw [Nat.mul_div_cancel' (Nat.dvd_of_mod_eq_zero steps), Nat.add_sub_cancel' low]

end CaseRun

/-- The code points of all runs. -/
def uppers : List Nat := caseRuns.flatMap CaseRun.members

/-- The lower cases of all runs. -/
def lowers : List Nat := caseRuns.flatMap CaseRun.lowers

/-- The code points of white space. -/
def blanks : List Nat := blankRanges.flatMap fun r => List.range' r.1 (r.2 + 1 - r.1)

private theorem lowers_apart_uppers : bitSet lowers &&& bitSet uppers = 0 := by
  decide +kernel

private theorem blanks_apart_cases : bitSet blanks &&& bitSet (uppers ++ lowers) = 0 := by
  decide +kernel

private theorem isValidChar_of_mem_lowers : ∀ n ∈ lowers, n.isValidChar := by
  decide +kernel

private theorem ascii_caseRuns : ∀ r ∈ caseRuns, r = ⟨0x41, 0x5A, 1, 32⟩ ∨ 0x80 ≤ r.first := by
  decide +kernel

/-! ### Code points -/

/-- A code point is in a run, and its lower case is as far from it as the run says, or it is in no run and is
its own lower case. -/
theorem lowerCode_cases (n : Nat) :
    (∃ r ∈ caseRuns, r.holds n = true ∧ lowerCode n = (n + r.shift).toNat) ∨
    (∀ r ∈ caseRuns, r.holds n = false) ∧ lowerCode n = n := by
  cases found : caseRuns.find? (fun r => r.holds n) with
  | none =>
      refine Or.inr ⟨fun r member => ?_, ?_⟩
      · exact Bool.eq_false_iff.mpr (List.find?_eq_none.mp found r member)
      · rw [lowerCode, found]
  | some r =>
      refine Or.inl ⟨r, List.mem_of_find?_eq_some found, ?_, ?_⟩
      · exact List.find?_some (p := (CaseRun.holds · n)) found
      · rw [lowerCode, found]

/-- A code point is in a run, and its lower case is one of a run, or it is its own lower case. -/
theorem lowerCode_mem (n : Nat) : n ∈ uppers ∧ lowerCode n ∈ lowers ∨ lowerCode n = n := by
  rcases lowerCode_cases n with ⟨r, isRun, held, isLower⟩ | ⟨-, same⟩
  · have member := CaseRun.mem_members_of_holds held
    refine Or.inl ⟨List.mem_flatMap.mpr ⟨r, isRun, member⟩, List.mem_flatMap.mpr ⟨r, isRun, ?_⟩⟩
    rw [isLower]
    exact List.mem_map_of_mem member
  · exact Or.inr same

/-- A lower case is its own lower case. -/
theorem lowerCode_lowerCode (n : Nat) : lowerCode (lowerCode n) = lowerCode n := by
  rcases lowerCode_mem n with ⟨-, isLower⟩ | same
  · rcases lowerCode_mem (lowerCode n) with ⟨isUpper, -⟩ | same
    · exact absurd isUpper (not_mem_of_bitSet_apart lowers_apart_uppers isLower)
    · exact same
  · rw [same, same]

/-- The lower case of a character is a character. -/
theorem isValidChar_lowerCode {n : Nat} (valid : n.isValidChar) : (lowerCode n).isValidChar := by
  rcases lowerCode_mem n with ⟨-, isLower⟩ | same
  · exact isValidChar_of_mem_lowers _ isLower
  · rwa [same]

theorem mem_blanks_of_inRanges {n : Nat} (blank : inRanges blankRanges n = true) : n ∈ blanks := by
  obtain ⟨r, isRange, low, high⟩ := exists_range_of_inRanges blank
  exact List.mem_flatMap.mpr ⟨r, isRange, List.mem_range'_1.mpr ⟨low, by omega⟩⟩

/-- A code point and its lower case are both white space or both not. -/
theorem inRanges_blank_lowerCode (n : Nat) : inRanges blankRanges (lowerCode n) = inRanges blankRanges n := by
  rcases lowerCode_mem n with ⟨isUpper, isLower⟩ | same
  · have outside : ∀ m ∈ uppers ++ lowers, inRanges blankRanges m = false := by
      intro m member
      rw [Bool.eq_false_iff]
      intro blank
      exact not_mem_of_bitSet_apart blanks_apart_cases (mem_blanks_of_inRanges blank) member
    rw [outside n (List.mem_append_left _ isUpper), outside _ (List.mem_append_right _ isLower)]
  · rw [same]

/-- In ASCII, the capital letters alone are in a run. -/
theorem lowerCode_ascii {n : Nat} (small : n < 0x80) : lowerCode n = if 65 ≤ n ∧ n ≤ 90 then n + 32 else n := by
  rcases lowerCode_cases n with ⟨r, isRun, held, isLower⟩ | ⟨outside, same⟩
  · have range := CaseRun.holds_iff.mp held
    rcases ascii_caseRuns r isRun with rfl | above
    · rw [isLower, if_pos ⟨range.1, range.2.1⟩]
      rfl
    · omega
  · have noCapital : ¬ (65 ≤ n ∧ n ≤ 90) := by
      intro capital
      refine Bool.eq_false_iff.mp (outside ⟨0x41, 0x5A, 1, 32⟩ (by decide)) ?_
      exact CaseRun.holds_iff.mpr ⟨capital.1, capital.2, Nat.mod_one _⟩
    rw [same, if_neg noCapital]

/-! ### Characters -/

/-- The shortcut for ASCII agrees with the table. -/
theorem toNat_lowerChar (c : Char) : (lowerChar c).toNat = lowerCode c.toNat := by
  have valid : (lowerCode c.toNat).isValidChar := isValidChar_lowerCode c.valid
  have capital : ('A' ≤ c && c ≤ 'Z') = true ↔ 65 ≤ c.toNat ∧ c.toNat ≤ 90 := by
    simp [Char.le_def, UInt32.le_iff_toNat_le]
  rw [lowerChar]
  by_cases isCapital : 65 ≤ c.toNat ∧ c.toNat ≤ 90
  · have isLower : lowerCode c.toNat = c.toNat + 32 := by
      rw [lowerCode_ascii (by omega), if_pos isCapital]
    rw [if_pos (capital.mpr isCapital), ← isLower, Utf8.toNat_ofNat_char valid]
  · rw [if_neg (mt capital.mp isCapital)]
    by_cases small : c.toNat < 0x80
    · rw [if_pos small, lowerCode_ascii small, if_neg isCapital]
    · rw [if_neg small, Utf8.toNat_ofNat_char valid]

theorem lowerChar_lowerChar (c : Char) : lowerChar (lowerChar c) = lowerChar c := by
  apply Char.toNat_inj.mp
  rw [toNat_lowerChar, toNat_lowerChar, lowerCode_lowerCode]

theorem isBlank_lowerChar (c : Char) : isBlank (lowerChar c) = isBlank c := by
  rw [isBlank, toNat_lowerChar, inRanges_blank_lowerCode]
  rfl

/-! ### Texts -/

theorem toList_lower (s : String) : (lower s).toList = s.toList.map lowerChar := String.toList_ofList

theorem lower_lower (s : String) : lower (lower s) = lower s := by
  rw [lower, toList_lower, List.map_map]
  exact congrArg (fun f => String.ofList (s.toList.map f)) (funext lowerChar_lowerChar)

/-- Byte strings that are equal in lower case are so character by character. -/
theorem map_lowerChar_decode {a b : Bytes} (same : lowerBytes a = lowerBytes b) :
    (Utf8.decode a).map lowerChar = (Utf8.decode b).map lowerChar := by
  have texts := congrArg (String.toList ∘ Utf8.decodeText) same
  simp only [Function.comp_apply, lowerBytes, Utf8.decodeText_encode, toList_lower] at texts
  rwa [Utf8.decodeText, Utf8.decodeText, String.toList_ofList, String.toList_ofList] at texts

end CodeGauge.Text
